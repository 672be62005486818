import ApiAccessors.Api.ContentType
import ApiAccessors.Api.OperationName
import ApiAccessors.Api.Package
import ApiAccessors.Api.Path
import ApiAccessors.Api.Resource
import ApiAccessors.Binary64.Basic
import ApiAccessors.Binary64.Layout
import ApiAccessors.Binary64.Shortest
import ApiAccessors.Client
import ApiAccessors.CommandLine.Commands
import ApiAccessors.CommandLine.Run
import ApiAccessors.CommandLine.Usage
import ApiAccessors.Compression.Checksum
import ApiAccessors.Compression.Envelope
import ApiAccessors.Compression.Inflate
import ApiAccessors.Compression.PrefixCode
import ApiAccessors.Config
import ApiAccessors.Document.Basic
import ApiAccessors.Document.Calendar
import ApiAccessors.Document.Cycle
import ApiAccessors.Document.Display
import ApiAccessors.Document.SetOrder
import ApiAccessors.Document.Timestamp
import ApiAccessors.Document.Value
import ApiAccessors.Fault
import ApiAccessors.Files.Path
import ApiAccessors.Files.Tree
import ApiAccessors.Generator.Generate
import ApiAccessors.Generator.Output
import ApiAccessors.Generator.SpecFile
import ApiAccessors.Generator.Types
import ApiAccessors.Http.Address
import ApiAccessors.Http.ContentCoding
import ApiAccessors.Http.Cookie
import ApiAccessors.Http.CookieJar
import ApiAccessors.Http.Date
import ApiAccessors.Http.Exchange
import ApiAccessors.Http.Headers
import ApiAccessors.Http.Host
import ApiAccessors.Http.Label
import ApiAccessors.Http.LabelChars
import ApiAccessors.Http.Percent
import ApiAccessors.Http.Query
import ApiAccessors.Http.Redirect
import ApiAccessors.Http.Reply
import ApiAccessors.Http.Session
import ApiAccessors.Http.Status
import ApiAccessors.Json.Reader
import ApiAccessors.Json.Writer
import ApiAccessors.Log
import ApiAccessors.Logging
import ApiAccessors.Machine
import ApiAccessors.Main
import ApiAccessors.Naming.Fresh
import ApiAccessors.Naming.Words
import ApiAccessors.Platform
import ApiAccessors.Problem
import ApiAccessors.Proofs.Client.Answer
import ApiAccessors.Proofs.Client.CallHeaders
import ApiAccessors.Proofs.Client.FilledPath
import ApiAccessors.Proofs.Client.FilledSegments
import ApiAccessors.Proofs.Client.Refusal
import ApiAccessors.Proofs.ContentType.Preference
import ApiAccessors.Proofs.Document.DistinctKeys
import ApiAccessors.Proofs.Document.Shape
import ApiAccessors.Proofs.Files.Tree
import ApiAccessors.Proofs.Files.Ways
import ApiAccessors.Proofs.Generator.Accepted
import ApiAccessors.Proofs.Generator.Failure
import ApiAccessors.Proofs.Generator.Loading
import ApiAccessors.Proofs.Generator.Manifest
import ApiAccessors.Proofs.Generator.Notations
import ApiAccessors.Proofs.Generator.Output
import ApiAccessors.Proofs.Generator.ReadBack
import ApiAccessors.Proofs.Generator.Written
import ApiAccessors.Proofs.Http.QueryPairs
import ApiAccessors.Proofs.Http.Response
import ApiAccessors.Proofs.Json.Document
import ApiAccessors.Proofs.Json.DocumentReading
import ApiAccessors.Proofs.Json.Fits
import ApiAccessors.Proofs.Json.Integers
import ApiAccessors.Proofs.Json.Refused
import ApiAccessors.Proofs.Json.RoundTrip
import ApiAccessors.Proofs.Json.Soundness
import ApiAccessors.Proofs.Json.Strings
import ApiAccessors.Proofs.Json.WrittenForm
import ApiAccessors.Proofs.Logging
import ApiAccessors.Proofs.Naming.Characters
import ApiAccessors.Proofs.Naming.Formatting
import ApiAccessors.Proofs.Naming.FreeNumber
import ApiAccessors.Proofs.Naming.SpelledAlike
import ApiAccessors.Proofs.Naming.Words
import ApiAccessors.Proofs.OperationName.Actions
import ApiAccessors.Proofs.OperationName.Collisions
import ApiAccessors.Proofs.OperationName.Extension
import ApiAccessors.Proofs.OperationName.Form
import ApiAccessors.Proofs.OperationName.Unique
import ApiAccessors.Proofs.Outcome
import ApiAccessors.Proofs.Package.AccessorNames
import ApiAccessors.Proofs.Package.Comparison
import ApiAccessors.Proofs.Package.DistinctOperations
import ApiAccessors.Proofs.Package.Docstrings
import ApiAccessors.Proofs.Package.Emission
import ApiAccessors.Proofs.Package.Existence
import ApiAccessors.Proofs.Package.Groups
import ApiAccessors.Proofs.Package.Identifiers
import ApiAccessors.Proofs.Package.Locality
import ApiAccessors.Proofs.Package.ModuleNames
import ApiAccessors.Proofs.Package.OperationNames
import ApiAccessors.Proofs.Package.Operations
import ApiAccessors.Proofs.Package.Partition
import ApiAccessors.Proofs.Package.PathOrder
import ApiAccessors.Proofs.Package.StableTitles
import ApiAccessors.Proofs.Package.TagTitles
import ApiAccessors.Proofs.Package.VerbOrder
import ApiAccessors.Proofs.Path.Parameters
import ApiAccessors.Proofs.Path.Segments
import ApiAccessors.Proofs.Resource.Declared
import ApiAccessors.Proofs.Resource.PathItem
import ApiAccessors.Proofs.Resource.Reordered
import ApiAccessors.Proofs.Resource.Routing
import ApiAccessors.Proofs.Resource.Rules
import ApiAccessors.Proofs.Resource.Shape
import ApiAccessors.Proofs.Resource.Sorted
import ApiAccessors.Proofs.Run
import ApiAccessors.Proofs.Template.Docstrings
import ApiAccessors.Proofs.Template.Imports
import ApiAccessors.Proofs.Template.Layout
import ApiAccessors.Proofs.Template.Reading
import ApiAccessors.Proofs.Text.AsciiCase
import ApiAccessors.Proofs.Text.Docstring
import ApiAccessors.Proofs.Text.IdentifierChars
import ApiAccessors.Proofs.Text.Literal
import ApiAccessors.Proofs.Text.LowerCase
import ApiAccessors.Proofs.Text.Normal
import ApiAccessors.Proofs.Text.Numerals
import ApiAccessors.Proofs.Text.UpperCase
import ApiAccessors.Proofs.Text.Utf8
import ApiAccessors.Proofs.Yaml.Assembling
import ApiAccessors.Proofs.Yaml.FlowDocument
import ApiAccessors.Proofs.Yaml.HeldValues
import ApiAccessors.Proofs.Yaml.Lexing
import ApiAccessors.Proofs.Yaml.Nodes
import ApiAccessors.Proofs.Yaml.Parts
import ApiAccessors.Proofs.Yaml.PlainNumbers
import ApiAccessors.Proofs.Yaml.PlainText
import ApiAccessors.Proofs.Yaml.QuotedText
import ApiAccessors.Proofs.Yaml.Reading
import ApiAccessors.Proofs.Yaml.SharedDocument
import ApiAccessors.Proofs.Yaml.Tokens
import ApiAccessors.Table
import ApiAccessors.Template.Accessors
import ApiAccessors.Template.Contents
import ApiAccessors.Template.Factory
import ApiAccessors.Template.Layout
import ApiAccessors.Template.Slot
import ApiAccessors.Text.Base64
import ApiAccessors.Text.Blank
import ApiAccessors.Text.Case
import ApiAccessors.Text.CaseTable
import ApiAccessors.Text.Charset
import ApiAccessors.Text.CodePage
import ApiAccessors.Text.CompositionTable
import ApiAccessors.Text.Digits
import ApiAccessors.Text.FormTable
import ApiAccessors.Text.Hex
import ApiAccessors.Text.Identifier
import ApiAccessors.Text.Intervals
import ApiAccessors.Text.Lines
import ApiAccessors.Text.Normal
import ApiAccessors.Text.Numeral
import ApiAccessors.Text.Printable
import ApiAccessors.Text.Punycode
import ApiAccessors.Text.Quoted
import ApiAccessors.Text.Resemblance
import ApiAccessors.Text.Split
import ApiAccessors.Text.Utf8
import ApiAccessors.Text.WideUnits
import ApiAccessors.Text.WordChars
import ApiAccessors.Yaml.Assembly
import ApiAccessors.Yaml.Cursor
import ApiAccessors.Yaml.Kind
import ApiAccessors.Yaml.Merge
import ApiAccessors.Yaml.Node
import ApiAccessors.Yaml.Part
import ApiAccessors.Yaml.Property
import ApiAccessors.Yaml.Reader
import ApiAccessors.Yaml.Scalar
import ApiAccessors.Yaml.ScalarValue
import ApiAccessors.Yaml.Token
