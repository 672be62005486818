import ApiAccessors.Http.Host
import ApiAccessors.Text.Numeral
import ApiAccessors.Text.Quoted

namespace ApiAccessors

/-!
# Addresses

The parts of an address: scheme, authority, path, query and fragment.  Reading an address escapes
what cannot stand in it and removes the points that lead up or nowhere from its path.  The address
of a request is below a base address, unless it has a scheme and a host of its own.
-/

/-- An address that has been read. -/
structure Address where
  scheme : List Char
  user : List Char
  host : List Char
  portNumber : Option Int
  path : List Char
  query : Option (List Char)
  fragment : Option (List Char)
deriving DecidableEq, Repr

structure WrittenAddress where
  scheme : List Char
  authority : List Char
  path : List Char
  query : Option (List Char)
  fragment : Option (List Char)

namespace WrittenAddress

def isSchemeChar (c : Char) : Bool := c.isAlphanum || c == '+' || c == '.' || c == '-'

/-- The scheme in front of a colon, and the text behind it; a colon alone has an empty scheme. -/
def takeScheme (text : List Char) : List Char × List Char :=
  match text with
  | ':' :: rest => ([], rest)
  | first :: _ =>
      let scheme := text.takeWhile isSchemeChar
      match text.drop scheme.length with
      | ':' :: rest => if first.isAlpha then (scheme, rest) else ([], text)
      | _ => ([], text)
  | [] => ([], [])

/-- The authority behind two slashes, and the text behind it. -/
def takeAuthority : List Char → List Char × List Char
  | '/' :: '/' :: rest =>
      let isEnd := fun c => c == '/' || c == '?' || c == '#'
      (rest.takeWhile (!isEnd ·), rest.dropWhile (!isEnd ·))
  | text => ([], text)

/-- Cut an address into its parts. -/
def ofText (text : List Char) : WrittenAddress :=
  let (scheme, text) := takeScheme text
  let (authority, text) := takeAuthority text
  let (text, fragment) := Text.cutFirst '#' text
  let (path, query) := Text.cutFirst '?' text
  ⟨scheme, authority, path, query, fragment⟩

/-- The user in front of the last at sign, and the text behind it. -/
def takeUser (authority : List Char) : List Char × List Char :=
  if authority.contains '@' then
    let behind := Text.afterLast '@' authority
    (authority.take (authority.length - behind.length - 1), behind)
  else ([], authority)

/-- The host, in brackets or up to a colon, and the text behind it. -/
def takeHost (text : List Char) : List Char × List Char :=
  if text.head? == some '[' && text.contains ']' then
    let behind := Text.afterLast ']' text
    (text.take (text.length - behind.length), behind)
  else (text.takeWhile (· != ':'), text.dropWhile (· != ':'))

end WrittenAddress

/-- Why a text is no address. -/
inductive AddressFault where
  | tooLong
  /-- A control character, behind so many others. -/
  | control (c : Char) (place : Nat)
  | host (form : Host.Form) (text : List Char)
  | portNumber (text : List Char)
  /-- The path must be empty or begin with a slash. -/
  | looseSegment
  /-- The path must not begin with two slashes. -/
  | doubleSlash
  /-- The path must not begin with a colon. -/
  | leadingColon
deriving DecidableEq, Repr

namespace AddressFault

def formName : Host.Form → String
  | .fourPart => "IPv4 address"
  | .eightPart => "IPv6 address"
  | .name => "IDNA hostname"

/-- A text in quotes. -/
def literal (text : List Char) : String := String.ofList (Text.Literal.encode text)

def message : AddressFault → String
  | .tooLong => "URL too long"
  | .control c place =>
      "Invalid non-printable ASCII character in URL, " ++ literal [c] ++
        " at position " ++ toString place ++ "."
  | .host form text => "Invalid " ++ formName form ++ ": " ++ literal text
  | .portNumber text => "Invalid port: " ++ literal text
  | .looseSegment => "For absolute URLs, path must be empty or begin with '/'"
  | .doubleSlash => "Relative URLs cannot have a path starting with '//'"
  | .leadingColon => "Relative URLs cannot have a path starting with ':'"

end AddressFault

namespace Address

/-- Longer addresses are refused. -/
def lengthLimit : Nat := 65536

def isControl (c : Char) : Bool := c.toNat < 0x20 || c.toNat = 0x7F

/-- The numbers behind the host that need not be written. -/
def usualPorts : List (String × Int) := [
  ("ftp", 21), ("http", 80), ("https", 443), ("ws", 80), ("wss", 443)]

/-- The number that a text behind the host stands for, unless it is the usual one. -/
def readPort (scheme text : List Char) : Except AddressFault (Option Int) :=
  let digits := if text.head? == some ':' then text.drop 1 else text
  if digits.isEmpty then .ok none
  else
    match Text.readInteger? 10 digits with
    | none => .error (.portNumber digits)
    | some portNumber =>
        let isUsual := usualPorts.lookup (String.ofList scheme) == some portNumber
        .ok (if isUsual then none else some portNumber)

/-- Take one segment of a path, given the segments before it in reverse. -/
def climb (above : List (List Char)) (segment : List Char) : List (List Char) :=
  if segment = ['.'] then above
  else if segment = ['.', '.'] then if above = [[]] then above else above.drop 1
  else segment :: above

/-- Remove the points that lead up or nowhere. -/
def normalizePath (path : List Char) : List Char :=
  let segments := Text.splitWhere (· == '/') path
  if segments.contains ['.'] || segments.contains ['.', '.'] then
    ['/'].intercalate ((segments.foldl climb []).reverse)
  else path

/-- Check whether a path can stand behind what comes before it. -/
def checkPath (hasScheme hasAuthority : Bool) (path : List Char) : Except AddressFault Unit :=
  if hasAuthority then
    if path.isEmpty || path.head? == some '/' then .ok () else .error .looseSegment
  else if hasScheme then .ok ()
  else if ['/', '/'].isPrefixOf path then .error .doubleSlash
  else if path.head? == some ':' then .error .leadingColon
  else .ok ()

/-- Read an address that has been cut into parts. -/
def ofWritten (written : WrittenAddress) : Except AddressFault Address := do
  let (user, behind) := WrittenAddress.takeUser written.authority
  let (host, portText) := WrittenAddress.takeHost behind
  let user := Percent.encode (Percent.visibleBut Percent.userUnsafe) user
  let host ← (Host.normalize host).mapError (AddressFault.host · host)
  let portNumber ← readPort written.scheme portText
  let hasScheme := !written.scheme.isEmpty
  let hasAuthority := !user.isEmpty || !host.isEmpty || portNumber.isSome
  checkPath hasScheme hasAuthority written.path
  let path := if hasScheme || hasAuthority then normalizePath written.path else written.path
  pure {
    scheme := Text.lower written.scheme
    user
    host
    portNumber
    path := Percent.encode (Percent.visibleBut Percent.pathUnsafe) path
    query := written.query.map (Percent.encode (Percent.visibleBut Percent.queryUnsafe))
    fragment := written.fragment.map (Percent.encode (Percent.visibleBut Percent.fragmentUnsafe)) }

def read (text : List Char) : Except AddressFault Address :=
  if lengthLimit < text.length then .error .tooLong
  else
    match text.find? isControl with
    | some c => .error (.control c (text.takeWhile (!isControl ·)).length)
    | none => ofWritten (WrittenAddress.ofText text)

/-- The host with brackets where it needs them, and the number behind it. -/
def place (address : Address) : List Char :=
  (if address.host.contains ':' then '[' :: (address.host ++ [']']) else address.host) ++
    (match address.portNumber with
      | some portNumber => ':' :: (toString portNumber).toList
      | none => [])

def authority (address : Address) : List Char :=
  (if address.user.isEmpty then [] else address.user ++ ['@']) ++ address.place

def text (address : Address) : List Char :=
  let authority := address.authority
  (if address.scheme.isEmpty then [] else address.scheme ++ [':']) ++
    (if authority.isEmpty then [] else '/' :: '/' :: authority) ++
    address.path ++
    (match address.query with
      | some query => '?' :: query
      | none => []) ++
    (match address.fragment with
      | some fragment => '#' :: fragment
      | none => [])

/-- The path with the query behind it; there is always a path. -/
def target (address : Address) : List Char :=
  (if address.path.isEmpty then ['/'] else address.path) ++
    (match address.query with
      | some query => '?' :: query
      | none => [])

/-- The same address with another path and query. -/
def withTarget (target : List Char) (address : Address) : Except AddressFault Address :=
  if lengthLimit < target.length then .error .tooLong
  else
    let (path, query) := Text.cutFirst '?' target
    ofWritten ⟨address.scheme, address.authority, path, query, address.fragment⟩

def withQuery (query : Option (List Char)) (address : Address) :
    Except AddressFault Address :=
  match query with
  | some text =>
      if lengthLimit < text.length then .error .tooLong
      else ofWritten ⟨address.scheme, address.authority, address.path, query, address.fragment⟩
  | none => ofWritten ⟨address.scheme, address.authority, address.path, none, address.fragment⟩

/-- A base address ends with a slash. -/
def asBase (address : Address) : Except AddressFault Address :=
  if address.target.getLast? == some '/' then .ok address
  else address.withTarget (address.target ++ ['/'])

/-- Whether an address needs no base. -/
def isComplete (address : Address) : Bool := !address.scheme.isEmpty && !address.host.isEmpty

/-- The address below a base, with one slash between the two paths. -/
def below (base : Address) (address : Address) : Except AddressFault Address :=
  if address.isComplete then .ok address
  else base.withTarget (base.target ++ address.target.dropWhile (· == '/'))

/-- Whether a word with a colon behind it says what kind of address this is. -/
def hasKind (address : Address) : Bool :=
  let isEnd := fun c => c == '/' || c == ':'
  let word := address.text.takeWhile (!isEnd ·)
  !word.isEmpty && (address.text.drop word.length).head? == some ':'

/-- The user and the password, if the address has either. -/
def credentials (address : Address) : Option (List Char × List Char) :=
  let (user, password) := Text.cutFirst ':' address.user
  let user := Percent.decode user
  let password := Percent.decode (password.getD [])
  if user.isEmpty && password.isEmpty then none else some (user, password)

end Address
end ApiAccessors
