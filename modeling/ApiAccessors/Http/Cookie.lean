import ApiAccessors.Http.Address
import ApiAccessors.Http.Date

namespace ApiAccessors

/-!
# Cookies

What a reply asks to keep and to send back later: a name with a value, and to which requests it
belongs.  A cookie is read from one header, as seen from the request that the header answers.
-/

/-- What a cookie sees of a request. -/
structure CookieSite where
  /-- The host in small letters, and nothing behind it. -/
  host : List Char
  path : List Char
  /-- The text behind the first colon of the place, if it is a number. -/
  portText : List Char
  /-- Whether nobody can listen in. -/
  isSecure : Bool

namespace CookieSite

def pathMarks : List Char := "%/;:@&=+$,!~*'()".toList

/-- A path whose escapes have capitals. -/
def capitalize : List Char → List Char
  | '%' :: a :: b :: rest =>
      if (Text.hexValue? a).isSome && (Text.hexValue? b).isSome then
        '%' :: a.toUpper :: b.toUpper :: capitalize rest
      else '%' :: capitalize (a :: b :: rest)
  | c :: rest => c :: capitalize rest
  | [] => []

/-- A path with everything escaped that cannot stand in it. -/
def escapePath (path : List Char) : List Char :=
  capitalize (Percent.encode (fun c => Percent.isUnreserved c || pathMarks.contains c) path)

/-- A place without the number behind its last colon. -/
def dropPort (place : List Char) : List Char :=
  let digits := place.reverse.takeWhile Text.isAsciiDigit
  match place.reverse.drop digits.length with
  | ':' :: rest => if digits.isEmpty then place else rest.reverse
  | _ => place

/-- The number behind the host where none is written. -/
def usualPort : List Char := "80".toList

/-- The number behind the first colon of a place. -/
def portOf (place : List Char) : List Char :=
  match (Text.cutFirst ':' (Percent.decode place)).2 with
  | some text => if (Text.readInteger? 10 text).isSome then text else usualPort
  | none => usualPort

def secureSchemes : List String := ["https", "wss"]

def ofAddress (address : Address) : CookieSite :=
  let path := escapePath address.path
  { host := Text.lower (dropPort address.authority)
    path := if path.head? == some '/' then path else '/' :: path
    portText := portOf address.authority
    isSecure := secureSchemes.contains (String.ofList address.scheme) }

/-- What is put behind a host without points. -/
def localEnding : List Char := ".local".toList

/-- The host with at least one point. -/
def fullHost (site : CookieSite) : List Char :=
  if site.host.contains '.' then site.host else site.host ++ localEnding

end CookieSite

/-- A text with a point in front. -/
def pointed (text : List Char) : List Char :=
  if text.isEmpty || text.head? == some '.' then text else '.' :: text

/-- What a reply asks to send back. -/
structure Cookie where
  /-- The version of the notation; only cookies of version zero are sent back everywhere. -/
  version : Int
  name : List Char
  value : Option (List Char)
  /-- The end of the hosts it is sent to, with a point in front if it was given. -/
  domain : List Char
  isDomainGiven : Bool
  /-- The beginning of the paths it is sent to. -/
  path : List Char
  isSecure : Bool
  /-- When it ends, in seconds from the beginning of 1970. -/
  expires : Option Int
  /-- The numbers behind the host that it is sent to, and whether they were given. -/
  portNumbers : Option (List Char × Bool)
deriving DecidableEq, Repr

namespace Cookie

/-- A name and perhaps a value in a header. -/
abbrev Attribute := List Char × Option (List Char)

/-- Read a part of a header between two semicolons; nothing if it has no name. -/
def attribute? (part : List Char) : Option Attribute :=
  let (name, value) := Text.cutFirst '=' (Text.trim part)
  let name := Text.trim name
  if name.isEmpty then none else some (name, value.map Text.trim)

def attributes? (header : List Char) : Option (Attribute × List Attribute) :=
  match Text.splitWhere (· == ';') header with
  | [] => none
  | first :: others => (attribute? first).map (·, others.filterMap attribute?)

/-- A text without a quote at its beginning and one at its end. -/
def stripQuotes (text : List Char) : List Char :=
  let behind := if text.head? == some '"' then text.drop 1 else text
  if behind.getLast? == some '"' then behind.dropLast else behind

/-- What the attributes say. -/
structure Terms where
  version : Option (List Char) := none
  expires : Option Int := none
  domain : Option (List Char) := none
  path : Option (List Char) := none
  /-- The numbers behind the host; without a value they are those of the request. -/
  portNumbers : Option (Option (List Char)) := none
  isSecure : Option Bool := none

/-- What is passed over: one cookie, or all cookies of a reply. -/
inductive Refusal where
  | cookie
  | reply
deriving DecidableEq, Repr

/-- Keep what was said before. -/
def keepFirst {α : Type} (old : Option α) (new : α) : Option α := some (old.getD new)

/-- The year at a time in seconds, up to the turn of the year. -/
def yearAt (now : Int) : Nat := 1970 + (now / 31556952).toNat

namespace Terms

/-- What is said by an attribute that needs a value, unless it was said before. -/
def needed (old value : Option (List Char)) : Except Refusal (List Char) :=
  match old, value with
  | some text, _ => .ok text
  | none, some text => .ok text
  | none, none => .error .cookie

/-- Add when a cookie ends; a date that cannot be read says nothing. -/
def addDate (now : Int) (terms : Terms) (text : List Char) : Except Refusal Terms :=
  match HttpDate.read (yearAt now) (stripQuotes text) with
  | .error _ => .error .reply
  | .ok time => .ok (if terms.expires.isSome then terms else { terms with expires := time })

/-- Add how long a cookie lasts, which counts before a date. -/
def addAge (now : Int) (terms : Terms) (text : List Char) : Except Refusal Terms :=
  match Text.readInteger? 10 text with
  | none => .error .cookie
  | some age => .ok { terms with expires := some (now + age) }

/-- Add what an attribute says; of several that say the same thing the first one counts. -/
def add (now : Int) (terms : Terms) : Attribute → Except Refusal Terms
  | (name, value) =>
      match String.ofList (Text.lower name) with
      | "version" => do
          let version ← needed terms.version (value.map stripQuotes)
          pure { terms with version := some version }
      | "domain" => do
          let domain ← needed terms.domain (value.map Text.lower)
          pure { terms with domain := some domain }
      | "path" => do
          let path ← needed terms.path value
          pure { terms with path := some path }
      | "port" => .ok { terms with portNumbers := keepFirst terms.portNumbers value }
      | "secure" =>
          .ok { terms with isSecure := keepFirst terms.isSecure (decide (value ≠ some [])) }
      | "expires" =>
          match value with
          | none => .ok terms
          | some text => addDate now terms text
      | "max-age" =>
          match value with
          | none => .error .reply
          | some text => addAge now terms text
      | _ => .ok terms

end Terms

/-- The path of a cookie that names none: that of the request without its last segment. -/
def usualPath (version : Int) (path : List Char) : List Char :=
  let file := Text.afterLast '/' path
  let slash := if version = 0 then 1 else 0
  let directory := path.take (path.length - file.length - slash)
  if directory.isEmpty then ['/'] else directory

/-- The cookie of a name and value, as seen from a request; nothing if its version is no number. -/
def ofTerms (site : CookieSite) (named : Attribute) (terms : Terms) : Option Cookie := do
  let version ← Text.readInteger? 10 (terms.version.getD ['0'])
  let givenPath := terms.path.bind (fun path => if path.isEmpty then none else some path)
  pure {
    version
    name := named.1
    value := named.2
    domain :=
      match terms.domain with
      | none => site.fullHost
      | some domain => if domain.isEmpty then ['.'] else pointed domain
    isDomainGiven := terms.domain.isSome
    path :=
      match givenPath with
      | some path => CookieSite.escapePath path
      | none => usualPath version site.path
    isSecure := terms.isSecure.getD false
    expires := terms.expires
    portNumbers := terms.portNumbers.map (fun given =>
      match given with
      | none => (site.portText, false)
      | some text => (text.filter (!Text.isBlank ·), true)) }

/-- Read a header; nothing if it holds no cookie. -/
def ofHeader (now : Int) (site : CookieSite) (header : List Char) :
    Except Refusal (Option Cookie) :=
  match attributes? header with
  | none => .ok none
  | some (cookie, attributes) => do
      let terms ← attributes.foldlM (Terms.add now) {}
      pure (ofTerms site cookie terms)

def fitsHost (cookie : Cookie) (site : CookieSite) : Bool :=
  let domain := pointed cookie.domain
  domain.isSuffixOf (pointed site.host) || domain.isSuffixOf (pointed site.fullHost)

/-- Whether a request may set a cookie for the domain that was given. -/
def fitsDomain (cookie : Cookie) (site : CookieSite) : Bool :=
  let bare := cookie.domain.drop 1
  let host := site.fullHost
  (bare.contains '.' || CookieSite.localEnding.isSuffixOf host) &&
    (cookie.version != 0 || cookie.domain.isSuffixOf host ||
      (bare ++ CookieSite.localEnding).isSuffixOf host || host.head? == some '.' ||
      cookie.domain.isSuffixOf ('.' :: host))

/-- The numbers of a row with commas, up to the one of the request. -/
def fitsPorts (site : CookieSite) : List (List Char) → Bool
  | [] => false
  | number :: others =>
      (Text.readInteger? 10 number).isSome && (number == site.portText || fitsPorts site others)

def mayKeep (cookie : Cookie) (site : CookieSite) : Bool :=
  let portFits :=
    match cookie.portNumbers with
    | some (numbers, true) => fitsPorts site (Text.splitWhere (· == ',') numbers)
    | _ => true
  decide (cookie.version ≤ 0) && (!cookie.isDomainGiven || cookie.fitsDomain site) && portFits

/-- A cookie of version one is kept as one of version zero. -/
def settle (cookie : Cookie) : Cookie :=
  if cookie.version = 1 then { cookie with version := 0 } else cookie

def fitsPath (cookie : Cookie) (site : CookieSite) : Bool :=
  site.path == cookie.path ||
    (cookie.path.isPrefixOf site.path &&
      (cookie.path.getLast? == some '/' ||
        (site.path.drop cookie.path.length).head? == some '/'))

/-- Whether a cookie is sent with a request. -/
def maySend (now : Int) (cookie : Cookie) (site : CookieSite) : Bool :=
  let portFits :=
    match cookie.portNumbers with
    | some (numbers, _) =>
        numbers.isEmpty || (Text.splitWhere (· == ',') numbers).contains site.portText
    | none => true
  let hostFits :=
    cookie.version != 0 || (pointed cookie.domain).isSuffixOf ('.' :: site.fullHost)
  cookie.fitsHost site && cookie.fitsPath site && (!cookie.isSecure || site.isSecure) &&
    (cookie.expires.map (decide <| now < ·)).getD true && portFits && hostFits

def text (cookie : Cookie) : List Char :=
  match cookie.value with
  | some value => cookie.name ++ '=' :: value
  | none => cookie.name

end Cookie
end ApiAccessors
