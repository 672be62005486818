import ApiAccessors.Http.Cookie
import ApiAccessors.Http.Headers

namespace ApiAccessors

/-!
# Cookie jars

The cookies that a client keeps between its requests.  They are kept by domain, then by path, then
by name, in the order in which each of these came first; a cookie with the same three takes the
place of the old one.
-/

abbrev CookieJar := List (List Char × List (List Char × List (List Char × Cookie)))

/-- A row of named things with one of them changed, or with a new one at its end. -/
def alterNamed {α : Type} (name : List Char) (change : Option α → α) :
    List (List Char × α) → List (List Char × α)
  | [] => [(name, change none)]
  | (first, value) :: rest =>
      if first = name then (first, change (some value)) :: rest
      else (first, value) :: alterNamed name change rest

namespace CookieJar

def cookies (jar : CookieJar) : List Cookie :=
  jar.flatMap (fun domain => domain.2.flatMap (fun path => path.2.map (·.2)))

def keep (jar : CookieJar) (cookie : Cookie) : CookieJar :=
  alterNamed cookie.domain (fun paths =>
    alterNamed cookie.path (fun names =>
      alterNamed cookie.name (fun _ => cookie) (names.getD [])) (paths.getD [])) jar

/-- Give up a cookie that has the same place and name; the places stay. -/
def drop (jar : CookieJar) (cookie : Cookie) : CookieJar :=
  jar.map (fun (domain, paths) =>
    if domain = cookie.domain then
      (domain, paths.map (fun (path, names) =>
        if path = cookie.path then (path, names.filter (fun named => named.1 != cookie.name))
        else (path, names)))
    else (domain, paths))

/-- Take the cookies of a reply, given what was read of its headers so far. -/
def readAll (now : Int) (site : CookieSite) :
    List String → CookieJar → CookieJar × Option (List Cookie)
  | [], jar => (jar, some [])
  | header :: headers, jar =>
      match Cookie.ofHeader now site header.toList with
      | .error .reply => (jar, none)
      | .error .cookie => readAll now site headers jar
      | .ok none => readAll now site headers jar
      | .ok (some cookie) =>
          if (cookie.expires.map (decide <| · ≤ now)).getD false then
            readAll now site headers (jar.drop cookie)
          else
            let (jar, others) := readAll now site headers jar
            (jar, others.map (cookie :: ·))

/-- Keep the cookies that a reply sets.  One whose time is over is given up. -/
def takeFrom (now : Int) (site : CookieSite) (headers : Headers) (jar : CookieJar) : CookieJar :=
  let values := (headers.filter (fun header => Headers.sameName header.1 "Set-Cookie")).map (·.2)
  let (jar, found) := readAll now site values jar
  ((found.getD []).map Cookie.settle).foldl
    (fun jar cookie => if cookie.mayKeep site then jar.keep cookie else jar) jar

/-- The cookies that are sent with a request, those for the longest paths first. -/
def toSend (now : Int) (site : CookieSite) (jar : CookieJar) : List Cookie :=
  (jar.cookies.filter (fun cookie => cookie.maySend now site)).mergeSort
    (fun left right => decide (right.path.length ≤ left.path.length))

/-- The header that sends the cookies for a request, if there are any. -/
def header? (now : Int) (site : CookieSite) (jar : CookieJar) : Option String :=
  match jar.toSend now site with
  | [] => none
  | cookies => some (String.ofList ([';', ' '].intercalate (cookies.map Cookie.text)))

end CookieJar
end ApiAccessors
