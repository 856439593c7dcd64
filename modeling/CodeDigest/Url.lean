import CodeDigest.Url.Host

/-!
# Web addresses

Reads an address the way browsers do and writes it in its normal form.  The reader is lenient:
blanks around the text and line breaks in it are dropped, backslashes count as slashes, the slashes
behind the scheme may be too many or missing, and characters that an address does not hold are
percent-encoded.  In the normal form letters of scheme and host are in lowercase, the standard port
is left out, and the path has no segments `.` and `..`.

Of an address that is not of the web only the normal form is kept.  Some schemes give hosts the same
form as the web does, files may be on a host and have drives, and with any other scheme the host and
a path without a slash in front are taken nearly as they are.
-/

namespace CodeDigest

/-- An address with the scheme `http` or `https`. -/
structure Url where
  scheme : String
  /-- The user name, and the password behind a colon. -/
  user : Option String
  host : Host
  port : Option Nat
  segments : List String
  query : Option String
  fragment : Option String
deriving Repr, DecidableEq

/-- An address with another scheme. -/
structure OtherUrl where
  scheme : String
  hasHost : Bool
  /-- The address in its normal form, without a user name. -/
  text : String
deriving Repr, DecidableEq

/-- An address. -/
inductive Address where
  | web (url : Url)
  | other (url : OtherUrl)
deriving Repr, DecidableEq

namespace Url

/-- Schemes with hosts and paths like those of the web, and their standard ports. -/
def standardPorts : List (String × Nat) :=
  [("http", 80), ("https", 443), ("ws", 80), ("wss", 443), ("ftp", 21)]

/-- Whether a scheme is one of the web. -/
def isWeb (scheme : String) : Bool := scheme == "http" || scheme == "https"

/-- The text without blanks and control characters at its ends and without line breaks and tabs. -/
def stripped (cs : List Char) : List Char :=
  let drop := List.dropWhile fun c : Char => c.toNat ≤ 0x20
  (drop (drop cs).reverse).reverse.filter fun c => c != '\t' && c != '\n' && c != '\r'

/-- The scheme in lowercase, and what stands behind its colon. -/
def scheme? (cs : List Char) : Option (String × List Char) :=
  let (name, rest) := cs.span fun c => c.isAlphanum || ['+', '-', '.'].contains c
  match name, rest with
  | first :: _, ':' :: rest =>
    if first.isAlpha then some (String.ofList (name.map Char.toLower), rest) else none
  | _, _ => none

/-- Whether a character counts as a slash in front of a host. -/
def isSlash (c : Char) : Bool := c == '/' || c == '\\'

/-- Whether a character ends the part of an address that names user, host and port. -/
def endsAuthority (web : Bool) (c : Char) : Bool :=
  ['/', '?', '#'].contains c || (web && c == '\\')

/-- Splits at the last `@`, if there is one. -/
def splitUser (cs : List Char) : Option (List Char) × List Char :=
  let (back, front) := cs.reverse.span (· != '@')
  (if front.isEmpty then none else some (front.drop 1).reverse, back.reverse)

/-- User name and password in encoded form; a colon with nothing behind it is dropped, and so is an
empty name without a password. -/
def writeUser (cs : List Char) : Option String :=
  let (name, rest) := cs.span (· != ':')
  let password := percentEncode userMarks (rest.drop 1)
  let text := percentEncode userMarks name ++ if password.isEmpty then [] else ':' :: password
  if text.isEmpty then none else some (String.ofList text)

/-- Splits host from port: at the first colon that is not between brackets. -/
def splitPort (inside : Bool) : List Char → List Char × Option (List Char)
  | [] => ([], none)
  | c :: cs =>
    if c == ':' && !inside then ([], some cs)
    else
      let (host, port) := splitPort (c == '[' || (inside && c != ']')) cs
      (c :: host, port)

/-- The port in a text; none if the text is empty or gives the standard port. -/
def readPort (standard : Option Nat) (cs : List Char) : Except UrlFault (Option Nat) :=
  if cs.isEmpty then .ok none
  else
    match Host.number? 10 cs with
    | some n =>
      if n < 0x10000 then .ok (if some n == standard then none else some n) else .error .port
    | none => .error .port

/-- Whether a segment stands for the directory itself. -/
def isDot (segment : List Char) : Bool :=
  [".", "%2e"].contains (String.ofList (segment.map Char.toLower))

/-- Whether a segment stands for the directory above. -/
def isDoubleDot (segment : List Char) : Bool :=
  ["..", ".%2e", "%2e.", "%2e%2e"].contains (String.ofList (segment.map Char.toLower))

/-- Whether a segment of the path of a file names a drive. -/
def isDrive : List Char → Bool
  | [letter, mark] => letter.isAlpha && (mark == ':' || mark == '|')
  | _ => false

/-- The directories without the last one; drives are kept. -/
def above (drives : Bool) : List (List Char) → List (List Char)
  | [] => []
  | last :: done => if drives && isDrive last then last :: done else done

/-- The segments with `.` and `..` carried out on the directories in `done`, the last one first.  At
the end of a path both leave a slash there. -/
def walk (drives : Bool) (done : List (List Char)) : List (List Char) → List (List Char)
  | [] => done.reverse
  | [last] =>
    if isDoubleDot last then ([] :: above drives done).reverse
    else if isDot last then ([] :: done).reverse
    else (last :: done).reverse
  | s :: rest =>
    if isDoubleDot s then walk drives (above drives done) rest
    else if isDot s then walk drives done rest
    else walk drives (s :: done) rest

/-- The segments of a path. -/
def readSegments (drives : Bool) (cs : List Char) : List (List Char) :=
  let inner := (Text.dropPrefix? ['/'] cs).getD cs
  walk drives [] ((Text.split '/' inner).map (percentEncode pathMarks))

/-- The segments of the path of a web address. -/
def readPath (cs : List Char) : List String :=
  (readSegments false (Text.replaceChar '\\' '/' cs)).map String.ofList

/-- Segments with a slash in front of each. -/
def writePath (segments : List (List Char)) : List Char := segments.flatMap ('/' :: ·)

/-- The parts behind the authority: path, query and fragment. -/
def splitTail (cs : List Char) : List Char × Option (List Char) × Option (List Char) :=
  let (front, fragment) := cs.span (· != '#')
  let (path, query) := front.span (· != '?')
  (path, if query.isEmpty then none else some (query.drop 1),
    if fragment.isEmpty then none else some (fragment.drop 1))

/-- Reads what follows the slashes behind a scheme that has hosts like those of the web. -/
def ofAuthority (scheme : String) (cs : List Char) : Except UrlFault Url := do
  let (authority, rest) := cs.span (!endsAuthority true ·)
  let (user, place) := splitUser authority
  let (host, port) := splitPort false place
  if host.isEmpty then .error .emptyHost
  let host ← Host.ofText host
  let port ← readPort (standardPorts.lookup scheme) (port.getD [])
  let (path, query, fragment) := splitTail rest
  .ok
    { scheme := scheme
      user := user.bind writeUser
      host := host
      port := port
      segments := readPath path
      query := query.map fun q => String.ofList (percentEncode queryMarks q)
      fragment := fragment.map fun f => String.ofList (percentEncode fragmentMarks f) }

/-- Path and query: what a server is asked for. -/
def target (u : Url) : String :=
  "/" ++ joined "/" u.segments ++ (u.query.elim "" ("?" ++ ·))

/-- The address in its normal form. -/
def toText (u : Url) : String :=
  u.scheme ++ "://" ++ u.user.elim "" (· ++ "@") ++ u.host.toText
    ++ u.port.elim "" (fun n => ":" ++ toString n)
    ++ u.target ++ u.fragment.elim "" ("#" ++ ·)

/-- The address without a user name. -/
def withoutUser (u : Url) : Url := { u with user := none }

end Url

/-! ## Other schemes -/

namespace OtherUrl

open Url

/-- Query and fragment with their marks; the query is one that does not hold `marks`. -/
def writeTail (marks : List Char) (query fragment : Option (List Char)) : List Char :=
  query.elim [] (fun q => '?' :: percentEncode marks q)
    ++ fragment.elim [] (fun f => '#' :: percentEncode fragmentMarks f)

/-- An address with a scheme that gives hosts the same form as the web does. -/
def ofUrl (url : Url) : OtherUrl := ⟨url.scheme, true, url.withoutUser.toText⟩

/-- Reads what follows the two slashes behind a scheme that gives hosts no form. -/
def ofAuthority (scheme : String) (cs : List Char) : Except UrlFault OtherUrl := do
  let (authority, rest) := cs.span (!endsAuthority false ·)
  let (user, place) := splitUser authority
  let (host, port) := splitPort false place
  let hasUser := (user.bind writeUser).isSome || (user == some [] && !rest.isEmpty)
  if host.isEmpty && (port.isSome || hasUser) then .error .emptyHost
  let hostText ← Host.writeOpaque host
  let (digits, more) := (port.getD []).span (· != '\\')
  let port ← readPort none digits
  let (path, query, fragment) := splitTail (more ++ rest)
  let pathText := if path.isEmpty then [] else writePath (readSegments false path)
  .ok
    { scheme := scheme
      hasHost := !host.isEmpty
      text := scheme ++ "://" ++ hostText ++ port.elim "" (fun n => ":" ++ toString n)
        ++ String.ofList (pathText ++ writeTail opaqueQueryMarks query fragment) }

/-- Reads what follows a scheme that has neither a host nor files.  Two slashes in front of a path
would stand for a host. -/
def ofPath (scheme : String) (cs : List Char) : OtherUrl :=
  let (path, query, fragment) := splitTail cs
  let pathText :=
    if path.head? == some '/' then
      let text := writePath (readSegments false path)
      if (Text.dropPrefix? ['/', '/'] text).isSome then '/' :: '.' :: text else text
    else percentEncode [] path
  { scheme := scheme
    hasHost := false
    text := scheme ++ ":" ++ String.ofList (pathText ++ writeTail opaqueQueryMarks query fragment) }

/-- The file with a path on a host.  Slashes in front of the path count as one, and a path on a
drive is on no host. -/
def ofFilePath (host : String) (cs : List Char) : OtherUrl :=
  let (path, query, fragment) := splitTail cs
  let inner := readSegments true (Text.replaceChar '\\' '/' path)
  let (host, inner) :=
    match inner with
    | [letter, mark] :: rest =>
      if isDrive [letter, mark] then ("", [letter, ':'] :: rest) else (host, inner)
    | _ => (host, inner)
  { scheme := "file"
    hasHost := !host.isEmpty
    text := "file://" ++ host ++ String.ofList
      ('/' :: (writePath inner).dropWhile (· == '/') ++ writeTail queryMarks query fragment) }

/-- Reads what follows the scheme of a file.  The host may be left out, and so may the slashes. -/
def ofFile (cs : List Char) : Except UrlFault OtherUrl :=
  match cs with
  | a :: b :: place =>
    if isSlash a && isSlash b then
      let (host, rest) := place.span (!endsAuthority true ·)
      if host.isEmpty then .ok (ofFilePath "" rest)
      else if isDrive host then .ok (ofFilePath "" place)
      else
        (Host.ofText host).map fun host =>
          ofFilePath (if host == .domain "localhost" then "" else host.toText) rest
    else .ok (ofFilePath "" cs)
  | _ => .ok (ofFilePath "" cs)

end OtherUrl

/-- Reads an address. -/
def Address.ofString (text : String) : Except UrlFault Address :=
  match Url.scheme? (Url.stripped text.toList) with
  | none => .error .relative
  | some (scheme, rest) =>
    if (Url.standardPorts.lookup scheme).isSome then
      (Url.ofAuthority scheme (rest.dropWhile Url.isSlash)).map fun url =>
        if Url.isWeb scheme then .web url else .other (.ofUrl url)
    else if scheme == "file" then (OtherUrl.ofFile rest).map .other
    else
      match Text.dropPrefix? ['/', '/'] rest with
      | some place => (OtherUrl.ofAuthority scheme place).map .other
      | none => .ok (.other (.ofPath scheme rest))

end CodeDigest
