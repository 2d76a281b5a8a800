import SurfaceStudio.Url.Basic

/-!
# Reading URLs

A URL begins with its scheme.  The special schemes have usual ports (a file has none), know two
kinds of slashes and always have a host; under any other scheme what follows the colon is free
unless it begins with a slash.

  • `Url.parse` — the URL of a text,
  • `Url.readAuthority` — the part between the slashes and the path,
  • `Url.segments` — a path with its dots resolved.
-/

namespace SurfaceStudio.Url

/-! ## §1. Schemes. -/

/-- The usual ports of the special schemes. -/
def usualPorts : List (String × Nat) :=
  [("http", 80), ("https", 443), ("ws", 80), ("wss", 443), ("ftp", 21)]

/-- The usual port of a scheme. -/
def usualPort? (scheme : String) : Option Nat := usualPorts.lookup scheme

/-- The scheme is a special one. -/
def isSpecial (scheme : String) : Bool := scheme == "file" || (usualPort? scheme).isSome

/-- Controls and spaces at the ends of a text do not count, and neither do tabs and line ends
anywhere in it. -/
def cleaned (text : List Char) : List Char :=
  let isEdge (c : Char) : Bool := c ≤ ' '
  ((((text.dropWhile isEdge).reverse.dropWhile isEdge).reverse).filter
    fun c => c != '\t' && c != '\n' && c != '\r')

/-- May stand in a scheme. -/
def isSchemeChar (c : Char) : Bool :=
  (c.toNat < 0x80 && c.isAlphanum) || c == '+' || c == '-' || c == '.'

/-- The scheme of a text in small letters, and what follows its colon. -/
def scheme? (text : List Char) : Option (String × List Char) :=
  let name := text.takeWhile isSchemeChar
  match name.head?, text.drop name.length with
  | some first, ':' :: behind =>
    if first.isAlpha then some (String.ofList (name.map Char.toLower), behind) else none
  | _, _ => none

/-! ## §2. Authorities. -/

/-- A path begins or ends here. -/
def isSlash (special : Bool) (c : Char) : Bool := c == '/' || (special && c == '\\')

/-- What stands before the path ends here. -/
def endsAuthority (special : Bool) (c : Char) : Bool := isSlash special c || c == '?' || c == '#'

/-- What stands before the last `@` of an authority, if there is one, and what follows. -/
def splitUser (special : Bool) (text : List Char) : Option (List Char) × List Char :=
  let authority := text.takeWhile (!endsAuthority special ·)
  let marked := (authority.reverse.dropWhile (· != '@')).reverse
  if marked.isEmpty then (none, text) else (some marked.dropLast, text.drop marked.length)

/-- A name and perhaps a password as they are written; an empty password is left out. -/
def userText (user : List Char) : String :=
  let name := user.takeWhile (· != ':')
  let password := user.drop (name.length + 1)
  String.ofList (escape isUserEscaped name
    ++ (if password.isEmpty then [] else ':' :: escape isUserEscaped password))

/-- The host at the front of a text and what follows; between brackets a colon belongs to it. -/
def splitHost (special : Bool) : Bool → List Char → List Char × List Char
  | _, [] => ([], [])
  | bracketed, c :: rest =>
    if (c == ':' && !bracketed) || endsAuthority special c then ([], c :: rest)
    else
      let (host, behind) := splitHost special (c == '[' || (bracketed && c != ']')) rest
      (c :: host, behind)

/-- The port at the front of a text, if one is written, and what follows. -/
def readPort (text : List Char) : Except UrlFault (Option Nat × List Char) :=
  match text with
  | ':' :: behind =>
    let digits := behind.takeWhile Char.isDigit
    let rest := behind.drop digits.length
    let port := (digitsIn? 10 digits).getD 0
    if 65535 < port ∨ rest.head?.any (!endsAuthority true ·) then .error .badPort
    else .ok (if digits.isEmpty then none else some port, rest)
  | _ => .ok (none, text)

/-- The host of a text under a scheme. -/
def hostOf (scheme : String) (text : List Char) : Except UrlFault Host :=
  if isSpecial scheme then Host.parse text else Host.parsePlain text

/-- **The authority at the front of a text, and what follows.**  A name, a password or a port needs
a host. -/
def readAuthority (scheme : String) (text : List Char) :
    Except UrlFault (Authority × List Char) := do
  let special := isSpecial scheme
  let (user, behind) := splitUser special text
  if user = some [] ∧ behind.head?.any (endsAuthority special) then throw .emptyHost
  let written := userText (user.getD [])
  let (hostText, rest) := splitHost special false behind
  let host ← hostOf scheme hostText
  if hostText.isEmpty ∧ rest.head? = some ':' then throw .emptyHost
  let (port, rest) ← readPort rest
  if hostText.isEmpty ∧ written ≠ "" then throw .emptyHost
  let port := if port = usualPort? scheme then none else port
  return (⟨written, host.text, port⟩, rest)

/-! ## §3. Paths. -/

/-- Leads nowhere. -/
def isHere (segment : List Char) : Bool :=
  [".", "%2e"].contains (String.ofList (segment.map Char.toLower))

/-- Leads back to the segment before. -/
def isUp (segment : List Char) : Bool :=
  ["..", ".%2e", "%2e.", "%2e%2e"].contains (String.ofList (segment.map Char.toLower))

/-- A letter and a colon or a bar: the name of a drive. -/
def isDrive : List Char → Bool
  | [letter, mark] => letter.isAlpha && (mark == ':' || mark == '|')
  | _ => false

/-- Without the last segment, unless it names a drive. -/
def shortened (segments : List (List Char)) : List (List Char) :=
  if segments.getLast?.any isDrive then segments else segments.dropLast

/-- Puts segments behind others, dots resolved; dots at the end leave an empty segment. -/
def resolve (done : List (List Char)) : List (List Char) → List (List Char)
  | [] => done
  | segment :: rest =>
    let kept :=
      if isUp segment then shortened done
      else if isHere segment then done
      else done ++ [segment]
    if rest.isEmpty && (isUp segment || isHere segment) then kept ++ [[]] else resolve kept rest

/-- A path with slashes of one kind. -/
def unified (special : Bool) (text : List Char) : List Char :=
  text.map fun c => if isSlash special c then '/' else c

/-- **The segments of a path**, which may begin with a slash. -/
def segments (special : Bool) (text : List Char) : List (List Char) :=
  let text := unified special text
  let text := if text.head? = some '/' then text.drop 1 else text
  resolve [] ((Text.splitAt '/' text).map (escape isPathEscaped))

/-- What stands behind the path: a query and a fragment. -/
structure Tail where
  query : Option String
  fragment : Option String

/-- The path at the front of a text, and what stands behind it. -/
def splitTail (special : Bool) (text : List Char) : List Char × Tail :=
  let path := text.takeWhile fun c => c != '?' && c != '#'
  let rest := text.drop path.length
  let query := rest.takeWhile (· != '#')
  let fragment := rest.drop query.length
  let written (escaped : Char → Bool) : List Char → Option String
    | [] => none
    | _ :: inside => some (String.ofList (escape escaped inside))
  (path, ⟨written (isQueryEscaped special) query, written isFragmentEscaped fragment⟩)

/-! ## §4. URLs. -/

/-- A URL with its path in segments. -/
def assemble (scheme : String) (authority : Option Authority) (path : List (List Char))
    (tail : Tail) : Url :=
  ⟨scheme, authority, .segments (path.map String.ofList), tail.query, tail.fragment⟩

/-- Behind a special scheme with a port any number of slashes stands before the authority. -/
def parseSpecial (scheme : String) (behind : List Char) : Except UrlFault Url := do
  let (authority, rest) ← readAuthority scheme (behind.dropWhile (isSlash true))
  let (path, tail) := splitTail true rest
  return assemble scheme (some authority) (segments true path) tail

/-- Behind a scheme that is not special two slashes introduce an authority, and one slash a path in
segments. -/
def parsePlain (scheme : String) (behind : List Char) : Except UrlFault Url :=
  match behind with
  | '/' :: '/' :: text => do
    let (authority, rest) ← readAuthority scheme text
    let (path, tail) := splitTail false rest
    return assemble scheme (some authority) (if path.isEmpty then [] else segments false path) tail
  | '/' :: _ =>
    let (path, tail) := splitTail false behind
    .ok (assemble scheme none (segments false path) tail)
  | _ =>
    let (path, tail) := splitTail false behind
    .ok ⟨scheme, none, .rootless (String.ofList (escape isControlEscaped path)), tail.query,
      tail.fragment⟩

/-- The host of a file: the name of this machine counts as none. -/
def fileHost (text : List Char) : Except UrlFault String := do
  if text.isEmpty then return ""
  let host ← Host.parse text
  return if host = .domain "localhost" then "" else host.text

/-- Where the path of a file begins. -/
inductive FileStart where
  /-- At a segment. -/
  | segment
  /-- At a slash, or nowhere. -/
  | slash
deriving DecidableEq, Repr

/-- The path of a file has no empty segments at its front.  The name of a drive ends in a colon if
the path begins with it; behind a slash it stays as it is. -/
def filePath (start : FileStart) (text : List Char) : List (List Char) :=
  let named : List (List Char) → List (List Char)
    | drive :: rest => if isDrive drive then (drive.take 1 ++ [':']) :: rest else drive :: rest
    | [] => []
  let inner := (Text.splitAt '/' (unified true text)).map (escape isPathEscaped)
  let path := resolve [] (if start = .segment then named inner else inner.drop 1)
  match path.dropWhile (·.isEmpty) with
  | [] => [[]]
  | path => path

/-- The path of a file begins with the name of a drive. -/
def beginsWithDrive (text : List Char) : Bool :=
  isDrive ((unified true text).takeWhile (· != '/'))

/-- A file on this machine. -/
def localFile (start : FileStart) (text : List Char) : Url :=
  let (path, tail) := splitTail true text
  assemble "file" (some ⟨"", "", none⟩) (filePath start path) tail

/-- A file on a host, unless its path begins with the name of a drive. -/
def hostFile (host : String) (text : List Char) : Url :=
  let (path, tail) := splitTail true text
  let path := if path.head?.any (isSlash true) then path.drop 1 else path
  let host := if beginsWithDrive path then "" else host
  assemble "file" (some ⟨"", host, none⟩) (filePath .segment path) tail

/-- Behind the scheme of files two slashes introduce a host, unless the name of a drive stands
there. -/
def parseFile (behind : List Char) : Except UrlFault Url :=
  match behind with
  | a :: b :: text =>
    if isSlash true a && isSlash true b then do
      let hostText := text.takeWhile (!endsAuthority true ·)
      if isDrive hostText then return localFile .segment text
      let host ← fileHost hostText
      let rest := text.drop hostText.length
      return if host = "" then localFile .slash rest else hostFile host rest
    else .ok (localFile (if isSlash true a then .slash else .segment) behind)
  | [a] => .ok (localFile (if isSlash true a then .slash else .segment) behind)
  | [] => .ok (localFile .segment [])

/-- **The URL of a text.** -/
def parse (text : String) : Except UrlFault Url :=
  match scheme? (cleaned text.toList) with
  | none => .error .noScheme
  | some (scheme, behind) =>
    if scheme = "file" then parseFile behind
    else if isSpecial scheme then parseSpecial scheme behind
    else parsePlain scheme behind

end SurfaceStudio.Url
