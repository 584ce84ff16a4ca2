import CommandGate.Http.Url
import CommandGate.Text.Search
/-!
Reading URLs from text. On the web the two slashes may be any number of slashes or backslashes, and a
path is never empty; a URL of a file mostly has no host; of other schemes little is known, and
without a slash what follows them is no list of segments. A text without scheme is no URL.
-/
namespace CommandGate.Http

open Text

inductive SchemeKind where
  /-- A scheme of the web, with the port that is meant where a URL names none. -/
  | web (port : Nat)
  | file
  | other
  deriving DecidableEq

namespace SchemeKind

def ofScheme (scheme : List Char) : SchemeKind :=
  if scheme = "http".toList ∨ scheme = "ws".toList then web 80
  else if scheme = "https".toList ∨ scheme = "wss".toList then web 443
  else if scheme = "ftp".toList then web 21
  else if scheme = "file".toList then file
  else other

def isSlash (kind : SchemeKind) (c : Char) : Bool := c == '/' || (c == '\\' && kind != other)

def isAuthorityEnd (kind : SchemeKind) (c : Char) : Bool := kind.isSlash c || c == '?' || c == '#'

def port? : SchemeKind → Option Nat
  | web port => some port
  | _ => none

end SchemeKind

def userMarks : List Char := pathMarks ++ ['/', ':', ';', '=', '@', '[', '\\', ']', '^', '|']

def queryMarks : List Char := [' ', '"', '#', '<', '>']

/-- A user and a password before an at sign, and what is left. An at sign that nothing comes before
needs a host after it. -/
def splitUser? (kind : SchemeKind) (text : List Char) :
    Option ((List Char × List Char) × List Char) :=
  let place := text.takeWhile (!kind.isAuthorityEnd ·)
  if !place.contains '@' then some (([], []), text)
  else
    let front := (place.reverse.dropWhile (· != '@')).reverse.dropLast
    let rest := text.drop (front.length + 1)
    if front.isEmpty && rest.head?.all kind.isAuthorityEnd then none
    else
      let encode := percentEncode userMarks
      some ((encode (front.takeWhile (· != ':')),
        encode ((front.dropWhile (· != ':')).drop 1)), rest)

def splitHost (kind : SchemeKind) (isInside : Bool) : List Char → List Char × List Char
  | [] => ([], [])
  | c :: text =>
    if kind.isAuthorityEnd c || (c == ':' && !isInside) then ([], c :: text)
    else
      let (host, rest) := splitHost kind (c == '[' || (isInside && c != ']')) text
      (c :: host, rest)

def splitPort? (usual : Option Nat) : List Char → Option (Option Nat × List Char)
  | ':' :: text =>
    let digits := text.takeWhile Char.isDigit
    let rest := text.dropWhile Char.isDigit
    if !rest.head?.all (SchemeKind.file.isAuthorityEnd ·) then none
    else if digits.isEmpty then some (none, rest)
    else
      ((numberIn? 10 hexValue? digits).filter (· < 65536)).map fun port =>
        (if usual = some port then none else some port, rest)
  | text => some (none, text)

/-- The host that a text denotes for a kind of scheme; the empty text denotes none, which is not
enough on the web. -/
def readHost? (kind : SchemeKind) (text : List Char) : Option (Option Host) :=
  match kind with
  | .web _ => (Host.ofDomain? text).map some
  | _ => if text.isEmpty then some none else (Host.ofText? text).map some

def readAuthority? (kind : SchemeKind) (text : List Char) : Option (Authority × List Char) :=
  (splitUser? kind text).bind fun ((user, password), rest) =>
    let (hostText, rest) := splitHost kind false rest
    (readHost? kind hostText).bind fun host =>
      let isNamed := !user.isEmpty || !password.isEmpty
      if host.isNone && (isNamed || rest.head? == some ':') then none
      else (splitPort? kind.port? rest).map fun (port, rest) => (⟨user, password, host, port⟩, rest)

def segmentsOf (kind : SchemeKind) (text : List Char) : List (List Char) :=
  let text := if text.head?.any kind.isSlash then text.drop 1 else text
  splitOn '/' (text.map fun c => if kind.isSlash c then '/' else c)

def filePath (segments : List (List Char)) : Path :=
  match segments.dropWhile List.isEmpty with
  | [] => .rooted [[]]
  | segments => .rooted segments

def fileSegments (segments : List (List Char)) : List (List Char) :=
  resolveDots true [] (segments.map (percentEncode pathMarks))

/-- The host and the path of a URL of a file, from after two slashes. A drive letter is no host, and
with one at the start of its path the URL has none. -/
def readFile? (text : List Char) : Option (Option Host × Path) :=
  let hostText := text.takeWhile (!SchemeKind.file.isSlash ·)
  let rest := text.dropWhile (!SchemeKind.file.isSlash ·)
  if isDriveLetter hostText then
    some (none, filePath (fileSegments (segmentsOf .file text)))
  else
    let host? :=
      if hostText.isEmpty then some none
      else
        (Host.ofDomain? hostText).map fun host =>
          if host = .name "localhost".toList then none else some host
    host?.map fun host =>
      match host with
      | none => (none, filePath (fileSegments ([] :: segmentsOf .file rest)))
      | some host =>
        let segments := fileSegments (segmentsOf .file rest)
        (if segments.head?.any isDriveLetter then none else some host, filePath segments)

def readPlace? (kind : SchemeKind) (text : List Char) : Option (Option Authority × Path) :=
  match kind with
  | .web _ =>
    (readAuthority? kind (text.dropWhile kind.isSlash)).map fun (authority, rest) =>
      (some authority, Path.ofSegments false (segmentsOf kind rest))
  | .file =>
    match text with
    | a :: b :: rest =>
      if kind.isSlash a && kind.isSlash b then
        (readFile? rest).map fun (host, path) => (some (.ofHost host none), path)
      else some (some (.ofHost none none), filePath (fileSegments (segmentsOf kind text)))
    | text => some (some (.ofHost none none), filePath (fileSegments (segmentsOf kind text)))
  | .other =>
    match text with
    | '/' :: '/' :: rest =>
      (readAuthority? kind rest).map fun (authority, rest) =>
        let path := if rest.isEmpty then .rooted [] else .ofSegments false (segmentsOf kind rest)
        (some authority, path)
    | '/' :: _ => some (none, .ofSegments false (segmentsOf kind text))
    | text => some (none, .rootless (percentEncode [] text))

def isSchemeChar (c : Char) : Bool := c.isAlphanum || c == '+' || c == '-' || c == '.'

def splitScheme? (text : List Char) : Option (List Char × List Char) :=
  match text.takeWhile isSchemeChar, text.dropWhile isSchemeChar with
  | c :: scheme, ':' :: rest =>
    if c.isAlpha then some ((c :: scheme).map Char.toLower, rest) else none
  | _, _ => none

def withoutIgnored (text : List Char) : List Char :=
  let isEdge (c : Char) : Bool := c.val ≤ 0x20
  let inner := ((text.dropWhile isEdge).reverse.dropWhile isEdge).reverse
  inner.filter fun c => c != '\t' && c != '\n' && c != '\r'

namespace Url

def parse? (text : List Char) : Option Url :=
  (splitScheme? (withoutIgnored text)).bind fun (scheme, rest) =>
    let kind := SchemeKind.ofScheme scheme
    let (place, rest) := rest.span fun c => c != '?' && c != '#'
    let (query, fragment) := rest.span (· != '#')
    let marks := if kind = .other then queryMarks else '\'' :: queryMarks
    (readPlace? kind place).map fun (authority, path) =>
      { scheme := scheme
        authority := authority
        path := path
        query := if query.isEmpty then none else some (percentEncode marks (query.drop 1))
        fragment :=
          if fragment.isEmpty then none
          else some (percentEncode fragmentMarks (fragment.drop 1)) }

end Url

end CommandGate.Http
