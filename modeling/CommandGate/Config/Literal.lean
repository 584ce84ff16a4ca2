import CommandGate.Config.Tree
import CommandGate.Number.DecimalText
import CommandGate.Text.Blank
import CommandGate.Text.Scan
/-!
Values of environment variables. A text that has the form of a truth value, a number, a quoted string,
a list in brackets or a table in braces as a whole stands for that; any other text stands for itself.
-/
namespace CommandGate.Config

open Number Text

namespace Literal

def isSpace (c : Char) : Bool :=
  c == ' ' || c == '\t' || c == '\n' || c == '\r' || c == '\x0c'

def skipSpaces (text : List Char) : List Char := text.dropWhile isSpace

def isSeparator (c : Char) : Bool := [',', '[', ']', '\x7b', '\x7d'].contains c

def quotedBody : Scan (List Char)
  | [] => none
  | '"' :: rest => some ([], rest)
  | '\\' :: c :: rest => (quotedBody rest).map fun (body, rest) => ('\\' :: c :: body, rest)
  | c :: rest => (quotedBody rest).map fun (body, rest) => (c :: body, rest)

def unescape? : Nat → List Char → Option (List Char)
  | 0, _ => none
  | _ + 1, [] => some []
  | fuel + 1, '\\' :: 'u' :: rest =>
    (scanCodePoint 4 rest).bind fun (c, rest) => (unescape? fuel rest).map (c :: ·)
  | fuel + 1, '\\' :: 'U' :: rest =>
    (scanCodePoint 8 rest).bind fun (c, rest) => (unescape? fuel rest).map (c :: ·)
  | fuel + 1, '\\' :: c :: rest =>
    (shortEscape? c).bind fun c => (unescape? fuel rest).map (c :: ·)
  | _ + 1, ['\\'] => none
  | fuel + 1, c :: rest =>
    if c = '\t' ∨ (0x20 ≤ c.val ∧ c.val ≠ 0x7F) then (unescape? fuel rest).map (c :: ·) else none

def firstBytes (size : Nat) : List Char → List Char
  | [] => []
  | c :: text => if c.utf8Size ≤ size then c :: firstBytes (size - c.utf8Size) text else []

/-- The content of a body in quotes. Before the first escape only as many bytes count as there are
characters. -/
def content? (body : List Char) : Option (List Char) :=
  let before := body.takeWhile (· != '\\')
  let after := body.dropWhile (· != '\\')
  (unescape? (before.length + 1) before).bind fun before =>
    if after.isEmpty then some before
    else
      (unescape? (after.length + 1) after).map fun after =>
        firstBytes before.length before ++ after

def scanQuoted : Scan String := fun text =>
  (quotedBody text).bind fun (body, rest) =>
    (content? body).map fun content => (String.ofList content, rest)

/-- What a word without marks stands for. A number with a point is a double, one without is whole. -/
def ofWord (word : List Char) : Tree :=
  let real? : Option Extended := if word.contains '.' then extended? double word else none
  match real? with
  | some x => .real x
  | none =>
    match unsignedWord? word with
    | some n => .whole n
    | none =>
      match signedWord? word with
      | some n => .whole n
      | none => .text (String.ofList word)

def scanItems {α : Type} (close : Char) (item : Scan α) : Nat → Scan (List α)
  | 0, _ => none
  | fuel + 1, text =>
    if text.head? = some close then some ([], text.drop 1)
    else
      (item text).bind fun (value, text) =>
        match text with
        | [] => none
        | c :: rest =>
          if c = ',' then
            (scanItems close item fuel rest).map fun (values, rest) => (value :: values, rest)
          else if c = close then some ([value], rest)
          else none

def scanEntry (value : Scan Tree) : Scan (String × Tree) := fun text =>
  let key : Option (String × List Char) :=
    match skipSpaces text with
    | '"' :: rest => scanQuoted rest
    | text =>
      match text.takeWhile isKeyChar with
      | [] => none
      | name => some (String.ofList name, text.dropWhile isKeyChar)
  key.bind fun (name, text) =>
    match skipSpaces text with
    | '=' :: text => (value text).map fun (tree, rest) => ((name, tree), rest)
    | _ => none

def scanBare (inner : Scan Tree) (text : List Char) : Option (Tree × List Char) :=
  if ['t', 'r', 'u', 'e'].isPrefixOf text then some (.bool true, text.drop 4)
  else if ['f', 'a', 'l', 's', 'e'].isPrefixOf text then some (.bool false, text.drop 5)
  else
    match text with
    | '\x7b' :: rest =>
      (scanItems '\x7d' (scanEntry inner) (rest.length + 1) rest).map fun (entries, rest) =>
        (.table (Members.ofList entries), rest)
    | '[' :: rest =>
      (scanItems ']' inner (rest.length + 1) rest).map fun (items, rest) => (.list items, rest)
    | '"' :: rest => (scanQuoted rest).map fun (content, rest) => (.text content, rest)
    | '\'' :: c :: '\'' :: rest => some (.text (String.singleton c), rest)
    | '\'' :: _ => none
    | text =>
      some (ofWord (trim (text.takeWhile (!isSeparator ·))), text.dropWhile (!isSeparator ·))

def scanValue : Nat → Scan Tree
  | 0, _ => none
  | fuel + 1, text =>
    (scanBare (scanValue fuel) (skipSpaces text)).map fun (tree, rest) => (tree, skipSpaces rest)

end Literal

def Tree.ofText (text : String) : Tree :=
  match Literal.scanValue (text.length + 1) text.toList with
  | some (tree, []) => tree
  | _ => .text text

end CommandGate.Config
