import CommandGate.Json.NumberText
import CommandGate.Text.Scan
/-!
Reading JSON text. A reader takes the characters that are left and gives a value and the characters
after it. Documents keep the members of an object as they are written; `read` arranges them by name,
the last of equal names kept. Containers nest at most `nesting` deep.
-/
namespace CommandGate.Json

open Text (hexValue?)

/-- Why a text gives no value: it is not JSON, or it is JSON of another shape than asked for. -/
inductive Fault where
  | malformed
  | mismatch
  deriving DecidableEq, Repr

def Fault.message : Fault → String
  | malformed => "the text is not well-formed JSON"
  | mismatch => "the JSON value has another form than expected"

abbrev Reader (α : Type) := List Char → Except Fault (α × List Char)

def nesting : Nat := 127

def isSpace (c : Char) : Bool := c == ' ' || c == '\t' || c == '\n' || c == '\r'

def skipSpaces (text : List Char) : List Char := text.dropWhile isSpace

def hexUnit? (a b c d : Char) : Option Nat := do
  return 4096 * (← hexValue? a) + 256 * (← hexValue? b) + 16 * (← hexValue? c) + (← hexValue? d)

def isHighSurrogate (unit : Nat) : Bool := 0xD800 ≤ unit && unit < 0xDC00

def isLowSurrogate (unit : Nat) : Bool := 0xDC00 ≤ unit && unit < 0xE000

def joinSurrogates (high low : Nat) : Char :=
  Char.ofNat (0x10000 + (high - 0xD800) * 0x400 + (low - 0xDC00))

def shortEscape? (c : Char) : Option Char :=
  if c = '"' ∨ c = '\\' ∨ c = '/' then some c
  else if c = 'b' then some '\x08'
  else if c = 'f' then some '\x0c'
  else if c = 'n' then some '\n'
  else if c = 'r' then some '\r'
  else if c = 't' then some '\t'
  else none

def stringBody? : List Char → Option (List Char × List Char)
  | [] => none
  | '"' :: rest => some ([], rest)
  | '\\' :: c :: rest => (stringBody? rest).map fun (body, rest) => ('\\' :: c :: body, rest)
  | c :: rest =>
    if c.val < 0x20 then none
    else (stringBody? rest).map fun (body, rest) => (c :: body, rest)

def unescape? : List Char → Option (List Char)
  | [] => some []
  | '\\' :: 'u' :: a :: b :: c :: d :: rest =>
    (hexUnit? a b c d).bind fun unit =>
      if isLowSurrogate unit then none
      else if isHighSurrogate unit then
        match rest with
        | '\\' :: 'u' :: e :: f :: g :: h :: rest =>
          (hexUnit? e f g h).bind fun low =>
            if isLowSurrogate low then
              (unescape? rest).map (joinSurrogates unit low :: ·)
            else none
        | _ => none
      else (unescape? rest).map (Char.ofNat unit :: ·)
  | '\\' :: c :: rest => (shortEscape? c).bind fun e => (unescape? rest).map (e :: ·)
  | '\\' :: [] => none
  | c :: rest => (unescape? rest).map (c :: ·)

/-- Whether every backslash in the body of a string starts an escape, paired or not. -/
def escapesWell : List Char → Bool
  | [] => true
  | '\\' :: 'u' :: a :: b :: c :: d :: rest => (hexUnit? a b c d).isSome && escapesWell rest
  | '\\' :: c :: rest => (shortEscape? c).isSome && escapesWell rest
  | '\\' :: [] => false
  | _ :: rest => escapesWell rest

def readString : Reader String := fun text =>
  match stringBody? text with
  | none => .error .malformed
  | some (body, rest) =>
    match unescape? body with
    | none => .error .malformed
    | some content => .ok (String.ofList content, rest)

def skipString : Reader Unit := fun text =>
  match stringBody? text with
  | none => .error .malformed
  | some (body, rest) => if escapesWell body then .ok ((), rest) else .error .malformed

def readWord (word : List Char) (value : Json) : Reader Json := fun text =>
  if word.isPrefixOf text then .ok (value, text.drop word.length) else .error .malformed

def readNumber : Reader Numeral := fun text =>
  match scanNumber text with
  | none => .error .malformed
  | some (found, rest) =>
    match found.value with
    | none => .error .malformed
    | some value => .ok (value, rest)

def readMore {α : Type} (close : Char) (item : Reader α) : Nat → Reader (List α)
  | 0, _ => .error .malformed
  | fuel + 1, text =>
    match item text with
    | .error fault => .error fault
    | .ok (value, text) =>
      match skipSpaces text with
      | [] => .error .malformed
      | c :: text =>
        if c = close then .ok ([value], text)
        else if c = ',' then
          match readMore close item fuel text with
          | .error fault => .error fault
          | .ok (values, text) => .ok (value :: values, text)
        else .error .malformed

def readSeparated {α : Type} (close : Char) (item : Reader α) : Reader (List α) := fun text =>
  match skipSpaces text with
  | [] => .error .malformed
  | c :: rest => if c = close then .ok ([], rest) else readMore close item text.length (c :: rest)

def readName {κ : Type} (string : Reader κ) : Reader κ := fun text =>
  match skipSpaces text with
  | '"' :: text => string text
  | _ => .error .malformed

def readAfterColon {α : Type} (value : Reader α) : Reader α := fun text =>
  match skipSpaces text with
  | ':' :: text => value text
  | _ => .error .malformed

def readMember {κ α : Type} (string : Reader κ) (value : Reader α) : Reader (κ × α) :=
  fun text =>
    match readName string text with
    | .error fault => .error fault
    | .ok (name, text) => (readAfterColon value text).map fun (value, text) => ((name, value), text)

def readScalar : Reader Json := fun text =>
  match text with
  | [] => .error .malformed
  | c :: rest =>
    if c = '"' then (readString rest).map fun (value, rest) => (.string value, rest)
    else if c = 'n' then readWord ['n', 'u', 'l', 'l'] .null text
    else if c = 't' then readWord ['t', 'r', 'u', 'e'] (.bool true) text
    else if c = 'f' then readWord ['f', 'a', 'l', 's', 'e'] (.bool false) text
    else (readNumber text).map fun (value, rest) => (.number value, rest)

def readValue (depth : Nat) (text : List Char) : Except Fault (Json × List Char) :=
  match skipSpaces text with
  | '[' :: rest =>
    match depth with
    | 0 => .error .malformed
    | depth + 1 =>
      (readSeparated ']' (readValue depth) rest).map fun (items, rest) => (.array items, rest)
  | '{' :: rest =>
    match depth with
    | 0 => .error .malformed
    | depth + 1 =>
      (readSeparated '}' (readMember readString (readValue depth)) rest).map fun (members, rest) =>
        (.object members, rest)
  | rest => readScalar rest

/-- Passes over a value whose content does not matter: only its form is looked at. -/
def skipValue (fuel : Nat) (text : List Char) : Except Fault (Unit × List Char) :=
  match skipSpaces text with
  | '[' :: rest =>
    match fuel with
    | 0 => .error .malformed
    | fuel + 1 => (readSeparated ']' (skipValue fuel) rest).map fun (_, rest) => ((), rest)
  | '{' :: rest =>
    match fuel with
    | 0 => .error .malformed
    | fuel + 1 =>
      (readSeparated '}' (readMember skipString (skipValue fuel)) rest).map fun (_, rest) => ((), rest)
  | '"' :: rest => skipString rest
  | rest =>
    match rest.head? with
    | some 'n' | some 't' | some 'f' => (readScalar rest).map fun (_, rest) => ((), rest)
    | _ =>
      match scanNumber rest with
      | none => .error .malformed
      | some (_, rest) => .ok ((), rest)

def whole? {α : Type} : Except Fault (α × List Char) → Except Fault α
  | .error fault => .error fault
  | .ok (value, rest) => if (skipSpaces rest).isEmpty then .ok value else .error .malformed

def readDocument (depth : Nat) (text : List Char) : Except Fault Json :=
  whole? (readValue depth text)

def read? (text : List Char) : Option Json :=
  match readDocument nesting text with
  | .ok document => some document.arrange
  | .error _ => none

def ofString? (text : String) : Option Json := read? text.toList

end CommandGate.Json
