import CommandGate.Json.Value
import CommandGate.Number.DecimalText
/-!
The text of a JSON value. The compact form has no spaces; the indented form puts every item and
member on a line of its own. Only the quote, the backslash and control characters are escaped.
-/
namespace CommandGate

open Number

/-- Doubles are positional from `0.00001` up to below `10 ^ 16`. -/
def Numeral.layout : Layout := ⟨-5, 16⟩

def Numeral.write : Numeral → List Char
  | .whole n => intDigits n
  | .real x => (x.shortest double).write layout

namespace Json

def escapeChar (c : Char) : List Char :=
  match c with
  | '"' => ['\\', '"']
  | '\\' => ['\\', '\\']
  | '\x08' => ['\\', 'b']
  | '\x0c' => ['\\', 'f']
  | '\n' => ['\\', 'n']
  | '\r' => ['\\', 'r']
  | '\t' => ['\\', 't']
  | c =>
    if c.val < 0x10 then ['\\', 'u', '0', '0', '0'] ++ Nat.toDigits 16 c.toNat
    else if c.val < 0x20 then ['\\', 'u', '0', '0'] ++ Nat.toDigits 16 c.toNat
    else [c]

def writeString (text : String) : List Char :=
  '"' :: text.toList.flatMap escapeChar ++ ['"']

mutual

def write : Json → List Char
  | .null => ['n', 'u', 'l', 'l']
  | .bool true => ['t', 'r', 'u', 'e']
  | .bool false => ['f', 'a', 'l', 's', 'e']
  | .number value => value.write
  | .string value => writeString value
  | .array items => '[' :: writeItems items ++ [']']
  | .object members => '{' :: writeMembers members ++ ['}']

def writeItems : List Json → List Char
  | [] => []
  | [item] => write item
  | item :: items => write item ++ ',' :: writeItems items

def writeMembers : List (String × Json) → List Char
  | [] => []
  | [(name, value)] => writeString name ++ ':' :: write value
  | (name, value) :: members => writeString name ++ ':' :: write value ++ ',' :: writeMembers members

end

def compact (value : Json) : String := String.ofList value.write

def lineStart (depth : Nat) : List Char := '\n' :: List.replicate (2 * depth) ' '

mutual

def writeIndented (depth : Nat) : Json → List Char
  | .array [] => ['[', ']']
  | .array items => '[' :: writeIndentedItems (depth + 1) items ++ lineStart depth ++ [']']
  | .object [] => ['{', '}']
  | .object members => '{' :: writeIndentedMembers (depth + 1) members ++ lineStart depth ++ ['}']
  | .null => write .null
  | .bool value => write (.bool value)
  | .number value => value.write
  | .string value => writeString value

def writeIndentedItems (depth : Nat) : List Json → List Char
  | [] => []
  | [item] => lineStart depth ++ writeIndented depth item
  | item :: items =>
    lineStart depth ++ writeIndented depth item ++ ',' :: writeIndentedItems depth items

def writeIndentedMembers (depth : Nat) : List (String × Json) → List Char
  | [] => []
  | [(name, value)] =>
    lineStart depth ++ writeString name ++ ':' :: ' ' :: writeIndented depth value
  | (name, value) :: members =>
    lineStart depth ++ writeString name ++ ':' :: ' ' :: writeIndented depth value ++
      ',' :: writeIndentedMembers depth members

end

def indented (value : Json) : String := String.ofList (value.writeIndented 0)

end Json

end CommandGate
