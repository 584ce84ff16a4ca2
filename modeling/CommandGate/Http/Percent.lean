import CommandGate.Text.Scan
/-!
Percent signs in URLs: a byte of a character is written as a percent sign and two hexadecimal digits
where the character cannot stand for itself. What is no printable ASCII never can.
-/
namespace CommandGate.Http

open Text

def percentEncodeChar (c : Char) : List Char :=
  (String.singleton c).toUTF8.toList.flatMap fun byte =>
    ['%', hexDigit (byte.toNat / 16), hexDigit (byte.toNat % 16)]

def isControl (c : Char) : Bool := c.val < 0x20 || c.val == 0x7F

def percentEncode (marks text : List Char) : List Char :=
  text.flatMap fun c =>
    if isControl c || 0x7F < c.val || marks.contains c then percentEncodeChar c else [c]

def percentDecodeBytes : List UInt8 → List UInt8
  | 0x25 :: a :: b :: bytes =>
    match hexValue? (Char.ofNat a.toNat), hexValue? (Char.ofNat b.toNat) with
    | some high, some low => UInt8.ofNat (16 * high + low) :: percentDecodeBytes bytes
    | _, _ => 0x25 :: percentDecodeBytes (a :: b :: bytes)
  | byte :: bytes => byte :: percentDecodeBytes bytes
  | [] => []

def percentDecode? (text : List Char) : Option (List Char) :=
  let bytes := percentDecodeBytes (String.ofList text).toUTF8.toList
  (String.fromUTF8? ⟨bytes.toArray⟩).map String.toList

end CommandGate.Http
