import CommandGate.Text.Base64
import CommandGate.Text.Scan
/-!
The body of a mail as it travels. Short lines of ASCII go as they are. Other bodies are written in
lines of at most 76 characters: as quoted-printable text where at most a third of their bytes has to
be escaped, else in base64. Every line of a body ends in a carriage return and a line feed.
-/
namespace CommandGate.Mail

open Text

inductive TransferEncoding where
  | sevenBit
  | quotedPrintable
  | base64
  deriving DecidableEq, Repr

def bodyLineLimit : Nat := 76

/-- Whether some line has 76 bytes or more; of every line but the first, the line feed before it is
counted too. `length` is the length of the line so far. -/
def hasLongLine (length : Nat) : List UInt8 → Bool
  | [] => bodyLineLimit ≤ length
  | b :: bytes =>
    if b = 0x0A then bodyLineLimit ≤ length || hasLongLine 1 bytes
    else hasLongLine (length + 1) bytes

def isPrintable (b : UInt8) : Bool := b == 0x09 || (0x20 ≤ b && b ≤ 0x7E)

def withLineEnds (afterReturn : Bool) : List Char → List Char
  | [] => []
  | c :: text =>
    if c = '\n' ∧ !afterReturn then '\r' :: '\n' :: withLineEnds false text
    else c :: withLineEnds (c == '\r') text

/-- Quoted-printable text being written: its finished lines and the marks of the current line, in
both the last one first. A mark is a character or an escaped byte and is never broken. -/
structure QuotedPrintable where
  finished : List (List Char)
  marks : List (List Char)

namespace QuotedPrintable

def start : QuotedPrintable := ⟨[], []⟩

def line (written : QuotedPrintable) : List Char := written.marks.reverse.flatten

def text (written : QuotedPrintable) : List Char := written.finished.reverse.flatten ++ written.line

def endLine (written : QuotedPrintable) (lineEnd : List Char) : QuotedPrintable :=
  ⟨(written.line ++ lineEnd) :: written.finished, []⟩

def softEnd : List Char := ['=', '\r', '\n']

/-- Adds a mark. A line that has no room for it ends in `=`; if it has no room for that either, its
last mark moves to the next line. -/
def add (written : QuotedPrintable) (mark : List Char) : QuotedPrintable :=
  if written.line.length + mark.length ≤ bodyLineLimit then
    { written with marks := mark :: written.marks }
  else
    match written.marks with
    | last :: marks =>
      if written.line.length = bodyLineLimit then
        { endLine ⟨written.finished, marks⟩ softEnd with marks := [mark, last] }
      else { written.endLine softEnd with marks := [mark] }
    | [] => { written.endLine softEnd with marks := [mark] }

def escaped (b : UInt8) : List Char := ['=', hexDigit (b.toNat / 16), hexDigit (b.toNat % 16)]

def closeLine (written : QuotedPrintable) : QuotedPrintable :=
  match written.marks with
  | [' '] :: marks => add ⟨written.finished, marks⟩ (escaped 0x20)
  | ['\t'] :: marks => add ⟨written.finished, marks⟩ (escaped 0x09)
  | _ => written

def addByte (written : QuotedPrintable) (b : UInt8) : QuotedPrintable :=
  if isPrintable b && b != 0x3D then written.add [Char.ofNat b.toNat] else written.add (escaped b)

/-- Adds bytes. A carriage return and a line feed end the line; either of them alone is escaped. -/
def addBytes (written : QuotedPrintable) : List UInt8 → QuotedPrintable
  | [] => written.closeLine
  | 0x0D :: 0x0A :: bytes => addBytes (written.closeLine.endLine ['\r', '\n']) bytes
  | b :: bytes => addBytes (written.addByte b) bytes

end QuotedPrintable

def brokenLines (column : Nat) : List Char → List Char
  | [] => []
  | c :: text =>
    if column = bodyLineLimit then '\r' :: '\n' :: c :: brokenLines 1 text
    else c :: brokenLines (column + 1) text

namespace TransferEncoding

def name : TransferEncoding → String
  | sevenBit => "7bit"
  | quotedPrintable => "quoted-printable"
  | base64 => "base64"

def suiting (bytes : List UInt8) : TransferEncoding :=
  if bytes.all (· < 0x80) && !hasLongLine 0 bytes then sevenBit
  else if bytes.countP (!isPrintable ·) ≤ bytes.length / 3 then quotedPrintable
  else base64

def encode (encoding : TransferEncoding) (body : String) : String :=
  let text := String.ofList (withLineEnds false body.toList)
  match encoding with
  | sevenBit => text
  | quotedPrintable =>
    String.ofList (QuotedPrintable.start.addBytes text.toUTF8.toList).text
  | base64 => String.ofList (brokenLines 0 (Text.base64 text.toUTF8.toList))

end TransferEncoding

end CommandGate.Mail
