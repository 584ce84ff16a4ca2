import CommandGate.Domain.Name
import CommandGate.Http.Percent
/-!
Hosts of URLs: a name, or an address of 32 or of 128 bits. A domain name whose last label is a
number is an address of up to four numbers, each decimal, octal after `0` or hexadecimal after `0x`.
The long addresses stand in brackets: eight groups of hexadecimal digits, `::` for a run of zeros.
-/
namespace CommandGate.Http

open Text

inductive Host where
  | name (text : List Char)
  | address4 (value : Nat)
  | address6 (groups : List Nat)
  deriving DecidableEq, Repr

def addressNumber? : List Char → Option Nat
  | [] => none
  | '0' :: 'x' :: digits => numberIn? 16 hexValue? digits
  | '0' :: 'X' :: digits => numberIn? 16 hexValue? digits
  | '0' :: digits => numberIn? 8 (digitBelow? 8) digits
  | digits => numberIn? 10 (digitBelow? 10) digits
where
  digitBelow? (base : Nat) (c : Char) : Option Nat := (hexValue? c).filter (· < base)

def nameParts (name : List Char) : List (List Char) :=
  let parts := splitOn '.' name
  if parts.getLast? = some [] then parts.dropLast else parts

/-- Whether a name has to be read as an address. -/
def endsInNumber (name : List Char) : Bool :=
  (nameParts name).getLast?.any fun part =>
    (!part.isEmpty && part.all Char.isDigit) || (addressNumber? part).isSome

/-- The value of some bytes that numbers denote: one byte each, the last one all that are left. -/
def bytesOf? : Nat → List Nat → Option Nat
  | 0, _ => none
  | _, [] => none
  | count, [last] => if last < Nat.pow 256 count then some last else none
  | count + 1, n :: numbers =>
    if n < 256 then (bytesOf? count numbers).map (n * Nat.pow 256 count + ·) else none

def address4? (name : List Char) : Option Nat :=
  ((nameParts name).mapM addressNumber?).bind (bytesOf? 4)

def decimalByte? (digits : List Char) : Option Nat :=
  match digits with
  | '0' :: _ :: _ => none
  | [] => none
  | digits =>
    if digits.all Char.isDigit then (numberIn? 10 hexValue? digits).filter (· < 256) else none

def groupsOfBytes? (text : List Char) : Option (List Nat) :=
  match (splitOn '.' text).mapM decimalByte? with
  | some [a, b, c, d] => some [256 * a + b, 256 * c + d]
  | _ => none

def group? (digits : List Char) : Option Nat :=
  if digits.isEmpty || 4 < digits.length then none else numberIn? 16 hexValue? digits

def groupsOf? : List (List Char) → Option (List Nat)
  | [] => some []
  | [part] => if part.contains '.' then groupsOfBytes? part else (group? part).map ([·])
  | part :: parts =>
    match group? part, groupsOf? parts with
    | some group, some groups => some (group :: groups)
    | _, _ => none

def groupParts (text : List Char) : List (List Char) :=
  if text.isEmpty then [] else splitOn ':' text

def address6? (text : List Char) : Option (List Nat) :=
  match splitAtFirst [':', ':'] text with
  | some (before, after) =>
    match (groupParts before).mapM group?, groupsOf? (groupParts after) with
    | some front, some back =>
      let count := front.length + back.length
      if count < 8 then some (front ++ List.replicate (8 - count) 0 ++ back) else none
    | _, _ => none
  | none => (groupsOf? (groupParts text)).filter (·.length == 8)

def zeroRun (groups : List Nat) : Nat := (groups.takeWhile (· == 0)).length

/-- The longest run of zeros, the first one of several: where it starts and how long it is. -/
def longestZeroRun : List Nat → Nat × Nat
  | [] => (0, 0)
  | group :: groups =>
    let (start, length) := longestZeroRun groups
    let here := zeroRun (group :: groups)
    if length ≤ here then (0, here) else (start + 1, length)

def writeGroups (groups : List Nat) : List Char :=
  [':'].intercalate (groups.map (Nat.toDigits 16))

def writeAddress6 (groups : List Nat) : List Char :=
  let (start, length) := longestZeroRun groups
  if length < 2 then writeGroups groups
  else writeGroups (groups.take start) ++ [':', ':'] ++ writeGroups (groups.drop (start + length))

namespace Host

def write : Host → List Char
  | name text => text
  | address4 value =>
    ['.'].intercalate <|
      [value / 16777216, value / 65536 % 256, value / 256 % 256, value % 256].map (Nat.toDigits 10)
  | address6 groups => '[' :: writeAddress6 groups ++ [']']

def ofBracketed? (text : List Char) : Option Host :=
  match text.reverse with
  | ']' :: inner => (address6? inner.reverse).map address6
  | _ => none

def ofDomain? : List Char → Option Host
  | '[' :: text => ofBracketed? text
  | text =>
    ((percentDecode? text).bind Domain.asciiName?).bind fun domain =>
      if domain.isEmpty then none
      else if endsInNumber domain then (address4? domain).map address4
      else some (name domain)

def isForbiddenInName (c : Char) : Bool :=
  ['\x00', '\t', '\n', '\r', ' ', '#', '/', ':', '<', '>', '?', '@', '[', '\\', ']', '^',
    '|'].contains c

/-- A host for a scheme that the web does not know: a name is kept as it is written. -/
def ofText? : List Char → Option Host
  | '[' :: text => ofBracketed? text
  | text => if text.any isForbiddenInName then none else some (name (percentEncode [] text))

end Host

end CommandGate.Http
