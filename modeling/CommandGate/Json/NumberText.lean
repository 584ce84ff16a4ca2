import CommandGate.Json.Value
import CommandGate.Number.DecimalText
/-!
Numbers as they stand in JSON text. A number without point and power that a 64-bit word holds is
kept whole; any other is the double made from its leading digits, as many as an unsigned 64-bit word
holds, by one multiplication or division with a power of ten, each step rounded to nearest.
-/
namespace CommandGate.Json

open Number

structure NumberText where
  negative : Bool
  whole : List Char
  fraction : Option (List Char)
  power : Option Int

def scanDigits (text : List Char) : Option (List Char × List Char) :=
  match text.takeWhile Char.isDigit with
  | [] => none
  | digits => some (digits, text.dropWhile Char.isDigit)

def scanWhole (text : List Char) : Option (List Char × List Char) :=
  match scanDigits text with
  | some ('0' :: _ :: _, _) => none
  | found => found

def scanFraction : List Char → Option (Option (List Char) × List Char)
  | '.' :: text => (scanDigits text).map fun (digits, rest) => (some digits, rest)
  | text => some (none, text)

def scanPower : List Char → Option (Option Int × List Char)
  | c :: text =>
    if c = 'e' ∨ c = 'E' then
      let (negative, text) := splitSign text
      (scanDigits text).map fun (digits, rest) =>
        let size : Int := natOfDigits digits
        (some (if negative then -size else size), rest)
    else some (none, c :: text)
  | [] => some (none, [])

def scanNumber (text : List Char) : Option (NumberText × List Char) :=
  let (negative, text) :=
    match text with
    | '-' :: text => (true, text)
    | text => (false, text)
  (scanWhole text).bind fun (whole, text) =>
    (scanFraction text).bind fun (fraction, text) =>
      (scanPower text).map fun (power, text) => (⟨negative, whole, fraction, power⟩, text)

/-- Takes digits into `word` as long as it stays below `2 ^ 64`; the number of digits not taken. -/
def absorb (word : Nat) : List Char → Nat × Nat
  | [] => (word, 0)
  | c :: digits =>
    let next := 10 * word + digitValue c
    if next < Nat.pow 2 64 then absorb next digits else (word, digits.length + 1)

/-- `word * 10 ^ power` with the power split off in steps of at most 308; after `fuel` steps down
nothing is left. None when the value is beyond the largest double. -/
def scale (word : Binary) (power : Int) : Nat → Option Binary
  | 0 => some (.zero false double)
  | fuel + 1 =>
    if word.isZero then some word
    else if 308 < power then none
    else
      (double.ofNat false (Nat.pow 10 (min power.natAbs 308))).bind fun factor =>
        if 0 ≤ power then double.mul word factor
        else
          (double.div word factor).bind fun quotient =>
            if -308 ≤ power then some quotient else scale quotient (power + 308) fuel

def NumberText.toDouble (number : NumberText) : Option Binary :=
  let (word, dropped) := absorb 0 number.whole
  let fraction := number.fraction.getD []
  let (word, left) := absorb word fraction
  let power : Int := number.power.getD 0 + dropped - (fraction.length - left : Nat)
  (double.ofNat false word).bind fun start =>
    (scale start power 4).map fun x => { x with negative := number.negative }

def NumberText.value (number : NumberText) : Option Numeral :=
  let n := natOfDigits number.whole
  let isWhole := number.fraction.isNone && number.power.isNone
  if isWhole && !number.negative && n < Nat.pow 2 64 then some (.whole n)
  else if isWhole && number.negative && 0 < n && n ≤ Nat.pow 2 63 then some (.whole (-n))
  else number.toDouble.map .real

end CommandGate.Json
