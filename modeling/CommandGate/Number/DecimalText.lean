import CommandGate.Number.Shortest
/-!
Decimal numbers as text: the general grammar (sign, digits around a point, power of ten, the words
for infinity and the undefined value) with its exact value, whole numbers with a sign, and the layout
in which a decimal is written.
-/
namespace CommandGate.Number

def digitValue (c : Char) : Nat := c.toNat - 48

def natOfDigits (digits : List Char) : Nat :=
  digits.foldl (fun n c => 10 * n + digitValue c) 0

def digits? (text : List Char) : Option Nat :=
  if text.isEmpty || !text.all Char.isDigit then none else some (natOfDigits text)

def splitSign : List Char → Bool × List Char
  | '-' :: text => (true, text)
  | '+' :: text => (false, text)
  | text => (false, text)

def wholeNumber? (text : List Char) : Option Int :=
  let (negative, rest) := splitSign text
  (digits? rest).map fun n => if negative then -(n : Int) else n

def signedWord? (text : List Char) : Option Int :=
  (wholeNumber? text).filter fun n => -Int.pow 2 63 ≤ n && n < Int.pow 2 63

def unsignedWord? (text : List Char) : Option Nat :=
  match text with
  | '-' :: _ => none
  | _ => (wholeNumber? text).bind fun n => if n < Int.pow 2 64 then some n.toNat else none

/-- The value of a decimal in a binary format. Far beyond its range the powers are not computed. -/
def Decimal.toExtended (format : Format) (x : Decimal) : Extended :=
  let top := digitCount x.digits + x.exponent
  if x.digits = 0 ∨ top < -400 then .finite (.zero x.negative format)
  else if 400 < top then .infinite x.negative
  else
    .round format x.negative (x.digits * Nat.pow 10 x.exponent.toNat)
      (Nat.pow 10 (-x.exponent).toNat)

def exponentPart? : List Char → Option Int
  | [] => some 0
  | c :: text => if c = 'e' ∨ c = 'E' then wholeNumber? text else none

def unsignedDecimal? (negative : Bool) (text : List Char) : Option Decimal :=
  let whole := text.takeWhile Char.isDigit
  let rest := text.dropWhile Char.isDigit
  let (fraction, rest) :=
    match rest with
    | '.' :: rest => (rest.takeWhile Char.isDigit, rest.dropWhile Char.isDigit)
    | rest => ([], rest)
  if whole.isEmpty && fraction.isEmpty then none
  else
    (exponentPart? rest).map fun power =>
      ⟨negative, natOfDigits (whole ++ fraction), power - fraction.length⟩

def extended? (format : Format) (text : List Char) : Option Extended :=
  let (negative, rest) := splitSign text
  let word := rest.map Char.toLower
  if word = ['i', 'n', 'f'] ∨ word = "infinity".toList then some (.infinite negative)
  else if word = ['n', 'a', 'n'] then some .undefined
  else (unsignedDecimal? negative rest).map (·.toExtended format)

/-- Which powers of ten are written in positional notation: from `10 ^ positionalFrom` on and below
`10 ^ positionalBelow`. Elsewhere the power follows the mark `e`, always with its sign. -/
structure Layout where
  positionalFrom : Int
  positionalBelow : Int

def natDigits (n : Nat) : List Char := Nat.toDigits 10 n

def intDigits (n : Int) : List Char :=
  if n < 0 then '-' :: natDigits n.natAbs else natDigits n.natAbs

def pointed (digits : List Char) (before : Int) : List Char :=
  if before ≤ 0 then '0' :: '.' :: List.replicate (-before).toNat '0' ++ digits
  else if digits.length ≤ before then
    digits ++ List.replicate (before.toNat - digits.length) '0' ++ ['.', '0']
  else digits.take before.toNat ++ '.' :: digits.drop before.toNat

def scientific (digits : List Char) (power : Int) : List Char :=
  let mantissa :=
    match digits with
    | first :: second :: rest => first :: '.' :: second :: rest
    | digits => digits
  mantissa ++ 'e' :: (if power < 0 then '-' else '+') :: natDigits power.natAbs

def Decimal.write (layout : Layout) (x : Decimal) : List Char :=
  let digits := natDigits x.digits
  let power : Int := if x.digits = 0 then 0 else digits.length + x.exponent - 1
  let body :=
    if layout.positionalFrom ≤ power && power < layout.positionalBelow then
      pointed digits (power + 1)
    else scientific digits power
  if x.negative then '-' :: body else body

end CommandGate.Number
