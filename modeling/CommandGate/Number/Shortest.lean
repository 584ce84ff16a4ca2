import CommandGate.Number.Binary
/-!
The shortest decimal that reads back as a given binary number: of all decimals that round to it,
one with the fewest digits, and of those the nearest. Each count of digits is tried in turn on the
two neighbours of the number among the decimals of that many digits.
-/
namespace CommandGate.Number

/-- The number `digits * 10 ^ exponent`, with its sign. -/
structure Decimal where
  negative : Bool
  digits : Nat
  exponent : Int
  deriving DecidableEq, Repr

def digitCount (n : Nat) : Nat := (Nat.toDigits 10 n).length

def inDecimalUnits (num den : Nat) (exponent : Int) : Nat × Nat :=
  (num * Nat.pow 10 (-exponent).toNat, den * Nat.pow 10 exponent.toNat)

/-- The least `t` with `num / den < 10 ^ t`, for a positive fraction. -/
def magnitude (num den : Nat) : Int :=
  if den ≤ num then digitCount (num / den)
  else
    let places := digitCount (den / num)
    if den ≤ num * Nat.pow 10 (places - 1) then 2 - places else 1 - places

/-- Whether `n / d` rounds to `x`, given `n / d` in quarters of the unit of `x`. -/
def Binary.captures (format : Format) (x : Binary) (n d : Nat) : Bool :=
  let middle := 4 * x.mantissa
  let gap :=
    if x.mantissa = Nat.pow 2 (format.digits - 1) ∧ format.least < x.exponent then 1 else 2
  let low := (middle - gap) * d
  let high := (middle + 2) * d
  if x.mantissa % 2 = 0 then low ≤ n && n ≤ high else low < n && n < high

def Binary.reads (format : Format) (x : Binary) (digits : Nat) (exponent : Int) : Bool :=
  let (n, d) :=
    inUnits (digits * Nat.pow 10 exponent.toNat) (Nat.pow 10 (-exponent).toNat) (x.exponent - 2)
  x.captures format n d

def stripZeros (digits : Nat) (exponent : Int) : Nat → Nat × Int
  | 0 => (digits, exponent)
  | fuel + 1 =>
    if digits % 10 = 0 ∧ digits ≠ 0 then stripZeros (digits / 10) (exponent + 1) fuel
    else (digits, exponent)

/-- The neighbours of `x` on the grid of `10 ^ exponent`, the nearer first, that read back. -/
def Binary.neighbour? (format : Format) (x : Binary) (exponent : Int) : Option Nat :=
  let (n, d) := inDecimalUnits x.numerator x.denominator exponent
  let below := n / d
  let near := nearest n d
  let far := if near = below then below + 1 else below
  if x.reads format near exponent then some near
  else if x.reads format far exponent then some far
  else none

/-- Tries `count` digits, then more, `fuel` times; the last grid is taken as it is. -/
def Binary.shortestFrom (format : Format) (x : Binary) (top : Int) (count : Nat) :
    Nat → Nat × Int
  | 0 =>
    let exponent := top - count
    let (n, d) := inDecimalUnits x.numerator x.denominator exponent
    (nearest n d, exponent)
  | fuel + 1 =>
    match x.neighbour? format (top - count) with
    | some digits => (digits, top - count)
    | none => x.shortestFrom format top (count + 1) fuel

def Binary.shortest (format : Format) (x : Binary) : Decimal :=
  if x.isZero then ⟨x.negative, 0, 0⟩
  else
    let (digits, exponent) :=
      x.shortestFrom format (magnitude x.numerator x.denominator) 1 17
    let (digits, exponent) := stripZeros digits exponent 20
    ⟨x.negative, digits, exponent⟩

end CommandGate.Number
