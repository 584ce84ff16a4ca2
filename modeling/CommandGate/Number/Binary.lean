/-!
Finite binary floating-point numbers as exact values, and rounding of a fraction to the nearest of
them, a tie going to the even mantissa. Arithmetic is exact arithmetic followed by one rounding.
-/
namespace CommandGate.Number

/-- The number `mantissa * 2 ^ exponent`, with its sign; zero has a sign too. -/
structure Binary where
  negative : Bool
  mantissa : Nat
  exponent : Int
  deriving DecidableEq, Repr

/-- Mantissas have at most `digits` binary digits, exponents lie between `least` and `greatest`. -/
structure Format where
  digits : Nat
  least : Int
  greatest : Int
  deriving DecidableEq, Repr

def double : Format := ⟨53, -1074, 971⟩

def single : Format := ⟨24, -149, 104⟩

def Binary.zero (negative : Bool) (format : Format) : Binary := ⟨negative, 0, format.least⟩

def Binary.isZero (x : Binary) : Bool := x.mantissa == 0

def Binary.numerator (x : Binary) : Nat := x.mantissa * Nat.pow 2 x.exponent.toNat

def Binary.denominator (x : Binary) : Nat := Nat.pow 2 (-x.exponent).toNat

/-- The whole number nearest to `num / den`, a tie going to the even one. -/
def nearest (num den : Nat) : Nat :=
  let below := num / den
  let twice := 2 * (num % den)
  if twice < den || (twice == den && below % 2 == 0) then below else below + 1

def inUnits (num den : Nat) (exponent : Int) : Nat × Nat :=
  (num * Nat.pow 2 (-exponent).toNat, den * Nat.pow 2 exponent.toNat)

/-- The exponent whose unit gives the positive `num / den` all the digits of the format. -/
def Format.exponentOf (format : Format) (num den : Nat) : Int :=
  let guess : Int := (num.log2 : Int) - den.log2 - format.digits
  let (n, d) := inUnits num den guess
  max format.least (if n / d < Nat.pow 2 format.digits then guess else guess + 1)

def Format.round (format : Format) (negative : Bool) (num den : Nat) : Option Binary :=
  if num = 0 then some (.zero negative format)
  else
    let exponent := format.exponentOf num den
    let (n, d) := inUnits num den exponent
    let mantissa := nearest n d
    let result : Binary :=
      if mantissa = Nat.pow 2 format.digits then
        ⟨negative, Nat.pow 2 (format.digits - 1), exponent + 1⟩
      else ⟨negative, mantissa, exponent⟩
    if result.exponent ≤ format.greatest then some result else none

def Format.ofNat (format : Format) (negative : Bool) (n : Nat) : Option Binary :=
  format.round negative n 1

def Format.mul (format : Format) (x y : Binary) : Option Binary :=
  format.round (x.negative != y.negative) (x.numerator * y.numerator)
    (x.denominator * y.denominator)

def Format.div (format : Format) (x y : Binary) : Option Binary :=
  format.round (x.negative != y.negative) (x.numerator * y.denominator)
    (x.denominator * y.numerator)

inductive Extended where
  | finite (x : Binary)
  | infinite (negative : Bool)
  | undefined
  deriving DecidableEq, Repr

def Extended.round (format : Format) (negative : Bool) (num den : Nat) : Extended :=
  match format.round negative num den with
  | some x => .finite x
  | none => .infinite negative

def Extended.convert (format : Format) : Extended → Extended
  | .finite x => .round format x.negative x.numerator x.denominator
  | other => other

def Extended.ofInt (format : Format) (n : Int) : Extended :=
  .round format (n < 0) n.natAbs 1

end CommandGate.Number
