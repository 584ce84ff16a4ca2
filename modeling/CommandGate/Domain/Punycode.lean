import CommandGate.Text.Search
/-!
Text beyond ASCII written in ASCII letters and digits. The ASCII characters come first; after a
hyphen a row of numbers says where the others are to be put in, by ascending code point: each number
counts the places that are passed over, and its digits adapt to the size of the numbers before it.
-/
namespace CommandGate.Domain.Punycode

open Text

def digit (n : Nat) : Char := if n < 26 then Char.ofNat (97 + n) else Char.ofNat (22 + n)

def digitValue? (c : Char) : Option Nat :=
  if 'a' ≤ c ∧ c ≤ 'z' then some (c.toNat - 97)
  else if c.isDigit then some (c.toNat - 22)
  else none

/-- A digit below this is the last one of its number; `place` is 36 times its place from one on. -/
def threshold (bias place : Nat) : Nat := min 26 (max 1 (place - bias))

theorem one_le_threshold (bias place : Nat) : 1 ≤ threshold bias place := by
  unfold threshold
  omega

theorem threshold_le (bias place : Nat) : threshold bias place ≤ 26 := by
  unfold threshold
  omega

def digits (bias place n : Nat) : List Char :=
  let last := threshold bias place
  if n < last then [digit n]
  else
    digit (last + (n - last) % (36 - last)) ::
      digits bias (place + 36) ((n - last) / (36 - last))
termination_by n
decreasing_by
  have := one_le_threshold bias place
  have := threshold_le bias place
  exact Nat.lt_of_le_of_lt (Nat.div_le_self _ _) (by omega)

/-- The bias for numbers of the size of `scaled`; `place` is 36 for each division so far. -/
def biasFor (place scaled : Nat) : Nat :=
  if 455 < scaled then biasFor (place + 36) (scaled / 35)
  else place + 36 * scaled / (scaled + 38)
termination_by scaled

/-- The bias after the number `n`, by which the text grew to `length` characters. -/
def nextBias (isFirst : Bool) (n length : Nat) : Nat :=
  let scaled := n / if isFirst then 700 else 2
  biasFor 0 (scaled + scaled / length)

def isAscii (c : Char) : Bool := c.val < 0x80

/-- A text being written: the digits so far, the places passed over since the last number, the bias,
and how many characters are written. -/
structure Writing where
  digits : List Char
  passed : Nat
  bias : Nat
  count : Nat

def Writing.pass (isFirst : Nat → Bool) (code : Nat) (writing : Writing) (c : Char) : Writing :=
  if c.toNat < code then { writing with passed := writing.passed + 1 }
  else if c.toNat = code then
    { digits := writing.digits ++ Punycode.digits writing.bias 36 writing.passed
      passed := 0
      bias := nextBias (isFirst writing.count) writing.passed (writing.count + 1)
      count := writing.count + 1 }
  else writing

/-- Writes the characters with the code points of a list; `next` is the first code point that is not
yet passed over. -/
def Writing.run (text : List Char) (isFirst : Nat → Bool) (next : Nat) (writing : Writing) :
    List Nat → Writing
  | [] => writing
  | code :: codes =>
    let writing := { writing with passed := writing.passed + (code - next) * (writing.count + 1) }
    let writing := text.foldl (Writing.pass isFirst code) writing
    Writing.run text isFirst (code + 1) { writing with passed := writing.passed + 1 } codes

def encode (text : List Char) : List Char :=
  let plain := text.filter isAscii
  let codes := ((text.filter (!isAscii ·)).map Char.toNat).eraseDups.mergeSort
  let start : Writing := ⟨[], 0, 72, plain.length⟩
  let written := Writing.run text (· == plain.length) 0x80 start codes
  (if plain.isEmpty then [] else plain ++ ['-']) ++ written.digits

/-- A text being read: what is read so far, the code point and the place that were put in last, and
the bias. -/
structure Reading where
  text : List Char
  code : Nat
  place : Nat
  bias : Nat

def Reading.insert? (reading : Reading) (isFirst : Bool) (n : Nat) : Option Reading :=
  let length := reading.text.length + 1
  let place := reading.place + n
  let code := reading.code + place / length
  if code.isValidChar then
    some {
      text := reading.text.insertIdx (place % length) (Char.ofNat code)
      code := code
      place := place % length + 1
      bias := nextBias isFirst n length }
  else none

/-- Reads numbers; of the current one the digits before `place` are `n`, and the next one counts
`weight`. -/
def Reading.run (reading : Reading) (isFirst : Bool) (n weight place : Nat) :
    List Char → Option (List Char)
  | [] => if place = 36 then some reading.text else none
  | c :: digits =>
    (digitValue? c).bind fun value =>
      let last := threshold reading.bias place
      let n := n + value * weight
      if value < last then
        (reading.insert? isFirst n).bind fun reading => reading.run false 0 1 36 digits
      else reading.run isFirst n (weight * (36 - last)) (place + 36) digits

/-- The text that is written in ASCII as `written`. A hyphen comes only after an ASCII character. -/
def decode? (written : List Char) : Option (List Char) :=
  let plain := (written.reverse.dropWhile (· != '-')).reverse
  let digits := (written.reverse.takeWhile (· != '-')).reverse
  if plain = ['-'] then none else (Reading.mk plain.dropLast 0x80 0 72).run true 0 1 36 digits

end CommandGate.Domain.Punycode
