import CommandGate.Proofs.ParameterCheck

/-!
Texts that stand for integers of 64 bits, as parameters that are numbers. The kind of integers takes
them for what they denote. So does the kind of numbers, but only as far as signed words reach: above,
it takes the nearest double, which is a multiple of 2048.
-/

namespace CommandGate

namespace Number

variable {text : List Char} {n : Int}

theorem Denotes.unique {m : Int} (here : Denotes text n) (there : Denotes text m) : n = m :=
  Option.some.inj
    ((wholeNumber?_eq_some_iff.mpr here).symm.trans (wholeNumber?_eq_some_iff.mpr there))

theorem Denotes.spells (denotes : Denotes text n) :
    ∃ negative, Spells text ⟨negative, n.natAbs, 0⟩ ∧ (0 < n → negative = false) := by
  have size {digits : List Char} (nonempty : digits ≠ [])
      (decimal : ∀ c ∈ digits, c.isDigit = true) : SpellsSize digits (natOfDigits digits) 0 := by
    have whole := SpellsSize.whole nonempty decimal .absent
    rwa [List.append_nil] at whole
  cases denotes with
  | bare nonempty decimal => exact ⟨false, .bare (size nonempty decimal), fun _ => rfl⟩
  | plus nonempty decimal => exact ⟨false, .plus (size nonempty decimal), fun _ => rfl⟩
  | @minus digits nonempty decimal =>
    refine ⟨true, ?_, fun positive => absurd positive (by omega)⟩
    rw [Int.natAbs_neg, Int.natAbs_natCast]
    exact .minus (size nonempty decimal)

/-! ### Integers as doubles -/

section

variable {format : Format} {m places : Nat}

theorem Format.exponentOf_whole (positive : 0 < places)
    (low : 2 ^ (format.digits + places - 1) ≤ m) (high : m < 2 ^ (format.digits + places))
    (least : format.least ≤ places) : format.exponentOf m 1 = places := by
  have nonzero : m ≠ 0 := (Nat.lt_of_lt_of_le (Nat.two_pow_pos _) low).ne'
  have logarithm : m.log2 = format.digits + places - 1 := by
    refine (Nat.log2_eq_iff nonzero).mpr ⟨low, ?_⟩
    rwa [Nat.sub_add_cancel (by omega)]
  have guess : ((m.log2 : Int) - Nat.log2 1 - format.digits) = (places - 1 : Nat) := by
    rw [logarithm, show Nat.log2 1 = 0 from rfl]
    omega
  -- the first guess leaves one digit too many
  have many : ¬m / 2 ^ (places - 1) < 2 ^ format.digits := by
    rw [not_lt, Nat.le_div_iff_mul_le (Nat.two_pow_pos _), ← Nat.pow_add,
      ← Nat.add_sub_assoc positive]
    exact low
  have units : inUnits m 1 (places - 1 : Nat) = (m, 2 ^ (places - 1)) := by
    simp [inUnits]
  simp only [exponentOf, guess, units, Nat.pow_eq, many, if_false]
  omega

theorem Format.exists_round_whole (negative : Bool) (wide : 0 < format.digits)
    (positive : 0 < places) (low : 2 ^ (format.digits + places - 1) ≤ m)
    (high : m < 2 ^ (format.digits + places)) (least : format.least ≤ places)
    (greatest : (places : Int) + 1 ≤ format.greatest) :
    ∃ x, format.round negative m 1 = some x ∧ x.negative = negative ∧
      x.numerator = nearest m (2 ^ places) * 2 ^ places ∧ x.denominator = 1 := by
  have nonzero : m ≠ 0 := (Nat.lt_of_lt_of_le (Nat.two_pow_pos _) low).ne'
  have units : inUnits m 1 places = (m, 2 ^ places) := by
    simp [inUnits]
  simp only [round, nonzero, if_false, exponentOf_whole positive low high least, units, Nat.pow_eq]
  by_cases carried : nearest m (2 ^ places) = 2 ^ format.digits
  · refine ⟨⟨negative, 2 ^ (format.digits - 1), places + 1⟩, ?_, rfl, ?_, ?_⟩
    · simp only [carried, if_true, greatest]
    · have unit : ((places : Int) + 1).toNat = places + 1 := rfl
      rw [Binary.numerator, unit, carried, Nat.pow_eq, ← Nat.pow_add, ← Nat.pow_add]
      congr 1
      omega
    · have unit : (-((places : Int) + 1)).toNat = 0 := by omega
      rw [Binary.denominator, unit, Nat.pow_eq, pow_zero]
  · have within : (places : Int) ≤ format.greatest := by omega
    refine ⟨⟨negative, nearest m (2 ^ places), places⟩, ?_, rfl, rfl, ?_⟩
    · simp only [carried, if_false, within, if_true]
    · have unit : (-(places : Int)).toNat = 0 := by omega
      rw [Binary.denominator, unit, Nat.pow_eq, pow_zero]

theorem Decimal.toExtended_whole (negative : Bool) (positive : 0 < m)
    (few : digitCount m ≤ 400) :
    Decimal.toExtended format ⟨negative, m, 0⟩ = .round format negative m 1 := by
  have small : ¬(400 : Int) < digitCount m := by omega
  have large : ¬(digitCount m : Int) < -400 := by omega
  simp [toExtended, positive.ne', small, large]

end

/-- From 2 ^ 63 up to 2 ^ 64 the doubles are the multiples of 2048. -/
theorem exists_double_of_wide (low : 2 ^ 63 ≤ n) (high : n < 2 ^ 64) :
    ∃ x, Decimal.toExtended double ⟨false, n.natAbs, 0⟩ = .finite x ∧ x.negative = false ∧
      x.numerator = nearest n.natAbs 2048 * 2048 ∧ x.denominator = 1 := by
  have low : 2 ^ (double.digits + 11 - 1) ≤ n.natAbs := by
    simp only [double]
    omega
  have high : n.natAbs < 2 ^ (double.digits + 11) := by
    simp only [double]
    omega
  have count : digitCount n.natAbs ≤ 20 := by
    refine (Nat.length_toDigits_le_iff (by decide) (by decide)).mpr ?_
    omega
  obtain ⟨x, rounded, parts⟩ :=
    Format.exists_round_whole false (by decide) (by decide) low high (by decide) (by decide)
  refine ⟨x, ?_, parts⟩
  rw [Decimal.toExtended_whole false (by omega) (by omega), Extended.round, rounded]

end Number

namespace ParameterKind

open Number

variable {kind : ParameterKind} {accepted : Json} {text : String} {n : Int}

theorem Admits.eq_whole (admits : kind.Admits (.string text) accepted)
    (denotes : Denotes (Text.trim text.toList) n) (low : -2 ^ 63 ≤ n)
    (exact : kind = .integer ∨ kind = .number ∧ n < 2 ^ 63) : accepted = .whole n := by
  cases admits with
  | any | string => simp at exact
  | wholeText denotes' => rw [denotes.unique denotes']
  | decimalText wide spells value =>
    have high : n < 2 ^ 63 := by simpa using exact
    exact absurd ⟨low, high⟩ (wide n denotes)
  | digitsText nonempty decimal high => rw [denotes.unique (.bare nonempty decimal)]

theorem Admits.exists_double (admits : ParameterKind.number.Admits (.string text) accepted)
    (denotes : Denotes (Text.trim text.toList) n) (wide : 2 ^ 63 ≤ n) (high : n < 2 ^ 64) :
    ∃ x, accepted = .number (.real x) ∧ x.negative = false ∧
      x.numerator = nearest n.natAbs 2048 * 2048 ∧ x.denominator = 1 := by
  obtain ⟨negative, spells, sign⟩ := denotes.spells
  cases sign (by omega)
  obtain ⟨x, value, parts⟩ := exists_double_of_wide wide high
  have beyond : ∀ m, Denotes (Text.trim text.toList) m → ¬(-2 ^ 63 ≤ m ∧ m < 2 ^ 63) := by
    intro m denotes'
    have same : n = m := denotes.unique denotes'
    omega
  have taken := accept_eq_some_iff.mpr (.decimalText beyond spells value)
  rw [accept_eq_some_iff.mpr admits] at taken
  exact ⟨x, Option.some.inj taken, parts⟩

end ParameterKind

namespace Schema

open Number

variable {schema : Members String} {parameters checked : Fields} {name hint text : String} {n : Int}

/-- An integer given as such passes as it is. As a text it passes for the same under the kind of
integers, and under that of numbers as far as signed words reach; from there on it passes for the
nearest multiple of 2048, as a double. -/
theorem coerced_integers_are_exact_in_signed_words (ascending : schema.Ascending)
    (ordered : parameters.Ascending) (listed : (name, hint) ∈ schema)
    (numeric : ParameterKind.ofHint hint = .number ∨ ParameterKind.ofHint hint = .integer)
    (given : parameters.get? name = some (.string text))
    (denotes : Denotes (Text.trim text.toList) n) (low : -2 ^ 63 ≤ n) (high : n < 2 ^ 64)
    (passed : check schema parameters = .ok checked) :
    check schema (parameters.insert name (.whole n)) = .ok (checked.insert name (.whole n)) ∧
    (ParameterKind.ofHint hint = .integer ∨ n < 2 ^ 63 →
      checked.get? name = some (.whole n) ∧ checked.insert name (.whole n) = checked) ∧
    (ParameterKind.ofHint hint = .number → 2 ^ 63 ≤ n →
      ∃ x, checked.get? name = some (.number (.real x)) ∧ x.negative = false ∧
        x.numerator = nearest n.natAbs 2048 * 2048 ∧ x.denominator = 1) := by
  have declared : schema.get? name = some hint :=
    (Members.get?_eq_some_iff ascending.nodup).mpr listed
  obtain ⟨value, accepted, held, -, admits, passedOn⟩ := exists_admits_of_check passed declared
  cases given.symm.trans held
  have rising : checked.Ascending := by
    obtain ⟨-, rfl⟩ := check_eq_ok_iff.mp passed
    exact ascending_passedOn ordered
  refine ⟨?_, fun exact => ?_, fun kind wide => ?_⟩
  · have whole : (ParameterKind.ofHint hint).Admits (.whole n) (.whole n) := by
      rcases numeric with kind | kind
      · rw [kind]
        exact .number _
      · rw [kind]
        exact .integer n
    have present : Json.whole n ≠ .null := by
      rintro ⟨⟩
    exact check_insert ascending ordered passed listed present whole
  · have within : ParameterKind.ofHint hint = .integer ∨
        ParameterKind.ofHint hint = .number ∧ n < 2 ^ 63 := by
      rcases exact with kind | small
      · exact .inl kind
      · exact numeric.symm.imp_right fun kind => ⟨kind, small⟩
    rw [admits.eq_whole denotes low within] at passedOn
    exact ⟨passedOn, Members.insert_of_get? rising passedOn⟩
  · rw [kind] at admits
    obtain ⟨x, rfl, parts⟩ := admits.exists_double denotes wide high
    exact ⟨x, passedOn, parts⟩

end Schema

namespace House

def metering : Members String := [("day", "integer"), ("units", "number (in watts)")]

def reading (day units : String) : Fields := [("day", .string day), ("units", .string units)]

theorem readings_are_coerced :
    Members.Ascending metering ∧ Number.Denotes "-0042".toList (-42) ∧
    Number.Denotes "+9223372036854775808".toList (2 ^ 63) ∧
    (∃ checked, Schema.check metering (reading "7" " -0042 ") = .ok checked ∧
      checked.get? "units" = some (.whole (-42)) ∧
      checked.insert "units" (.whole (-42)) = checked) ∧
    ∃ checked x, Schema.check metering (reading "7" "+9223372036854775808") = .ok checked ∧
      checked.get? "units" = some (.number (.real x)) ∧ x.negative = false ∧
      x.numerator = 2 ^ 63 ∧ x.denominator = 1 := by
  have ascending : Members.Ascending metering := show ["day", "units"].Pairwise (· < ·) by decide
  have ordered (units : String) : Members.Ascending (reading "7" units) :=
    show ["day", "units"].Pairwise (· < ·) by decide
  have listed : ("units", "number (in watts)") ∈ metering := by decide
  have short : Number.Denotes "-0042".toList (-42) := Number.wholeNumber?_eq_some_iff.mp rfl
  have long : Number.Denotes "+9223372036854775808".toList (2 ^ 63) :=
    Number.wholeNumber?_eq_some_iff.mp rfl
  have shortPassed : Schema.check metering (reading "7" " -0042 ") =
      .ok [("day", .whole 7), ("units", .whole (-42))] := rfl
  have longPassed : Schema.check metering (reading "7" "+9223372036854775808") =
      .ok [("day", .whole 7), ("units", .number (.real ⟨false, 2 ^ 52, 11⟩))] := rfl
  refine ⟨ascending, short, long, ⟨_, shortPassed, ?_⟩, ?_⟩
  · obtain ⟨-, exact, -⟩ := Schema.coerced_integers_are_exact_in_signed_words ascending
      (ordered " -0042 ") listed (.inl rfl) rfl short (by decide) (by decide) shortPassed
    exact exact (.inr (by decide))
  · obtain ⟨-, -, rounded⟩ := Schema.coerced_integers_are_exact_in_signed_words ascending
      (ordered "+9223372036854775808") listed (.inl rfl) rfl long (by decide) (by decide) longPassed
    obtain ⟨x, held, sign, numerator, denominator⟩ := rounded rfl (by decide)
    exact ⟨_, x, longPassed, held, sign, numerator.trans (by decide), denominator⟩

/-- The greatest unsigned word is kept as a day, and as units if it is given as such; as a text, the
units become the number after it. -/
theorem greatest_reading_is_rounded :
    Number.Denotes "18446744073709551615".toList (2 ^ 64 - 1) ∧
    Schema.check metering (reading "18446744073709551615" "18446744073709551615") =
      .ok [("day", .whole (2 ^ 64 - 1)), ("units", .number (.real ⟨false, 2 ^ 52, 12⟩))] ∧
    Schema.check metering [("day", .whole 7), ("units", .whole (2 ^ 64 - 1))] =
      .ok [("day", .whole 7), ("units", .whole (2 ^ 64 - 1))] :=
  ⟨Number.wholeNumber?_eq_some_iff.mp rfl, rfl, rfl⟩

end House

end CommandGate
