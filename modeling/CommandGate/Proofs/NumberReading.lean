import Mathlib.Algebra.Group.Int.Defs
import Mathlib.Data.Bool.AllAny
import CommandGate.Json.Reader
import CommandGate.Json.Writer

/-!
Whole numbers read back. The digits of a number are read up to the mark that ends the value, as one
row without a leading zero, and a number that a 64-bit word holds comes back as it is.
-/

namespace CommandGate.Json

open Number

/-- What may follow a value: nothing more, the end of its line, or a mark of its container. -/
inductive Delimited : List Char → Prop where
  | nil : Delimited []
  | cons {c : Char} (mark : c ∈ [',', ']', '}', '\n']) (rest : List Char) : Delimited (c :: rest)

theorem isDigit_of_mem_natDigits {n : Nat} {c : Char} (inside : c ∈ natDigits n) :
    c.isDigit = true :=
  Nat.isDigit_of_mem_toDigits (by decide) (by decide) inside

theorem natOfDigits_natDigits (n : Nat) : natOfDigits (natDigits n) = n :=
  Nat.ofDigitChars_ten_toDigits

theorem head?_natDigits {n : Nat} (positive : 0 < n) : (natDigits n).head? ≠ some '0' := by
  unfold natDigits
  induction n using Nat.base_induction 10 (by decide) with
  | single n small =>
    have digits : ∀ n < 10, 0 < n → n.digitChar ≠ '0' := by decide
    rw [Nat.toDigits_of_lt_base small, List.head?_cons]
    simpa using digits n small positive
  | digit n last small above ih =>
    have front := ih above
    rw [← Nat.toDigits_append_toDigits (by decide) above small, List.head?_append]
    cases led : Nat.toDigits 10 n with
    | nil => exact absurd led Nat.toDigits_ne_nil
    | cons c later =>
      rw [led] at front
      exact front

variable {rest : List Char}

theorem scanDigits_natDigits (n : Nat) (ends : Delimited rest) :
    scanDigits (natDigits n ++ rest) = some (natDigits n, rest) := by
  have none : rest.takeWhile Char.isDigit = [] ∧ rest.dropWhile Char.isDigit = rest := by
    cases ends with
    | nil => exact ⟨rfl, rfl⟩
    | @cons c mark rest =>
      have other : ∀ c ∈ [',', ']', '}', '\n'], c.isDigit = false :=
        List.all_iff_forall_prop.mp (by decide)
      simp [other c mark]
  have digits : ∀ c ∈ natDigits n, c.isDigit = true := fun _ => isDigit_of_mem_natDigits
  rw [scanDigits, List.takeWhile_append_of_pos digits, List.dropWhile_append_of_pos digits, none.1,
    none.2, List.append_nil]
  cases written : natDigits n with
  | nil => exact absurd written Nat.toDigits_ne_nil
  | cons c later => rfl

theorem scanWhole_natDigits (n : Nat) (ends : Delimited rest) :
    scanWhole (natDigits n ++ rest) = some (natDigits n, rest) := by
  rw [scanWhole, scanDigits_natDigits n ends]
  split
  next second later rest' led =>
    obtain ⟨led, -⟩ := Prod.mk.inj (Option.some.inj led)
    rcases Nat.eq_zero_or_pos n with rfl | positive
    · cases led
    · exact absurd (by rw [led]; rfl) (head?_natDigits positive)
  next => rfl

theorem scanFraction_delimited (ends : Delimited rest) : scanFraction rest = some (none, rest) := by
  cases ends with
  | nil => rfl
  | cons mark rest =>
    rw [scanFraction]
    rintro _ ⟨⟩
    revert mark
    decide

theorem scanPower_delimited (ends : Delimited rest) : scanPower rest = some (none, rest) := by
  cases ends with
  | nil => rfl
  | @cons c mark rest =>
    have other : ∀ c ∈ [',', ']', '}', '\n'], ¬(c = 'e' ∨ c = 'E') :=
      List.all_iff_forall_prop.mp (by decide)
    rw [scanPower, if_neg (other c mark)]

theorem scanNumber_intDigits (n : Int) (ends : Delimited rest) :
    scanNumber (intDigits n ++ rest) =
      some (⟨decide (n < 0), natDigits n.natAbs, none, none⟩, rest) := by
  have parts := And.intro (scanWhole_natDigits n.natAbs ends)
    (And.intro (scanFraction_delimited ends) (scanPower_delimited ends))
  by_cases negative : n < 0
  · rw [intDigits, if_pos negative, decide_eq_true negative, List.cons_append, scanNumber]
    simp only [parts, Option.bind_some, Option.map_some]
  · rw [intDigits, if_neg negative, decide_eq_false negative, scanNumber]
    · simp only [parts, Option.bind_some, Option.map_some]
    -- a row of digits does not start with the sign
    intro text signed
    cases written : natDigits n.natAbs with
    | nil => exact absurd written Nat.toDigits_ne_nil
    | cons c digits =>
      have digit : c.isDigit = true := isDigit_of_mem_natDigits (written ▸ List.mem_cons_self)
      rw [written] at signed
      rw [(List.cons.inj signed).1] at digit
      cases digit

theorem value_whole {n : Int} (low : -2 ^ 63 ≤ n) (high : n < 2 ^ 64) :
    NumberText.value ⟨decide (n < 0), natDigits n.natAbs, none, none⟩ = some (.whole n) := by
  simp only [NumberText.value, natOfDigits_natDigits]
  by_cases negative : n < 0
  · have size : 0 < n.natAbs ∧ n.natAbs ≤ Nat.pow 2 63 := by
      simp only [Nat.pow_eq]
      omega
    have back : -(n.natAbs : Int) = n := by omega
    rw [decide_eq_true negative, if_neg (by simp), if_pos (by simp [size]), back]
  · have size : n.natAbs < Nat.pow 2 64 := by
      simp only [Nat.pow_eq]
      omega
    have back : (n.natAbs : Int) = n := by omega
    rw [decide_eq_false negative, if_pos (by simp [size]), back]

theorem readNumber_intDigits {n : Int} (low : -2 ^ 63 ≤ n) (high : n < 2 ^ 64)
    (ends : Delimited rest) : readNumber (intDigits n ++ rest) = .ok (.whole n, rest) := by
  simp only [readNumber, scanNumber_intDigits n ends, value_whole low high]

end CommandGate.Json
