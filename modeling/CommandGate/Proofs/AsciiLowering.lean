import CommandGate.Proofs.LoweringInPlace
import Mathlib.Tactic.SplitIfs

/-!
Lowering seen through ASCII. Full lowering looks at the characters around a sigma and may change the
length of a text, but an ASCII part of a text comes out letter by letter wherever it stands. Plain
characters are those that stand for themselves between the quotes of a JSON string.
-/

namespace CommandGate.Text

def IsAscii (text : List Char) : Prop := ∀ c ∈ text, c.toNat < 0x80

theorem IsAscii.sigma_not_mem {text : List Char} (ascii : IsAscii text) : 'Σ' ∉ text :=
  fun inside => absurd (ascii 'Σ' inside) (by decide)

theorem lowerChar_ascii {c : Char} (ascii : c.toNat < 0x80) : lowerChar c = [c.toLower] :=
  if_pos ascii

theorem lowerAfter_ascii {text : List Char} (ascii : IsAscii text) (before : List Char) :
    lowerAfter before text = text.map Char.toLower := by
  induction text generalizing before with
  | nil => rfl
  | cons c text ih =>
    obtain ⟨here, there⟩ := List.forall_mem_cons.mp ascii
    have notSigma : c ≠ 'Σ' := fun same => ascii.sigma_not_mem (same ▸ List.mem_cons_self)
    rw [lowerAfter, if_neg notSigma, lowerChar_ascii here, ih there, List.map_cons,
      List.singleton_append]

theorem lower_ascii {text : List Char} (ascii : IsAscii text) :
    lower text = text.map Char.toLower :=
  lowerAfter_ascii ascii []

theorem map_toLower_infix_lower {part text : List Char} (ascii : IsAscii part)
    (inside : part <:+: text) : part.map Char.toLower <:+: lower text := by
  obtain ⟨before, after, rfl⟩ := inside
  rw [← lower_ascii ascii]
  exact lower_infix_lower (keepsSigmas_of_not_mem ascii.sigma_not_mem)

/-- Printable ASCII other than the double quote and the backslash. -/
def IsPlain (c : Char) : Prop := 0x20 ≤ c.toNat ∧ c.toNat < 0x7F ∧ c ≠ '"' ∧ c ≠ '\\'

/-- The part occurs in the text when upper and lower case of ASCII letters are not told apart. -/
def OccursCaseless (part text : List Char) : Prop :=
  part.map Char.toLower <:+: text.map Char.toLower

theorem isPlain_iff {c : Char} :
    IsPlain c ↔ 32 ≤ c.toNat ∧ c.toNat < 127 ∧ c.toNat ≠ 34 ∧ c.toNat ≠ 92 := by
  have quote : c ≠ '"' ↔ c.toNat ≠ 34 := (not_congr Char.toNat_inj).symm
  have backslash : c ≠ '\\' ↔ c.toNat ≠ 92 := (not_congr Char.toNat_inj).symm
  rw [IsPlain, quote, backslash]

theorem toNat_toLower (c : Char) :
    c.toLower.toNat = if 65 ≤ c.toNat ∧ c.toNat ≤ 90 then c.toNat + 32 else c.toNat := by
  unfold Char.toLower
  split_ifs with upper small small
  · have bound : c.val.toNat ≤ 90 := small.2
    have sum : (c.val + 32).toNat = (c.val.toNat + 32) % 2 ^ 32 := UInt32.toNat_add c.val 32
    exact sum.trans (Nat.mod_eq_of_lt (by omega))
  · exact absurd upper small
  · exact absurd small upper
  · rfl

theorem IsPlain.of_toLower_eq {c d : Char} (plain : IsPlain d) (same : c.toLower = d.toLower) :
    IsPlain c := by
  have codes := congrArg Char.toNat same
  rw [toNat_toLower, toNat_toLower] at codes
  rw [isPlain_iff] at plain ⊢
  split_ifs at codes <;> omega

end CommandGate.Text
