import CommandGate.Json.Reader
import CommandGate.Json.Writer

/-!
Strings read back. A character is written as itself, as a backslash and a letter, or by its number;
in each form the reader finds the end of the string where it is and gets the character back.
-/

namespace CommandGate.Json

def Bare (c : Char) : Prop := c ≠ '"' ∧ c ≠ '\\' ∧ ¬c.val < 0x20

instance : DecidablePred Bare := fun _ => inferInstanceAs (Decidable (_ ∧ _ ∧ _))

inductive IsEscaped (c : Char) : List Char → Prop where
  | letter {e : Char} (notUnit : e ≠ 'u') (short : shortEscape? e = some c) : IsEscaped c ['\\', e]
  | code {a b : Char} (bare : Bare a ∧ Bare b) (control : c.toNat < 0x20)
    (unit : hexUnit? '0' '0' a b = some c.toNat) : IsEscaped c ['\\', 'u', '0', '0', a, b]

theorem hexUnit?_digitChar : ∀ n < 0x10, Bare n.digitChar ∧
    hexUnit? '0' '0' '0' n.digitChar = some n ∧
    hexUnit? '0' '0' '1' n.digitChar = some (n + 0x10) := by
  decide

theorem toDigits_sixteen : ∀ n < 0x10, Nat.toDigits 16 (n + 0x10) = ['1', n.digitChar] := by
  decide

theorem escapeChar_control {c : Char} (control : c.val < 0x20) : IsEscaped c (escapeChar c) := by
  have bound : c.toNat < 0x20 := control
  unfold escapeChar
  split
  -- the characters with a letter of their own
  iterate 7 exact .letter (by decide) rfl
  by_cases low : c.val < 0x10
  · have small : c.toNat < 0x10 := low
    obtain ⟨bare, unit, -⟩ := hexUnit?_digitChar c.toNat small
    rw [if_pos low, Nat.toDigits_of_lt_base small]
    exact .code ⟨by decide, bare⟩ bound unit
  · have high : ¬c.toNat < 0x10 := low
    obtain ⟨n, same⟩ := Nat.exists_eq_add_of_le' (Nat.le_of_not_lt high)
    have small : n < 0x10 := by omega
    obtain ⟨bare, -, unit⟩ := hexUnit?_digitChar n small
    rw [if_neg low, if_pos control, same, toDigits_sixteen n small]
    exact .code ⟨by decide, bare⟩ bound (same ▸ unit)

theorem escapeChar_bare {c : Char} (bare : Bare c) : escapeChar c = [c] := by
  obtain ⟨quote, backslash, visible⟩ := bare
  have above : ¬c.val < 0x10 := fun less => visible (UInt32.lt_trans less (by decide))
  unfold escapeChar
  split
  · exact absurd rfl quote
  · exact absurd rfl backslash
  -- the characters with a letter of their own are control characters
  iterate 5 exact absurd (by decide) visible
  rw [if_neg above, if_neg visible]

theorem escapeChar_cases (c : Char) :
    (Bare c ∧ escapeChar c = [c]) ∨ IsEscaped c (escapeChar c) := by
  by_cases control : c.val < 0x20
  · exact .inr (escapeChar_control control)
  by_cases quote : c = '"'
  · subst quote
    exact .inr (.letter (by decide) rfl)
  by_cases backslash : c = '\\'
  · subst backslash
    exact .inr (.letter (by decide) rfl)
  have bare : Bare c := ⟨quote, backslash, control⟩
  exact .inl ⟨bare, escapeChar_bare bare⟩

/-! ### The end of the string -/

theorem stringBody?_bare {c : Char} (bare : Bare c) (text : List Char) :
    stringBody? (c :: text) = (stringBody? text).map fun (body, rest) => (c :: body, rest) := by
  obtain ⟨quote, backslash, visible⟩ := bare
  rw [stringBody?]
  · exact if_neg visible
  · exact fun same => quote same
  · exact fun _ _ same => absurd same backslash

theorem stringBody?_escaped {c : Char} {written : List Char} (escaped : IsEscaped c written)
    (text : List Char) :
    stringBody? (written ++ text) =
      (stringBody? text).map fun (body, rest) => (written ++ body, rest) := by
  cases escaped with
  | letter => exact stringBody?.eq_3 _ _
  | code bare =>
    simp only [List.cons_append, List.nil_append]
    rw [stringBody?, stringBody?_bare (by decide), stringBody?_bare (by decide),
      stringBody?_bare bare.1, stringBody?_bare bare.2]
    cases stringBody? text <;> rfl

theorem stringBody?_escapeChar (c : Char) (text : List Char) :
    stringBody? (escapeChar c ++ text) =
      (stringBody? text).map fun (body, rest) => (escapeChar c ++ body, rest) := by
  rcases escapeChar_cases c with ⟨bare, written⟩ | escaped
  · rw [written]
    exact stringBody?_bare bare text
  · exact stringBody?_escaped escaped text

theorem stringBody?_written (text rest : List Char) :
    stringBody? (text.flatMap escapeChar ++ '"' :: rest) =
      some (text.flatMap escapeChar, rest) := by
  induction text with
  | nil => exact stringBody?.eq_2 rest
  | cons c text ih =>
    rw [List.flatMap_cons, List.append_assoc, stringBody?_escapeChar, ih, Option.map_some]

/-! ### The characters of the string -/

theorem unescape?_escaped {c : Char} {written : List Char} (escaped : IsEscaped c written)
    (body : List Char) : unescape? (written ++ body) = (unescape? body).map (c :: ·) := by
  cases escaped with
  | letter notUnit short =>
    rw [List.cons_append, List.singleton_append, unescape?, short, Option.bind_some]
    exact fun _ _ _ _ _ same => absurd same notUnit
  | code bare control unit =>
    have low : isLowSurrogate c.toNat = false := by
      simp [isLowSurrogate]
      omega
    have high : isHighSurrogate c.toNat = false := by
      simp [isHighSurrogate]
      omega
    simp only [List.cons_append, List.nil_append]
    rw [unescape?, unit, Option.bind_some, low, high, Char.ofNat_toNat]
    rfl

theorem unescape?_escapeChar (c : Char) (body : List Char) :
    unescape? (escapeChar c ++ body) = (unescape? body).map (c :: ·) := by
  rcases escapeChar_cases c with ⟨⟨-, backslash, -⟩, written⟩ | escaped
  · rw [written, List.singleton_append, unescape?]
    · exact fun _ _ _ _ _ same => absurd same backslash
    · exact fun _ _ same => absurd same backslash
    · exact fun same => absurd same backslash
  · exact unescape?_escaped escaped body

theorem unescape?_written (text : List Char) :
    unescape? (text.flatMap escapeChar) = some text := by
  induction text with
  | nil => rfl
  | cons c text ih => rw [List.flatMap_cons, unescape?_escapeChar, ih, Option.map_some]

theorem readString_written (text : String) (rest : List Char) :
    readString (text.toList.flatMap escapeChar ++ '"' :: rest) = .ok (text, rest) := by
  simp only [readString, stringBody?_written, unescape?_written, String.ofList_toList]

end CommandGate.Json
