import CommandGate.Proofs.AsciiLowering
import CommandGate.Proofs.SchemaCheck
import Mathlib.Data.List.TakeWhile

/-!
Decimals as text: an optional sign, digits around an optional point, at least one of them, and an
optional power of ten. The finite values that a text is read as are those of the decimals it spells;
the words for infinity and the undefined value spell none.
-/

namespace CommandGate.Number

inductive Raises : List Char → Int → Prop where
  | absent : Raises [] 0
  | marked {mark : Char} {text : List Char} {power : Int} (marks : mark = 'e' ∨ mark = 'E')
      (denotes : Denotes text power) : Raises (mark :: text) power

/-- Digits around an optional point and the power of ten, and the decimal that they spell. -/
inductive SpellsSize : List Char → Nat → Int → Prop where
  | whole {digits rest : List Char} {power : Int} (nonempty : digits ≠ [])
      (decimal : ∀ c ∈ digits, c.isDigit = true) (raises : Raises rest power) :
      SpellsSize (digits ++ rest) (natOfDigits digits) power
  | pointed {whole fraction rest : List Char} {power : Int} (nonempty : whole ++ fraction ≠ [])
      (decimal : ∀ c ∈ whole ++ fraction, c.isDigit = true) (raises : Raises rest power) :
      SpellsSize (whole ++ '.' :: (fraction ++ rest)) (natOfDigits (whole ++ fraction))
        (power - fraction.length)

inductive Spells : List Char → Decimal → Prop where
  | bare {text : List Char} {digits : Nat} {exponent : Int}
      (size : SpellsSize text digits exponent) : Spells text ⟨false, digits, exponent⟩
  | plus {text : List Char} {digits : Nat} {exponent : Int}
      (size : SpellsSize text digits exponent) : Spells ('+' :: text) ⟨false, digits, exponent⟩
  | minus {text : List Char} {digits : Nat} {exponent : Int}
      (size : SpellsSize text digits exponent) : Spells ('-' :: text) ⟨true, digits, exponent⟩

variable {text rest : List Char} {power exponent : Int} {digits : Nat}

theorem exponentPart?_eq_some_iff : exponentPart? text = some power ↔ Raises text power := by
  constructor
  · intro read
    cases text with
    | nil =>
      cases read
      exact .absent
    | cons mark text =>
      rw [exponentPart?] at read
      split at read
      next marks => exact .marked marks (wholeNumber?_eq_some_iff.mp read)
      · cases read
  · rintro (_ | ⟨marks, denotes⟩)
    · rfl
    · rw [exponentPart?, if_pos marks, wholeNumber?_eq_some_iff.mpr denotes]

theorem Raises.head (raises : Raises text power) :
    ∀ c ∈ text.head?, c.isDigit = false ∧ c ≠ '.' := by
  cases raises with
  | absent => nofun
  | marked marks denotes =>
    rintro c ⟨⟩
    rcases marks with rfl | rfl <;> decide

theorem takeWhile_digits {row : List Char} (decimal : ∀ c ∈ row, c.isDigit = true)
    (ends : ∀ c ∈ rest.head?, c.isDigit = false) :
    (row ++ rest).takeWhile Char.isDigit = row ∧ (row ++ rest).dropWhile Char.isDigit = rest := by
  rw [List.takeWhile_append_of_pos decimal, List.dropWhile_append_of_pos decimal]
  cases rest with
  | nil => simp
  | cons c rest => simp [ends c rfl]

theorem digits_takeWhile (text : List Char) :
    (∀ c ∈ text.takeWhile Char.isDigit, c.isDigit = true) ∧
      ∀ c ∈ (text.dropWhile Char.isDigit).head?, c.isDigit = false := by
  constructor
  · exact fun c inside => List.mem_takeWhile_imp inside
  · intro c here
    have stopped := List.head?_dropWhile_not Char.isDigit text
    rw [Option.mem_def.mp here] at stopped
    exact stopped

def assemble? (negative : Bool) (whole fraction power : List Char) : Option Decimal :=
  if whole ++ fraction = [] then none
  else (exponentPart? power).map fun power =>
    ⟨negative, natOfDigits (whole ++ fraction), power - fraction.length⟩

theorem unsignedDecimal?_pointed (negative : Bool) {whole after : List Char}
    (decimal : ∀ c ∈ whole, c.isDigit = true) :
    unsignedDecimal? negative (whole ++ '.' :: after) =
      assemble? negative whole (after.takeWhile Char.isDigit) (after.dropWhile Char.isDigit) := by
  have ends : ∀ c ∈ ('.' :: after).head?, c.isDigit = false := by
    rintro c ⟨⟩
    rfl
  obtain ⟨taken, left⟩ := takeWhile_digits decimal ends
  rw [unsignedDecimal?, taken, left]
  simp [assemble?]

theorem unsignedDecimal?_unpointed (negative : Bool) {whole : List Char}
    (decimal : ∀ c ∈ whole, c.isDigit = true)
    (ends : ∀ c ∈ rest.head?, c.isDigit = false ∧ c ≠ '.') :
    unsignedDecimal? negative (whole ++ rest) = assemble? negative whole [] rest := by
  obtain ⟨taken, left⟩ := takeWhile_digits decimal fun c here => (ends c here).1
  have unpointed : ∀ after, rest ≠ '.' :: after := by
    rintro after rfl
    exact (ends '.' rfl).2 rfl
  -- with `unpointed` at hand the choice between point and no point is made
  rw [unsignedDecimal?, taken, left]
  simp [assemble?]

theorem assemble?_eq_some_iff {negative : Bool} {whole fraction : List Char} {x : Decimal} :
    assemble? negative whole fraction text = some x ↔ whole ++ fraction ≠ [] ∧
      ∃ power, Raises text power ∧
        x = ⟨negative, natOfDigits (whole ++ fraction), power - fraction.length⟩ := by
  unfold assemble?
  split
  next empty => simp [empty]
  next nonempty =>
    simp only [ne_eq, nonempty, not_false_eq_true, true_and, Option.map_eq_some_iff,
      exponentPart?_eq_some_iff, eq_comm (a := x)]

theorem unsignedDecimal?_eq_some_iff {negative : Bool} {x : Decimal} :
    unsignedDecimal? negative text = some x ↔
      ∃ digits exponent, SpellsSize text digits exponent ∧ x = ⟨negative, digits, exponent⟩ := by
  constructor
  · intro read
    have cut : text = text.takeWhile Char.isDigit ++ text.dropWhile Char.isDigit :=
      List.takeWhile_append_dropWhile.symm
    obtain ⟨decimal, ends⟩ := digits_takeWhile text
    generalize text.takeWhile Char.isDigit = whole at cut decimal
    generalize text.dropWhile Char.isDigit = rest at cut ends
    subst cut
    by_cases pointed : rest.head? = some '.'
    · obtain ⟨after, rfl⟩ := List.head?_eq_some_iff.mp pointed
      rw [unsignedDecimal?_pointed negative decimal] at read
      obtain ⟨nonempty, power, raises, rfl⟩ := assemble?_eq_some_iff.mp read
      have row := (digits_takeWhile after).1
      have size := SpellsSize.pointed nonempty (List.forall_mem_append.mpr ⟨decimal, row⟩) raises
      rw [List.takeWhile_append_dropWhile] at size
      exact ⟨_, _, size, rfl⟩
    · have other : ∀ c ∈ rest.head?, c.isDigit = false ∧ c ≠ '.' := fun c here =>
        ⟨ends c here, fun same => pointed (same ▸ here)⟩
      rw [unsignedDecimal?_unpointed negative decimal other] at read
      obtain ⟨nonempty, power, raises, rfl⟩ := assemble?_eq_some_iff.mp read
      simp only [List.append_nil] at nonempty ⊢
      exact ⟨_, _, .whole nonempty decimal raises, by simp⟩
  · rintro ⟨_, _, size, rfl⟩
    cases size with
    | whole nonempty decimal raises =>
      rw [unsignedDecimal?_unpointed negative decimal raises.head]
      exact assemble?_eq_some_iff.mpr ⟨by simpa using nonempty, _, raises, by simp⟩
    | @pointed whole fraction rest power nonempty decimal raises =>
      obtain ⟨inWhole, inFraction⟩ := List.forall_mem_append.mp decimal
      obtain ⟨taken, left⟩ := takeWhile_digits inFraction fun c here => (raises.head c here).1
      rw [unsignedDecimal?_pointed negative inWhole, taken, left]
      exact assemble?_eq_some_iff.mpr ⟨nonempty, _, raises, rfl⟩

/-! ### Signs and words -/

theorem SpellsSize.head (size : SpellsSize text digits exponent) :
    ∃ c later, text = c :: later ∧ (c.isDigit = true ∨ c = '.') := by
  cases size with
  | @whole row rest _ nonempty decimal raises =>
    obtain ⟨c, row, rfl⟩ := List.exists_cons_of_ne_nil nonempty
    exact ⟨c, row ++ rest, rfl, .inl (decimal c List.mem_cons_self)⟩
  | @pointed whole fraction rest _ nonempty decimal raises =>
    cases whole with
    | nil => exact ⟨'.', fraction ++ rest, rfl, .inr rfl⟩
    | cons c whole => exact ⟨c, _, rfl, .inl (decimal c List.mem_cons_self)⟩

theorem SpellsSize.splitSign (size : SpellsSize text digits exponent) :
    splitSign text = (false, text) := by
  obtain ⟨c, later, rfl, digit | rfl⟩ := size.head
  · exact splitSign_of_digit later digit
  · rfl

theorem spells_iff {x : Decimal} :
    Spells text x ↔ ∃ digits exponent, SpellsSize (splitSign text).2 digits exponent ∧
      x = ⟨(splitSign text).1, digits, exponent⟩ := by
  constructor
  · intro spells
    cases spells with
    | bare size => exact ⟨_, _, by rw [size.splitSign]; exact size, by rw [size.splitSign]⟩
    | plus size => exact ⟨_, _, size, rfl⟩
    | minus size => exact ⟨_, _, size, rfl⟩
  · rintro ⟨digits, exponent, size, rfl⟩
    revert size
    unfold Number.splitSign
    split
    · exact .minus
    · exact .plus
    · exact .bare

theorem SpellsSize.map_toLower_ne (size : SpellsSize text digits exponent) {c : Char}
    {word : List Char} (letter : c = 'i' ∨ c = 'n') : text.map Char.toLower ≠ c :: word := by
  obtain ⟨first, later, rfl, start⟩ := size.head
  have low : first.toNat ≤ 57 := by
    rcases start with digit | rfl
    · exact (Char.isDigit_iff_toNat.mp digit).2
    · decide
  intro same
  have codes : first.toLower.toNat = c.toNat := congrArg Char.toNat (List.cons.inj same).1
  rw [Text.toNat_toLower, if_neg (by omega)] at codes
  rcases letter with rfl | rfl
  · exact absurd (codes ▸ low) (by decide)
  · exact absurd (codes ▸ low) (by decide)

/-- The finite values of texts are those of the decimals that they spell. -/
theorem extended?_eq_finite_iff {format : Format} {x : Binary} :
    extended? format text = some (.finite x) ↔
      ∃ decimal, Spells text decimal ∧ decimal.toExtended format = .finite x := by
  simp only [spells_iff, extended?]
  generalize splitSign text = signed
  obtain ⟨negative, rest⟩ := signed
  constructor
  · intro read
    simp only at read
    split at read
    · simp at read
    next finite =>
      split at read
      · simp at read
      next defined =>
        obtain ⟨decimal, taken, value⟩ := Option.map_eq_some_iff.mp read
        obtain ⟨digits, exponent, size, rfl⟩ := unsignedDecimal?_eq_some_iff.mp taken
        exact ⟨_, ⟨digits, exponent, size, rfl⟩, value⟩
  · rintro ⟨_, ⟨digits, exponent, size, rfl⟩, value⟩
    have infinite : rest.map Char.toLower ≠ ['i', 'n', 'f'] := size.map_toLower_ne (.inl rfl)
    have spelledOut : rest.map Char.toLower ≠ "infinity".toList := size.map_toLower_ne (.inl rfl)
    have undefined : rest.map Char.toLower ≠ ['n', 'a', 'n'] := size.map_toLower_ne (.inr rfl)
    have read : unsignedDecimal? negative rest = some ⟨negative, digits, exponent⟩ :=
      unsignedDecimal?_eq_some_iff.mpr ⟨digits, exponent, size, rfl⟩
    simp only [infinite, spelledOut, undefined, read, or_self, if_false, Option.map_some, value]

end CommandGate.Number
