import CommandGate.Proofs.ValueReading

/-!
The indented text of a value. It is read back as the value, like the compact text, so no other value
is written in the same way. Every line break in it is followed by the blanks of the next line or by the
mark that closes a container: the texts of the value itself break no line.
-/

namespace CommandGate.Json

/-! ### Lines -/

theorem skipSpaces_lineStart (column : Nat) (text : List Char) :
    skipSpaces (lineStart column ++ text) = skipSpaces text := by
  have blank : ∀ c ∈ lineStart column, isSpace c = true := by
    rw [lineStart, List.forall_mem_cons]
    exact ⟨rfl, fun c inside => (List.eq_of_mem_replicate inside) ▸ rfl⟩
  exact List.dropWhile_append_of_pos blank

def writeIndentedItem (column : Nat) (item : Json) : List Char :=
  lineStart column ++ item.writeIndented column

def writeIndentedMember (column : Nat) (member : String × Json) : List Char :=
  lineStart column ++ (writeString member.1 ++ ':' :: ' ' :: member.2.writeIndented column)

theorem writeIndentedItems_eq_intercalate (column : Nat) (items : List Json) :
    writeIndentedItems column items =
      List.intercalate [','] (items.map (writeIndentedItem column)) := by
  induction items with
  | nil => rfl
  | cons first items ih =>
    cases items with
    | nil => rw [List.map_singleton, List.intercalate_singleton]; rfl
    | cons second items =>
      rw [List.map_cons, List.map_cons, List.intercalate_cons_cons, ← List.map_cons, ← ih]
      exact List.append_cons _ _ _

theorem writeIndentedMembers_eq_intercalate (column : Nat) (members : List (String × Json)) :
    writeIndentedMembers column members =
      List.intercalate [','] (members.map (writeIndentedMember column)) := by
  induction members with
  | nil => rfl
  | cons first members ih =>
    obtain ⟨name, value⟩ := first
    cases members with
    | nil =>
      rw [List.map_singleton, List.intercalate_singleton, writeIndentedMembers, writeIndentedMember,
        List.append_assoc]
    | cons second members =>
      rw [List.map_cons, List.map_cons, List.intercalate_cons_cons, ← List.map_cons, ← ih]
      simp [writeIndentedMembers, writeIndentedMember]

theorem writeIndented_array {items : List Json} (nonempty : items ≠ []) (column : Nat) :
    writeIndented column (.array items) =
      '[' :: (List.intercalate [','] (items.map (writeIndentedItem (column + 1))) ++
        lineStart column ++ [']']) := by
  rw [← writeIndentedItems_eq_intercalate]
  cases items with
  | nil => exact absurd rfl nonempty
  | cons first items => rfl

theorem writeIndented_object {members : List (String × Json)} (nonempty : members ≠ [])
    (column : Nat) :
    writeIndented column (.object members) =
      '\x7b' :: (List.intercalate [','] (members.map (writeIndentedMember (column + 1))) ++
        lineStart column ++ ['\x7d']) := by
  rw [← writeIndentedMembers_eq_intercalate]
  cases members with
  | nil => exact absurd rfl nonempty
  | cons first members => rfl

/-! ### Reading back -/

theorem exists_head_writeIndented {value : Json} (whole : value.Whole) (column : Nat) :
    ∃ c later, value.writeIndented column = c :: later ∧ c ∈ openers := by
  cases value with
  | array items => cases items <;> exact ⟨_, _, rfl, by decide⟩
  | object members => cases members <;> exact ⟨_, _, rfl, by decide⟩
  | null => exact exists_head_write whole
  | bool value => exact exists_head_write whole
  | number numeral => exact exists_head_write whole
  | string value => exact exists_head_write whole

theorem delimited_lineStart (column : Nat) (rest : List Char) :
    Delimited (lineStart column ++ rest) :=
  .cons (by decide) _

/-- The reader takes exactly the indented text of the value, whatever column it stands in. -/
theorem readValue_writeIndented {value : Json} (whole : value.Whole) {depth : Nat}
    (shallow : value.depth ≤ depth) (column : Nat) {rest : List Char} (ends : Delimited rest) :
    readValue depth (value.writeIndented column ++ rest) = .ok (value, rest) := by
  induction value using inductionOnParts generalizing depth column rest with
  | null => exact readValue_write whole shallow ends
  | bool value => exact readValue_write whole shallow ends
  | number numeral => exact readValue_write whole shallow ends
  | string value => exact readValue_write whole shallow ends
  | array items ih =>
    by_cases empty : items = []
    · subst empty
      exact readValue_write whole shallow ends
    obtain ⟨depth, rfl⟩ : ∃ less, depth = less + 1 := Nat.exists_eq_add_one.mpr (by
      rw [Json.depth] at shallow
      omega)
    have parts : ∀ item ∈ items, item.Whole := wholeItems_iff.mp whole
    have within : ∀ item ∈ items, item.depth ≤ depth :=
      depthOfItems_le_iff.mp (Nat.le_of_succ_le_succ shallow)
    have reads : Reads (readValue depth) (writeIndentedItem (column + 1)) items := by
      intro item inside rest ends
      rw [writeIndentedItem, List.append_assoc, ← skips_readValue, skipSpaces_lineStart,
        skips_readValue]
      exact ih item inside (parts item inside) (within item inside) _ ends
    have led : ∀ item ∈ items, ∃ c later,
        skipSpaces (writeIndentedItem (column + 1) item) = c :: later ∧ c ∈ openers := by
      intro item inside
      obtain ⟨c, later, starts, opens⟩ := exists_head_writeIndented (parts item inside) (column + 1)
      rw [writeIndentedItem, skipSpaces_lineStart, starts]
      exact ⟨c, later, skipSpaces_cons (openers_distinct c opens).1 later, opens⟩
    have closed : skipSpaces (lineStart column ++ ']' :: rest) = ']' :: rest := by
      rw [skipSpaces_lineStart, skipSpaces_cons (by decide)]
    rw [writeIndented_array empty, List.cons_append, List.append_assoc, List.append_assoc,
      List.singleton_append]
    exact readValue_items closed (delimited_lineStart column _) led reads
  | object members ih =>
    by_cases empty : members = []
    · subst empty
      exact readValue_write whole shallow ends
    obtain ⟨depth, rfl⟩ : ∃ less, depth = less + 1 := Nat.exists_eq_add_one.mpr (by
      rw [Json.depth] at shallow
      omega)
    have parts : ∀ member ∈ members, member.2.Whole := wholeMembers_iff.mp whole
    have within : ∀ member ∈ members, member.2.depth ≤ depth :=
      depthOfMembers_le_iff.mp (Nat.le_of_succ_le_succ shallow)
    have reads : Reads (readMember readString (readValue depth)) (writeIndentedMember (column + 1))
        members := by
      intro member inside rest ends
      have taken := ih member inside (parts member inside) (within member inside) (column + 1) ends
      have spaced : readValue depth (' ' :: member.2.writeIndented (column + 1) ++ rest) =
          .ok (member.2, rest) := by
        rw [← taken, ← skips_readValue, ← skips_readValue depth (_ ++ rest)]
        rfl
      rw [writeIndentedMember, List.append_assoc, List.append_assoc, ← skips_readMember,
        skipSpaces_lineStart, skips_readMember]
      exact readMember_written member.1 spaced
    have led : ∀ member ∈ members, ∃ c later,
        skipSpaces (writeIndentedMember (column + 1) member) = c :: later ∧ c ∈ openers := by
      intro member _
      rw [writeIndentedMember, skipSpaces_lineStart]
      exact ⟨'"', _, skipSpaces_cons (by decide) _, by decide⟩
    have closed : skipSpaces (lineStart column ++ '\x7d' :: rest) = '\x7d' :: rest := by
      rw [skipSpaces_lineStart, skipSpaces_cons (by decide)]
    rw [writeIndented_object empty, List.cons_append, List.append_assoc, List.append_assoc,
      List.singleton_append]
    exact readValue_members closed (delimited_lineStart column _) led reads

theorem indented_injective {first second : Json} (whole : first.Whole) (whole' : second.Whole)
    (same : first.indented = second.indented) : first = second := by
  have text : first.writeIndented 0 = second.writeIndented 0 := String.ofList_injective same
  have read := readValue_writeIndented whole (Nat.le_max_left first.depth second.depth) 0 .nil
  have read' := readValue_writeIndented whole' (Nat.le_max_right first.depth second.depth) 0 .nil
  rw [text, read'] at read
  exact (Prod.mk.inj (Except.ok.inj read)).1.symm

/-! ### Line breaks -/

/-- Every line break in the text is followed, still in the text, by one of these characters. -/
def BreaksInside (text : List Char) : Prop :=
  ∀ before after, text = before ++ '\n' :: after →
    ∃ c later, after = c :: later ∧ c ∈ [' ', ']', '\x7d']

variable {text : List Char}

theorem breaksInside_of_not_mem (unbroken : '\n' ∉ text) : BreaksInside text := by
  rintro before after rfl
  exact absurd (List.mem_append_right before List.mem_cons_self) unbroken

theorem BreaksInside.append {more : List Char} (here : BreaksInside text)
    (there : BreaksInside more) : BreaksInside (text ++ more) := by
  intro before after cut
  rcases List.append_eq_append_iff.mp cut with ⟨front, -, within⟩ | ⟨front, rfl, across⟩
  · exact there front after within
  · cases front with
    | nil => exact there [] after across.symm
    | cons c front =>
      obtain ⟨rfl, rfl⟩ := List.cons.inj across
      obtain ⟨c, later, rfl, listed⟩ := here before front rfl
      exact ⟨c, later ++ more, rfl, listed⟩

theorem BreaksInside.not_infix_append {rest heading : List Char} {c : Char}
    (breaks : BreaksInside text) (other : c ∉ [' ', ']', '\x7d'])
    (absent : ¬ '\n' :: c :: heading <:+: rest) : ¬ '\n' :: c :: heading <:+: text ++ rest := by
  rintro ⟨front, back, cut⟩
  rw [List.append_assoc, List.cons_append, List.cons_append] at cut
  rcases List.append_eq_append_iff.mp cut with ⟨middle, rfl, across⟩ | ⟨middle, -, rfl⟩
  · cases middle with
    | nil => exact absent ⟨[], back, across⟩
    | cons d middle =>
      obtain ⟨rfl, below⟩ := List.cons.inj across
      obtain ⟨e, later, rfl, listed⟩ := breaks front middle rfl
      obtain ⟨rfl, -⟩ := List.cons.inj below
      exact other listed
  · exact absent ⟨middle, back, by simp⟩

theorem BreaksInside.intercalate {parts : List (List Char)}
    (each : ∀ part ∈ parts, BreaksInside part) : BreaksInside (List.intercalate [','] parts) := by
  induction parts with
  | nil => exact breaksInside_of_not_mem List.not_mem_nil
  | cons first parts ih =>
    obtain ⟨here, there⟩ := List.forall_mem_cons.mp each
    cases parts with
    | nil => rwa [List.intercalate_singleton]
    | cons second parts =>
      rw [List.intercalate_cons_cons]
      exact (here.append (breaksInside_of_not_mem (by decide))).append (ih there)

theorem breaksInside_lineStart (column : Nat) {c : Char} (listed : c ∈ [' ', ']', '\x7d']) :
    BreaksInside (lineStart column ++ [c]) := by
  have other : ∀ c ∈ [' ', ']', '\x7d'], c ≠ '\n' := List.all_iff_forall_prop.mp (by decide)
  have unbroken : '\n' ∉ List.replicate (2 * column) ' ' ++ [c] := by
    simp [List.mem_replicate, (other c listed).symm]
  intro before after cut
  cases before with
  | nil =>
    obtain ⟨-, rfl⟩ := List.cons.inj cut
    cases column with
    | zero => exact ⟨c, [], rfl, listed⟩
    | succ column => exact ⟨' ', _, rfl, by decide⟩
  | cons first before =>
    have later : List.replicate (2 * column) ' ' ++ [c] = before ++ '\n' :: after :=
      (List.cons.inj cut).2
    rw [later] at unbroken
    exact absurd (List.mem_append_right before List.mem_cons_self) unbroken

theorem BreaksInside.lineStart_append {column : Nat} (here : BreaksInside text) :
    BreaksInside (lineStart (column + 1) ++ text) := by
  have split : lineStart (column + 1) = lineStart column ++ [' '] ++ [' '] := by
    simp [lineStart, Nat.mul_add, List.replicate_add]
  have blank := breaksInside_of_not_mem (by decide : '\n' ∉ [' '])
  rw [split]
  exact ((breaksInside_lineStart column (by decide)).append blank).append here

theorem not_mem_escapeChar (c : Char) : '\n' ∉ escapeChar c := by
  have bare : ∀ {c : Char}, Bare c → c ≠ '\n' := by
    rintro c ⟨-, -, visible⟩ rfl
    exact visible (by decide)
  rcases escapeChar_cases c with ⟨plain, written⟩ | escaped
  · rw [written, List.mem_singleton]
    exact (bare plain).symm
  · generalize escapeChar c = written at escaped
    cases escaped with
    | @letter e notUnit short =>
      have other : e ≠ '\n' := by
        rintro rfl
        cases short
      simp [other.symm]
    | @code a b digits control unit => simp [(bare digits.1).symm, (bare digits.2).symm]

theorem breaksInside_writeString (value : String) : BreaksInside (writeString value) := by
  refine breaksInside_of_not_mem ?_
  have inside : '\n' ∉ value.toList.flatMap escapeChar := by
    rw [List.mem_flatMap]
    rintro ⟨c, -, broken⟩
    exact not_mem_escapeChar c broken
  simp [writeString, inside]

theorem not_mem_intDigits (n : Int) : '\n' ∉ Number.intDigits n := by
  have digits : '\n' ∉ Number.natDigits n.natAbs := fun inside =>
    absurd (isDigit_of_mem_natDigits inside) (by decide)
  rw [Number.intDigits]
  split <;> simp [digits]

theorem breaksInside_writeIndented {value : Json} (whole : value.Whole) (column : Nat) :
    BreaksInside (value.writeIndented column) := by
  induction value using inductionOnParts generalizing column with
  | null => exact breaksInside_of_not_mem (by decide : '\n' ∉ write .null)
  | bool value =>
    have words : ∀ value, '\n' ∉ write (.bool value) := by decide
    exact breaksInside_of_not_mem (words value)
  | number numeral =>
    obtain ⟨n, rfl, -⟩ := whole
    exact breaksInside_of_not_mem (not_mem_intDigits n)
  | string value => exact breaksInside_writeString value
  | array items ih =>
    by_cases empty : items = []
    · subst empty
      exact breaksInside_of_not_mem (by decide : '\n' ∉ ['[', ']'])
    have each : ∀ part ∈ items.map (writeIndentedItem (column + 1)), BreaksInside part := by
      rw [List.forall_mem_map]
      intro item inside
      exact BreaksInside.lineStart_append (ih item inside (wholeItems_iff.mp whole item inside) _)
    have opened := breaksInside_of_not_mem (by decide : '\n' ∉ ['['])
    have closed := breaksInside_lineStart column (by decide : ']' ∈ [' ', ']', '\x7d'])
    rw [writeIndented_array empty, List.append_assoc]
    exact opened.append ((BreaksInside.intercalate each).append closed)
  | object members ih =>
    by_cases empty : members = []
    · subst empty
      exact breaksInside_of_not_mem (by decide : '\n' ∉ ['\x7b', '\x7d'])
    have each : ∀ part ∈ members.map (writeIndentedMember (column + 1)), BreaksInside part := by
      rw [List.forall_mem_map]
      intro member inside
      have value := ih member inside (wholeMembers_iff.mp whole member inside) (column + 1)
      have colon := breaksInside_of_not_mem (by decide : '\n' ∉ [':', ' '])
      exact BreaksInside.lineStart_append
        ((breaksInside_writeString member.1).append (colon.append value))
    have opened := breaksInside_of_not_mem (by decide : '\n' ∉ ['\x7b'])
    have closed := breaksInside_lineStart column (by decide : '\x7d' ∈ [' ', ']', '\x7d'])
    rw [writeIndented_object empty, List.append_assoc]
    exact opened.append ((BreaksInside.intercalate each).append closed)

end CommandGate.Json
