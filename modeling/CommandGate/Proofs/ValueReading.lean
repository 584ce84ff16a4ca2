import Mathlib.Data.List.DropRight
import CommandGate.Proofs.NumberReading
import CommandGate.Proofs.StringReading
import CommandGate.Proofs.ValueParts
import CommandGate.Text.Blank

/-!
Values read back from their compact text. The reader takes exactly the text of a value that stands
before a mark or at the end, as long as containers nest no deeper than it allows and all numbers are
whole numbers of 64 bits; if its objects list their members by name, the value comes back as it was.
-/

namespace CommandGate.Json

/-! ### Where a text starts and ends -/

def digits : List Char := ['0', '1', '2', '3', '4', '5', '6', '7', '8', '9']

def openers : List Char := ['"', '[', '{', 'n', 't', 'f', '-'] ++ digits

def closers : List Char := ['"', ']', '}', 'l', 'e'] ++ digits

theorem openers_distinct : ∀ c ∈ openers,
    isSpace c = false ∧ Text.isBlank c = false ∧ c ∉ [',', ']', '}', '`', 'j', 'J'] :=
  List.all_iff_forall_prop.mp (by decide)

theorem closers_distinct : ∀ c ∈ closers, Text.isBlank c = false ∧ c ≠ '`' :=
  List.all_iff_forall_prop.mp (by decide)

theorem mem_digits_of_mem_natDigits {n : Nat} {c : Char} (inside : c ∈ Number.natDigits n) :
    c ∈ digits := by
  have digit : c.isDigit = true := isDigit_of_mem_natDigits inside
  have bounds : 48 ≤ c.val ∧ c.val ≤ 57 := by simpa [Char.isDigit] using digit
  have lower : 48 ≤ c.toNat := bounds.1
  have upper : c.toNat ≤ 57 := bounds.2
  have all : ∀ n < 58, 48 ≤ n → Char.ofNat n ∈ digits := by decide
  have here := all c.toNat (by omega) lower
  rwa [Char.ofNat_toNat] at here

theorem exists_head_intDigits (n : Int) :
    ∃ c later, Number.intDigits n = c :: later ∧ c ∈ '-' :: digits := by
  rw [Number.intDigits]
  split
  · exact ⟨_, _, rfl, List.mem_cons_self⟩
  · cases written : Number.natDigits n.natAbs with
    | nil => exact absurd written Nat.toDigits_ne_nil
    | cons c later =>
      have digit : c ∈ digits := mem_digits_of_mem_natDigits (written ▸ List.mem_cons_self)
      exact ⟨c, later, rfl, List.mem_cons_of_mem _ digit⟩

theorem exists_head_write {value : Json} (whole : value.Whole) :
    ∃ c later, value.write = c :: later ∧ c ∈ openers := by
  cases value with
  | null => exact ⟨_, _, rfl, by decide⟩
  | bool value => cases value <;> exact ⟨_, _, rfl, by decide⟩
  | number numeral =>
    obtain ⟨n, rfl, -⟩ := whole
    obtain ⟨c, later, led, first⟩ := exists_head_intDigits n
    have signed : '-' :: digits ⊆ openers := by decide
    exact ⟨c, later, led, signed first⟩
  | string value => exact ⟨_, _, rfl, by decide⟩
  | array items => exact ⟨_, _, rfl, by decide⟩
  | object members => exact ⟨_, _, rfl, by decide⟩

theorem exists_last_write {value : Json} (whole : value.Whole) :
    ∃ front c, value.write = front ++ [c] ∧ c ∈ closers := by
  cases value with
  | null => exact ⟨['n', 'u', 'l'], _, rfl, by decide⟩
  | bool value =>
    cases value with
    | false => exact ⟨['f', 'a', 'l', 's'], _, rfl, by decide⟩
    | true => exact ⟨['t', 'r', 'u'], _, rfl, by decide⟩
  | number numeral =>
    obtain ⟨n, rfl, -⟩ := whole
    have nonempty : Number.natDigits n.natAbs ≠ [] := Nat.toDigits_ne_nil
    have cut := List.dropLast_append_getLast nonempty
    have last : (Number.natDigits n.natAbs).getLast nonempty ∈ closers :=
      List.mem_append_right _ (mem_digits_of_mem_natDigits (List.getLast_mem nonempty))
    rw [write, Numeral.write, Number.intDigits]
    split
    · exact ⟨'-' :: _, _, congrArg _ cut.symm, last⟩
    · exact ⟨_, _, cut.symm, last⟩
  | string value => exact ⟨'"' :: value.toList.flatMap escapeChar, _, rfl, by decide⟩
  | array items => exact ⟨'[' :: writeItems items, _, rfl, by decide⟩
  | object members => exact ⟨'{' :: writeMembers members, _, rfl, by decide⟩

/-! ### Containers -/

theorem writeItems_eq_intercalate (items : List Json) :
    writeItems items = List.intercalate [','] (items.map write) := by
  induction items with
  | nil => rfl
  | cons first items ih =>
    cases items with
    | nil => rw [List.map_singleton, List.intercalate_singleton, writeItems]
    | cons second items =>
      rw [List.map_cons, List.map_cons, List.intercalate_cons_cons, ← List.map_cons, ← ih]
      exact List.append_cons _ _ _

def writeMember (member : String × Json) : List Char :=
  writeString member.1 ++ ':' :: member.2.write

theorem writeMembers_eq_intercalate (members : List (String × Json)) :
    writeMembers members = List.intercalate [','] (members.map writeMember) := by
  induction members with
  | nil => rfl
  | cons first members ih =>
    cases members with
    | nil => rw [List.map_singleton, List.intercalate_singleton, writeMembers, writeMember]
    | cons second members =>
      rw [List.map_cons, List.map_cons, List.intercalate_cons_cons, ← List.map_cons, ← ih]
      exact List.append_cons _ _ _

theorem skipSpaces_cons {c : Char} (visible : isSpace c = false) (rest : List Char) :
    skipSpaces (c :: rest) = c :: rest := by
  simp [skipSpaces, visible]

theorem skipSpaces_append_of_eq_cons {text later : List Char} {c : Char}
    (shown : skipSpaces text = c :: later) (rest : List Char) :
    skipSpaces (text ++ rest) = c :: (later ++ rest) := by
  have visible : (text.dropWhile isSpace).isEmpty = false := by
    rw [show text.dropWhile isSpace = c :: later from shown]
    rfl
  rw [skipSpaces, List.dropWhile_append, visible]
  exact congrArg (· ++ rest) shown

theorem skipSpaces_skipSpaces (text : List Char) : skipSpaces (skipSpaces text) = skipSpaces text :=
  List.dropWhile_idempotent isSpace text

section Separated

variable {α : Type} {close : Char} {item : Reader α} {written : α → List Char} {values : List α}
  {tail rest : List Char}

def Reads (item : Reader α) (written : α → List Char) (values : List α) : Prop :=
  ∀ value ∈ values, ∀ rest, Delimited rest → item (written value ++ rest) = .ok (value, rest)

def Skips (item : Reader α) : Prop := ∀ text, item (skipSpaces text) = item text

theorem readMore_intercalate (closing : close ∈ [']', '}']) (closed : skipSpaces tail = close :: rest)
    (ends : Delimited tail) (nonempty : values ≠ []) (reads : Reads item written values) {fuel : Nat}
    (enough : values.length ≤ fuel) :
    readMore close item fuel (List.intercalate [','] (values.map written) ++ tail) =
      .ok (values, rest) := by
  have other : ',' ≠ close := by
    rintro rfl
    revert closing
    decide
  induction values generalizing fuel with
  | nil => exact absurd rfl nonempty
  | cons first values ih =>
    obtain ⟨here, there⟩ := List.forall_mem_cons.mp reads
    obtain ⟨fuel, rfl⟩ : ∃ less, fuel = less + 1 := Nat.exists_eq_succ_of_ne_zero (by
      rintro rfl
      cases enough)
    cases values with
    | nil =>
      have taken := here tail ends
      rw [List.map_singleton, List.intercalate_singleton]
      simp [readMore, taken, closed]
    | cons second values =>
      have taken := here _ (.cons (by decide : ',' ∈ [',', ']', '}', '\n'])
        (List.intercalate [','] ((second :: values).map written) ++ tail))
      have later := ih (List.cons_ne_nil _ _) there (Nat.le_of_succ_le_succ enough)
      have split : List.intercalate [','] ((first :: second :: values).map written) ++ tail =
          written first ++ ',' ::
            (List.intercalate [','] ((second :: values).map written) ++ tail) := by
        simp [List.intercalate_cons_cons]
      rw [split, readMore]
      simp only [taken, skipSpaces_cons (by decide : isSpace ',' = false), if_neg other, if_true,
        later]

theorem length_le_length_intercalate (shown : ∀ value ∈ values, written value ≠ []) :
    values.length ≤ (List.intercalate [','] (values.map written)).length := by
  induction values with
  | nil => exact Nat.zero_le _
  | cons first values ih =>
    obtain ⟨here, there⟩ := List.forall_mem_cons.mp shown
    have size : 0 < (written first).length := List.length_pos_iff.mpr here
    have sizes := ih there
    cases values with
    | nil =>
      rw [List.map_singleton, List.intercalate_singleton]
      exact size
    | cons second values =>
      rw [List.map_cons, List.map_cons, List.intercalate_cons_cons, ← List.map_cons]
      simp only [List.length_append, List.length_cons, List.length_nil] at sizes ⊢
      omega

theorem Skips.readMore (skips : Skips item) (fuel : Nat) (text : List Char) :
    readMore close item fuel (skipSpaces text) = readMore close item fuel text := by
  cases fuel with
  | zero => rfl
  | succ fuel => rw [Json.readMore, Json.readMore, skips]

theorem readSeparated_intercalate (skips : Skips item) (closing : close ∈ [']', '}'])
    (closed : skipSpaces tail = close :: rest) (ends : Delimited tail)
    (led : ∀ value ∈ values, ∃ c later, skipSpaces (written value) = c :: later ∧ c ∈ openers)
    (reads : Reads item written values) :
    readSeparated close item (List.intercalate [','] (values.map written) ++ tail) =
      .ok (values, rest) := by
  cases values with
  | nil => simp [readSeparated, closed]
  | cons first values =>
    have shown : ∀ value ∈ first :: values, written value ≠ [] := by
      intro value inside blank
      obtain ⟨c, later, leads, -⟩ := led value inside
      rw [blank] at leads
      cases leads
    have all := readMore_intercalate closing closed ends (List.cons_ne_nil first values) reads
      (Nat.le_trans (length_le_length_intercalate shown)
        (List.length_append ▸ Nat.le_add_right _ tail.length))
    obtain ⟨c, later, leads, opens⟩ := led first List.mem_cons_self
    obtain ⟨-, -, mark⟩ := openers_distinct c opens
    have other : c ≠ close := by
      rintro rfl
      exact mark (List.mem_cons_of_mem _ (List.mem_append_left ['`', 'j', 'J'] closing))
    obtain ⟨more, starts⟩ : ∃ more, List.intercalate [','] ((first :: values).map written) ++ tail =
        written first ++ more := by
      cases values with
      | nil => exact ⟨tail, by rw [List.map_singleton, List.intercalate_singleton]⟩
      | cons second values =>
        rw [List.map_cons, List.map_cons, List.intercalate_cons_cons, List.append_assoc,
          List.append_assoc]
        exact ⟨_, rfl⟩
    have skipped := skipSpaces_append_of_eq_cons leads more
    rw [← starts] at skipped
    rw [readSeparated, skipped]
    simp only [if_neg other]
    rw [← skipped, skips.readMore]
    exact all

end Separated

/-! ### Values -/

theorem readValue_array (depth : Nat) (text : List Char) :
    readValue (depth + 1) ('[' :: text) =
      (readSeparated ']' (readValue depth) text).map fun (items, rest) => (.array items, rest) := by
  rw [readValue, skipSpaces_cons (by decide)]
  rfl

theorem readValue_object (depth : Nat) (text : List Char) :
    readValue (depth + 1) ('{' :: text) =
      (readSeparated '}' (readMember readString (readValue depth)) text).map
        fun (members, rest) => (.object members, rest) := by
  rw [readValue, skipSpaces_cons (by decide)]
  rfl

theorem readValue_scalar {c : Char} (visible : isSpace c = false) (array : c ≠ '[')
    (object : c ≠ '\x7b') (depth : Nat) (text : List Char) :
    readValue depth (c :: text) = readScalar (c :: text) := by
  unfold readValue
  rw [skipSpaces_cons visible]
  split
  next same => exact absurd (List.cons.inj same).1 array
  next same => exact absurd (List.cons.inj same).1 object
  next => rfl

theorem readValue_number {c : Char} (first : c ∈ '-' :: digits) (depth : Nat) (text : List Char) :
    readValue depth (c :: text) =
      (readNumber (c :: text)).map fun (value, rest) => (.number value, rest) := by
  have all : ∀ c ∈ '-' :: digits, isSpace c = false ∧ c ∉ ['[', '\x7b', '"', 'n', 't', 'f'] :=
    List.all_iff_forall_prop.mp (by decide)
  obtain ⟨visible, other⟩ := all c first
  simp only [List.mem_cons, not_or] at other
  obtain ⟨array, object, quote, n, t, f, -⟩ := other
  rw [readValue_scalar visible array object, readScalar, if_neg quote, if_neg n, if_neg t, if_neg f]

theorem readMember_written {value : Json} {depth : Nat} {text rest : List Char} (name : String)
    (taken : readValue depth text = .ok (value, rest)) :
    readMember readString (readValue depth) (writeString name ++ ':' :: text) =
      .ok ((name, value), rest) := by
  have quoted : writeString name ++ ':' :: text =
      '"' :: (name.toList.flatMap escapeChar ++ '"' :: ':' :: text) := by
    simp [writeString]
  rw [quoted, readMember, readName, skipSpaces_cons (by decide)]
  simp only [readString_written]
  rw [readAfterColon, skipSpaces_cons (by decide)]
  simp only [taken]
  rfl

theorem skips_readValue (depth : Nat) : Skips (readValue depth) := by
  intro text
  unfold readValue
  rw [skipSpaces_skipSpaces]

theorem skips_readMember {κ α : Type} (string : Reader κ) (value : Reader α) :
    Skips (readMember string value) := by
  intro text
  rw [readMember, readMember, readName, readName, skipSpaces_skipSpaces]

theorem readValue_items {items : List Json} {written : Json → List Char} {depth : Nat}
    {tail rest : List Char} (closed : skipSpaces tail = ']' :: rest) (ends : Delimited tail)
    (led : ∀ item ∈ items, ∃ c later, skipSpaces (written item) = c :: later ∧ c ∈ openers)
    (reads : Reads (readValue depth) written items) :
    readValue (depth + 1) ('[' :: (List.intercalate [','] (items.map written) ++ tail)) =
      .ok (.array items, rest) := by
  rw [readValue_array,
    readSeparated_intercalate (skips_readValue depth) (by decide) closed ends led reads]
  rfl

theorem readValue_members {members : List (String × Json)} {written : String × Json → List Char}
    {depth : Nat} {tail rest : List Char} (closed : skipSpaces tail = '\x7d' :: rest)
    (ends : Delimited tail)
    (led : ∀ member ∈ members, ∃ c later, skipSpaces (written member) = c :: later ∧ c ∈ openers)
    (reads : Reads (readMember readString (readValue depth)) written members) :
    readValue (depth + 1) ('\x7b' :: (List.intercalate [','] (members.map written) ++ tail)) =
      .ok (.object members, rest) := by
  rw [readValue_object,
    readSeparated_intercalate (skips_readMember _ _) (by decide) closed ends led reads]
  rfl

/-- The reader takes exactly the text of the value. -/
theorem readValue_write {value : Json} (whole : value.Whole) {depth : Nat}
    (shallow : value.depth ≤ depth) {rest : List Char} (ends : Delimited rest) :
    readValue depth (value.write ++ rest) = .ok (value, rest) := by
  induction value using inductionOnParts generalizing depth rest with
  | null => exact readValue_scalar (by decide) (by decide) (by decide) _ _
  | bool value =>
    cases value with
    | false => exact readValue_scalar (by decide) (by decide) (by decide) _ _
    | true => exact readValue_scalar (by decide) (by decide) (by decide) _ _
  | number numeral =>
    obtain ⟨n, rfl, low, high⟩ := whole
    have taken := readNumber_intDigits low high ends
    obtain ⟨c, later, led, first⟩ := exists_head_intDigits n
    rw [write, Numeral.write]
    rw [led, List.cons_append] at taken ⊢
    rw [readValue_number first, taken]
    rfl
  | string value =>
    have text : write (.string value) ++ rest =
        '"' :: (value.toList.flatMap escapeChar ++ '"' :: rest) := by
      simp [write, writeString]
    rw [text, readValue_scalar (by decide) (by decide) (by decide), readScalar, if_pos rfl,
      readString_written]
    rfl
  | array items ih =>
    obtain ⟨depth, rfl⟩ : ∃ less, depth = less + 1 := Nat.exists_eq_add_one.mpr (by
      rw [Json.depth] at shallow
      omega)
    have parts : ∀ item ∈ items, item.Whole := wholeItems_iff.mp whole
    have within : ∀ item ∈ items, item.depth ≤ depth :=
      depthOfItems_le_iff.mp (Nat.le_of_succ_le_succ shallow)
    have reads : Reads (readValue depth) write items := fun item inside rest ends =>
      ih item inside (parts item inside) (within item inside) ends
    have text : write (.array items) ++ rest =
        '[' :: (List.intercalate [','] (items.map write) ++ ']' :: rest) := by
      simp [write, writeItems_eq_intercalate]
    have led : ∀ item ∈ items, ∃ c later, skipSpaces item.write = c :: later ∧ c ∈ openers := by
      intro item inside
      obtain ⟨c, later, starts, opens⟩ := exists_head_write (parts item inside)
      exact ⟨c, later, starts ▸ skipSpaces_cons (openers_distinct c opens).1 later, opens⟩
    have closed : skipSpaces (']' :: rest) = ']' :: rest := skipSpaces_cons (by decide) rest
    rw [text]
    exact readValue_items closed (.cons (by decide) rest) led reads
  | object members ih =>
    obtain ⟨depth, rfl⟩ : ∃ less, depth = less + 1 := Nat.exists_eq_add_one.mpr (by
      rw [Json.depth] at shallow
      omega)
    have parts : ∀ member ∈ members, member.2.Whole := wholeMembers_iff.mp whole
    have within : ∀ member ∈ members, member.2.depth ≤ depth :=
      depthOfMembers_le_iff.mp (Nat.le_of_succ_le_succ shallow)
    have reads : Reads (readMember readString (readValue depth)) writeMember members := by
      intro member inside rest ends
      have taken := ih member inside (parts member inside) (within member inside) ends
      rw [writeMember, List.append_assoc, List.cons_append]
      exact readMember_written member.1 taken
    have text : write (.object members) ++ rest =
        '\x7b' :: (List.intercalate [','] (members.map writeMember) ++ '\x7d' :: rest) := by
      simp [write, writeMembers_eq_intercalate]
    have led : ∀ member ∈ members,
        ∃ c later, skipSpaces (writeMember member) = c :: later ∧ c ∈ openers :=
      fun member _ => ⟨'"', _, skipSpaces_cons (by decide) _, by decide⟩
    have closed : skipSpaces ('\x7d' :: rest) = '\x7d' :: rest := skipSpaces_cons (by decide) rest
    rw [text]
    exact readValue_members closed (.cons (by decide) rest) led reads

theorem readDocument_write {value : Json} (whole : value.Whole) (shallow : value.depth ≤ nesting) :
    readDocument nesting value.write = .ok value := by
  have taken := readValue_write whole shallow .nil
  rw [List.append_nil] at taken
  simp only [readDocument, taken, whole?]
  simp [skipSpaces]

theorem read?_write {value : Json} (ordered : value.Ordered) (whole : value.Whole)
    (shallow : value.depth ≤ nesting) : read? value.write = some value := by
  simp only [read?, readDocument_write whole shallow, arrange_of_ordered ordered]

end CommandGate.Json
