import CommandGate.Api.Exchange
import CommandGate.Proofs.ValueParts

/-!
Bodies that are taken. A body is read only if it is declared as JSON and small enough. One that is read
as a whole document is taken for what this document says. Members with any values are taken from the
text of an object; they are the members of that object by name, the last of equal names kept.
-/

namespace CommandGate

namespace Json

variable {α β κ : Type}

def Reader.mapped (item : Reader α) (f : α → β) : Reader β := fun text =>
  (item text).map (Prod.map f id)

theorem readMore_mapped (close : Char) (item : Reader α) (f : α → β) (fuel : Nat)
    (text : List Char) :
    readMore close (item.mapped f) fuel text =
      (readMore close item fuel text).map (Prod.map (List.map f) id) := by
  induction fuel generalizing text with
  | zero => rfl
  | succ fuel ih =>
    simp only [readMore, Reader.mapped]
    rcases item text with fault | ⟨value, text⟩
    · rfl
    · simp only [Except.map, Prod.map, id]
      rcases skipSpaces text with _ | ⟨c, text⟩
      · rfl
      · by_cases closed : c = close
        · simp only [closed, if_true]
          rfl
        · by_cases comma : c = ','
          · simp only [if_neg closed, if_pos comma, ih]
            rcases readMore close item fuel text with fault | ⟨values, text⟩
            all_goals rfl
          · simp only [closed, comma, if_false]

theorem readSeparated_mapped (close : Char) (item : Reader α) (f : α → β) (text : List Char) :
    readSeparated close (item.mapped f) text =
      (readSeparated close item text).map (Prod.map (List.map f) id) := by
  unfold readSeparated
  rcases skipSpaces text with _ | ⟨c, rest⟩
  · rfl
  · by_cases closed : c = close
    · simp only [closed, if_true]
      rfl
    · simp only [closed, if_false, readMore_mapped]

theorem readMember_mapped (string : Reader κ) (value : Reader α) (f : α → β) :
    readMember string (value.mapped f) = (readMember string value).mapped (Prod.map id f) := by
  funext text
  simp only [Reader.mapped, readMember, readAfterColon]
  rcases readName string text with fault | ⟨name, text⟩
  · rfl
  · simp only
    split
    next rest colon =>
      rcases value rest with fault | ⟨result, rest⟩
      all_goals rfl
    · rfl

theorem any_read (depth : Nat) :
    Decoder.any.read depth = Reader.mapped (readValue depth) arrange := by
  funext text
  simp only [Decoder.any, Decoder.buffered, Reader.mapped]
  rcases readValue depth text with fault | ⟨document, rest⟩
  all_goals rfl

theorem exists_of_map_eq_ok {result : Except Fault α} {f : α → β} {value : β}
    (mapped : result.map f = .ok value) : ∃ source, result = .ok source ∧ f source = value := by
  cases result with
  | error fault => cases mapped
  | ok source => exact ⟨source, rfl, Except.ok.inj mapped⟩

theorem readWord_eq_ok {word text rest : List Char} {value result : Json}
    (read : readWord word value text = .ok (result, rest)) : result = value := by
  unfold readWord at read
  split at read
  · cases read
    rfl
  · cases read

theorem readScalar_ne_object {text rest : List Char} {members : Fields} :
    readScalar text ≠ .ok (.object members, rest) := by
  intro read
  unfold readScalar at read
  split at read
  · cases read
  next c after =>
    split at read
    · obtain ⟨source, -, same⟩ := exists_of_map_eq_ok read
      cases same
    · split at read
      · cases readWord_eq_ok read
      · split at read
        · cases readWord_eq_ok read
        · split at read
          · cases readWord_eq_ok read
          · obtain ⟨source, -, same⟩ := exists_of_map_eq_ok read
            cases same

theorem readValue_object_opens {depth : Nat} {text rest : List Char} {members : Fields}
    (read : readValue depth text = .ok (.object members, rest)) :
    ∃ inner, skipSpaces text = '{' :: inner := by
  unfold readValue at read
  split at read
  next inner opened =>
    cases depth with
    | zero => cases read
    | succ depth =>
      obtain ⟨source, -, same⟩ := exists_of_map_eq_ok read
      cases same
  next inner opened => exact ⟨inner, opened⟩
  next => exact absurd read readScalar_ne_object

theorem readValue_opened {depth : Nat} {text inner : List Char}
    (opened : skipSpaces text = '{' :: inner) :
    readValue (depth + 1) text =
      (readSeparated '}' (readMember readString (readValue depth)) inner).map
        fun (members, rest) => (.object members, rest) := by
  simp only [readValue, opened]

theorem mapping_any_read_opened {depth : Nat} {text inner : List Char}
    (opened : skipSpaces text = '{' :: inner) :
    (Decoder.mapping .any).read (depth + 1) text =
      (readSeparated '}' (readMember readString (readValue depth)) inner).map
        fun (members, rest) => (Members.ofList (arrangeMembers members), rest) := by
  simp only [Decoder.mapping, opened, Decoder.readInside, any_read, readMember_mapped,
    readSeparated_mapped]
  rcases readSeparated '}' (readMember readString (readValue depth)) inner with
    fault | ⟨members, rest⟩
  · rfl
  · simp only [Except.map, Prod.map, id, arrangeMembers_eq_map]
    rfl

theorem mapping_any_read_eq_ok_iff {depth : Nat} {text rest : List Char} {parameters : Fields} :
    (Decoder.mapping .any).read (depth + 1) text = .ok (parameters, rest) ↔
      ∃ members, readValue (depth + 1) text = .ok (.object members, rest) ∧
        Members.ofList (arrangeMembers members) = parameters := by
  by_cases opens : ∃ inner, skipSpaces text = '{' :: inner
  · obtain ⟨inner, opened⟩ := opens
    rw [readValue_opened opened, mapping_any_read_opened opened]
    rcases readSeparated '}' (readMember readString (readValue depth)) inner with
      fault | ⟨members, after⟩
    · simp [Except.map]
    · simp [Except.map, and_comm]
  · constructor
    · intro read
      simp only [Decoder.mapping] at read
      split at read
      next inner opened => exact absurd ⟨inner, opened⟩ opens
      · cases read
    · rintro ⟨members, read, -⟩
      exact absurd (readValue_object_opens read) opens

theorem whole?_eq_ok_iff {result : Except Fault (α × List Char)} {value : α} :
    whole? result = .ok value ↔
      ∃ rest, result = .ok (value, rest) ∧ (skipSpaces rest).isEmpty = true := by
  rcases result with fault | ⟨read, rest⟩
  · simp [whole?]
  · by_cases ended : (skipSpaces rest).isEmpty = true
    · simp [whole?, List.isEmpty_iff.mp ended]
    · simp only [whole?, ended, Bool.false_eq_true, if_false, reduceCtorEq, Except.ok.injEq,
        Prod.mk.injEq, false_iff, not_exists]
      rintro _ ⟨⟨-, rfl⟩, left⟩
      exact ended left

theorem arrange_eq_object_iff {document : Json} {parameters : Fields} :
    document.arrange = .object parameters ↔
      ∃ members, document = .object members ∧
        Members.ofList (arrangeMembers members) = parameters := by
  cases document <;> simp [arrange]

theorem ofString?_eq_some_iff {text : String} {value : Json} :
    ofString? text = some value ↔
      ∃ document, readDocument nesting text.toList = .ok document ∧ document.arrange = value := by
  unfold ofString? read?
  rcases readDocument nesting text.toList with fault | document
  all_goals simp

theorem buffered_read_eq_ok_iff {accept : Json → Option α} {depth : Nat} {text rest : List Char}
    {value : α} :
    (Decoder.buffered accept).read depth text = .ok (value, rest) ↔
      ∃ document, readValue depth text = .ok (document, rest) ∧ accept document = some value := by
  simp only [Decoder.buffered]
  rcases readValue depth text with fault | ⟨document, after⟩
  · simp
  · cases taken : accept document <;> simp [taken, and_comm]

theorem buffered_ofText_eq_ok_iff {accept : Json → Option α} {text : String} {value : α} :
    (Decoder.buffered accept).ofText text = .ok value ↔
      ∃ document, readDocument nesting text.toList = .ok document ∧ accept document = some value := by
  simp only [Decoder.ofText, readDocument, whole?_eq_ok_iff, buffered_read_eq_ok_iff]
  constructor
  · rintro ⟨rest, ⟨document, read, taken⟩, ended⟩
    exact ⟨document, ⟨rest, read, ended⟩, taken⟩
  · rintro ⟨document, ⟨rest, read, ended⟩, taken⟩
    exact ⟨rest, ⟨document, read, taken⟩, ended⟩

theorem mapping_any_ofText_eq_ok_iff {text : String} {parameters : Fields} :
    (Decoder.mapping .any).ofText text = .ok parameters ↔
      ofString? text = some (.object parameters) := by
  simp only [ofString?_eq_some_iff, arrange_eq_object_iff, readDocument, Decoder.ofText,
    whole?_eq_ok_iff]
  constructor
  · rintro ⟨rest, read, ended⟩
    obtain ⟨members, object, same⟩ := mapping_any_read_eq_ok_iff.mp read
    exact ⟨.object members, ⟨rest, object, ended⟩, members, rfl, same⟩
  · rintro ⟨_, ⟨rest, object, ended⟩, members, rfl, same⟩
    exact ⟨rest, mapping_any_read_eq_ok_iff.mpr ⟨members, object, same⟩, ended⟩

end Json

namespace Api.Request

/-- The body is the text of an object with these members, and it is declared and small enough to be
read as one. -/
structure Carries (request : Request) (parameters : Fields) : Prop where
  declared : request.contentType.any declaresJson = true
  small : request.body.utf8ByteSize ≤ bodyLimit
  object : Json.ofString? request.body = some (.object parameters)

variable {α : Type} {request : Request} {parameters : Fields}

theorem Carries.ascending (carries : request.Carries parameters) : parameters.Ascending := by
  obtain ⟨document, -, arranged⟩ := Json.ofString?_eq_some_iff.mp carries.object
  obtain ⟨members, -, rfl⟩ := Json.arrange_eq_object_iff.mp arranged
  exact Members.ascending_ofList _

theorem body?_eq_ok_iff_ofText {decoder : Decoder α} {value : α} :
    request.body? decoder = .ok value ↔
      request.contentType.any declaresJson = true ∧ request.body.utf8ByteSize ≤ bodyLimit ∧
        decoder.ofText request.body = .ok value := by
  have taken : request.body? decoder = .ok value ↔ request.readBody decoder = .ok value := by
    unfold body?
    cases request.readBody decoder <;> simp
  rw [taken, readBody]
  constructor
  · intro read
    split at read
    · cases read
    next declared =>
      split at read
      · cases read
      next small =>
        split at read
        next whole =>
          cases read
          exact ⟨by simpa using declared, Nat.le_of_not_lt small, whole⟩
        · cases read
  · rintro ⟨declared, small, whole⟩
    rw [if_neg (by simp [declared]), if_neg (Nat.not_lt.mpr small), whole]

theorem body?_eq_ok_iff : request.body? (.mapping .any) = .ok parameters ↔ request.Carries parameters := by
  rw [body?_eq_ok_iff_ofText, Json.mapping_any_ofText_eq_ok_iff]
  exact ⟨fun ⟨declared, small, object⟩ => ⟨declared, small, object⟩,
    fun ⟨declared, small, object⟩ => ⟨declared, small, object⟩⟩

/-- The body is the text of this document, members as they are written, and it is declared and small
enough to be read. -/
structure Holds (request : Request) (document : Json) : Prop where
  declared : request.contentType.any declaresJson = true
  small : request.body.utf8ByteSize ≤ bodyLimit
  read : Json.readDocument Json.nesting request.body.toList = .ok document

theorem Holds.unique {first second : Json} (holds : request.Holds first)
    (again : request.Holds second) : first = second :=
  Except.ok.inj (holds.read.symm.trans again.read)

theorem body?_buffered_eq_ok_iff {accept : Json → Option α} {value : α} :
    request.body? (.buffered accept) = .ok value ↔
      ∃ document, request.Holds document ∧ accept document = some value := by
  rw [body?_eq_ok_iff_ofText, Json.buffered_ofText_eq_ok_iff]
  constructor
  · rintro ⟨declared, small, document, read, taken⟩
    exact ⟨document, ⟨declared, small, read⟩, taken⟩
  · rintro ⟨document, ⟨declared, small, read⟩, taken⟩
    exact ⟨declared, small, document, read, taken⟩

theorem exists_of_body?_eq_error {decoder : Decoder α} {failure : Failure}
    (refused : request.body? decoder = .error failure) :
    ∃ message, failure = .badRequest message := by
  unfold body? at refused
  split at refused
  · cases refused
  · cases refused
    exact ⟨_, rfl⟩

end Api.Request

end CommandGate
