import CommandGate.Command.Json
import CommandGate.Proofs.AsciiLowering
import CommandGate.Proofs.StringReading

/-!
Where the texts of a value stand in its compact form: each is written in one piece between its
quotes, at any depth, and what is plain in it is written as it is.
-/

namespace CommandGate

open Text (IsPlain)

namespace Json

inductive Holds (text : String) : Json → Prop where
  | string : Holds text (.string text)
  | item {items : List Json} {item : Json} (inside : item ∈ items) (here : Holds text item) :
      Holds text (.array items)
  | name {members : Fields} {value : Json} (inside : (text, value) ∈ members) :
      Holds text (.object members)
  | member {members : Fields} {name : String} {value : Json} (inside : (name, value) ∈ members)
      (here : Holds text value) : Holds text (.object members)

theorem writeItems_cons_cons (first second : Json) (items : List Json) :
    writeItems (first :: second :: items) =
      first.write ++ ',' :: writeItems (second :: items) := rfl

theorem writeMembers_cons_cons (name : String) (value : Json) (second : String × Json)
    (members : Fields) :
    writeMembers ((name, value) :: second :: members) =
      writeString name ++ ':' :: value.write ++ ',' :: writeMembers (second :: members) := rfl

theorem write_infix_writeItems {item : Json} {items : List Json} (inside : item ∈ items) :
    item.write <:+: writeItems items := by
  induction items with
  | nil => cases inside
  | cons first items ih =>
    cases items with
    | nil =>
      obtain rfl := List.mem_singleton.mp inside
      exact List.infix_rfl
    | cons second items =>
      rw [writeItems_cons_cons]
      rcases List.mem_cons.mp inside with rfl | later
      · exact List.infix_append_left
      · exact List.infix_append_of_infix_right (List.infix_cons (ih later))

theorem member_infix_writeMembers {name : String} {value : Json} {members : Fields}
    (inside : (name, value) ∈ members) :
    writeString name ++ ':' :: value.write <:+: writeMembers members := by
  induction members with
  | nil => cases inside
  | cons first members ih =>
    obtain ⟨firstName, firstValue⟩ := first
    cases members with
    | nil =>
      obtain ⟨rfl, rfl⟩ := Prod.mk.inj (List.mem_singleton.mp inside)
      exact List.infix_rfl
    | cons second members =>
      rw [writeMembers_cons_cons]
      rcases List.mem_cons.mp inside with same | later
      · obtain ⟨rfl, rfl⟩ := Prod.mk.inj same
        exact List.infix_append_left
      · exact List.infix_append_of_infix_right (List.infix_cons (ih later))

theorem write_infix_write_array {item : Json} {items : List Json} (inside : item ∈ items) :
    item.write <:+: (array items).write :=
  (List.infix_cons (write_infix_writeItems inside)).trans List.infix_append_left

theorem write_infix_write_object {name : String} {value : Json} {members : Fields}
    (inside : (name, value) ∈ members) : value.write <:+: (object members).write := by
  have inMember : value.write <:+: writeString name ++ ':' :: value.write :=
    (List.infix_cons List.infix_rfl).trans List.infix_append_right
  exact (List.infix_cons (inMember.trans (member_infix_writeMembers inside))).trans
    List.infix_append_left

theorem writeString_infix_write {text : String} {value : Json} (holds : Holds text value) :
    writeString text <:+: value.write := by
  induction holds with
  | string => exact List.infix_rfl
  | item inside _ ih => exact ih.trans (write_infix_write_array inside)
  | @name members value inside =>
    have inner := List.infix_append_left.trans (member_infix_writeMembers inside)
    exact (List.infix_cons inner).trans List.infix_append_left
  | member inside _ ih => exact ih.trans (write_infix_write_object inside)

theorem escapeChar_plain {c : Char} (plain : IsPlain c) : escapeChar c = [c] := by
  obtain ⟨low, -, quote, backslash⟩ := plain
  exact escapeChar_bare ⟨quote, backslash, Nat.not_lt.mpr low⟩

theorem flatMap_escapeChar_plain {text : List Char} (plain : ∀ c ∈ text, IsPlain c) :
    text.flatMap escapeChar = text := by
  induction text with
  | nil => rfl
  | cons c text ih =>
    obtain ⟨here, there⟩ := List.forall_mem_cons.mp plain
    rw [List.flatMap_cons, escapeChar_plain here, ih there, List.singleton_append]

theorem infix_writeString {part : List Char} {text : String} (plain : ∀ c ∈ part, IsPlain c)
    (inside : part <:+: text.toList) : part <:+: writeString text := by
  obtain ⟨before, after, cut⟩ := inside
  have middle : part <:+: text.toList.flatMap escapeChar := by
    rw [← cut, List.flatMap_append, List.flatMap_append, flatMap_escapeChar_plain plain]
    exact List.infix_append _ _ _
  exact List.infix_cons (List.infix_append_of_infix_left middle)

theorem infix_write {part : List Char} {text : String} {value : Json}
    (plain : ∀ c ∈ part, IsPlain c) (inside : part <:+: text.toList) (holds : Holds text value) :
    part <:+: value.write :=
  (infix_writeString plain inside).trans (writeString_infix_write holds)

end Json

def ToolCall.Holds (call : ToolCall) (text : String) : Prop :=
  text = call.action ∨ Json.Holds text (.object call.parameters)

theorem ToolCall.Holds.toJson {call : ToolCall} {text : String} (holds : call.Holds text) :
    Json.Holds text call.toJson := by
  unfold ToolCall.toJson
  rcases holds with rfl | inside
  · exact .member List.mem_cons_self .string
  · refine @Json.Holds.member text _ "parameters" _ (List.mem_cons_of_mem _ ?_) inside
    cases call.confirm with
    | none => exact List.mem_cons_self
    | some confirm => exact List.mem_cons_of_mem _ List.mem_cons_self

end CommandGate
