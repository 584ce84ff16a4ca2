import CommandGate.Proofs.MemberOrder

/-!
The parts of a value: induction over its items and members, how deep containers nest in it, and
whether all of its numbers are whole. Putting the members of objects in order changes nothing where
they are in order.
-/

namespace CommandGate.Json

@[elab_as_elim]
theorem inductionOnParts {motive : Json → Prop} (null : motive .null)
    (bool : ∀ value, motive (.bool value)) (number : ∀ value, motive (.number value))
    (string : ∀ value, motive (.string value))
    (array : ∀ items, (∀ item ∈ items, motive item) → motive (.array items))
    (object : ∀ members, (∀ member ∈ members, motive member.2) → motive (.object members))
    (value : Json) : motive value := by
  refine @Json.rec motive (fun items => ∀ item ∈ items, motive item)
    (fun members => ∀ member ∈ members, motive member.2) (fun member => motive member.2)
    null bool number string array object nofun ?_ nofun ?_ (fun _ _ part => part) value
  · exact fun _ _ here there => List.forall_mem_cons.mpr ⟨here, there⟩
  · exact fun _ _ here there => List.forall_mem_cons.mpr ⟨here, there⟩

mutual

def depth : Json → Nat
  | .array items => depthOfItems items + 1
  | .object members => depthOfMembers members + 1
  | _ => 0

def depthOfItems : List Json → Nat
  | [] => 0
  | item :: items => max (depth item) (depthOfItems items)

def depthOfMembers : List (String × Json) → Nat
  | [] => 0
  | (_, value) :: members => max (depth value) (depthOfMembers members)

end

mutual

def Whole : Json → Prop
  | .number numeral => ∃ n, numeral = .whole n ∧ -2 ^ 63 ≤ n ∧ n < 2 ^ 64
  | .array items => WholeItems items
  | .object members => WholeMembers members
  | _ => True

def WholeItems : List Json → Prop
  | [] => True
  | item :: items => Whole item ∧ WholeItems items

def WholeMembers : List (String × Json) → Prop
  | [] => True
  | (_, value) :: members => Whole value ∧ WholeMembers members

end

theorem depthOfItems_le_iff {items : List Json} {bound : Nat} :
    depthOfItems items ≤ bound ↔ ∀ item ∈ items, item.depth ≤ bound := by
  induction items with
  | nil => simp [depthOfItems]
  | cons item items ih => simp [depthOfItems, ih]

theorem depthOfMembers_le_iff {members : List (String × Json)} {bound : Nat} :
    depthOfMembers members ≤ bound ↔ ∀ member ∈ members, member.2.depth ≤ bound := by
  induction members with
  | nil => simp [depthOfMembers]
  | cons member members ih => simp only [depthOfMembers, Nat.max_le, ih, List.forall_mem_cons]

theorem wholeItems_iff {items : List Json} : WholeItems items ↔ ∀ item ∈ items, item.Whole := by
  induction items with
  | nil => simp [WholeItems]
  | cons item items ih => simp [WholeItems, ih]

theorem wholeMembers_iff {members : List (String × Json)} :
    WholeMembers members ↔ ∀ member ∈ members, member.2.Whole := by
  induction members with
  | nil => simp [WholeMembers]
  | cons member members ih => simp only [WholeMembers, ih, List.forall_mem_cons]

theorem orderedItems_iff {items : List Json} :
    OrderedItems items ↔ ∀ item ∈ items, item.Ordered := by
  induction items with
  | nil => simp [OrderedItems]
  | cons item items ih => simp [OrderedItems, ih]

theorem orderedMembers_iff {members : List (String × Json)} :
    OrderedMembers members ↔ ∀ member ∈ members, member.2.Ordered := by
  induction members with
  | nil => simp [OrderedMembers]
  | cons member members ih => simp only [OrderedMembers, ih, List.forall_mem_cons]

theorem arrangeItems_eq_map (items : List Json) : arrangeItems items = items.map arrange := by
  induction items with
  | nil => rfl
  | cons item items ih => rw [arrangeItems, ih, List.map_cons]

theorem arrangeMembers_eq_map (members : List (String × Json)) :
    arrangeMembers members = members.map fun member => (member.1, member.2.arrange) := by
  induction members with
  | nil => rfl
  | cons member members ih => rw [arrangeMembers, ih, List.map_cons]

theorem arrange_of_ordered {value : Json} (ordered : value.Ordered) : value.arrange = value := by
  induction value using inductionOnParts with
  | array items ih =>
    have parts : ∀ item ∈ items, item.arrange = item := fun item inside =>
      ih item inside (orderedItems_iff.mp ordered item inside)
    rw [arrange, arrangeItems_eq_map, List.map_congr_left parts, List.map_id']
  | object members ih =>
    have parts : ∀ member ∈ members, (member.1, member.2.arrange) = member := fun member inside =>
      Prod.ext rfl (ih member inside (orderedMembers_iff.mp ordered.2 member inside))
    rw [arrange, arrangeMembers_eq_map, List.map_congr_left parts, List.map_id',
      Members.ofList_of_ascending ordered.1]
  | _ => rfl

end CommandGate.Json
