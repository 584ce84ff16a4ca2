import CommandGate.Json.Value
import Mathlib.Data.List.Induction
import Mathlib.Data.List.Nodup
import Mathlib.Data.String.Basic

/-!
Named values in order. Setting values one after the other gives a list with strictly ascending names
that holds for each name the value set last; a list that ascends already comes out as it is.
-/

namespace CommandGate.Members

variable {α : Type}

theorem mem_of_get? {name : String} {value : α} {members : Members α}
    (found : members.get? name = some value) : (name, value) ∈ members := by
  induction members with
  | nil => cases found
  | cons member rest ih =>
    obtain ⟨key, old⟩ := member
    by_cases same : key = name
    · simp_all [get?]
    · simp only [get?, same, if_false] at found
      exact List.mem_cons_of_mem _ (ih found)

theorem exists_get?_iff {name : String} {members : Members α} :
    (∃ value, members.get? name = some value) ↔ name ∈ names members := by
  constructor
  · rintro ⟨value, found⟩
    exact List.mem_map_of_mem (mem_of_get? found)
  · intro listed
    induction members with
    | nil => cases listed
    | cons member rest ih =>
      obtain ⟨key, value⟩ := member
      by_cases same : key = name
      · exact ⟨value, by simp [get?, same]⟩
      · have later : name ∈ names rest := by simpa [names, Ne.symm same] using listed
        simpa [get?, same] using ih later

theorem names_mapValues {β : Type} (f : α → β) (members : Members α) :
    names (mapValues f members) = names members := by
  simp [names, mapValues]

theorem get?_eq_some_iff {name : String} {value : α} {members : Members α}
    (distinct : (names members).Nodup) :
    members.get? name = some value ↔ (name, value) ∈ members := by
  refine ⟨mem_of_get?, fun inside => ?_⟩
  induction members with
  | nil => cases inside
  | cons member rest ih =>
    obtain ⟨key, old⟩ := member
    obtain ⟨fresh, distinct⟩ := List.nodup_cons.mp distinct
    rcases List.mem_cons.mp inside with here | there
    · cases here
      simp [get?]
    · have listed : name ∈ names rest := List.mem_map_of_mem there
      have other : key ≠ name := fun same => fresh (same ▸ listed)
      simpa [get?, other] using ih distinct there

theorem ofList_append_singleton (members : List (String × α)) (name : String) (value : α) :
    ofList (members ++ [(name, value)]) = insert name value (ofList members) :=
  List.foldl_append

theorem mem_of_mem_insert {name : String} {value : α} {entry : String × α} {members : Members α}
    (inside : entry ∈ insert name value members) : entry = (name, value) ∨ entry ∈ members := by
  induction members with
  | nil => exact .inl (List.mem_singleton.mp inside)
  | cons member rest ih =>
    obtain ⟨key, old⟩ := member
    rw [insert] at inside
    split at inside
    · rcases List.mem_cons.mp inside with here | there
      · exact .inl here
      · exact .inr (List.mem_cons_of_mem _ there)
    · split at inside
      · exact List.mem_cons.mp inside
      · rcases List.mem_cons.mp inside with here | there
        · exact .inr (here ▸ List.mem_cons_self)
        · exact (ih there).imp_right (List.mem_cons_of_mem _)

theorem ascending_insert (name : String) (value : α) {members : Members α}
    (ascending : Ascending members) : Ascending (insert name value members) := by
  have apart : members.Pairwise (·.1 < ·.1) := List.pairwise_map.mp ascending
  refine List.pairwise_map.mpr ?_
  induction members with
  | nil => exact List.pairwise_singleton _ _
  | cons member rest ih =>
    obtain ⟨key, old⟩ := member
    obtain ⟨least, rising⟩ := List.pairwise_cons.mp apart
    rw [insert]
    split
    next same =>
      subst same
      exact List.pairwise_cons.mpr ⟨least, rising⟩
    next different =>
      split
      next before =>
        refine List.pairwise_cons.mpr ⟨fun entry inside => ?_, apart⟩
        rcases List.mem_cons.mp inside with rfl | later
        · exact before
        · exact lt_trans before (least entry later)
      next behind =>
        have after : key < name := lt_of_le_of_ne (not_lt.mp behind) different
        refine List.pairwise_cons.mpr
          ⟨fun entry inside => ?_, ih (List.pairwise_map.mpr rising) rising⟩
        rcases mem_of_mem_insert inside with rfl | old
        · exact after
        · exact least entry old

theorem ascending_ofList (members : List (String × α)) : Ascending (ofList members) := by
  induction members using List.reverseRecOn with
  | nil => exact List.Pairwise.nil
  | append_singleton members entry ih =>
    rw [ofList_append_singleton]
    exact ascending_insert entry.1 entry.2 ih

theorem mem_of_mem_ofList {entry : String × α} {members : List (String × α)}
    (inside : entry ∈ ofList members) : entry ∈ members := by
  induction members using List.reverseRecOn with
  | nil => cases inside
  | append_singleton members last ih =>
    rw [ofList_append_singleton] at inside
    rcases mem_of_mem_insert inside with rfl | earlier
    · exact List.mem_append_right _ List.mem_cons_self
    · exact List.mem_append_left _ (ih earlier)

theorem Ascending.nodup {members : Members α} (ascending : Ascending members) :
    (names members).Nodup :=
  ascending.imp ne_of_lt

theorem get?_ofList (name : String) (members : List (String × α)) :
    get? name (ofList members) = get? name members.reverse := by
  induction members using List.reverseRecOn with
  | nil => rfl
  | append_singleton members entry ih =>
    obtain ⟨key, value⟩ := entry
    rw [ofList_append_singleton, List.reverse_append, List.reverse_singleton, List.singleton_append]
    by_cases same : key = name
    · simp [get?, same, get?_insert_same]
    · simp [get?, same, get?_insert_other value _ same, ih]

theorem get?_ofList_eq_some_iff {name : String} {value : α} {members : List (String × α)}
    (distinct : (names members).Nodup) :
    get? name (ofList members) = some value ↔ (name, value) ∈ members := by
  have reversed : (names members.reverse).Nodup := by
    rw [names, List.map_reverse]
    exact List.nodup_reverse.mpr distinct
  rw [get?_ofList, get?_eq_some_iff reversed, List.mem_reverse]

theorem insert_greatest {name : String} {value : α} {members : Members α}
    (greatest : ∀ entry ∈ members, entry.1 < name) :
    insert name value members = members ++ [(name, value)] := by
  induction members with
  | nil => rfl
  | cons member rest ih =>
    obtain ⟨key, old⟩ := member
    obtain ⟨here, there⟩ := List.forall_mem_cons.mp greatest
    rw [insert, if_neg (ne_of_lt here), if_neg (lt_asymm here), ih there, List.cons_append]

theorem ofList_of_ascending {members : Members α} (ascending : Ascending members) :
    ofList members = members := by
  induction members using List.reverseRecOn with
  | nil => rfl
  | append_singleton members entry ih =>
    obtain ⟨name, value⟩ := entry
    have apart : (members ++ [(name, value)]).Pairwise (·.1 < ·.1) := List.pairwise_map.mp ascending
    obtain ⟨rising, -, below⟩ := List.pairwise_append.mp apart
    rw [ofList_append_singleton, ih (List.pairwise_map.mpr rising)]
    exact insert_greatest fun other inside => below other inside _ List.mem_cons_self

theorem get?_ofList_of_nodup {members : List (String × α)} (distinct : (names members).Nodup)
    (name : String) : get? name (ofList members) = get? name members :=
  Option.ext fun _ => (get?_ofList_eq_some_iff distinct).trans (get?_eq_some_iff distinct).symm

theorem eq_of_get?_eq {first second : Members α} (ascending : Ascending first)
    (ascending' : Ascending second) (same : ∀ name, first.get? name = second.get? name) :
    first = second := by
  have alike : ∀ entry, entry ∈ first ↔ entry ∈ second := by
    intro entry
    rw [← get?_eq_some_iff ascending.nodup, ← get?_eq_some_iff ascending'.nodup, same]
  have perm : first.Perm second := (List.perm_ext_iff_of_nodup
    (List.Nodup.of_map _ ascending.nodup) (List.Nodup.of_map _ ascending'.nodup)).mpr alike
  refine perm.eq_of_pairwise (fun a b _ _ less more => ?_) (List.pairwise_map.mp ascending)
    (List.pairwise_map.mp ascending')
  exact absurd more (lt_asymm less)

theorem insert_of_get? {name : String} {value : α} {members : Members α}
    (ascending : Ascending members) (held : members.get? name = some value) :
    insert name value members = members := by
  refine eq_of_get?_eq (ascending_insert name value ascending) ascending fun other => ?_
  by_cases same : name = other
  · subst same
    rw [get?_insert_same, held]
  · exact get?_insert_other value members same

theorem get?_filter_ne {name other : String} (different : name ≠ other) (members : Members α) :
    get? name (members.filter (·.1 != other)) = get? name members := by
  induction members with
  | nil => rfl
  | cons member members ih =>
    obtain ⟨key, value⟩ := member
    by_cases left : key = other
    · simpa [get?, left, different.symm] using ih
    · by_cases same : key = name <;> simp [get?, left, same, ih, different]

theorem get?_filter_self (name : String) (members : Members α) :
    get? name (members.filter (·.1 != name)) = none := by
  induction members with
  | nil => rfl
  | cons member members ih =>
    obtain ⟨key, value⟩ := member
    by_cases left : key = name <;> simpa [get?, left] using ih

end CommandGate.Members
