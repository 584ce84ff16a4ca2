import CommandGate.Proofs.Advertised
import CommandGate.Proofs.RegistryHistory

/-!
Capabilities and the search for an action. The list that is shown is made by one walk over the plugins,
and an action is found by another that ends at its first owner. They agree after every run of
registrations because no two plugins share a name or an action: what is found is listed once, as it is
found, under its owner.
-/

namespace CommandGate

variable {σ : Type}

theorem exists_split_of_nodup_map {α β : Type} {name : α → β} {values : List α} {value : α}
    (distinct : (values.map name).Nodup) (inside : value ∈ values) :
    ∃ front back, values = front ++ value :: back ∧ name value ∉ (front ++ back).map name := by
  obtain ⟨front, back, rfl⟩ := List.append_of_mem inside
  rw [List.map_append, List.map_cons, List.nodup_middle, List.nodup_cons, ← List.map_append]
    at distinct
  exact ⟨front, back, rfl, distinct.1⟩

namespace Registry

variable {registry : Registry σ} {name : String} {action : Action σ}

/-- The capability lists the action in one place and as it is installed; it carries the name and the
description of the plugin that has the action, and no other capability lists the action. -/
structure ListsOnce (registry : Registry σ) (name : String) (action : Action σ)
    (capability : Capability) : Prop where
  owned : ∃ owner, registry.plugin? capability.name = some owner ∧ capability.name = owner.name ∧
    capability.description = owner.description ∧ owner.actions.get? name = some action
  once : ∃ front back,
    capability.actions = front ++ (name, ⟨action.description, action.parameters⟩) :: back ∧
      name ∉ Members.names (front ++ back)
  alone : ∃ before later, registry.describe = before ++ capability :: later ∧
    ∀ other ∈ before ++ later, name ∉ Members.names other.actions

theorem Consistent.exists_split_of_mem (consistent : registry.Consistent) {owner : Plugin σ}
    (installed : owner ∈ registry.plugins) (listed : (name, action) ∈ owner.actions) :
    ∃ before later, registry.plugins = before ++ owner :: later ∧
      ∀ other ∈ before ++ later, name ∉ Members.names other.actions := by
  obtain ⟨before, later, cut, apart⟩ := exists_split_of_nodup_map consistent.names_nodup installed
  refine ⟨before, later, cut, fun other inside shared => ?_⟩
  obtain ⟨value, held⟩ := Members.exists_get?_iff.mpr shared
  have there : other ∈ registry.plugins := by
    rw [cut]
    exact List.perm_middle.mem_iff.mpr (List.mem_cons_of_mem _ inside)
  have same : other = owner := consistent.one_owner other there owner installed name
    (by rw [Members.has, held]; rfl) (has_of_mem (consistent.ascending owner installed) listed)
  exact apart (same ▸ List.mem_map_of_mem inside)

theorem Consistent.exists_listsOnce (consistent : registry.Consistent)
    (found : registry.lookup name = some action) :
    ∃ capability, registry.ListsOnce name action capability := by
  obtain ⟨owner, installed, listed⟩ := consistent.lookup_eq_some_iff.mp found
  have distinct : (Members.names owner.actions).Nodup := (consistent.ascending owner installed).nodup
  refine ⟨owner.capability, ?owned, ?once, ?alone⟩
  case owned =>
    exact ⟨owner, consistent.plugin?_eq_some_iff.mpr ⟨installed, rfl⟩, rfl, rfl,
      (Members.get?_eq_some_iff distinct).mpr listed⟩
  case once =>
    have shown : (Members.names owner.capability.actions).Nodup := names_capability owner ▸ distinct
    exact exists_split_of_nodup_map shown (List.mem_map_of_mem listed)
  case alone =>
    obtain ⟨before, later, cut, none⟩ := consistent.exists_split_of_mem installed listed
    refine ⟨before.map Plugin.capability, later.map Plugin.capability, ?_, ?_⟩
    · rw [describe, cut, List.map_append, List.map_cons]
    · rw [← List.map_append, List.forall_mem_map]
      intro other inside
      rw [names_capability]
      exact none other inside

theorem Consistent.lookup_eq_some_iff_listsOnce (consistent : registry.Consistent) :
    registry.lookup name = some action ↔
      ∃ capability, registry.ListsOnce name action capability := by
  refine ⟨consistent.exists_listsOnce, ?_⟩
  rintro ⟨capability, lists⟩
  obtain ⟨owner, found, -, -, held⟩ := lists.owned
  exact consistent.lookup_eq_some_iff.mpr
    ⟨owner, (consistent.plugin?_eq_some_iff.mp found).1, Members.mem_of_get? held⟩

theorem map_name_describe (registry : Registry σ) :
    registry.describe.map (·.name) = registry.names := by
  rw [describe, List.map_map]
  rfl

/-- After any run of registrations an action is found exactly if some capability lists its name, and
it is then listed once in the whole list, as it is found and under the plugin that has it. The
capabilities have distinct names and stand in the order in which these were accepted first. -/
theorem listed_actions_are_those_found (registrations : List (PluginRegistration σ)) :
    let registry := empty.registerAll registrations
    (∀ name, (∃ action, registry.lookup name = some action) ↔ registry.Advertises name) ∧
    (∀ name action, registry.lookup name = some action ↔
      ∃ capability, registry.ListsOnce name action capability) ∧
    (registry.describe.map (·.name)).Nodup ∧
    registry.describe.map (·.name) =
      ((empty.acceptedAmong registrations).map (·.name)).eraseDups := by
  intro registry
  have consistent : registry.Consistent := consistent_registerAll registrations
  have records : registry.Records (empty.acceptedAmong registrations) :=
    records_registerAll registrations
  rw [map_name_describe]
  exact ⟨fun _ => exists_lookup_iff, fun _ _ => consistent.lookup_eq_some_iff_listsOnce,
    consistent.names_nodup, records.names⟩

end Registry

end CommandGate
