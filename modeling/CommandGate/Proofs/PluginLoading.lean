import CommandGate.Proofs.RegistryOwners
import Mathlib.Data.List.Range

/-!
Loading plugins from a list of named constructors. The enabled constructors are run, each once and in
the order of the list, and what they give is registered in turn. An entry that installs nothing leaves
no trace: without all such entries the list gives the same registry, and none of what is left is
refused.
-/

namespace CommandGate.Registry

variable {σ : Type} {settings : PluginSettings}

/-! ### What is registered -/

def enabledAmong {α : Type} (settings : PluginSettings)
    (constructors : List (String × (PluginSettings → Except RegistrationError α))) : List α :=
  constructors.filterMap fun entry =>
    if settings.isEnabled entry.1 then (entry.2 settings).toOption else none

theorem enabledAmong_map {α β : Type} (settings : PluginSettings) (f : α → β)
    (constructors : List (String × (PluginSettings → Except RegistrationError α))) :
    enabledAmong settings (constructors.map fun entry =>
        (entry.1, fun settings => (entry.2 settings).map f)) =
      (enabledAmong settings constructors).map f := by
  induction constructors with
  | nil => rfl
  | cons entry constructors ih =>
    simp only [enabledAmong, List.map_cons, List.filterMap_cons] at ih ⊢
    by_cases enabled : settings.isEnabled entry.1 = true
    · simp only [enabled, if_true]
      cases entry.2 settings with
      | error fault => exact ih
      | ok given => exact congrArg (f given :: ·) ih
    · simp only [enabled]
      exact ih

theorem loadFrom_registry (settings : PluginSettings) (loaded : Loaded σ) (index : Nat)
    (constructors : List (String × PluginConstructor σ)) :
    (loadFrom settings loaded index constructors).registry =
      loaded.registry.registerAll (enabledAmong settings constructors) := by
  induction constructors generalizing loaded index with
  | nil => rfl
  | cons entry constructors ih =>
    obtain ⟨name, constructor⟩ := entry
    rw [loadFrom, enabledAmong, List.filterMap_cons]
    by_cases enabled : settings.isEnabled name = true
    · simp only [enabled, if_true]
      cases constructor settings with
      | error fault => exact ih _ _
      | ok registration => exact ih _ _
    · simp only [enabled]
      exact ih _ _

theorem load_registry (constructors : List (String × PluginConstructor σ))
    (settings : PluginSettings) :
    (load constructors settings).registry =
      empty.registerAll (enabledAmong settings constructors) :=
  loadFrom_registry settings ⟨empty, []⟩ 0 constructors

/-! ### What is run -/

theorem loadFrom_ran (loaded : Loaded σ) (index : Nat)
    (constructors : List (String × PluginConstructor σ)) :
    (loadFrom settings loaded index constructors).ran = loaded.ran ++
      ((constructors.zipIdx index).filter fun entry => settings.isEnabled entry.1.1).map (·.2) := by
  induction constructors generalizing loaded index with
  | nil => simp [loadFrom]
  | cons entry constructors ih =>
    obtain ⟨name, constructor⟩ := entry
    rw [loadFrom, List.zipIdx_cons, List.filter_cons]
    by_cases enabled : settings.isEnabled name = true
    · simp only [enabled, if_true, List.map_cons]
      cases constructor settings with
      | error fault => rw [ih, List.append_assoc, List.singleton_append]
      | ok registration => rw [ih, List.append_assoc, List.singleton_append]
    · simp only [enabled]
      exact ih _ _

theorem pairwise_load_ran (constructors : List (String × PluginConstructor σ)) :
    (load constructors settings).ran.Pairwise (· < ·) := by
  rw [load, loadFrom_ran, List.nil_append]
  have positions : constructors.zipIdx.map (·.2) = List.range constructors.length := by
    rw [List.zipIdx_map_snd, List.range_eq_range']
  have kept := (List.filter_sublist (l := constructors.zipIdx)
    (p := fun entry => settings.isEnabled entry.1.1)).map (·.2)
  exact (positions ▸ List.pairwise_lt_range).sublist kept

theorem mem_load_ran_iff {constructors : List (String × PluginConstructor σ)} {index : Nat} :
    index ∈ (load constructors settings).ran ↔
      ∃ entry, constructors[index]? = some entry ∧ settings.isEnabled entry.1 = true := by
  rw [load, loadFrom_ran, List.nil_append, List.mem_map]
  constructor
  · rintro ⟨⟨entry, position⟩, inside, rfl⟩
    obtain ⟨listed, enabled⟩ := List.mem_filter.mp inside
    exact ⟨entry, List.mk_mem_zipIdx_iff_getElem?.mp listed, enabled⟩
  · rintro ⟨entry, listed, enabled⟩
    have inside := List.mk_mem_zipIdx_iff_getElem?.mpr listed
    exact ⟨(entry, index), List.mem_filter.mpr ⟨inside, enabled⟩, rfl⟩

/-! ### Entries that install nothing -/

def installs (settings : PluginSettings) (registry : Registry σ)
    (entry : String × PluginConstructor σ) : Bool :=
  settings.isEnabled entry.1 &&
    match entry.2 settings with
    | .ok registration => (registry.register registration).1.isOk
    | .error _ => false

/-- The list without the entries that install nothing after those before them. -/
def installing (settings : PluginSettings) (constructors : List (String × PluginConstructor σ)) :
    List (String × PluginConstructor σ) :=
  (constructors.zipIdx.filter fun entry =>
    installs settings (load (constructors.take entry.2) settings).registry entry.1).map (·.1)

variable {registry : Registry σ} {entry : String × PluginConstructor σ}

theorem installs_iff :
    installs settings registry entry = true ↔ settings.isEnabled entry.1 = true ∧
      ∃ registration after, entry.2 settings = .ok registration ∧
        registry.register registration = (.ok (), after) := by
  rw [installs, Bool.and_eq_true]
  refine and_congr_right fun _ => ?_
  cases entry.2 settings with
  | error fault => simp
  | ok registration =>
    rcases accepted : registry.register registration with ⟨fault | _, after⟩
    · simp [Except.isOk, Except.toBool, accepted]
    · simp [Except.isOk, Except.toBool, accepted]

theorem load_append (constructors more : List (String × PluginConstructor σ)) :
    (load (constructors ++ more) settings).registry =
      (load constructors settings).registry.registerAll (enabledAmong settings more) := by
  rw [load_registry, load_registry, enabledAmong, List.filterMap_append, registerAll_append]
  rfl

theorem registerAll_of_not_installs (nothing : installs settings registry entry = false) :
    registry.registerAll (enabledAmong settings [entry]) = registry := by
  rw [enabledAmong, List.filterMap_cons]
  by_cases enabled : settings.isEnabled entry.1 = true
  · rw [installs, enabled, Bool.true_and] at nothing
    rw [if_pos enabled]
    cases given : entry.2 settings with
    | error fault => rfl
    | ok registration =>
      rw [given] at nothing
      change registry.tryRegister registration = registry
      rcases ended : registry.register registration with ⟨fault | _, after⟩
      · exact tryRegister_of_error ended
      · simp [ended, Except.isOk, Except.toBool] at nothing
  · rw [if_neg enabled]
    rfl

theorem installing_append_singleton (constructors : List (String × PluginConstructor σ))
    (entry : String × PluginConstructor σ) :
    installing settings (constructors ++ [entry]) = installing settings constructors ++
      if installs settings (load constructors settings).registry entry then [entry] else [] := by
  have earlier : ∀ listed ∈ constructors.zipIdx,
      (constructors ++ [entry]).take listed.2 = constructors.take listed.2 := by
    rintro ⟨other, index⟩ inside
    obtain ⟨within, -⟩ := List.getElem?_eq_some_iff.mp (List.mk_mem_zipIdx_iff_getElem?.mp inside)
    exact List.take_append_of_le_length within.le
  have last : (constructors ++ [entry]).take constructors.length = constructors :=
    List.take_left
  rw [installing, List.zipIdx_append, List.filter_append, List.map_append]
  congr 1
  · rw [installing, List.filter_congr fun listed inside => by rw [earlier listed inside]]
  · simp only [List.zipIdx_cons, List.zipIdx_nil, Nat.zero_add, List.filter_cons, last,
      List.filter_nil]
    split <;> rfl

theorem load_installing (constructors : List (String × PluginConstructor σ)) :
    (load (installing settings constructors) settings).registry =
      (load constructors settings).registry := by
  induction constructors using List.reverseRecOn with
  | nil => rfl
  | append_singleton constructors entry ih =>
    rw [installing_append_singleton, load_append (installing settings constructors),
      load_append constructors [entry], ih]
    split
    next here => rfl
    next nothing =>
      change (load constructors settings).registry = _
      exact (registerAll_of_not_installs (by simpa using nothing)).symm

theorem installs_of_installing {constructors : List (String × PluginConstructor σ)} {index : Nat}
    (left : (installing settings constructors)[index]? = some entry) :
    installs settings (load ((installing settings constructors).take index) settings).registry
      entry = true := by
  induction constructors using List.reverseRecOn with
  | nil => cases left
  | append_singleton constructors last ih =>
    rw [installing_append_singleton] at left ⊢
    by_cases before : index < (installing settings constructors).length
    · rw [List.getElem?_append_left before] at left
      rw [List.take_append_of_le_length before.le]
      exact ih left
    · have behind := not_lt.mp before
      rw [List.getElem?_append_right behind] at left
      split at left
      next here =>
        obtain ⟨within, same⟩ := List.getElem?_eq_some_iff.mp left
        rw [List.length_singleton] at within
        have final : index = (installing settings constructors).length := by omega
        rw [final, List.take_left, load_installing]
        rw [List.getElem_singleton] at same
        exact same ▸ here
      next nothing => cases left

/-- Loading runs exactly the enabled constructors, each once and in the order of the list. Without the
entries that are disabled, whose constructors fail, or that the registry refuses, the list gives the
same registry, and every entry that is left is enabled, gives a registration, and has it accepted. -/
theorem loading_is_blind_to_bad_plugins (constructors : List (String × PluginConstructor σ))
    (settings : PluginSettings) :
    let loaded := load constructors settings
    let left := installing settings constructors
    (loaded.ran.Pairwise (· < ·) ∧ ∀ index, index ∈ loaded.ran ↔
      ∃ entry, constructors[index]? = some entry ∧ settings.isEnabled entry.1 = true) ∧
    (load left settings).registry = loaded.registry ∧
    ∀ index entry, left[index]? = some entry → settings.isEnabled entry.1 = true ∧
      ∃ registration, entry.2 settings = .ok registration ∧
        (load (left.take index) settings).registry.register registration =
          (.ok (), (load (left.take (index + 1)) settings).registry) := by
  intro loaded left
  refine ⟨⟨pairwise_load_ran constructors, fun index => mem_load_ran_iff⟩,
    load_installing constructors, fun index entry here => ?_⟩
  obtain ⟨enabled, registration, after, given, accepted⟩ :=
    installs_iff.mp (installs_of_installing here)
  refine ⟨enabled, registration, given, ?_⟩
  have next : left.take (index + 1) = left.take index ++ [entry] := by
    rw [List.take_add_one, here, Option.toList_some]
  have installed : enabledAmong settings [entry] = [registration] := by
    rw [enabledAmong, List.filterMap_cons, if_pos enabled, given]
    rfl
  rw [accepted, next, load_append, installed]
  exact congrArg (Except.ok (), ·) (tryRegister_of_ok accepted).symm

end CommandGate.Registry
