import CommandGate.Plugin.Registry
import CommandGate.Proofs.MemberOrder
import CommandGate.Proofs.RegistrationCheck

/-!
What every run of registrations keeps, whichever of them are refused: plugins have distinct names, an
action belongs to one plugin, and nothing that is installed is blank. So it does not matter in which
order the plugins are searched for an action.
-/

namespace CommandGate

variable {σ : Type}

structure Plugin.Intact (plugin : Plugin σ) : Prop where
  named : Text.isBlankText plugin.name = false
  active : plugin.actions ≠ []
  described : ∀ name action, (name, action) ∈ plugin.actions →
    ActionRegistration.Described ⟨name, action⟩

namespace Plugin

variable {registration : PluginRegistration σ}

theorem get?_ofRegistration (sound : registration.Sound) {name : String} {action : Action σ} :
    (ofRegistration registration).actions.get? name = some action ↔
      ⟨name, action⟩ ∈ registration.actions := by
  have distinct :
      (Members.names (registration.actions.map fun entry => (entry.name, entry.action))).Nodup := by
    rw [Members.names, List.map_map]
    exact sound.distinct
  rw [ofRegistration, Members.get?_ofList_eq_some_iff distinct, List.mem_map]
  constructor
  · rintro ⟨entry, inside, same⟩
    cases same
    exact inside
  · intro inside
    exact ⟨_, inside, rfl⟩

theorem ascending_ofRegistration (registration : PluginRegistration σ) :
    (ofRegistration registration).actions.Ascending :=
  Members.ascending_ofList _

theorem mem_ofRegistration (sound : registration.Sound) {name : String} {action : Action σ} :
    (name, action) ∈ (ofRegistration registration).actions ↔
      ⟨name, action⟩ ∈ registration.actions := by
  rw [← get?_ofRegistration sound,
    Members.get?_eq_some_iff (ascending_ofRegistration registration).nodup]

theorem has_ofRegistration (sound : registration.Sound) {name : String} :
    (ofRegistration registration).actions.has name = true ↔ name ∈ registration.actionNames := by
  rw [Members.has, Option.isSome_iff_exists, PluginRegistration.actionNames, List.mem_map]
  simp only [get?_ofRegistration sound]
  constructor
  · rintro ⟨action, inside⟩
    exact ⟨_, inside, rfl⟩
  · rintro ⟨entry, inside, rfl⟩
    exact ⟨entry.action, inside⟩

theorem intact_ofRegistration (sound : registration.Sound) :
    (ofRegistration registration).Intact where
  named := sound.named
  active := by
    obtain ⟨entry, inside⟩ := List.exists_mem_of_ne_nil _ sound.active
    exact List.ne_nil_of_mem ((mem_ofRegistration sound).mpr inside)
  described _ _ inside := sound.described _ ((mem_ofRegistration sound).mp inside)

end Plugin

namespace Registry

variable {registry after : Registry σ} {registration : PluginRegistration σ}

/-! ### One registration -/

theorem place_cases (plugin : Plugin σ) (plugins : List (Plugin σ)) :
    (plugin.name ∉ plugins.map (·.name) ∧ place plugin plugins = plugins ++ [plugin]) ∨
      ∃ before old later, plugins = before ++ old :: later ∧ old.name = plugin.name ∧
        place plugin plugins = before ++ plugin :: later := by
  induction plugins with
  | nil => exact .inl ⟨List.not_mem_nil, rfl⟩
  | cons first plugins ih =>
    by_cases same : first.name = plugin.name
    · exact .inr ⟨[], first, plugins, rfl, same, if_pos same⟩
    · have passed : place plugin (first :: plugins) = first :: place plugin plugins := if_neg same
      rw [passed]
      rcases ih with ⟨fresh, placed⟩ | ⟨before, old, later, rfl, named, placed⟩
      · refine .inl ⟨?_, by rw [placed, List.cons_append]⟩
        simpa [Ne.symm same] using fresh
      · exact .inr ⟨first :: before, old, later, rfl, named, by rw [placed, List.cons_append]⟩

theorem names_place_of_mem (plugin : Plugin σ) {plugins : List (Plugin σ)}
    (known : plugin.name ∈ plugins.map (·.name)) :
    (place plugin plugins).map (·.name) = plugins.map (·.name) := by
  rcases place_cases plugin plugins with ⟨fresh, -⟩ | ⟨before, old, later, rfl, named, placed⟩
  · exact absurd known fresh
  · simp [placed, named]

theorem names_place_of_not_mem (plugin : Plugin σ) {plugins : List (Plugin σ)}
    (fresh : plugin.name ∉ plugins.map (·.name)) :
    (place plugin plugins).map (·.name) = plugins.map (·.name) ++ [plugin.name] := by
  rcases place_cases plugin plugins with ⟨-, placed⟩ | ⟨before, old, later, rfl, named, placed⟩
  · simp [placed]
  · exact absurd (by simp [named]) fresh

theorem mem_place {plugin other : Plugin σ} {plugins : List (Plugin σ)}
    (distinct : (plugins.map (·.name)).Nodup) :
    other ∈ place plugin plugins ↔ other = plugin ∨ other ∈ plugins ∧ other.name ≠ plugin.name := by
  rcases place_cases plugin plugins with ⟨fresh, placed⟩ | ⟨before, old, later, rfl, named, placed⟩
  · have others : ∀ other ∈ plugins, other.name ≠ plugin.name := fun other inside same =>
      fresh (same ▸ List.mem_map_of_mem inside)
    rw [placed, List.mem_append, List.mem_singleton]
    constructor
    · rintro (inside | rfl)
      · exact .inr ⟨inside, others other inside⟩
      · exact .inl rfl
    · rintro (rfl | ⟨inside, -⟩)
      · exact .inr rfl
      · exact .inl inside
  · have others : ∀ other, other ∈ before ∨ other ∈ later → other.name ≠ plugin.name := by
      rw [List.map_append, List.map_cons, List.nodup_middle, List.nodup_cons, ← List.map_append]
        at distinct
      rintro other inside same
      exact distinct.1 (named ▸ same ▸ List.mem_map_of_mem (List.mem_append.mpr inside))
    rw [placed, List.mem_append, List.mem_cons, List.mem_append, List.mem_cons]
    constructor
    · rintro (inside | rfl | inside)
      · exact .inr ⟨.inl inside, others other (.inl inside)⟩
      · exact .inl rfl
      · exact .inr ⟨.inr (.inr inside), others other (.inr inside)⟩
    · rintro (rfl | ⟨inside | rfl | inside, different⟩)
      · exact .inr (.inl rfl)
      · exact .inl inside
      · exact absurd named different
      · exact .inr (.inr inside)

def Free (registry : Registry σ) (registration : PluginRegistration σ) : Prop :=
  ∀ other ∈ registry.plugins, other.name ≠ registration.name →
    ∀ name ∈ registration.actionNames, other.actions.has name = false

theorem owner?_eq_none_iff {plugin action : String} :
    registry.owner? plugin action = none ↔
      ∀ other ∈ registry.plugins, other.name ≠ plugin → other.actions.has action = false := by
  simp [owner?]

theorem collision?_eq_none_iff {plugin : String} {entries : List (ActionRegistration σ)} :
    registry.collision? plugin entries = none ↔
      ∀ entry ∈ entries, registry.owner? plugin entry.name = none := by
  induction entries with
  | nil => simp [collision?]
  | cons entry entries ih =>
    rw [collision?, List.forall_mem_cons]
    cases owned : registry.owner? plugin entry.name with
    | some owner => simp
    | none => simpa using ih

theorem free_iff :
    registry.collision? registration.name registration.actions = none ↔
      registry.Free registration := by
  simp only [collision?_eq_none_iff, owner?_eq_none_iff, Free, PluginRegistration.actionNames,
    List.forall_mem_map]
  exact ⟨fun quiet other inside different entry declared =>
      quiet entry declared other inside different,
    fun quiet entry declared other inside different =>
      quiet other inside different entry declared⟩

theorem register_eq_ok_iff :
    registry.register registration = (.ok (), after) ↔
      registration.Sound ∧ registry.Free registration ∧
        after = ⟨place (.ofRegistration registration) registry.plugins⟩ := by
  rw [← PluginRegistration.check_eq_ok_iff, ← free_iff, register]
  cases registration.check with
  | error fault => simp
  | ok _ =>
    cases registry.collision? registration.name registration.actions with
    | some fault => simp
    | none => simp [eq_comm]

theorem eq_of_register_eq_error {fault : RegistrationError}
    (refused : registry.register registration = (.error fault, after)) : after = registry := by
  unfold register at refused
  split at refused
  next => exact (Prod.ext_iff.mp refused).2.symm
  next =>
    split at refused
    next => exact (Prod.ext_iff.mp refused).2.symm
    next => cases (Prod.ext_iff.mp refused).1

theorem tryRegister_of_ok (accepted : registry.register registration = (.ok (), after)) :
    registry.tryRegister registration = after := by
  rw [tryRegister, accepted]

theorem tryRegister_of_error {fault : RegistrationError}
    (refused : registry.register registration = (.error fault, after)) :
    registry.tryRegister registration = registry := by
  rw [tryRegister, refused, eq_of_register_eq_error refused]

/-! ### Runs -/

def registerAll (registry : Registry σ) (registrations : List (PluginRegistration σ)) :
    Registry σ :=
  registrations.foldl tryRegister registry

theorem registerAll_append (registry : Registry σ) (xs ys : List (PluginRegistration σ)) :
    registry.registerAll (xs ++ ys) = (registry.registerAll xs).registerAll ys :=
  List.foldl_append

/-- What holds of the empty registry and is kept by every accepted registration holds after every
run. -/
theorem registerAll_induction {motive : Registry σ → Prop} (start : motive empty)
    (step : ∀ registry registration after, motive registry →
      registry.register registration = (.ok (), after) → motive after)
    (registrations : List (PluginRegistration σ)) : motive (empty.registerAll registrations) := by
  induction registrations using List.reverseRecOn with
  | nil => exact start
  | append_singleton registrations registration ih =>
    rw [registerAll_append]
    change motive ((empty.registerAll registrations).tryRegister registration)
    rcases ended : (empty.registerAll registrations).register registration with ⟨fault | _, after⟩
    · exact (tryRegister_of_error ended).symm ▸ ih
    · exact tryRegister_of_ok ended ▸ step _ _ _ ih ended

/-- Plugins have distinct names and share no action, and each of them is intact. -/
structure Consistent (registry : Registry σ) : Prop where
  names_nodup : registry.names.Nodup
  one_owner : ∀ plugin ∈ registry.plugins, ∀ other ∈ registry.plugins, ∀ name,
    plugin.actions.has name = true → other.actions.has name = true → plugin = other
  intact : ∀ plugin ∈ registry.plugins, plugin.Intact
  ascending : ∀ plugin ∈ registry.plugins, plugin.actions.Ascending

theorem consistent_empty : (empty : Registry σ).Consistent where
  names_nodup := List.nodup_nil
  one_owner _ inside := absurd inside List.not_mem_nil
  intact _ inside := absurd inside List.not_mem_nil
  ascending _ inside := absurd inside List.not_mem_nil

theorem Consistent.register (consistent : registry.Consistent)
    (accepted : registry.register registration = (.ok (), after)) : after.Consistent := by
  obtain ⟨sound, free, rfl⟩ := register_eq_ok_iff.mp accepted
  have installed {other : Plugin σ}
      (inside : other ∈ place (.ofRegistration registration) registry.plugins) :
      other = .ofRegistration registration ∨
        other ∈ registry.plugins ∧ other.name ≠ registration.name :=
    (mem_place consistent.names_nodup).mp inside
  have apart {other : Plugin σ} {name : String} (inside : other ∈ registry.plugins)
      (different : other.name ≠ registration.name)
      (declared : (Plugin.ofRegistration registration).actions.has name = true) :
      other.actions.has name = false :=
    free other inside different name ((Plugin.has_ofRegistration sound).mp declared)
  constructor
  case names_nodup =>
    change ((place (.ofRegistration registration) registry.plugins).map (·.name)).Nodup
    by_cases known : registration.name ∈ registry.plugins.map (·.name)
    · rw [names_place_of_mem (.ofRegistration registration) known]
      exact consistent.names_nodup
    · rw [names_place_of_not_mem (.ofRegistration registration) known]
      rw [← List.concat_eq_append]
      exact consistent.names_nodup.concat known
  case one_owner =>
    intro plugin here other there name has shared
    rcases installed here with rfl | ⟨here, different⟩
    · rcases installed there with rfl | ⟨there, different⟩
      · rfl
      · rw [apart there different has] at shared
        cases shared
    · rcases installed there with rfl | ⟨there, -⟩
      · rw [apart here different shared] at has
        cases has
      · exact consistent.one_owner plugin here other there name has shared
  case intact =>
    intro plugin inside
    rcases installed inside with rfl | ⟨inside, -⟩
    · exact Plugin.intact_ofRegistration sound
    · exact consistent.intact plugin inside
  case ascending =>
    intro plugin inside
    rcases installed inside with rfl | ⟨inside, -⟩
    · exact Plugin.ascending_ofRegistration registration
    · exact consistent.ascending plugin inside

theorem consistent_registerAll (registrations : List (PluginRegistration σ)) :
    (empty.registerAll registrations).Consistent :=
  registerAll_induction consistent_empty
    (fun _ _ _ consistent accepted => consistent.register accepted) registrations

/-- The owner of an action is found in whatever order the plugins are searched. -/
theorem Consistent.lookup_perm (consistent : registry.Consistent) {order : List (Plugin σ)}
    (same : order.Perm registry.plugins) {name : String} {action : Action σ} :
    lookup ⟨order⟩ name = some action ↔
      ∃ plugin ∈ registry.plugins, (name, action) ∈ plugin.actions := by
  constructor
  · intro found
    obtain ⟨plugin, inside, has⟩ := List.exists_of_findSome?_eq_some found
    exact ⟨plugin, same.mem_iff.mp inside, Members.mem_of_get? has⟩
  · rintro ⟨owner, inside, listed⟩
    have owned : owner.actions.get? name = some action :=
      (Members.get?_eq_some_iff (consistent.ascending owner inside).nodup).mpr listed
    have searched : (lookup ⟨order⟩ name).isSome = true := by
      rw [lookup, List.findSome?_isSome_iff]
      exact ⟨owner, same.mem_iff.mpr inside, by rw [owned]; rfl⟩
    obtain ⟨other, found⟩ := Option.isSome_iff_exists.mp searched
    -- whichever plugin the search ends at, it has the action and so is the owner
    obtain ⟨first, there, has⟩ := List.exists_of_findSome?_eq_some found
    have only : first = owner := consistent.one_owner first (same.mem_iff.mp there) owner inside name
      (by rw [Members.has, has]; rfl) (by rw [Members.has, owned]; rfl)
    rw [only, owned] at has
    rw [found, has]

/-- After any run of registrations, accepted or refused, plugins have distinct names, an action name
belongs to at most one of them and is found there in whatever order they are searched, and nothing
they declare is blank. A registration that is refused leaves the registry as it is. -/
theorem runs_keep_one_owner (registrations : List (PluginRegistration σ)) :
    let registry := empty.registerAll registrations
    registry.names.Nodup ∧
    (∀ plugin ∈ registry.plugins, ∀ other ∈ registry.plugins, ∀ name,
      plugin.actions.has name = true → other.actions.has name = true → plugin = other) ∧
    (∀ order : List (Plugin σ), order.Perm registry.plugins → ∀ name action,
      lookup ⟨order⟩ name = some action ↔
        ∃ plugin ∈ registry.plugins, (name, action) ∈ plugin.actions) ∧
    (∀ plugin ∈ registry.plugins, Text.isBlankText plugin.name = false ∧ plugin.actions ≠ [] ∧
      ∀ name action, (name, action) ∈ plugin.actions →
        Text.isBlankText name = false ∧ Text.isBlankText action.description = false ∧
          ∀ parameter hint, (parameter, hint) ∈ action.parameters →
            Text.isBlankText hint = false) ∧
    ∀ registration fault, (registry.register registration).1 = .error fault →
      (registry.register registration).2 = registry ∧
        empty.registerAll (registrations ++ [registration]) = registry := by
  intro registry
  have consistent : registry.Consistent := consistent_registerAll registrations
  refine ⟨consistent.names_nodup, consistent.one_owner,
    fun order same name action => consistent.lookup_perm same, ?_, ?_⟩
  · intro plugin inside
    obtain ⟨named, active, described⟩ := consistent.intact plugin inside
    refine ⟨named, active, fun name action listed => ?_⟩
    obtain ⟨visible, explained, hinted⟩ := described name action listed
    exact ⟨visible, explained, hinted⟩
  · intro registration fault refused
    have ended : registry.register registration =
        (.error fault, (registry.register registration).2) := Prod.ext refused rfl
    refine ⟨eq_of_register_eq_error ended, ?_⟩
    rw [registerAll_append]
    exact tryRegister_of_error ended

end Registry

namespace House

def gadget (name : String) (actions : List String) : PluginRegistration Nat where
  name := name
  description := name
  actions := actions.map fun action =>
    ⟨action, ⟨action, [("tone", "string")], false, fun _ runs => (.done .null, runs + 1)⟩⟩

/-- The horn would ring like the bell and is refused; the second bell takes the place of the first,
toots and chimes no more. -/
def deliveries : List (PluginRegistration Nat) :=
  [gadget "bell" ["ring", "chime"], gadget "horn" ["toot", "ring"], gadget "lamp" ["glow"],
    gadget "bell" ["ring", "toot"]]

theorem ring_has_one_owner :
    let registry := Registry.empty.registerAll deliveries
    registry.names = ["bell", "lamp"] ∧ registry.names.Nodup ∧
      (∃ action, Registry.lookup ⟨registry.plugins.reverse⟩ "ring" = some action) ∧
      (registry.register (gadget "horn" ["toot"])).2 = registry ∧
      Registry.empty.registerAll (deliveries ++ [gadget "horn" ["toot"]]) = registry := by
  obtain ⟨distinct, -, found, -, unchanged⟩ := Registry.runs_keep_one_owner deliveries
  refine ⟨rfl, distinct, ?_, unchanged _ (.actionCollision "horn" "toot" "bell") rfl⟩
  exact ⟨_, (found _ (List.reverse_perm _) "ring" _).mpr ⟨_, List.mem_cons_self,
    List.mem_cons_self⟩⟩

end House

end CommandGate
