import CommandGate.Proofs.RegistryOwners

/-!
A registry as the record of its history. The names stand in the order in which they were first
accepted, each with what was accepted for it last. So an accepted registration decides what its own
actions come to, takes away those that it drops, and changes nothing else.
-/

namespace CommandGate

namespace Registry

variable {σ : Type} {registry after : Registry σ} {registration : PluginRegistration σ}

def acceptedAmong (registry : Registry σ) : List (PluginRegistration σ) → List (PluginRegistration σ)
  | [] => []
  | registration :: registrations =>
    match registry.register registration with
    | (.ok _, after) => registration :: acceptedAmong after registrations
    | (.error _, after) => acceptedAmong after registrations

theorem acceptedAmong_append (registry : Registry σ) (xs ys : List (PluginRegistration σ)) :
    registry.acceptedAmong (xs ++ ys) =
      registry.acceptedAmong xs ++ (registry.registerAll xs).acceptedAmong ys := by
  induction xs generalizing registry with
  | nil => rfl
  | cons x xs ih =>
    have stepped : registry.registerAll (x :: xs) = (registry.tryRegister x).registerAll xs := rfl
    rw [stepped, List.cons_append, acceptedAmong, acceptedAmong]
    rcases ended : registry.register x with ⟨fault | _, after⟩
    · obtain rfl := eq_of_register_eq_error ended
      simp only [tryRegister_of_error ended, ih]
    · simp only [tryRegister_of_ok ended, ih, List.cons_append]

/-- The registry lists the names of the history in the order of their first occurrence, each with
its last registration. -/
structure Records (registry : Registry σ) (history : List (PluginRegistration σ)) : Prop where
  names : registry.names = (history.map (·.name)).eraseDups
  last : ∀ plugin ∈ registry.plugins, ∃ before last later, history = before ++ last :: later ∧
    (∀ other ∈ later, other.name ≠ last.name) ∧ last.Sound ∧ plugin = .ofRegistration last

theorem records_empty : (empty : Registry σ).Records [] where
  names := rfl
  last _ inside := absurd inside List.not_mem_nil

theorem Records.register {history : List (PluginRegistration σ)} (records : registry.Records history)
    (distinct : registry.names.Nodup) (accepted : registry.register registration = (.ok (), after)) :
    after.Records (history ++ [registration]) := by
  obtain ⟨sound, -, rfl⟩ := register_eq_ok_iff.mp accepted
  constructor
  case names =>
    change (place (.ofRegistration registration) registry.plugins).map (·.name) = _
    have listed : registration.name ∈ registry.plugins.map (·.name) ↔
        registration.name ∈ history.map (·.name) := by
      change registration.name ∈ registry.names ↔ _
      rw [records.names, List.mem_eraseDups]
    rw [List.map_append, List.map_singleton, List.eraseDups_append, ← records.names]
    by_cases known : registration.name ∈ registry.plugins.map (·.name)
    · have gone : [registration.name].removeAll (history.map (·.name)) = [] := by
        simpa [List.removeAll] using List.mem_map.mp (listed.mp known)
      rw [names_place_of_mem (.ofRegistration registration) known, gone,
        List.eraseDups_nil, List.append_nil]
      rfl
    · have kept : [registration.name].removeAll (history.map (·.name)) = [registration.name] := by
        simpa [List.removeAll] using listed.not.mp known
      rw [names_place_of_not_mem (.ofRegistration registration) known, kept]
      rfl
  case last =>
    intro plugin inside
    rcases (mem_place distinct).mp inside with rfl | ⟨inside, different⟩
    · exact ⟨history, registration, [], rfl, nofun, sound, rfl⟩
    · obtain ⟨before, last, later, rfl, none, intact, rfl⟩ := records.last plugin inside
      refine ⟨before, last, later ++ [registration], by simp, ?_, intact, rfl⟩
      intro other there
      rcases List.mem_append.mp there with there | there
      · exact none other there
      · rw [List.mem_singleton.mp there]
        exact Ne.symm different

theorem records_registerAll (registrations : List (PluginRegistration σ)) :
    (empty.registerAll registrations).Records (empty.acceptedAmong registrations) := by
  induction registrations using List.reverseRecOn with
  | nil => exact records_empty
  | append_singleton registrations registration ih =>
    have consistent := consistent_registerAll registrations
    rw [registerAll_append, acceptedAmong_append]
    change ((empty.registerAll registrations).tryRegister registration).Records _
    rcases ended : (empty.registerAll registrations).register registration with ⟨fault | _, after⟩
    · simp only [acceptedAmong, ended, tryRegister_of_error ended, List.append_nil]
      exact ih
    · simp only [acceptedAmong, ended, tryRegister_of_ok ended]
      exact ih.register consistent.names_nodup ended

/-! ### What an accepted registration does to the actions -/

theorem Consistent.lookup_eq_some_iff (consistent : registry.Consistent) {name : String}
    {action : Action σ} :
    registry.lookup name = some action ↔
      ∃ plugin ∈ registry.plugins, (name, action) ∈ plugin.actions :=
  consistent.lookup_perm (List.Perm.refl _)

theorem Consistent.plugin?_eq_some_iff (consistent : registry.Consistent) {name : String}
    {plugin : Plugin σ} :
    registry.plugin? name = some plugin ↔ plugin ∈ registry.plugins ∧ plugin.name = name := by
  constructor
  · intro found
    exact ⟨List.mem_of_find?_eq_some found, by simpa using List.find?_some found⟩
  · rintro ⟨inside, named⟩
    have searched : (registry.plugin? name).isSome = true :=
      List.find?_isSome.mpr ⟨plugin, inside, by simp [named]⟩
    obtain ⟨other, found⟩ := Option.isSome_iff_exists.mp searched
    have same : other.name = name := by simpa using List.find?_some found
    rw [found, List.inj_on_of_nodup_map consistent.names_nodup (List.mem_of_find?_eq_some found)
      inside (same.trans named.symm)]

theorem Consistent.lookup_declared (consistent : registry.Consistent)
    (accepted : registry.register registration = (.ok (), after)) {entry : ActionRegistration σ}
    (declared : entry ∈ registration.actions) : after.lookup entry.name = some entry.action := by
  have next := consistent.register accepted
  obtain ⟨sound, -, rfl⟩ := register_eq_ok_iff.mp accepted
  exact next.lookup_eq_some_iff.mpr ⟨_, (mem_place consistent.names_nodup).mpr (.inl rfl),
    (Plugin.mem_ofRegistration sound).mpr declared⟩

theorem Consistent.lookup_undeclared (consistent : registry.Consistent)
    (accepted : registry.register registration = (.ok (), after)) {name : String}
    (undeclared : name ∉ registration.actionNames) {action : Action σ} :
    after.lookup name = some action ↔ ∃ plugin ∈ registry.plugins,
      plugin.name ≠ registration.name ∧ (name, action) ∈ plugin.actions := by
  have next := consistent.register accepted
  obtain ⟨sound, -, rfl⟩ := register_eq_ok_iff.mp accepted
  rw [next.lookup_eq_some_iff]
  constructor
  · rintro ⟨plugin, inside, listed⟩
    rcases (mem_place consistent.names_nodup).mp inside with rfl | ⟨inside, different⟩
    · have declared := (Plugin.mem_ofRegistration sound).mp listed
      exact absurd (List.mem_map_of_mem declared) undeclared
    · exact ⟨plugin, inside, different, listed⟩
  · rintro ⟨plugin, inside, different, listed⟩
    exact ⟨plugin, (mem_place consistent.names_nodup).mpr (.inr ⟨inside, different⟩), listed⟩

theorem has_of_mem {plugin : Plugin σ} (ascending : plugin.actions.Ascending) {name : String}
    {action : Action σ} (listed : (name, action) ∈ plugin.actions) :
    plugin.actions.has name = true := by
  rw [Members.has, (Members.get?_eq_some_iff ascending.nodup).mpr listed]
  rfl

theorem Consistent.lookup_dropped (consistent : registry.Consistent)
    (accepted : registry.register registration = (.ok (), after)) {name : String}
    (undeclared : name ∉ registration.actionNames) {replaced : Plugin σ}
    (found : registry.plugin? registration.name = some replaced)
    (dropped : replaced.actions.has name = true) : after.lookup name = none := by
  obtain ⟨inside, named⟩ := consistent.plugin?_eq_some_iff.mp found
  refine Option.eq_none_iff_forall_ne_some.mpr fun action still => ?_
  obtain ⟨plugin, there, different, listed⟩ :=
    (consistent.lookup_undeclared accepted undeclared).mp still
  have has := has_of_mem (consistent.ascending plugin there) listed
  exact different ((consistent.one_owner plugin there replaced inside name has dropped) ▸ named)

theorem Consistent.lookup_kept (consistent : registry.Consistent)
    (accepted : registry.register registration = (.ok (), after)) {name : String}
    (undeclared : name ∉ registration.actionNames)
    (foreign : ∀ replaced, registry.plugin? registration.name = some replaced →
      replaced.actions.has name = false) : after.lookup name = registry.lookup name := by
  refine Option.ext fun action => ?_
  rw [consistent.lookup_undeclared accepted undeclared, consistent.lookup_eq_some_iff]
  constructor
  · rintro ⟨plugin, inside, -, listed⟩
    exact ⟨plugin, inside, listed⟩
  · rintro ⟨plugin, inside, listed⟩
    refine ⟨plugin, inside, fun named => ?_, listed⟩
    have lacks := foreign plugin (consistent.plugin?_eq_some_iff.mpr ⟨inside, named⟩)
    rw [has_of_mem (consistent.ascending plugin inside) listed] at lacks
    cases lacks

/-- After any run of registrations, the plugins are the names that were ever accepted, in the order
in which each was accepted first, and each plugin is the registration of its name that was accepted
last. An accepted registration decides what its actions come to, takes away those of the plugin it
replaces that it does not declare, and leaves all others. -/
theorem runs_leave_last_accepted (registrations : List (PluginRegistration σ)) :
    let registry := empty.registerAll registrations
    let history := empty.acceptedAmong registrations
    registry.names = (history.map (·.name)).eraseDups ∧
    (∀ plugin ∈ registry.plugins, ∃ before last later, history = before ++ last :: later ∧
      (∀ other ∈ later, other.name ≠ plugin.name) ∧ plugin.name = last.name ∧
      plugin.description = last.description ∧ plugin.actions.Ascending ∧
      ∀ name action, (name, action) ∈ plugin.actions ↔ ⟨name, action⟩ ∈ last.actions) ∧
    ∀ registration after, registry.register registration = (.ok (), after) →
      (∀ name action, ⟨name, action⟩ ∈ registration.actions →
        after.lookup name = some action) ∧
      ∀ name, name ∉ registration.actions.map (·.name) →
        (∀ replaced, registry.plugin? registration.name = some replaced →
          replaced.actions.has name = true → after.lookup name = none) ∧
        ((∀ replaced, registry.plugin? registration.name = some replaced →
          replaced.actions.has name = false) → after.lookup name = registry.lookup name) := by
  intro registry history
  have consistent : registry.Consistent := consistent_registerAll registrations
  have records : registry.Records history := records_registerAll registrations
  refine ⟨records.names, fun plugin inside => ?_, fun registration after accepted => ⟨?_, ?_⟩⟩
  · obtain ⟨before, last, later, cut, none, sound, rfl⟩ := records.last plugin inside
    exact ⟨before, last, later, cut, none, rfl, rfl, Plugin.ascending_ofRegistration last,
      fun name action => Plugin.mem_ofRegistration sound⟩
  · intro name action declared
    exact consistent.lookup_declared accepted declared
  · intro name undeclared
    exact ⟨fun replaced found dropped =>
        consistent.lookup_dropped accepted undeclared found dropped,
      fun foreign => consistent.lookup_kept accepted undeclared foreign⟩

end Registry

namespace House

theorem second_bell_chimes_no_more :
    let registry := Registry.empty.registerAll (deliveries.take 3)
    registry.names = ["bell", "lamp"] ∧
      ∃ after, registry.register (gadget "bell" ["ring", "toot"]) = (.ok (), after) ∧
        (∃ action, after.lookup "toot" = some action) ∧
        after.lookup "chime" = none ∧ after.lookup "glow" = registry.lookup "glow" := by
  obtain ⟨names, -, changes⟩ := Registry.runs_leave_last_accepted (deliveries.take 3)
  refine ⟨names, _, rfl, ?_⟩
  obtain ⟨declared, others⟩ := changes (gadget "bell" ["ring", "toot"]) _ rfl
  refine ⟨⟨_, declared "toot" _ (List.mem_cons_of_mem _ List.mem_cons_self)⟩,
    (others "chime" (by decide)).1 _ rfl rfl, (others "glow" (by decide)).2 ?_⟩
  intro replaced found
  cases found
  rfl

end House

end CommandGate
