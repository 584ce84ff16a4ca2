import CommandGate.Plugin.Registration

/-!
What the check of a registration lets through: a name that is not blank, at least one action, and
actions under distinct names in whose declarations nothing is blank.
-/

namespace CommandGate

variable {σ : Type}

structure ActionRegistration.Described (entry : ActionRegistration σ) : Prop where
  named : Text.isBlankText entry.name = false
  described : Text.isBlankText entry.action.description = false
  hinted : ∀ parameter hint, (parameter, hint) ∈ entry.action.parameters →
    Text.isBlankText hint = false

namespace PluginRegistration

def actionNames (registration : PluginRegistration σ) : List String :=
  registration.actions.map (·.name)

theorem actionFault?_eq_none_iff {plugin : String} {seen : List String}
    {entry : ActionRegistration σ} :
    actionFault? plugin seen entry = none ↔ entry.name ∉ seen ∧ entry.Described := by
  unfold actionFault?
  constructor
  · intro quiet
    split at quiet
    · cases quiet
    next named =>
      split at quiet
      · cases quiet
      next fresh =>
        split at quiet
        · cases quiet
        next described =>
          rw [Option.map_eq_none_iff, List.find?_eq_none] at quiet
          refine ⟨by simpa using fresh, by simpa using named, by simpa using described, ?_⟩
          intro parameter hint inside
          simpa using quiet (parameter, hint) inside
  · rintro ⟨fresh, named, described, hinted⟩
    rw [if_neg (by simp [named]), if_neg (by simp [fresh]), if_neg (by simp [described]),
      Option.map_eq_none_iff, List.find?_eq_none]
    intro member inside
    simp [hinted member.1 member.2 inside]

theorem actionsFault?_eq_none_iff {plugin : String} {seen : List String}
    {entries : List (ActionRegistration σ)} :
    actionsFault? plugin seen entries = none ↔
      (∀ entry ∈ entries, entry.name ∉ seen ∧ entry.Described) ∧
        (entries.map (·.name)).Nodup := by
  induction entries generalizing seen with
  | nil => simp [actionsFault?]
  | cons first entries ih =>
    have here : actionFault? plugin seen first = none ↔ first.name ∉ seen ∧ first.Described :=
      actionFault?_eq_none_iff
    rw [actionsFault?, List.forall_mem_cons, List.map_cons, List.nodup_cons]
    cases fault : actionFault? plugin seen first with
    | some found =>
      have faulty : ¬(first.name ∉ seen ∧ first.Described) := by
        rw [← here, fault]
        exact nofun
      exact iff_of_false nofun fun passed => faulty passed.1.1
    | none =>
      have quiet := here.mp fault
      rw [ih]
      -- to be fresh after the first action is to be fresh before it and named differently
      have fresh : (∀ entry ∈ entries, entry.name ∉ first.name :: seen ∧ entry.Described) ↔
          (∀ entry ∈ entries, entry.name ∉ seen ∧ entry.Described) ∧
            first.name ∉ entries.map (·.name) := by
        simp only [List.mem_cons, List.mem_map, not_or, not_exists, not_and]
        constructor
        · intro passed
          exact ⟨fun entry inside => ⟨(passed entry inside).1.2, (passed entry inside).2⟩,
            fun entry inside => (passed entry inside).1.1⟩
        · rintro ⟨passed, other⟩ entry inside
          exact ⟨⟨other entry inside, (passed entry inside).1⟩, (passed entry inside).2⟩
      rw [fresh]
      exact ⟨fun ⟨⟨passed, other⟩, distinct⟩ => ⟨⟨quiet, passed⟩, other, distinct⟩,
        fun ⟨⟨_, passed⟩, other, distinct⟩ => ⟨⟨passed, other⟩, distinct⟩⟩

/-- What the registry may rely on in an accepted registration. -/
structure Sound (registration : PluginRegistration σ) : Prop where
  named : Text.isBlankText registration.name = false
  active : registration.actions ≠ []
  distinct : registration.actionNames.Nodup
  described : ∀ entry ∈ registration.actions, entry.Described

theorem check_eq_ok_iff {registration : PluginRegistration σ} :
    registration.check = .ok () ↔ registration.Sound := by
  unfold check
  constructor
  · intro passed
    split at passed
    · cases passed
    next named =>
      split at passed
      · cases passed
      next active =>
        split at passed
        · cases passed
        next quiet =>
          obtain ⟨described, distinct⟩ := actionsFault?_eq_none_iff.mp quiet
          exact ⟨by simpa using named, by simpa using active, distinct,
            fun entry inside => (described entry inside).2⟩
  · rintro ⟨named, active, distinct, described⟩
    have quiet : actionsFault? registration.name [] registration.actions = none :=
      actionsFault?_eq_none_iff.mpr
        ⟨fun entry inside => ⟨List.not_mem_nil, described entry inside⟩, distinct⟩
    simp [named, active, quiet]

end PluginRegistration

end CommandGate
