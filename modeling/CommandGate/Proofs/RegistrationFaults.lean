import CommandGate.Proofs.MemberOrder
import CommandGate.Proofs.RegistrationCheck

/-!
What the check of a registration reports. A plugin without a name, or without actions, is told so
first. Otherwise the report is about the first action that has a fault, and about its first fault;
the actions before it are described and differ in their names.
-/

namespace CommandGate

variable {σ : Type}

theorem Members.find?_eq_some_iff {α : Type} {members : Members α} {p : String × α → Bool}
    {name : String} {value : α} (ascending : members.Ascending) :
    members.find? p = some (name, value) ↔
      (name, value) ∈ members ∧ p (name, value) = true ∧
        ∀ entry ∈ members, entry.1 < name → p entry = false := by
  have apart : members.Pairwise (·.1 < ·.1) := List.pairwise_map.mp ascending
  rw [List.find?_eq_some_iff_append]
  constructor
  · rintro ⟨holds, front, back, rfl, before⟩
    refine ⟨by simp, holds, fun entry inside less => ?_⟩
    obtain ⟨-, later, -⟩ := List.pairwise_append.mp apart
    rcases List.mem_append.mp inside with ahead | behind
    · simpa using before entry ahead
    · rcases List.mem_cons.mp behind with rfl | after
      · exact absurd less (lt_irrefl _)
      · exact absurd less (lt_asymm ((List.pairwise_cons.mp later).1 entry after))
  · rintro ⟨inside, holds, least⟩
    obtain ⟨front, back, rfl⟩ := List.append_of_mem inside
    obtain ⟨-, -, ahead⟩ := List.pairwise_append.mp apart
    refine ⟨holds, front, back, rfl, fun entry early => ?_⟩
    have less : entry.1 < name := ahead entry early (name, value) List.mem_cons_self
    simp [least entry (List.mem_append_left _ early) less]

namespace ActionRegistration

/-- The first fault of an action, where actions before it have the names `taken`. -/
inductive FirstFault (plugin : String) (taken : List String) (entry : ActionRegistration σ) :
    RegistrationError → Prop where
  | unnamed (blank : Text.isBlankText entry.name = true) :
      FirstFault plugin taken entry (.emptyActionName plugin)
  | repeated (named : Text.isBlankText entry.name = false) (used : entry.name ∈ taken) :
      FirstFault plugin taken entry (.duplicateAction plugin entry.name)
  | undescribed (named : Text.isBlankText entry.name = false) (fresh : entry.name ∉ taken)
      (blank : Text.isBlankText entry.action.description = true) :
      FirstFault plugin taken entry (.missingDescription plugin entry.name)
  | unhinted {parameter hint : String} (named : Text.isBlankText entry.name = false)
      (fresh : entry.name ∉ taken)
      (described : Text.isBlankText entry.action.description = false)
      (listed : (parameter, hint) ∈ entry.action.parameters)
      (blank : Text.isBlankText hint = true)
      (first : ∀ other ∈ entry.action.parameters, other.1 < parameter →
        Text.isBlankText other.2 = false) :
      FirstFault plugin taken entry (.missingTypeHint plugin entry.name parameter)

def Sorted (entry : ActionRegistration σ) : Prop := entry.action.parameters.Ascending

variable {plugin : String} {seen taken : List String} {entry : ActionRegistration σ}
  {fault : RegistrationError}

theorem FirstFault.of_subset (faulty : entry.FirstFault plugin seen fault)
    (same : ∀ name, name ∈ seen ↔ name ∈ taken) : entry.FirstFault plugin taken fault := by
  cases faulty with
  | unnamed blank => exact .unnamed blank
  | repeated named used => exact .repeated named ((same _).mp used)
  | undescribed named fresh blank => exact .undescribed named (mt (same _).mpr fresh) blank
  | unhinted named fresh described listed blank first =>
    exact .unhinted named (mt (same _).mpr fresh) described listed blank first

end ActionRegistration

namespace PluginRegistration

variable {plugin : String} {seen : List String} {entry : ActionRegistration σ}
  {entries : List (ActionRegistration σ)} {fault : RegistrationError}

theorem actionFault?_eq_some_iff (sorted : entry.Sorted) :
    actionFault? plugin seen entry = some fault ↔ entry.FirstFault plugin seen fault := by
  unfold actionFault?
  constructor
  · intro found
    split at found
    next blank =>
      cases found
      exact .unnamed blank
    next named =>
      rw [Bool.not_eq_true] at named
      split at found
      next used =>
        cases found
        exact .repeated named (by simpa using used)
      next fresh =>
        have unused : entry.name ∉ seen := by simpa using fresh
        split at found
        next blank =>
          cases found
          exact .undescribed named unused blank
        next described =>
          rw [Bool.not_eq_true] at described
          obtain ⟨⟨parameter, hint⟩, first, rfl⟩ := Option.map_eq_some_iff.mp found
          obtain ⟨listed, blank, least⟩ := (Members.find?_eq_some_iff sorted).mp first
          exact .unhinted named unused described listed blank least
  · intro faulty
    cases faulty with
    | unnamed blank => rw [if_pos blank]
    | repeated named used => simp [named, used]
    | undescribed named fresh blank => simp [named, fresh, blank]
    | unhinted named fresh described listed blank first =>
      have found := (Members.find?_eq_some_iff sorted).mpr ⟨listed, blank, first⟩
      simp [named, fresh, described, found]

theorem actionsFault?_append {front : List (ActionRegistration σ)}
    (quiet : actionsFault? plugin seen front = none) :
    actionsFault? plugin seen (front ++ entries) =
      actionsFault? plugin ((front.map (·.name)).reverse ++ seen) entries := by
  induction front generalizing seen with
  | nil => rfl
  | cons first front ih =>
    rw [actionsFault?] at quiet
    rw [List.cons_append, actionsFault?]
    cases here : actionFault? plugin seen first with
    | some fault => simp [here] at quiet
    | none =>
      simp only [here] at quiet
      simp [ih quiet]

theorem actionsFault?_eq_some_iff :
    actionsFault? plugin seen entries = some fault ↔
      ∃ front entry back, entries = front ++ entry :: back ∧
        actionsFault? plugin seen front = none ∧
        actionFault? plugin ((front.map (·.name)).reverse ++ seen) entry = some fault := by
  constructor
  · intro found
    induction entries generalizing seen with
    | nil => cases found
    | cons first entries ih =>
      rw [actionsFault?] at found
      cases here : actionFault? plugin seen first with
      | some early =>
        simp only [here, Option.some.injEq] at found
        subst found
        exact ⟨[], first, entries, rfl, rfl, here⟩
      | none =>
        simp only [here] at found
        obtain ⟨front, entry, back, rfl, quiet, faulty⟩ := ih found
        refine ⟨first :: front, entry, back, rfl, ?_, ?_⟩
        · simpa only [actionsFault?, here] using quiet
        · simpa using faulty
  · rintro ⟨front, entry, back, rfl, quiet, faulty⟩
    rw [actionsFault?_append quiet, actionsFault?, faulty]

/-- The first fault of a registration: of the plugin, or of the first action that has one. -/
inductive FirstFault (registration : PluginRegistration σ) : RegistrationError → Prop where
  | unnamed (blank : Text.isBlankText registration.name = true) :
      FirstFault registration .emptyName
  | inactive (named : Text.isBlankText registration.name = false)
      (nothing : registration.actions = []) :
      FirstFault registration (.noActions registration.name)
  | action {front back : List (ActionRegistration σ)} {entry : ActionRegistration σ}
      {fault : RegistrationError} (named : Text.isBlankText registration.name = false)
      (listed : registration.actions = front ++ entry :: back)
      (described : ∀ earlier ∈ front, earlier.Described)
      (distinct : (front.map (·.name)).Nodup)
      (faulty : entry.FirstFault registration.name (front.map (·.name)) fault) :
      FirstFault registration fault

theorem check_eq_error_iff {registration : PluginRegistration σ}
    (sorted : ∀ entry ∈ registration.actions, entry.Sorted) :
    registration.check = .error fault ↔ registration.FirstFault fault := by
  have among (front : List (ActionRegistration σ)) (name : String) :
      name ∈ (front.map (·.name)).reverse ++ [] ↔ name ∈ front.map (·.name) := by simp
  unfold check
  constructor
  · intro refused
    split at refused
    next blank =>
      cases refused
      exact .unnamed blank
    next named =>
      rw [Bool.not_eq_true] at named
      split at refused
      next nothing =>
        cases refused
        exact .inactive named (List.isEmpty_iff.mp nothing)
      next active =>
        split at refused
        next early found =>
          cases refused
          obtain ⟨front, entry, back, listed, quiet, faulty⟩ := actionsFault?_eq_some_iff.mp found
          obtain ⟨described, distinct⟩ := actionsFault?_eq_none_iff.mp quiet
          have inside : entry ∈ registration.actions := by simp [listed]
          exact .action named listed (fun earlier early => (described earlier early).2) distinct
            (((actionFault?_eq_some_iff (sorted entry inside)).mp faulty).of_subset (among front))
        next quiet => cases refused
  · intro faulty
    cases faulty with
    | unnamed blank => rw [if_pos blank]
    | inactive named nothing => simp [named, nothing]
    | @action front back entry _ named listed described distinct faulty =>
      have quiet : actionsFault? registration.name [] front = none :=
        actionsFault?_eq_none_iff.mpr
          ⟨fun earlier early => ⟨List.not_mem_nil, described earlier early⟩, distinct⟩
      have inside : entry ∈ registration.actions := by simp [listed]
      have here := (actionFault?_eq_some_iff (sorted entry inside)).mpr
        (faulty.of_subset fun name => (among front name).symm)
      have found : actionsFault? registration.name [] registration.actions = some fault :=
        actionsFault?_eq_some_iff.mpr ⟨front, entry, back, listed, quiet, here⟩
      have active : registration.actions.isEmpty = false := by simp [listed]
      simp [named, active, found]

/-- The check passes exactly if the plugin and all its actions are named and described and no two
actions share a name. Otherwise it reports the first fault: of the plugin, else the first one of the
first faulty action, of blank hints that of the least parameter. -/
theorem checks_pass_or_report_the_first_fault (registration : PluginRegistration σ) :
    (registration.check = .ok () ↔ registration.Sound) ∧
      ((∃ fault, registration.check = .error fault) ↔ ¬registration.Sound) ∧
      ((∀ entry ∈ registration.actions, entry.Sorted) →
        ∀ fault, registration.check = .error fault ↔ registration.FirstFault fault) := by
  refine ⟨check_eq_ok_iff, ?_, fun sorted fault => check_eq_error_iff sorted⟩
  rw [← check_eq_ok_iff]
  cases registration.check <;> simp

end PluginRegistration

namespace House

def hum (description : String) : ActionRegistration Nat :=
  ⟨"hum", ⟨description, [("tone", "string")], false, .pure fun _ => .ok .null⟩⟩

def sigh : ActionRegistration Nat :=
  ⟨"sigh", ⟨"Sighs", [("key", "string"), ("length", "\t"), ("tone", "")], false,
    .pure fun _ => .ok .null⟩⟩

def organ : PluginRegistration Nat := ⟨"organ", "", [hum "Hums", sigh, hum " "]⟩

theorem sigh_is_unhinted (plugin : String) :
    sigh.FirstFault plugin ["hum"] (.missingTypeHint plugin "sigh" "length") := by
  have least : ∀ other ∈ sigh.action.parameters, other.1 < "length" →
      Text.isBlankText other.2 = false := by
    simp only [sigh, List.forall_mem_cons]
    exact ⟨fun _ => rfl, fun less => absurd less (by decide), fun less => absurd less (by decide),
      nofun⟩
  have listed : ("length", "\t") ∈ sigh.action.parameters := by decide
  have unhinted : sigh.FirstFault plugin ["hum"] (.missingTypeHint plugin sigh.name "length") :=
    .unhinted rfl (by decide) rfl listed rfl least
  exact unhinted

theorem organ_is_refused_for_a_sigh :
    (∀ entry ∈ organ.actions, entry.Sorted) ∧ ¬organ.Sound ∧
      organ.check = .error (.missingTypeHint "organ" "sigh" "length") := by
  have sorted : ∀ entry ∈ organ.actions, entry.Sorted := by
    simp only [organ, List.forall_mem_cons, ActionRegistration.Sorted, Members.Ascending]
    exact ⟨by decide, by decide, by decide, nofun⟩
  obtain ⟨-, refused, reported⟩ :=
    PluginRegistration.checks_pass_or_report_the_first_fault organ
  have described : ∀ earlier ∈ [hum "Hums"], earlier.Described := by
    rw [List.forall_mem_singleton]
    refine ⟨rfl, rfl, fun parameter hint listed => ?_⟩
    cases List.mem_singleton.mp listed
    rfl
  have listed : organ.actions = [hum "Hums"] ++ sigh :: [hum " "] := rfl
  have faulty : organ.FirstFault (.missingTypeHint "organ" "sigh" "length") :=
    .action rfl listed described (List.nodup_singleton _) (sigh_is_unhinted "organ")
  have told := (reported sorted _).mpr faulty
  exact ⟨sorted, refused.mp ⟨_, told⟩, told⟩

end House

end CommandGate
