import CommandGate.Proofs.LoweringInPlace
import CommandGate.Proofs.Mediation
import CommandGate.Proofs.WrittenTexts

/-!
The text in which denied patterns are looked for. That of a node stands inside that of every chain
around it, so a pattern in a task is found at the outermost chain already. A pattern that stands
verbatim in the JSON text of a command is found where its capital sigmas are lowered there as by
themselves; a sigma at either end of the pattern may not be.
-/

namespace CommandGate

namespace Command

/-! ### The JSON text of a node inside that of its command -/

theorem exists_members_toJson (command : Command) :
    ∃ members, command.toJson = .object members := by
  cases command with
  | tool call => exact ⟨_, rfl⟩
  | chain tasks => exact ⟨_, rfl⟩
  | text message => exact ⟨_, rfl⟩
  | error message => exact ⟨_, rfl⟩

/-- The braces around the text of a command shut its sigmas off from what stands beside it. -/
theorem enclosed_write (command : Command) : Text.Enclosed command.toJson.write := by
  obtain ⟨members, object⟩ := command.exists_members_toJson
  rw [object, Json.write]
  exact Text.enclosed_of_ends (by decide +kernel) (by decide +kernel) _

theorem toJson_mem_toJsonAll {task : Command} {tasks : List Command} (inside : task ∈ tasks) :
    task.toJson ∈ toJsonAll tasks := by
  induction tasks with
  | nil => cases inside
  | cons first tasks ih =>
    rcases List.mem_cons.mp inside with rfl | later
    · exact List.mem_cons_self
    · exact List.mem_cons_of_mem _ (ih later)

theorem write_infix_write_chain {task : Command} {tasks : List Command} (inside : task ∈ tasks) :
    task.toJson.write <:+: (chain tasks).toJson.write := by
  have inTasks : task.toJson.write <:+: (Json.array (toJsonAll tasks)).write :=
    Json.write_infix_write_array (toJson_mem_toJsonAll inside)
  have member : ("tasks", Json.array (toJsonAll tasks)) ∈
      [("action", Json.string chainAction), ("tasks", Json.array (toJsonAll tasks))] :=
    List.mem_cons_of_mem _ List.mem_cons_self
  exact inTasks.trans (Json.write_infix_write_object member)

theorem write_at?_infix_write {command node : Command} {path : List Nat}
    (found : command.at? path = some node) : node.toJson.write <:+: command.toJson.write := by
  induction path generalizing command with
  | nil =>
    rw [at?_nil, Option.some.injEq] at found
    rw [found]
  | cons index path ih =>
    cases command with
    | chain tasks =>
      obtain ⟨task, there, below⟩ := at?_chain_cons.mp found
      exact (ih below).trans (write_infix_write_chain (List.mem_of_getElem? there))
    | tool call => cases found
    | text message => cases found
    | error message => cases found

end Command

def Rejection.cause : Rejection → Rejection
  | .chainTask _ source => source.cause
  | rejection => rejection

theorem Rejection.cause_under (path : List Nat) (fault : Rejection) :
    (Rejection.under path fault).cause = fault.cause := by
  induction path with
  | nil => rfl
  | cons index path ih => rw [under, cause, ih]

namespace Policy

variable {settings : PolicySettings} {authorize : Command → Bool} {command node : Command}
  {path : List Nat}

/-! ### Patterns in the nodes of a chain -/

theorem scannedText_infix_scannedText (found : command.at? path = some node) :
    scannedText node <:+: scannedText command := by
  obtain ⟨before, after, cut⟩ := Command.write_at?_infix_write found
  rw [scannedText, scannedText, ← cut]
  exact Text.lower_infix_lower (node.enclosed_write.keepsSigmas _ _)

theorem Occurs.of_at? {pattern : String} (found : command.at? path = some node)
    (occurs : Occurs pattern node) : Occurs pattern command :=
  occurs.trans (scannedText_infix_scannedText found)

theorem FirstFault.cause {fault : Rejection} (fails : FirstFault settings authorize node fault) :
    fault.cause = fault := by
  cases fails <;> rfl

theorem exists_occurs_of_firstFault {text : String}
    (fails : FirstFault settings authorize node (.deniedPattern text)) :
    ∃ pattern ∈ settings.deniedPatterns, pattern ≠ "" ∧ Occurs pattern node := by
  cases fails with
  | deniedPattern before pattern after _ _ listed nonempty occurs _ =>
    exact ⟨pattern, by simp [listed], nonempty, occurs⟩

theorem check_chain_of_occurs {tasks : List Command} {pattern : String}
    (listed : pattern ∈ settings.deniedPatterns) (nonempty : pattern ≠ "")
    (occurs : Occurs pattern (.chain tasks)) :
    ∃ first,
      (ofSettings settings authorize).check (.chain tasks) = .error (.deniedPattern first) := by
  cases denied : (ofSettings settings authorize).deniedPattern? (.chain tasks) with
  | none => exact absurd occurs (deniedPattern?_eq_none_iff.mp denied pattern listed nonempty)
  | some first =>
    refine ⟨first, check_of_fault ?_⟩
    rw [nodeFault?, denied]
    rfl

/-- A rejection for a denied pattern is about the command as a whole: when the check comes to a
task, no pattern occurs in the text that holds all of them. -/
theorem eq_deniedPattern_of_cause {rejection : Rejection} {text : String}
    (refused : (ofSettings settings authorize).check command = .error rejection)
    (cause : rejection.cause = .deniedPattern text) : rejection = .deniedPattern text := by
  obtain ⟨path, fault, ⟨⟨node, found, fails⟩, earlier⟩, rfl⟩ := check_eq_error_iff.mp refused
  have first := nodeFault?_eq_some_iff.mp fails
  rw [Rejection.cause_under, first.cause] at cause
  subst cause
  cases path with
  | nil => rfl
  | cons index path =>
    have quiet := earlier [] (List.nil_lt_cons index path) command (Command.at?_nil command)
    obtain ⟨pattern, listed, nonempty, occurs⟩ := exists_occurs_of_firstFault first
    exact absurd (occurs.of_at? found)
      ((nodeFault?_eq_none_iff.mp quiet).clean pattern listed nonempty)

/-- No task of a chain is ever rejected for a denied pattern. The lower-cased text of a node stands
inside that of every command around it, so a pattern that occurs in it occurs in the outermost
chain, which is rejected for a pattern before its tasks are looked at. -/
theorem denied_patterns_are_reported_at_the_top (settings : PolicySettings)
    (authorize : Command → Bool) (command : Command) :
    (∀ rejection text, (ofSettings settings authorize).check command = .error rejection →
      rejection.cause = .deniedPattern text → rejection = .deniedPattern text) ∧
    ∀ path node, command.at? path = some node →
      Text.lower node.toJson.write <:+: Text.lower command.toJson.write ∧
      ∀ pattern ∈ settings.deniedPatterns, pattern ≠ "" → Occurs pattern node →
        Occurs pattern command ∧
        ∀ tasks, command = .chain tasks → ∃ first,
          (ofSettings settings authorize).check command = .error (.deniedPattern first) := by
  refine ⟨fun rejection text refused cause => eq_deniedPattern_of_cause refused cause,
    fun path node found => ⟨scannedText_infix_scannedText found, ?_⟩⟩
  intro pattern listed nonempty occurs
  have outer : Occurs pattern command := occurs.of_at? found
  refine ⟨outer, ?_⟩
  rintro tasks rfl
  exact check_chain_of_occurs listed nonempty outer

end Policy

namespace House

/-- The pattern stands in the inner chain only, next to a reply that could not be dispatched. -/
theorem off_in_a_task_is_reported_at_the_top :
    let inner : Command := .chain [.text "", .tool ⟨"ring", [("tone", .string "oFF")], none⟩]
    let outer : Command := .chain [.tool ⟨"ring", [], none⟩, inner]
    Text.lower inner.toJson.write <:+: Text.lower outer.toJson.write ∧
    ∃ first, (Policy.ofSettings settings.policy Policy.permitAll).check outer =
      .error (.deniedPattern first) := by
  intro inner outer
  obtain ⟨-, nodes⟩ := Policy.denied_patterns_are_reported_at_the_top settings.policy
    Policy.permitAll outer
  obtain ⟨inside, found⟩ := nodes [1] inner rfl
  obtain ⟨-, refused⟩ := found "Off" (by decide) (by decide) (by decide +kernel)
  exact ⟨inside, refused _ rfl⟩

end House

namespace Policy

variable {settings : PolicySettings} {authorize : Command → Bool} {command : Command}

/-! ### Patterns that stand verbatim in the text -/

theorem check_ne_ok_of_occurs {pattern : String} (listed : pattern ∈ settings.deniedPatterns)
    (nonempty : pattern ≠ "") (occurs : Occurs pattern command) :
    (ofSettings settings authorize).check command ≠ .ok () := by
  intro accepted
  have quiet := check_eq_ok_iff.mp accepted [] command (Command.at?_nil command)
  exact (nodeFault?_eq_none_iff.mp quiet).clean pattern listed nonempty occurs

theorem occurs_of_keepsSigmas {pattern : String} {before after : List Char}
    (text : command.toJson.write = before ++ pattern.toList ++ after)
    (keeps : Text.KeepsSigmas before.reverse pattern.toList after) : Occurs pattern command := by
  rw [Occurs, text]
  exact Text.lower_infix_lower keeps

/-- A command is refused if a denied pattern stands verbatim in its text where the capital sigmas of
the pattern have the forms that they have in the pattern by itself. This is so wherever the pattern
stands if it has no capital sigma, or other characters at both ends. -/
theorem verbatim_patterns_are_refused (settings : PolicySettings) (authorize : Command → Bool)
    (command : Command) (pattern : String) (listed : pattern ∈ settings.deniedPatterns)
    (nonempty : pattern ≠ "") :
    (∀ before after, command.toJson.write = before ++ pattern.toList ++ after →
      Text.KeepsSigmas before.reverse pattern.toList after →
        (ofSettings settings authorize).check command ≠ .ok ()) ∧
    ('Σ' ∉ pattern.toList ∨ Text.Enclosed pattern.toList →
      pattern.toList <:+: command.toJson.write →
        (ofSettings settings authorize).check command ≠ .ok ()) := by
  have refused : ∀ before after, command.toJson.write = before ++ pattern.toList ++ after →
      Text.KeepsSigmas before.reverse pattern.toList after →
        (ofSettings settings authorize).check command ≠ .ok () :=
    fun before after text keeps =>
      check_ne_ok_of_occurs listed nonempty (occurs_of_keepsSigmas text keeps)
  refine ⟨refused, ?_⟩
  rintro shape ⟨before, after, cut⟩
  refine refused before after cut.symm ?_
  rcases shape with absent | enclosed
  · exact Text.keepsSigmas_of_not_mem absent
  · exact enclosed.keepsSigmas _ _

end Policy

namespace House

def toned (tone : String) : Command := .tool ⟨"ring", [("tone", .string tone)], none⟩

def denying (pattern : String) : PolicySettings :=
  { allowedActions := ["ring"], deniedPatterns := [pattern] }

theorem enclosed_sigma_is_refused :
    (Policy.ofSettings (denying "ΟΣΟ") Policy.permitAll).check (toned "ΠΟΣΟ") ≠ .ok () := by
  have refused := Policy.verbatim_patterns_are_refused (denying "ΟΣΟ") Policy.permitAll
    (toned "ΠΟΣΟ") "ΟΣΟ" (by decide) (by decide)
  have enclosed : Text.Enclosed "ΟΣΟ".toList :=
    Text.enclosed_of_ends (by decide +kernel) (by decide +kernel) ['Σ']
  exact refused.2 (.inr enclosed) (Text.contains_iff_infix.mp (by decide +kernel))

/-- The sigma ends the pattern but not the word in the text, so that they are lowered to two
different letters. -/
theorem sigma_slips_through :
    "ΑΣ" ∈ (denying "ΑΣ").deniedPatterns ∧ "ΑΣ".toList <:+: (toned "ΑΣΑ").toJson.write ∧
      (Policy.ofSettings (denying "ΑΣ") Policy.permitAll).check (toned "ΑΣΑ") = .ok () := by
  exact ⟨List.mem_cons_self, Text.contains_iff_infix.mp (by decide +kernel), by decide +kernel⟩

/-- A sigma by itself is lowered as inside a word, where the text has it at the end of one. -/
example :
    "Σ".toList <:+: (toned "ΑΣ").toJson.write ∧
      (Policy.ofSettings (denying "Σ") Policy.permitAll).check (toned "ΑΣ") = .ok () :=
  ⟨Text.contains_iff_infix.mp (by decide +kernel), by decide +kernel⟩

end House

end CommandGate
