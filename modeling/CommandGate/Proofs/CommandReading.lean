import CommandGate.Command.Json

/-!
Commands read from JSON. No leaf of a command that was read bears the reserved name of chains, and a
call under any other name is read back from its own JSON.
-/

namespace CommandGate.Command

theorem bind_eq_ok_iff {α β ε : Type} {first : Except ε α} {next : α → Except ε β} {b : β} :
    first.bind next = .ok b ↔ ∃ a, first = .ok a ∧ next a = .ok b := by
  cases first <;> simp [Except.bind]

theorem map_eq_ok_iff {α β ε : Type} {first : Except ε α} {f : α → β} {b : β} :
    first.map f = .ok b ↔ ∃ a, first = .ok a ∧ f a = b := by
  cases first <;> simp [Except.map]

theorem replyHead_ne_tool (status : String) (members : Fields) (call : ToolCall) :
    replyHead status members ≠ .ok (.tool call) := by
  intro read
  obtain ⟨message, -, read⟩ := bind_eq_ok_iff.mp read
  split at read
  · cases read
  · split at read <;> cases read

theorem action_ne_of_actionHead {action : Json} {members : Fields} {call : ToolCall}
    (read : actionHead action members = .ok (.tool call)) : call.action ≠ chainAction := by
  unfold actionHead at read
  split at read
  · split at read
    · cases read
    next unreserved =>
      obtain ⟨parameters, -, read⟩ := bind_eq_ok_iff.mp read
      obtain ⟨confirm, -, same⟩ := map_eq_ok_iff.mp read
      cases same
      exact unreserved
  · cases read

theorem action_ne_of_headOf {members : Fields} {call : ToolCall}
    (read : headOf members = .ok (.tool call)) : call.action ≠ chainAction := by
  unfold headOf at read
  split at read
  · exact action_ne_of_actionHead read
  · split at read
    · exact absurd read (replyHead_ne_tool _ _ _)
    · cases read

mutual

theorem action_ne_of_ofJson : ∀ {value : Json} {command : Command},
    ofJson value = .ok command → ∀ leaf ∈ leaves command, leaf.action ≠ chainAction
  | .object members, command, read => by
    rw [ofJson] at read
    split at read
    · cases read
    next call head =>
      cases read
      intro leaf inside
      rw [leaves, List.mem_singleton] at inside
      rw [inside]
      exact action_ne_of_headOf head
    · cases read
      exact nofun
    · cases read
      exact nofun
    · split at read
      · cases read
      next tasks below =>
        cases read
        exact action_ne_of_tasksIn below
  | .null, _, read | .bool _, _, read | .number _, _, read | .string _, _, read
  | .array _, _, read => by cases read

theorem action_ne_of_tasksIn : ∀ {members : List (String × Json)} {tasks : List Command},
    tasksIn members = .ok tasks → ∀ leaf ∈ leavesOfAll tasks, leaf.action ≠ chainAction
  | [], tasks, read => by
    cases read
    exact nofun
  | (name, value) :: members, tasks, read => by
    rw [tasksIn] at read
    split at read
    · exact action_ne_of_tasksOf read
    · exact action_ne_of_tasksIn read

theorem action_ne_of_tasksOf : ∀ {value : Json} {tasks : List Command},
    tasksOf value = .ok tasks → ∀ leaf ∈ leavesOfAll tasks, leaf.action ≠ chainAction
  | .array items, tasks, read => action_ne_of_ofJsonAll read
  | .null, tasks, read => by
    cases read
    exact nofun
  | .bool _, _, read | .number _, _, read | .string _, _, read | .object _, _, read => by
    cases read

theorem action_ne_of_ofJsonAll : ∀ {items : List Json} {index : Nat} {tasks : List Command},
    ofJsonAll index items = .ok tasks → ∀ leaf ∈ leavesOfAll tasks, leaf.action ≠ chainAction
  | [], _, tasks, read => by
    cases read
    exact nofun
  | item :: items, index, tasks, read => by
    rw [ofJsonAll] at read
    split at read
    · cases read
    next task here =>
      split at read
      · cases read
      next later there =>
        cases read
        rw [leavesOfAll]
        intro leaf inside
        rcases List.mem_append.mp inside with inside | inside
        · exact action_ne_of_ofJson here leaf inside
        · exact action_ne_of_ofJsonAll there leaf inside

end

theorem ofJson_toJson {call : ToolCall} (unreserved : call.action ≠ chainAction) :
    ofJson call.toJson = .ok (.tool call) := by
  obtain ⟨action, parameters, confirm⟩ := call
  have head : ∀ members : Fields, members.get? "action" = some (.string action) →
      parametersOf members = .ok parameters → confirmOf members = .ok confirm →
      headOf members = .ok (.tool ⟨action, parameters, confirm⟩) := by
    intro members named given flag
    simp only [headOf, named, actionHead, if_neg unreserved, given, flag]
    rfl
  cases confirm with
  | none => rw [ToolCall.toJson, ofJson, head _ rfl rfl rfl]
  | some confirm => rw [ToolCall.toJson, ofJson, head _ rfl rfl rfl]

end CommandGate.Command
