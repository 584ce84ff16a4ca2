import CommandGate.Proofs.CommandNodes
import CommandGate.Proofs.CommandReading

/-!
Commands written as JSON and read again. What is written for a command is read as this command
exactly if none of its leaves bears the reserved name of chains, and no other command is ever read.
So to read a loose value and write what was read gives a normal form that means the same.
-/

namespace CommandGate.Command

def Unreserved (command : Command) : Prop := ∀ leaf ∈ command.leaves, leaf.action ≠ chainAction

theorem Unreserved.task {tasks : List Command} {task : Command}
    (unreserved : (chain tasks).Unreserved) (inside : task ∈ tasks) : task.Unreserved := by
  intro leaf below
  refine unreserved leaf ?_
  rw [leaves, leavesOfAll_eq_flatMap]
  exact List.mem_flatMap.mpr ⟨task, inside, below⟩

theorem unreserved_of_ofJson {value : Json} {command : Command}
    (read : ofJson value = .ok command) : command.Unreserved :=
  action_ne_of_ofJson read

theorem ofJsonAll_toJsonAll {tasks : List Command} (index : Nat)
    (each : ∀ task ∈ tasks, ofJson task.toJson = .ok task) :
    ofJsonAll index (toJsonAll tasks) = .ok tasks := by
  induction tasks generalizing index with
  | nil => rfl
  | cons task tasks ih =>
    obtain ⟨here, there⟩ := List.forall_mem_cons.mp each
    simp only [toJsonAll, ofJsonAll, here, ih (index + 1) there]

theorem ofJson_toJson_chain {tasks : List Command}
    (each : ∀ task ∈ tasks, ofJson task.toJson = .ok task) :
    ofJson (chain tasks).toJson = .ok (.chain tasks) := by
  have head : headOf [("action", .string chainAction), ("tasks", .array (toJsonAll tasks))] =
      .ok .chain := rfl
  have below : tasksIn [("action", .string chainAction), ("tasks", .array (toJsonAll tasks))] =
      .ok tasks := ofJsonAll_toJsonAll 0 each
  rw [toJson, ofJson, head]
  simp only [below]

theorem ofJson_toJson_of_unreserved {command : Command} (unreserved : command.Unreserved) :
    ofJson command.toJson = .ok command := by
  induction command using inductionOnTasks with
  | single command alone =>
    cases command with
    | tool call => exact ofJson_toJson (unreserved call List.mem_cons_self)
    | chain tasks => exact absurd rfl (alone tasks)
    | text message => rfl
    | error message => rfl
  | chain tasks ih =>
    exact ofJson_toJson_chain fun task inside => ih task inside (unreserved.task inside)

theorem ofJson_toJson_iff {command : Command} :
    ofJson command.toJson = .ok command ↔ command.Unreserved :=
  ⟨unreserved_of_ofJson, ofJson_toJson_of_unreserved⟩

def normal? (value : Json) : Except CommandError Json := (ofJson value).map toJson

theorem normal?_eq_ok_iff {value normal : Json} :
    normal? value = .ok normal ↔
      ∃ command, ofJson value = .ok command ∧ command.toJson = normal := by
  unfold normal?
  cases ofJson value <;> simp [Except.map]

/-- Exactly the commands without a reserved leaf come back from their JSON; every command that was
read is one of them; and the normal form of a value is read as the same command and is its own
normal form. -/
theorem written_commands_are_read_back :
    (∀ command, ofJson command.toJson = .ok command ↔ command.Unreserved) ∧
    (∀ value command, ofJson value = .ok command →
      command.Unreserved ∧ ofJson command.toJson = .ok command) ∧
    ∀ value normal, normal? value = .ok normal →
      ofJson normal = ofJson value ∧ normal? normal = .ok normal := by
  have back : ∀ value command, ofJson value = .ok command → ofJson command.toJson = .ok command :=
    fun value command read => ofJson_toJson_of_unreserved (unreserved_of_ofJson read)
  refine ⟨fun command => ofJson_toJson_iff, fun value command read => ?_,
    fun value normal normalized => ?_⟩
  · exact ⟨unreserved_of_ofJson read, back value command read⟩
  · obtain ⟨command, read, rfl⟩ := normal?_eq_ok_iff.mp normalized
    refine ⟨?_, normal?_eq_ok_iff.mpr ⟨command, back value command read, rfl⟩⟩
    rw [back value command read, read]

def looseChain : Json :=
  .object [("action", .string "chain"), ("confirm", .null), ("tasks", .array [
    .object [("action", .string "ring"), ("confirm", .bool false), ("note", .bool true),
      ("parameters", .null)],
    .object [("action", .string "chain"), ("tasks", .null)],
    .object [("message", .null), ("status", .string "text_response")],
    .object [("status", .string "error"), ("tasks", .bool true)]])]

theorem looseChain_is_read_back :
    let command := chain [.tool ⟨"ring", [], some false⟩, .chain [], .text "", .error ""]
    ofJson looseChain = .ok command ∧ ofJson command.toJson = .ok command ∧
      normal? command.toJson = .ok command.toJson := by
  intro command
  have read : ofJson looseChain = .ok command := rfl
  obtain ⟨-, back, normalized⟩ := written_commands_are_read_back
  exact ⟨read, (back looseChain command read).2, (normalized looseChain command.toJson rfl).2⟩

end CommandGate.Command
