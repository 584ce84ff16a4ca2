import CommandGate.Command.Basic

/-!
The nodes of a command. A path of task indices leads from the root to a node; in lexicographic order
of their paths the nodes stand in pre-order, a chain before its tasks and the tasks left to right.
The leaves of a command are its nodes that are tool calls.
-/

namespace CommandGate.Command

/-- Induction over commands, with the hypothesis for every task of a chain. -/
@[elab_as_elim]
theorem inductionOnTasks {motive : Command → Prop}
    (single : ∀ command, (∀ tasks, command ≠ .chain tasks) → motive command)
    (chain : ∀ tasks, (∀ task ∈ tasks, motive task) → motive (.chain tasks))
    (command : Command) : motive command := by
  refine @Command.rec motive (fun tasks => ∀ task ∈ tasks, motive task)
    (fun call => single (.tool call) nofun) chain (fun message => single (.text message) nofun)
    (fun message => single (.error message) nofun) nofun ?_ command
  intro first rest here there task inside
  rcases List.mem_cons.mp inside with rfl | inside
  · exact here
  · exact there task inside

def at? : Command → List Nat → Option Command
  | command, [] => some command
  | .chain tasks, index :: path => tasks[index]?.bind (at? · path)
  | _, _ :: _ => none

@[simp] theorem at?_nil (command : Command) : command.at? [] = some command := by
  cases command <;> rfl

theorem at?_chain_cons {tasks : List Command} {index : Nat} {path : List Nat} {node : Command} :
    (chain tasks).at? (index :: path) = some node ↔
      ∃ task, tasks[index]? = some task ∧ task.at? path = some node := by
  rw [at?, Option.bind_eq_some_iff]

theorem at?_single {command node : Command} {path : List Nat}
    (single : ∀ tasks, command ≠ .chain tasks) :
    command.at? path = some node ↔ path = [] ∧ node = command := by
  cases path with
  | nil => simp [eq_comm]
  | cons index path =>
    have below : command.at? (index :: path) = none := by
      cases command with
      | chain tasks => exact absurd rfl (single tasks)
      | _ => rfl
    simp [below]

theorem leavesOfAll_eq_flatMap (tasks : List Command) :
    leavesOfAll tasks = tasks.flatMap leaves := by
  induction tasks with
  | nil => rfl
  | cons task tasks ih => rw [leavesOfAll, ih, List.flatMap_cons]

theorem mem_leaves_iff {command : Command} {leaf : ToolCall} :
    leaf ∈ command.leaves ↔ ∃ path, command.at? path = some (.tool leaf) := by
  induction command using inductionOnTasks with
  | single command alone =>
    simp only [at?_single alone, exists_eq_left]
    cases command with
    | tool call => simp [leaves]
    | chain tasks => exact absurd rfl (alone tasks)
    | text message => simp [leaves]
    | error message => simp [leaves]
  | chain tasks ih =>
    rw [leaves, leavesOfAll_eq_flatMap, List.mem_flatMap]
    constructor
    · rintro ⟨task, inside, below⟩
      obtain ⟨path, found⟩ := (ih task inside).mp below
      obtain ⟨index, here⟩ := List.mem_iff_getElem?.mp inside
      exact ⟨index :: path, at?_chain_cons.mpr ⟨task, here, found⟩⟩
    · rintro ⟨path, found⟩
      cases path with
      | nil => simp at found
      | cons index path =>
        obtain ⟨task, here, below⟩ := at?_chain_cons.mp found
        have inside : task ∈ tasks := List.mem_of_getElem? here
        exact ⟨task, inside, (ih task inside).mpr ⟨path, below⟩⟩

theorem action?_of_isDispatchable {command : Command}
    (dispatchable : command.isDispatchable = true) : ∃ action, command.action? = some action := by
  cases command with
  | tool call => exact ⟨call.action, rfl⟩
  | chain tasks => exact ⟨chainAction, rfl⟩
  | text message => cases dispatchable
  | error message => cases dispatchable

end CommandGate.Command
