import CommandGate.Proofs.CommandNodes
import Mathlib.Data.List.Lex

/-!
The paths to the leaves of a command. Listed left to right they ascend, every leaf stands at exactly
one of them, and the calls found along them are the leaves in their order.
-/

namespace CommandGate.Command

mutual

def leafPaths : Command → List (List Nat)
  | .tool _ => [[]]
  | .chain tasks => leafPathsOfAll 0 tasks
  | .text _ => []
  | .error _ => []

def leafPathsOfAll (index : Nat) : List Command → List (List Nat)
  | [] => []
  | task :: tasks => (leafPaths task).map (index :: ·) ++ leafPathsOfAll (index + 1) tasks

end

theorem mem_leafPathsOfAll_iff {index : Nat} {tasks : List Command} {path : List Nat} :
    path ∈ leafPathsOfAll index tasks ↔
      ∃ offset task below, tasks[offset]? = some task ∧ below ∈ task.leafPaths ∧
        path = (index + offset) :: below := by
  induction tasks generalizing index with
  | nil => simp [leafPathsOfAll]
  | cons first tasks ih =>
    rw [leafPathsOfAll, List.mem_append, List.mem_map, ih]
    constructor
    · rintro (⟨below, inside, rfl⟩ | ⟨offset, task, below, there, inside, rfl⟩)
      · exact ⟨0, first, below, rfl, inside, rfl⟩
      · exact ⟨offset + 1, task, below, there, inside, by rw [Nat.add_right_comm, Nat.add_assoc]⟩
    · rintro ⟨offset, task, below, there, inside, rfl⟩
      cases offset with
      | zero =>
        cases there
        exact .inl ⟨below, inside, rfl⟩
      | succ offset =>
        exact .inr ⟨offset, task, below, there, inside, by rw [Nat.add_right_comm, Nat.add_assoc]⟩

theorem mem_leafPaths_iff {command : Command} {path : List Nat} :
    path ∈ command.leafPaths ↔ ∃ leaf, command.at? path = some (.tool leaf) := by
  induction command using inductionOnTasks generalizing path with
  | single command alone =>
    simp only [at?_single alone]
    cases command with
    | tool call => simp [leafPaths]
    | chain tasks => exact absurd rfl (alone tasks)
    | text message => simp [leafPaths]
    | error message => simp [leafPaths]
  | chain tasks ih =>
    rw [leafPaths, mem_leafPathsOfAll_iff]
    constructor
    · rintro ⟨index, task, below, there, inside, rfl⟩
      obtain ⟨leaf, found⟩ := (ih task (List.mem_of_getElem? there)).mp inside
      exact ⟨leaf, at?_chain_cons.mpr ⟨task, (Nat.zero_add index).symm ▸ there, found⟩⟩
    · rintro ⟨leaf, found⟩
      cases path with
      | nil => simp at found
      | cons index below =>
        obtain ⟨task, there, found⟩ := at?_chain_cons.mp found
        exact ⟨index, task, below, there, (ih task (List.mem_of_getElem? there)).mpr ⟨leaf, found⟩,
          by rw [Nat.zero_add]⟩

theorem pairwise_leafPathsOfAll {index : Nat} {tasks : List Command}
    (each : ∀ task ∈ tasks, task.leafPaths.Pairwise (· < ·)) :
    (leafPathsOfAll index tasks).Pairwise (· < ·) := by
  induction tasks generalizing index with
  | nil => exact List.Pairwise.nil
  | cons first tasks ih =>
    obtain ⟨here, there⟩ := List.forall_mem_cons.mp each
    refine List.pairwise_append.mpr ⟨?_, ih there, ?_⟩
    · refine List.pairwise_map.mpr (here.imp ?_)
      intro path other less
      exact List.cons_lt_cons_iff.mpr (.inr ⟨rfl, less⟩)
    · intro path inFirst other later
      obtain ⟨below, -, rfl⟩ := List.mem_map.mp inFirst
      obtain ⟨offset, task, deeper, -, -, rfl⟩ := mem_leafPathsOfAll_iff.mp later
      exact List.cons_lt_cons_iff.mpr (.inl (by omega))

/-- The paths ascend, so the leaves are listed as they come in pre-order, each once. -/
theorem pairwise_leafPaths (command : Command) : command.leafPaths.Pairwise (· < ·) := by
  induction command using inductionOnTasks with
  | single command alone =>
    cases command with
    | chain tasks => exact absurd rfl (alone tasks)
    | tool call => exact List.pairwise_singleton _ _
    | text message => exact List.Pairwise.nil
    | error message => exact List.Pairwise.nil
  | chain tasks ih => exact pairwise_leafPathsOfAll ih

theorem at?_chain_append_cons (before after : List Command) (task : Command) (path : List Nat) :
    (chain (before ++ task :: after)).at? (before.length :: path) = task.at? path := by
  simp [at?]

theorem map_at?_leafPathsOfAll {tasks : List Command} (before : List Command)
    (each : ∀ task ∈ tasks, task.leafPaths.map task.at? = task.leaves.map (some ∘ tool)) :
    (leafPathsOfAll before.length tasks).map (chain (before ++ tasks)).at? =
      (leavesOfAll tasks).map (some ∘ tool) := by
  induction tasks generalizing before with
  | nil => rfl
  | cons first tasks ih =>
    obtain ⟨here, there⟩ := List.forall_mem_cons.mp each
    have later := ih (before ++ [first]) there
    rw [List.length_append, List.length_singleton, List.append_assoc,
      List.singleton_append] at later
    have inFirst : (chain (before ++ first :: tasks)).at? ∘ (before.length :: ·) = first.at? :=
      funext (at?_chain_append_cons before tasks first)
    rw [leafPathsOfAll, leavesOfAll, List.map_append, List.map_append, List.map_map, inFirst, here,
      later]

theorem map_at?_leafPaths (command : Command) :
    command.leafPaths.map command.at? = command.leaves.map (some ∘ tool) := by
  induction command using inductionOnTasks with
  | single command alone =>
    cases command with
    | chain tasks => exact absurd rfl (alone tasks)
    | tool call => rfl
    | text message => rfl
    | error message => rfl
  | chain tasks ih => exact map_at?_leafPathsOfAll [] ih

theorem length_leafPaths (command : Command) :
    command.leafPaths.length = command.leaves.length := by
  simpa using congrArg List.length command.map_at?_leafPaths

theorem leaves_getElem?_of_leafPaths {command : Command} {index : Nat} {path : List Nat}
    {leaf : ToolCall} (listed : command.leafPaths[index]? = some path)
    (found : command.at? path = some (.tool leaf)) : command.leaves[index]? = some leaf := by
  have entry := congrArg (·[index]?) command.map_at?_leafPaths
  simp only [List.getElem?_map, listed, Option.map_some, found] at entry
  obtain ⟨call, there, same⟩ := Option.map_eq_some_iff.mp entry.symm
  exact tool.inj (Option.some.inj same) ▸ there

end CommandGate.Command
