import CommandGate.Policy
import CommandGate.Proofs.CommandNodes
import Mathlib.Data.List.Lex

/-!
What the check of a policy accepts and what it reports. The tests of a node are stated on the
settings that the policy comes from. A command is accepted exactly when all of its nodes pass;
otherwise the indices of the rejection are the path to the first failing node in pre-order, and its
cause is the first test that this node fails.
-/

namespace CommandGate

def Rejection.under : List Nat → Rejection → Rejection
  | [], fault => fault
  | index :: path, fault => .chainTask index (under path fault)

namespace Policy

variable {settings : PolicySettings} {authorize : Command → Bool} {node : Command}

/-! ### The tests of one node -/

def Occurs (pattern : String) (node : Command) : Prop :=
  Text.lower pattern.toList <:+: Text.lower node.toJson.write

instance (pattern : String) (node : Command) : Decidable (Occurs pattern node) :=
  decidable_of_iff _ Text.contains_iff_infix

def Allowed (actions : List String) (node : Command) : Prop :=
  ∀ call, node = .tool call → call.action ∈ actions

def Clean (patterns : List String) (node : Command) : Prop :=
  ∀ pattern ∈ patterns, pattern ≠ "" → ¬Occurs pattern node

structure Passes (settings : PolicySettings) (authorize : Command → Bool) (node : Command) :
    Prop where
  dispatchable : node.isDispatchable = true
  allowed : Allowed settings.allowedActions node
  clean : Clean settings.deniedPatterns node
  authorized : authorize node = true

/-- The first test that the node fails, in the order of the constructors; of several patterns that
occur in it, the first of the settings counts. -/
inductive FirstFault (settings : PolicySettings) (authorize : Command → Bool) (node : Command) :
    Rejection → Prop where
  | notDispatchable (inert : node.isDispatchable = false) :
      FirstFault settings authorize node .notDispatchable
  | notAllowed (call : ToolCall) (here : node = .tool call)
      (unlisted : call.action ∉ settings.allowedActions) :
      FirstFault settings authorize node (.notAllowed call.action)
  | deniedPattern (before : List String) (pattern : String) (after : List String)
      (dispatchable : node.isDispatchable = true) (allowed : Allowed settings.allowedActions node)
      (listed : settings.deniedPatterns = before ++ pattern :: after) (nonempty : pattern ≠ "")
      (occurs : Occurs pattern node) (clean : Clean before node) :
      FirstFault settings authorize node (.deniedPattern (Text.lowercase pattern))
  | unauthorized (action : String)
      (dispatchable : node.isDispatchable = true) (allowed : Allowed settings.allowedActions node)
      (clean : Clean settings.deniedPatterns node) (refused : authorize node = false)
      (named : node.action? = some action) :
      FirstFault settings authorize node (.unauthorized action)

theorem shapeFault?_eq_none_iff :
    (ofSettings settings authorize).shapeFault? node = none ↔
      node.isDispatchable = true ∧ Allowed settings.allowedActions node := by
  cases node <;> simp [shapeFault?, ofSettings, Command.isDispatchable, Allowed]

theorem shapeFault?_eq_some_iff {fault : Rejection} :
    (ofSettings settings authorize).shapeFault? node = some fault ↔
      (node.isDispatchable = false ∧ fault = .notDispatchable) ∨
        ∃ call, node = .tool call ∧ call.action ∉ settings.allowedActions ∧
          fault = .notAllowed call.action := by
  cases node <;> simp [shapeFault?, ofSettings, Command.isDispatchable, eq_comm]

theorem deniedPattern?_ofSettings :
    (ofSettings settings authorize).deniedPattern? node =
      (settings.deniedPatterns.find? fun pattern =>
        decide (pattern ≠ "" ∧ Occurs pattern node)).map Text.lowercase := by
  simp only [deniedPattern?, ofSettings, List.find?_map, List.find?_filter]
  congr 2
  funext pattern
  rw [Bool.eq_iff_iff, decide_eq_true_eq, decide_eq_true_eq]
  simp [Occurs, scannedText, Text.lowercase, Text.contains_iff_infix]

theorem deniedPattern?_eq_none_iff :
    (ofSettings settings authorize).deniedPattern? node = none ↔
      Clean settings.deniedPatterns node := by
  simp [deniedPattern?_ofSettings, Clean]

theorem deniedPattern?_eq_some_iff {denied : String} :
    (ofSettings settings authorize).deniedPattern? node = some denied ↔
      ∃ before pattern after, settings.deniedPatterns = before ++ pattern :: after ∧
        pattern ≠ "" ∧ Occurs pattern node ∧ Clean before node ∧
          denied = Text.lowercase pattern := by
  simp only [deniedPattern?_ofSettings, Option.map_eq_some_iff, List.find?_eq_some_iff_append,
    decide_eq_true_eq, Bool.not_eq_true', decide_eq_false_iff_not, not_and]
  constructor
  · rintro ⟨pattern, ⟨⟨nonempty, occurs⟩, before, after, listed, clean⟩, rfl⟩
    exact ⟨before, pattern, after, listed, nonempty, occurs, clean, rfl⟩
  · rintro ⟨before, pattern, after, listed, nonempty, occurs, clean, rfl⟩
    exact ⟨pattern, ⟨⟨nonempty, occurs⟩, before, after, listed, clean⟩, rfl⟩

theorem nodeFault?_eq_none_iff :
    (ofSettings settings authorize).nodeFault? node = none ↔ Passes settings authorize node := by
  constructor
  · intro none
    unfold nodeFault? at none
    split at none
    · cases none
    next quiet =>
      split at none
      · cases none
      next silent =>
        split at none
        next authorized =>
          obtain ⟨dispatchable, allowed⟩ := shapeFault?_eq_none_iff.mp quiet
          exact ⟨dispatchable, allowed, deniedPattern?_eq_none_iff.mp silent, authorized⟩
        · cases none
  · rintro ⟨dispatchable, allowed, clean, authorized⟩
    unfold nodeFault?
    rw [shapeFault?_eq_none_iff.mpr ⟨dispatchable, allowed⟩, deniedPattern?_eq_none_iff.mpr clean]
    exact if_pos authorized

theorem nodeFault?_eq_some_iff {fault : Rejection} :
    (ofSettings settings authorize).nodeFault? node = some fault ↔
      FirstFault settings authorize node fault := by
  constructor
  · intro found
    unfold nodeFault? at found
    split at found
    next rejection shape =>
      cases found
      obtain ⟨inert, rfl⟩ | ⟨call, rfl, unlisted, rfl⟩ := shapeFault?_eq_some_iff.mp shape
      · exact .notDispatchable inert
      · exact .notAllowed call rfl unlisted
    next quiet =>
      obtain ⟨dispatchable, allowed⟩ := shapeFault?_eq_none_iff.mp quiet
      split at found
      next denied hit =>
        cases found
        obtain ⟨before, pattern, after, listed, nonempty, occurs, clean, rfl⟩ :=
          deniedPattern?_eq_some_iff.mp hit
        exact .deniedPattern before pattern after dispatchable allowed listed nonempty occurs clean
      next silent =>
        split at found
        · cases found
        next refused =>
          cases found
          obtain ⟨action, named⟩ := Command.action?_of_isDispatchable dispatchable
          rw [named, Option.getD_some]
          exact .unauthorized action dispatchable allowed (deniedPattern?_eq_none_iff.mp silent)
            (Bool.eq_false_iff.mpr refused) named
  · intro fails
    unfold nodeFault?
    cases fails with
    | notDispatchable inert => rw [shapeFault?_eq_some_iff.mpr (.inl ⟨inert, rfl⟩)]
    | notAllowed call here unlisted =>
      rw [shapeFault?_eq_some_iff.mpr (.inr ⟨call, here, unlisted, rfl⟩)]
    | deniedPattern before pattern after dispatchable allowed listed nonempty occurs clean =>
      rw [shapeFault?_eq_none_iff.mpr ⟨dispatchable, allowed⟩, deniedPattern?_eq_some_iff.mpr
        ⟨before, pattern, after, listed, nonempty, occurs, clean, rfl⟩]
    | unauthorized action dispatchable allowed clean refused named =>
      rw [shapeFault?_eq_none_iff.mpr ⟨dispatchable, allowed⟩,
        deniedPattern?_eq_none_iff.mpr clean, named, Option.getD_some]
      exact if_neg (Bool.eq_false_iff.mp refused)

/-! ### The whole tree -/

variable {policy : Policy}

theorem checkTasks_eq_ok_iff {index : Nat} {tasks : List Command} :
    policy.checkTasks index tasks = .ok () ↔ ∀ task ∈ tasks, policy.check task = .ok () := by
  induction tasks generalizing index with
  | nil => simp [checkTasks]
  | cons task tasks ih =>
    rw [checkTasks, List.forall_mem_cons]
    cases here : policy.check task with
    | error rejection => simp
    | ok _ => simp [ih]

theorem checkTasks_append {index : Nat} {before rest : List Command}
    (accepted : ∀ other ∈ before, policy.check other = .ok ()) :
    policy.checkTasks index (before ++ rest) =
      policy.checkTasks (index + before.length) rest := by
  induction before generalizing index with
  | nil => rfl
  | cons first before ih =>
    obtain ⟨here, there⟩ := List.forall_mem_cons.mp accepted
    simp only [List.cons_append, checkTasks, here, ih there, List.length_cons]
    rw [Nat.add_assoc, Nat.add_comm 1]

theorem checkTasks_eq_error_iff {index : Nat} {tasks : List Command} {rejection : Rejection} :
    policy.checkTasks index tasks = .error rejection ↔
      ∃ before task after source, tasks = before ++ task :: after ∧
        (∀ other ∈ before, policy.check other = .ok ()) ∧ policy.check task = .error source ∧
          rejection = .chainTask (index + before.length) source := by
  constructor
  · intro refused
    induction tasks generalizing index with
    | nil => cases refused
    | cons first tasks ih =>
      rw [checkTasks] at refused
      cases here : policy.check first with
      | error source =>
        rw [here] at refused
        cases refused
        exact ⟨[], first, tasks, source, rfl, nofun, here, rfl⟩
      | ok _ =>
        rw [here] at refused
        obtain ⟨before, task, after, source, rfl, accepted, there, rfl⟩ := ih refused
        refine ⟨first :: before, task, after, source, rfl,
          List.forall_mem_cons.mpr ⟨here, accepted⟩, there, ?_⟩
        rw [List.length_cons, Nat.add_assoc, Nat.add_comm 1]
  · rintro ⟨before, task, after, source, rfl, accepted, refused, rfl⟩
    simp only [checkTasks_append accepted, checkTasks, refused]

theorem check_of_fault {command : Command} {rejection : Rejection}
    (fault : policy.nodeFault? command = some rejection) :
    policy.check command = .error rejection := by
  cases command <;> simp only [check, fault]

theorem check_chain {tasks : List Command} (quiet : policy.nodeFault? (.chain tasks) = none) :
    policy.check (.chain tasks) = policy.checkTasks 0 tasks := by
  rw [check, quiet]

theorem check_single {command : Command} (single : ∀ tasks, command ≠ .chain tasks)
    (quiet : policy.nodeFault? command = none) : policy.check command = .ok () := by
  cases command with
  | chain tasks => exact absurd rfl (single tasks)
  | _ => simp only [check, quiet]

theorem check_eq_ok_iff {command : Command} :
    policy.check command = .ok () ↔
      ∀ path node, command.at? path = some node → policy.nodeFault? node = none := by
  induction command using Command.inductionOnTasks with
  | single command alone =>
    simp only [Command.at?_single alone, and_imp, forall_eq_apply_imp_iff, forall_eq]
    cases here : policy.nodeFault? command with
    | some rejection => simp [check_of_fault here]
    | none => simp [check_single alone here]
  | chain tasks ih =>
    cases here : policy.nodeFault? (.chain tasks) with
    | some rejection =>
      rw [check_of_fault here]
      refine iff_of_false nofun fun quiet => ?_
      rw [quiet [] _ (Command.at?_nil _)] at here
      cases here
    | none =>
      rw [check_chain here, checkTasks_eq_ok_iff]
      constructor
      · intro accepted path node found
        cases path with
        | nil =>
          rw [Command.at?_nil, Option.some.injEq] at found
          rw [← found, here]
        | cons index path =>
          obtain ⟨task, there, below⟩ := Command.at?_chain_cons.mp found
          have inside : task ∈ tasks := List.mem_of_getElem? there
          exact (ih task inside).mp (accepted task inside) path node below
      · intro quiet task inside
        refine (ih task inside).mpr fun path node below => ?_
        obtain ⟨index, there⟩ := List.mem_iff_getElem?.mp inside
        exact quiet (index :: path) node (Command.at?_chain_cons.mpr ⟨task, there, below⟩)

/-- The fault of the node at a path, all earlier nodes being without fault. -/
structure FirstAt (policy : Policy) (command : Command) (path : List Nat) (fault : Rejection) :
    Prop where
  here : ∃ node, command.at? path = some node ∧ policy.nodeFault? node = some fault
  earlier : ∀ other < path, ∀ node, command.at? other = some node → policy.nodeFault? node = none

theorem FirstAt.chain {before after : List Command} {task : Command} {path : List Nat}
    {fault : Rejection} (quiet : policy.nodeFault? (.chain (before ++ task :: after)) = none)
    (accepted : ∀ other ∈ before, policy.check other = .ok ())
    (first : FirstAt policy task path fault) :
    FirstAt policy (.chain (before ++ task :: after)) (before.length :: path) fault := by
  obtain ⟨⟨node, found, fails⟩, earlier⟩ := first
  refine ⟨⟨node, Command.at?_chain_cons.mpr ⟨task, by simp, found⟩, fails⟩, ?_⟩
  intro other less node found
  cases other with
  | nil =>
    rw [Command.at?_nil, Option.some.injEq] at found
    rw [← found, quiet]
  | cons index other =>
    obtain ⟨sibling, there, below⟩ := Command.at?_chain_cons.mp found
    -- an earlier path enters a task to the left, or the same task at an earlier place
    rcases List.cons_lt_cons_iff.mp less with left | ⟨rfl, deeper⟩
    · rw [List.getElem?_append_left left] at there
      exact check_eq_ok_iff.mp (accepted sibling (List.mem_of_getElem? there)) other node below
    · rw [List.getElem?_append_right le_rfl, Nat.sub_self, List.getElem?_cons_zero,
        Option.some.injEq] at there
      exact earlier other deeper node (there ▸ below)

theorem exists_firstAt {command : Command} {rejection : Rejection}
    (refused : policy.check command = .error rejection) :
    ∃ path fault, FirstAt policy command path fault ∧ rejection = .under path fault := by
  induction command using Command.inductionOnTasks generalizing rejection with
  | single command alone =>
    cases here : policy.nodeFault? command with
    | none =>
      rw [check_single alone here] at refused
      cases refused
    | some fault =>
      rw [check_of_fault here] at refused
      cases refused
      exact ⟨[], rejection, ⟨⟨command, Command.at?_nil command, here⟩, nofun⟩, rfl⟩
  | chain tasks ih =>
    cases here : policy.nodeFault? (.chain tasks) with
    | none =>
      rw [check_chain here, checkTasks_eq_error_iff] at refused
      obtain ⟨before, task, after, source, rfl, accepted, there, rfl⟩ := refused
      obtain ⟨path, fault, first, rfl⟩ := ih task (by simp) there
      refine ⟨before.length :: path, fault, first.chain here accepted, ?_⟩
      rw [Nat.zero_add, Rejection.under]
    | some fault =>
      rw [check_of_fault here] at refused
      cases refused
      exact ⟨[], rejection, ⟨⟨_, Command.at?_nil _, here⟩, nofun⟩, rfl⟩

theorem FirstAt.unique {command : Command} {path other : List Nat} {fault another : Rejection}
    (first : FirstAt policy command path fault) (second : FirstAt policy command other another) :
    path = other ∧ fault = another := by
  obtain ⟨⟨node, found, fails⟩, earlier⟩ := first
  obtain ⟨⟨node', found', fails'⟩, earlier'⟩ := second
  rcases lt_trichotomy path other with less | rfl | more
  · rw [earlier' path less node found] at fails
    cases fails
  · rw [found, Option.some.injEq] at found'
    rw [← found', fails, Option.some.injEq] at fails'
    exact ⟨rfl, fails'⟩
  · rw [earlier other more node' found'] at fails'
    cases fails'

theorem check_eq_error_iff {command : Command} {rejection : Rejection} :
    policy.check command = .error rejection ↔
      ∃ path fault, FirstAt policy command path fault ∧ rejection = .under path fault := by
  constructor
  · exact exists_firstAt
  · rintro ⟨path, fault, first, rfl⟩
    cases checked : policy.check command with
    | ok _ =>
      obtain ⟨node, found, fails⟩ := first.here
      rw [check_eq_ok_iff.mp checked path node found] at fails
      cases fails
    | error rejection =>
      obtain ⟨other, another, second, rfl⟩ := exists_firstAt checked
      obtain ⟨rfl, rfl⟩ := first.unique second
      rfl

/-- A command is accepted exactly when each of its nodes passes its own tests. Otherwise the indices
of the rejection lead to the first node in pre-order that fails, and its cause is the first test
that this node fails. -/
theorem check_finds_first_fault (settings : PolicySettings) (authorize : Command → Bool)
    (command : Command) :
    ((ofSettings settings authorize).check command = .ok () ↔
      ∀ path node, command.at? path = some node → Passes settings authorize node) ∧
    ∀ rejection, (ofSettings settings authorize).check command = .error rejection ↔
      ∃ path node fault, command.at? path = some node ∧
        FirstFault settings authorize node fault ∧
        (∀ earlier < path, ∀ other, command.at? earlier = some other →
          Passes settings authorize other) ∧
        rejection = .under path fault := by
  refine ⟨?_, fun rejection => ?_⟩
  · simp only [check_eq_ok_iff, nodeFault?_eq_none_iff]
  · rw [check_eq_error_iff]
    constructor
    · rintro ⟨path, fault, ⟨⟨node, found, fails⟩, earlier⟩, rfl⟩
      simp only [nodeFault?_eq_none_iff] at earlier
      exact ⟨path, node, fault, found, nodeFault?_eq_some_iff.mp fails, earlier, rfl⟩
    · rintro ⟨path, node, fault, found, fails, earlier, rfl⟩
      simp only [← nodeFault?_eq_none_iff] at earlier
      exact ⟨path, fault, ⟨⟨node, found, nodeFault?_eq_some_iff.mpr fails⟩, earlier⟩, rfl⟩

example : (ofSettings { allowedActions := ["lock"], deniedPatterns := ["OFF"] } permitAll).check
    (.chain [.tool ⟨"lock", [], none⟩,
      .chain [.tool ⟨"lock", [("mode", .string "oN")], none⟩, .text "off it goes"]]) =
    .error (.deniedPattern "off") := rfl

example : (ofSettings { allowedActions := ["lock"], deniedPatterns := ["OFF"] } permitAll).check
    (.chain [.tool ⟨"lock", [], none⟩,
      .chain [.tool ⟨"lock", [("mode", .string "oN")], none⟩, .text "on it goes"]]) =
    .error (.chainTask 1 (.chainTask 1 .notDispatchable)) := rfl

end Policy

end CommandGate
