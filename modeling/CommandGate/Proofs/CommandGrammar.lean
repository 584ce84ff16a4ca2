import CommandGate.Proofs.CommandReading
import CommandGate.Proofs.ValueParts
import Mathlib.Data.List.Forall2
import Mathlib.Data.List.Lex

/-!
The grammar of commands. A value denotes a command by one of four shapes, chosen by the members that
are there, and reading accepts exactly these values. A path of task indices leads through the chains
of a value; in lexicographic order of their paths the tasks stand depth-first, left to right. The
fault of a refused value leads to the first task that has a fault of its own.
-/

namespace CommandGate

namespace Json

inductive Optional {α : Type} (wrap : α → Json) : Option Json → Option α → Prop where
  | absent : Optional wrap none none
  | null : Optional wrap (some .null) none
  | given (value : α) : Optional wrap (some (wrap value)) (some value)

def taskValues (value : Json) : List Json :=
  match value.get? "action", value.get? "tasks" with
  | some (.string action), some (.array items) => if action = chainAction then items else []
  | _, _ => []

def taskAt? : Json → List Nat → Option Json
  | value, [] => some value
  | value, index :: path => value.taskValues[index]?.bind (taskAt? · path)

@[simp] theorem taskAt?_nil (value : Json) : value.taskAt? [] = some value := by
  rw [taskAt?]

theorem taskAt?_cons {value node : Json} {index : Nat} {path : List Nat} :
    value.taskAt? (index :: path) = some node ↔
      ∃ task, value.taskValues[index]? = some task ∧ task.taskAt? path = some node := by
  rw [taskAt?, Option.bind_eq_some_iff]

theorem taskValues_chain {members : Fields} {items : Option (List Json)}
    (named : members.get? "action" = some (.string chainAction))
    (listed : Optional .array (members.get? "tasks") items) :
    (object members).taskValues = items.getD [] := by
  simp only [taskValues, get?, named]
  generalize members.get? "tasks" = member at listed
  cases listed <;> simp

theorem exists_members_of_mem_taskValues {value item : Json} (inside : item ∈ value.taskValues) :
    ∃ (members : Fields) (items : List Json), value = .object members ∧
      members.get? "tasks" = some (.array items) ∧ item ∈ items := by
  cases value with
  | object members =>
    unfold taskValues at inside
    split at inside
    next action items named listed =>
      split at inside
      · exact ⟨members, items, rfl, listed, inside⟩
      · cases inside
    · cases inside
  | _ => cases inside

@[elab_as_elim]
theorem inductionOnTaskValues {motive : Json → Prop}
    (step : ∀ value, (∀ task ∈ value.taskValues, motive task) → motive value) (value : Json) :
    motive value := by
  -- a task is a part of a part: the items of an array have to be reached from its object
  have strong : motive value ∧ ∀ items, value = .array items → ∀ item ∈ items, motive item := by
    induction value using inductionOnParts with
    | array items ih =>
      refine ⟨step _ nofun, fun others same item inside => ?_⟩
      cases same
      exact (ih item inside).1
    | object members ih =>
      refine ⟨step _ fun task inside => ?_, nofun⟩
      obtain ⟨_, items, same, listed, inside⟩ := exists_members_of_mem_taskValues inside
      cases same
      exact (ih _ (Members.mem_of_get? listed)).2 items rfl task inside
    | _ => exact ⟨step _ nofun, nofun⟩
  exact strong.1

end Json

namespace Command

open Json (Optional)

/-- The value is one of the four shapes of a command; members of other names do not count. -/
inductive Denotes : Json → Command → Prop where
  | tool {members : Fields} {action : String} {parameters : Option Fields} {confirm : Option Bool}
    (named : members.get? "action" = some (.string action)) (unreserved : action ≠ chainAction)
    (given : Optional .object (members.get? "parameters") parameters)
    (flag : Optional .bool (members.get? "confirm") confirm) :
    Denotes (.object members) (.tool ⟨action, parameters.getD [], confirm⟩)
  | chain {members : Fields} {items : Option (List Json)} {tasks : List Command}
    (named : members.get? "action" = some (.string chainAction))
    (listed : Optional .array (members.get? "tasks") items)
    (each : List.Forall₂ Denotes (items.getD []) tasks) :
    Denotes (.object members) (.chain tasks)
  | text {members : Fields} {message : Option String}
    (unnamed : members.get? "action" = none)
    (status : members.get? "status" = some (.string textStatus))
    (given : Optional .string (members.get? "message") message) :
    Denotes (.object members) (.text (message.getD ""))
  | error {members : Fields} {message : Option String}
    (unnamed : members.get? "action" = none)
    (status : members.get? "status" = some (.string errorStatus))
    (given : Optional .string (members.get? "message") message) :
    Denotes (.object members) (.error (message.getD ""))

variable {members : Fields}

/-! ### The members of a command -/

theorem parametersOf_eq_ok_iff {parameters : Fields} :
    parametersOf members = .ok parameters ↔
      ∃ given, Optional .object (members.get? "parameters") given ∧ given.getD [] = parameters := by
  unfold parametersOf
  generalize members.get? "parameters" = member
  constructor
  · intro read
    split at read
    · cases read
      exact ⟨_, .given _, rfl⟩
    · cases read
      exact ⟨_, .null, rfl⟩
    · cases read
      exact ⟨_, .absent, rfl⟩
    · cases read
  · rintro ⟨given, optional, rfl⟩
    cases optional <;> rfl

theorem confirmOf_eq_ok_iff {confirm : Option Bool} :
    confirmOf members = .ok confirm ↔ Optional .bool (members.get? "confirm") confirm := by
  unfold confirmOf
  generalize members.get? "confirm" = member
  constructor
  · intro read
    split at read
    · cases read
      exact .given _
    · cases read
      exact .null
    · cases read
      exact .absent
    · cases read
  · intro optional
    cases optional <;> rfl

theorem replyHead_eq_ok_iff {status : String} {head : Head} :
    replyHead status members = .ok head ↔
      ∃ message, Optional .string (members.get? "message") message ∧
        (status = textStatus ∧ head = .text (message.getD "") ∨
          status = errorStatus ∧ head = .error (message.getD "")) := by
  have apart : errorStatus ≠ textStatus := by decide
  simp only [replyHead, bind_eq_ok_iff]
  generalize members.get? "message" = member
  constructor
  · rintro ⟨text, said, read⟩
    have optional : ∃ message, Optional .string member message ∧ message.getD "" = text := by
      split at said
      · cases said
        exact ⟨_, .given _, rfl⟩
      · cases said
        exact ⟨_, .null, rfl⟩
      · cases said
        exact ⟨_, .absent, rfl⟩
      · cases said
    obtain ⟨message, optional, rfl⟩ := optional
    refine ⟨message, optional, ?_⟩
    split at read
    next reply =>
      cases read
      exact .inl ⟨reply, rfl⟩
    next =>
      split at read
      next reply =>
        cases read
        exact .inr ⟨reply, rfl⟩
      · cases read
  · rintro ⟨message, optional, reply⟩
    refine ⟨message.getD "", by cases optional <;> rfl, ?_⟩
    rcases reply with ⟨rfl, rfl⟩ | ⟨rfl, rfl⟩
    · rw [if_pos rfl]
    · rw [if_neg apart, if_pos rfl]

theorem headOf_eq_ok_iff {head : Head} :
    headOf members = .ok head ↔
      (∃ action, members.get? "action" = some (.string action) ∧
        (action = chainAction ∧ head = .chain ∨
          action ≠ chainAction ∧ ∃ parameters confirm,
            Optional .object (members.get? "parameters") parameters ∧
            Optional .bool (members.get? "confirm") confirm ∧
            head = .tool ⟨action, parameters.getD [], confirm⟩)) ∨
      members.get? "action" = none ∧ ∃ status,
        members.get? "status" = some (.string status) ∧ replyHead status members = .ok head := by
  unfold headOf
  cases named : members.get? "action" with
  | some value =>
    cases value with
    | string action =>
      by_cases reserved : action = chainAction
      · simp [actionHead, reserved, eq_comm]
      · have made : ∀ {parameters : Fields},
            ((confirmOf members).map fun confirm => Head.tool ⟨action, parameters, confirm⟩) =
              .ok head ↔ ∃ confirm, Optional .bool (members.get? "confirm") confirm ∧
                head = .tool ⟨action, parameters, confirm⟩ := by
          intro parameters
          simp only [← confirmOf_eq_ok_iff, map_eq_ok_iff, eq_comm (b := head)]
        simp only [actionHead, if_neg reserved, bind_eq_ok_iff, parametersOf_eq_ok_iff, made]
        constructor
        · rintro ⟨_, ⟨parameters, given, rfl⟩, confirm, flag, rfl⟩
          exact .inl ⟨action, rfl, .inr ⟨reserved, parameters, confirm, given, flag, rfl⟩⟩
        · rintro (⟨_, same, ⟨rfl, -⟩ | ⟨-, parameters, confirm, given, flag, rfl⟩⟩ | ⟨none, -⟩)
          · cases same
            exact absurd rfl reserved
          · cases same
            exact ⟨_, ⟨parameters, given, rfl⟩, confirm, flag, rfl⟩
          · cases none
    | _ => simp [actionHead]
  | none =>
    cases shown : members.get? "status" with
    | none => simp
    | some value =>
      cases value with
      | string status => simp
      | _ => simp

/-! ### The tasks of a chain -/

theorem tasksIn_eq (members : Fields) :
    tasksIn members = (members.get? "tasks").elim (.ok []) tasksOf := by
  induction members with
  | nil => rfl
  | cons member members ih =>
    obtain ⟨name, value⟩ := member
    rw [tasksIn, Members.get?]
    split
    · rfl
    · exact ih

theorem tasksIn_of_listed {items : Option (List Json)}
    (listed : Optional .array (members.get? "tasks") items) :
    tasksIn members = ofJsonAll 0 (items.getD []) := by
  rw [tasksIn_eq]
  generalize members.get? "tasks" = member at listed
  cases listed <;> rfl

theorem tasksIn_of_unlisted
    (unlisted : ∀ items, ¬Optional .array (members.get? "tasks") items) :
    tasksIn members = .error (.badField .tasks) := by
  rw [tasksIn_eq]
  generalize members.get? "tasks" = member at unlisted
  cases member with
  | none => exact absurd .absent (unlisted none)
  | some value =>
    cases value with
    | null => exact absurd .null (unlisted none)
    | array items => exact absurd (.given items) (unlisted (some items))
    | _ => rfl

theorem ofJsonAll_eq_ok_iff {items : List Json} {index : Nat} {tasks : List Command} :
    ofJsonAll index items = .ok tasks ↔
      List.Forall₂ (fun item task => ofJson item = .ok task) items tasks := by
  induction items generalizing index tasks with
  | nil => cases tasks <;> simp [ofJsonAll]
  | cons item items ih =>
    rw [ofJsonAll]
    cases here : ofJson item with
    | error fault => cases tasks <;> simp [here]
    | ok task =>
      cases there : ofJsonAll (index + 1) items with
      | error fault =>
        refine ⟨nofun, fun each => ?_⟩
        cases each with
        | cons _ rest =>
          rw [ih.mpr rest] at there
          cases there
      | ok others =>
        simp only [Except.ok.injEq]
        constructor
        · rintro rfl
          exact .cons here (ih.mp there)
        · intro each
          cases each with
          | cons first rest =>
            rw [here] at first
            rw [ih.mpr rest] at there
            cases first
            cases there
            rfl

theorem exists_of_ofJsonAll_eq_error {items : List Json} {index : Nat} {fault : CommandError}
    (refused : ofJsonAll index items = .error fault) :
    ∃ before item after source, items = before ++ item :: after ∧
      (∀ other ∈ before, ∃ command, ofJson other = .ok command) ∧ ofJson item = .error source ∧
        fault = .task (index + before.length) source := by
  induction items generalizing index with
  | nil => cases refused
  | cons first items ih =>
    rw [ofJsonAll] at refused
    cases here : ofJson first with
    | error source =>
      rw [here] at refused
      cases refused
      exact ⟨[], first, items, source, rfl, nofun, here, rfl⟩
    | ok command =>
      rw [here] at refused
      cases there : ofJsonAll (index + 1) items with
      | ok tasks =>
        rw [there] at refused
        cases refused
      | error fault =>
        rw [there] at refused
        cases refused
        obtain ⟨before, item, after, source, rfl, accepted, found, rfl⟩ := ih there
        refine ⟨first :: before, item, after, source, rfl,
          List.forall_mem_cons.mpr ⟨⟨command, here⟩, accepted⟩, found, ?_⟩
        rw [List.length_cons, Nat.add_assoc, Nat.add_comm 1]

/-! ### Accepted values -/

theorem ofJson_chain (named : members.get? "action" = some (.string chainAction)) :
    ofJson (.object members) = (tasksIn members).map .chain := by
  have head : headOf members = .ok .chain :=
    headOf_eq_ok_iff.mpr (.inl ⟨_, named, .inl ⟨rfl, rfl⟩⟩)
  rw [ofJson, head]
  cases tasksIn members <;> rfl

/-- Reading accepts exactly the values of the grammar, for the commands that they denote. -/
theorem ofJson_eq_ok_iff {value : Json} {command : Command} :
    ofJson value = .ok command ↔ Denotes value command := by
  induction value using Json.inductionOnTaskValues generalizing command with
  | step value ih =>
    constructor
    · intro read
      cases value with
      | object members =>
        cases head : headOf members with
        | error fault =>
          rw [ofJson, head] at read
          cases read
        | ok found =>
          rcases headOf_eq_ok_iff.mp head with ⟨action, named, ⟨rfl, -⟩ |
            ⟨unreserved, parameters, confirm, given, flag, rfl⟩⟩ | ⟨unnamed, status, shown, reply⟩
          · rw [ofJson_chain named] at read
            by_cases listed : ∃ items, Optional .array (Members.get? "tasks" members) items
            · obtain ⟨items, listed⟩ := listed
              rw [tasksIn_of_listed listed] at read
              rw [Json.taskValues_chain named listed] at ih
              obtain ⟨tasks, below, rfl⟩ := map_eq_ok_iff.mp read
              have each := (List.forall₂_and_left _ _).mpr ⟨ih, ofJsonAll_eq_ok_iff.mp below⟩
              exact .chain named listed (each.imp fun item task both => both.1.mp both.2)
            · rw [tasksIn_of_unlisted (not_exists.mp listed)] at read
              cases read
          · rw [ofJson, head] at read
            cases read
            exact .tool named unreserved given flag
          · obtain ⟨message, given, ⟨rfl, rfl⟩ | ⟨rfl, rfl⟩⟩ := replyHead_eq_ok_iff.mp reply
            · rw [ofJson, head] at read
              cases read
              exact .text unnamed shown given
            · rw [ofJson, head] at read
              cases read
              exact .error unnamed shown given
      | _ => cases read
    · intro denotes
      cases denotes with
      | tool named unreserved given flag =>
        rw [ofJson, headOf_eq_ok_iff.mpr
          (.inl ⟨_, named, .inr ⟨unreserved, _, _, given, flag, rfl⟩⟩)]
      | chain named listed each =>
        rw [Json.taskValues_chain named listed] at ih
        have read := (List.forall₂_and_left _ _).mpr ⟨ih, each⟩
        rw [ofJson_chain named, tasksIn_of_listed listed,
          ofJsonAll_eq_ok_iff.mpr (read.imp fun item task both => both.1.mpr both.2)]
        rfl
      | text unnamed status given =>
        rw [ofJson, headOf_eq_ok_iff.mpr (.inr ⟨unnamed, _, status,
          replyHead_eq_ok_iff.mpr ⟨_, given, .inl ⟨rfl, rfl⟩⟩⟩)]
      | error unnamed status given =>
        rw [ofJson, headOf_eq_ok_iff.mpr (.inr ⟨unnamed, _, status,
          replyHead_eq_ok_iff.mpr ⟨_, given, .inr ⟨rfl, rfl⟩⟩⟩)]

theorem exists_ofJson_taskAt? {value task : Json} {path : List Nat} {command : Command}
    (read : ofJson value = .ok command) (found : value.taskAt? path = some task) :
    ∃ part, ofJson task = .ok part := by
  induction path generalizing value command with
  | nil =>
    rw [Json.taskAt?_nil] at found
    cases found
    exact ⟨command, read⟩
  | cons index path ih =>
    obtain ⟨item, there, below⟩ := Json.taskAt?_cons.mp found
    have inside := List.mem_of_getElem? there
    cases ofJson_eq_ok_iff.mp read with
    | chain named listed each =>
      rw [Json.taskValues_chain named listed] at inside
      have denoted : ∀ item ∈ _, ∃ part, Denotes item part :=
        ((List.forall₂_and_left _ _).mp
          (each.imp fun item part denotes => ⟨⟨part, denotes⟩, denotes⟩)).1
      obtain ⟨part, denotes⟩ := denoted item inside
      exact ih (ofJson_eq_ok_iff.mpr denotes) below
    | tool named unreserved given flag =>
      obtain ⟨members, items, same, listed, -⟩ := Json.exists_members_of_mem_taskValues inside
      cases same
      simp [Json.taskValues, Json.get?, named, listed, unreserved] at inside
    | text unnamed status given => simp [Json.taskValues, Json.get?, unnamed] at inside
    | error unnamed status given => simp [Json.taskValues, Json.get?, unnamed] at inside

/-! ### Refused values -/

end Command

namespace CommandError

def IsOwn (fault : CommandError) : Prop := ∀ index source, fault ≠ .task index source

def under : List Nat → CommandError → CommandError
  | [], cause => cause
  | index :: path, cause => .task index (under path cause)

end CommandError

namespace Command

open Json (Optional)

variable {members : Fields}

theorem bind_eq_error_iff {α β ε : Type} {first : Except ε α} {next : α → Except ε β} {fault : ε} :
    first.bind next = .error fault ↔
      first = .error fault ∨ ∃ a, first = .ok a ∧ next a = .error fault := by
  cases first <;> simp [Except.bind]

theorem map_eq_error_iff {α β ε : Type} {first : Except ε α} {f : α → β} {fault : ε} :
    first.map f = .error fault ↔ first = .error fault := by
  cases first <;> simp [Except.map]

theorem isOwn_of_parametersOf {fault : CommandError}
    (refused : parametersOf members = .error fault) : fault.IsOwn := by
  unfold parametersOf at refused
  split at refused <;> cases refused
  exact nofun

theorem isOwn_of_confirmOf {fault : CommandError} (refused : confirmOf members = .error fault) :
    fault.IsOwn := by
  unfold confirmOf at refused
  split at refused <;> cases refused
  exact nofun

theorem isOwn_of_replyHead {status : String} {fault : CommandError}
    (refused : replyHead status members = .error fault) : fault.IsOwn := by
  rcases bind_eq_error_iff.mp refused with said | ⟨message, -, unknown⟩
  · split at said <;> cases said
    exact nofun
  · split at unknown
    · cases unknown
    · split at unknown <;> cases unknown
      exact nofun

theorem isOwn_of_actionHead {action : Json} {fault : CommandError}
    (refused : actionHead action members = .error fault) : fault.IsOwn := by
  unfold actionHead at refused
  split at refused
  · split at refused
    · cases refused
    · rcases bind_eq_error_iff.mp refused with given | ⟨parameters, -, flag⟩
      · exact isOwn_of_parametersOf given
      · exact isOwn_of_confirmOf (map_eq_error_iff.mp flag)
  · cases refused
    exact nofun

theorem isOwn_of_headOf {fault : CommandError} (refused : headOf members = .error fault) :
    fault.IsOwn := by
  unfold headOf at refused
  split at refused
  · exact isOwn_of_actionHead refused
  · split at refused
    · exact isOwn_of_replyHead refused
    · cases refused
      exact nofun

theorem refused_cases {value : Json} {fault : CommandError}
    (refused : ofJson value = .error fault) :
    fault.IsOwn ∨ ∃ before task after source, value.taskValues = before ++ task :: after ∧
      (∀ other ∈ before, ∃ command, ofJson other = .ok command) ∧ ofJson task = .error source ∧
        fault = .task before.length source := by
  cases value with
  | object members =>
    cases head : headOf members with
    | error cause =>
      rw [ofJson, head] at refused
      cases refused
      exact .inl (isOwn_of_headOf head)
    | ok found =>
      cases found with
      | chain =>
        rcases headOf_eq_ok_iff.mp head with ⟨action, named, ⟨rfl, -⟩ | ⟨-, _, _, -, -, no⟩⟩ |
          ⟨-, status, -, reply⟩
        · rw [ofJson_chain named] at refused
          by_cases listed : ∃ items, Optional .array (Members.get? "tasks" members) items
          · obtain ⟨items, listed⟩ := listed
            rw [tasksIn_of_listed listed] at refused
            have located := exists_of_ofJsonAll_eq_error (map_eq_error_iff.mp refused)
            simp only [Nat.zero_add] at located
            rw [Json.taskValues_chain named listed]
            exact .inr located
          · rw [tasksIn_of_unlisted (not_exists.mp listed)] at refused
            cases refused
            exact .inl nofun
        · cases no
        · obtain ⟨message, -, ⟨-, no⟩ | ⟨-, no⟩⟩ := replyHead_eq_ok_iff.mp reply <;> cases no
      | _ =>
        rw [ofJson, head] at refused
        cases refused
  | _ =>
    cases refused
    exact .inl nofun

/-- The task at a path is refused for a fault of its own, and it is the first one depth-first; the
tasks to the left of it and of the chains around it are accepted. -/
structure FirstRefused (value : Json) (path : List Nat) (cause : CommandError) : Prop where
  here : ∃ task, value.taskAt? path = some task ∧ ofJson task = .error cause
  own : cause.IsOwn
  first : ∀ other < path, ∀ task, value.taskAt? other = some task →
    ∀ fault, ofJson task = .error fault → ¬fault.IsOwn
  accepted : ∀ front index back, path = front ++ index :: back → ∀ left < index,
    ∃ sibling command, value.taskAt? (front ++ [left]) = some sibling ∧
      ofJson sibling = .ok command

theorem FirstRefused.chain {value task : Json} {before after : List Json} {path : List Nat}
    {cause source : CommandError} (tasks : value.taskValues = before ++ task :: after)
    (accepted : ∀ other ∈ before, ∃ command, ofJson other = .ok command)
    (refused : ofJson value = .error (.task before.length source))
    (inner : FirstRefused task path cause) :
    FirstRefused value (before.length :: path) cause := by
  obtain ⟨⟨node, found, fails⟩, own, first, left⟩ := inner
  have entered : value.taskValues[before.length]? = some task := by simp [tasks]
  refine ⟨⟨node, Json.taskAt?_cons.mpr ⟨task, entered, found⟩, fails⟩, own, ?_, ?_⟩
  · intro other less node found fault fails
    cases other with
    | nil =>
      rw [Json.taskAt?_nil] at found
      cases found
      rw [refused] at fails
      cases fails
      exact fun own => own _ _ rfl
    | cons index other =>
      obtain ⟨sibling, there, below⟩ := Json.taskAt?_cons.mp found
      -- an earlier path enters a task to the left, or the same task at an earlier place
      rcases List.cons_lt_cons_iff.mp less with leftwards | ⟨rfl, deeper⟩
      · rw [tasks, List.getElem?_append_left leftwards] at there
        obtain ⟨command, read⟩ := accepted sibling (List.mem_of_getElem? there)
        obtain ⟨part, read⟩ := exists_ofJson_taskAt? read below
        rw [read] at fails
        cases fails
      · rw [entered] at there
        cases there
        exact first other deeper node below fault fails
  · intro front index back same earlier less
    cases front with
    | nil =>
      cases same
      have inside : earlier < before.length := less
      obtain ⟨command, read⟩ := accepted _ (List.getElem_mem inside)
      refine ⟨_, command, Json.taskAt?_cons.mpr ⟨_, ?_, Json.taskAt?_nil _⟩, read⟩
      rw [tasks, List.getElem?_append_left inside, List.getElem?_eq_getElem inside]
    | cons step front =>
      cases same
      obtain ⟨sibling, command, found, read⟩ := left front index back rfl earlier less
      exact ⟨sibling, command, Json.taskAt?_cons.mpr ⟨task, entered, found⟩, read⟩

theorem exists_firstRefused {value : Json} {fault : CommandError}
    (refused : ofJson value = .error fault) :
    ∃ path cause, FirstRefused value path cause ∧ fault = .under path cause := by
  induction value using Json.inductionOnTaskValues generalizing fault with
  | step value ih =>
    rcases refused_cases refused with own |
      ⟨before, task, after, source, tasks, accepted, there, rfl⟩
    · refine ⟨[], fault, ⟨⟨value, Json.taskAt?_nil value, refused⟩, own, nofun, ?_⟩, rfl⟩
      intro front index back same
      exact absurd same.symm (by simp)
    · obtain ⟨path, cause, inner, rfl⟩ := ih task (by simp [tasks]) there
      exact ⟨before.length :: path, cause, inner.chain tasks accepted refused, rfl⟩

theorem FirstRefused.unique {value : Json} {path other : List Nat} {cause another : CommandError}
    (refused : FirstRefused value path cause) (again : FirstRefused value other another) :
    path = other ∧ cause = another := by
  obtain ⟨task, found, fails⟩ := refused.here
  obtain ⟨task', found', fails'⟩ := again.here
  rcases lt_trichotomy path other with less | rfl | more
  · exact absurd refused.own (again.first path less task found cause fails)
  · cases found.symm.trans found'
    cases fails.symm.trans fails'
    exact ⟨rfl, rfl⟩
  · exact absurd again.own (refused.first other more task' found' another fails')

theorem ofJson_eq_error_iff {value : Json} {fault : CommandError} :
    ofJson value = .error fault ↔
      ∃ path cause, FirstRefused value path cause ∧ fault = .under path cause := by
  constructor
  · exact exists_firstRefused
  · rintro ⟨path, cause, refused, rfl⟩
    cases read : ofJson value with
    | ok command =>
      obtain ⟨task, found, fails⟩ := refused.here
      obtain ⟨part, accepted⟩ := exists_ofJson_taskAt? read found
      rw [accepted] at fails
      cases fails
    | error fault =>
      obtain ⟨other, another, again, rfl⟩ := exists_firstRefused read
      obtain ⟨rfl, rfl⟩ := refused.unique again
      rfl

/-- A value is read as a command exactly if it denotes it. The fault of a refused value leads
through the chains to the first refused task, the tasks to the left of it at every level being
accepted, and ends with the fault that this task has by itself. -/
theorem values_are_read_by_their_grammar :
    (∀ value command, ofJson value = .ok command ↔ Denotes value command) ∧
    ∀ value fault, ofJson value = .error fault ↔
      ∃ path cause, FirstRefused value path cause ∧ fault = .under path cause :=
  ⟨fun _ _ => ofJson_eq_ok_iff, fun _ _ => ofJson_eq_error_iff⟩

example : ofJson (.object [("action", .string "chain"), ("tasks", .array [
    .object [("action", .string "ring"), ("confirm", .null), ("tasks", .bool true)],
    .object [("action", .string "chain"), ("tasks", .array [
      .object [("message", .number (.whole 7)), ("status", .string "error")], .null])]])]) =
    .error (.task 1 (.task 0 (.badField .message))) := rfl

end Command

end CommandGate
