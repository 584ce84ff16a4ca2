import CommandGate.Gate
import CommandGate.Proofs.DispatchTrace
import CommandGate.Proofs.OracleRetries
import CommandGate.Proofs.PolicyCheck

/-!
Complete mediation. Whatever is handed to a gate, handlers run only for a command that its policy
accepted as a whole, and then exactly for the leaves that run, each once, in their order and with
their own parameters. A submission that ends in any other way leaves the surroundings as the oracle
left them.
-/

namespace CommandGate

variable {σ : Type}

/-- What a gate is given: a request in free text or a structured command. -/
inductive Submission where
  | text (userText : String)
  | value (value : Json)

namespace Oracle

variable {oracle : Oracle σ}

theorem askAgain_calls (request : GenerateRequest) (more : Nat) (world : World σ) :
    (oracle.askAgain request more world).2.calls = world.calls := by
  obtain ⟨earlier, -, asked⟩ := oracle.exists_stopsAfter request more world
  rw [asked]
  exact calls_askTimes (earlier + 1)

end Oracle

namespace Policy

theorem acceptsJson_iff {policy : Policy} {value : Json} :
    policy.acceptsJson value = true ↔
      ∃ command, Command.ofJson value = .ok command ∧ policy.check command = .ok () := by
  unfold acceptsJson accepts
  constructor
  · intro accepted
    split at accepted
    next command read =>
      split at accepted
      next checked => exact ⟨command, read, checked⟩
      · cases accepted
    · cases accepted
  · rintro ⟨command, read, checked⟩
    simp only [read, checked]

theorem passes_of_mem_leaves {settings : PolicySettings} {authorize : Command → Bool}
    {command : Command} (accepted : (ofSettings settings authorize).check command = .ok ())
    {leaf : ToolCall} (inside : leaf ∈ command.leaves) :
    Passes settings authorize (.tool leaf) := by
  obtain ⟨path, found⟩ := Command.mem_leaves_iff.mp inside
  exact nodeFault?_eq_none_iff.mp (check_eq_ok_iff.mp accepted path _ found)

theorem isDispatchable_of_check {policy : Policy} {command : Command}
    (accepted : policy.check command = .ok ()) : command.isDispatchable = true := by
  cases command with
  | tool call => rfl
  | chain tasks => rfl
  | text message => cases accepted
  | error message => cases accepted

end Policy

namespace Gate

variable {gate : Gate σ}

def handle (gate : Gate σ) : Submission → World σ → Outcome × World σ
  | .text userText => gate.handleText userText
  | .value value => gate.handleValue value

/-- The value that a submission comes to, if any, and the world in which it is taken up: for a text
the oracle has answered by then. -/
def receive (gate : Gate σ) : Submission → World σ → Option Json × World σ
  | .text userText, world =>
    match gate.generate userText world with
    | (.error _, world) => (none, world)
    | (.ok raw, world) => (Json.read? (extract raw.toList), world)
  | .value value, world => (some value, world)

theorem receive_text_world (userText : String) (world : World σ) :
    (gate.receive (.text userText) world).2 = (gate.generate userText world).2 := by
  rcases answer : gate.generate userText world with ⟨error | raw, after⟩
  all_goals simp only [receive, answer]

theorem receive_calls (submission : Submission) (world : World σ) :
    (gate.receive submission world).2.calls = world.calls := by
  cases submission with
  | text userText =>
    rw [receive_text_world]
    exact Oracle.askAgain_calls _ _ world
  | value value => rfl

theorem handle_of_receive_eq_some {submission : Submission} {world : World σ} {value : Json}
    (received : (gate.receive submission world).1 = some value) :
    gate.handle submission world =
      gate.handleValue value (gate.receive submission world).2 := by
  cases submission with
  | text userText =>
    rcases answer : gate.generate userText world with ⟨error | raw, after⟩
    · rw [receive, answer] at received
      cases received
    · simp only [receive, answer] at received
      simp only [handle, handleText, receive, answer, received]
  | value value' =>
    cases received
    rfl

theorem handle_of_receive_eq_none {submission : Submission} {world : World σ}
    (received : (gate.receive submission world).1 = none) :
    ∃ message, gate.handle submission world =
      (.failed message, (gate.receive submission world).2) := by
  cases submission with
  | text userText =>
    rcases answer : gate.generate userText world with ⟨error | raw, after⟩
    · simp only [handle, handleText, receive, answer]
      exact ⟨_, rfl⟩
    · simp only [receive, answer] at received
      simp only [handle, handleText, receive, answer, received]
      exact ⟨_, rfl⟩
  | value value => cases received

theorem handleValue_of_check {value : Json} {command : Command}
    (read : Command.ofJson value = .ok command)
    (accepted : gate.policy.check command = .ok ()) (world : World σ) :
    gate.handleValue value world =
      (.dispatched (gate.dispatcher.dispatch command world).1,
        (gate.dispatcher.dispatch command world).2) := by
  simp only [handleValue, read]
  cases command with
  | tool call => simp only [handleCommand, accepted]
  | chain tasks => simp only [handleCommand, accepted]
  | text message => cases accepted
  | error message => cases accepted

theorem handleValue_of_not_accepts {value : Json}
    (refused : ¬gate.policy.acceptsJson value = true) (world : World σ) :
    (gate.handleValue value world).2 = world ∧
      ∀ result, (gate.handleValue value world).1 ≠ .dispatched result := by
  rw [Policy.acceptsJson_iff] at refused
  cases read : Command.ofJson value with
  | error source => simp [handleValue, read]
  | ok command =>
    cases checked : gate.policy.check command with
    | ok _ => exact absurd ⟨command, read, checked⟩ refused
    | error rejection => cases command <;> simp [handleValue, read, handleCommand, checked]

/-- Either a submission comes to a command that the policy accepts, and this command is dispatched,
or nothing happens beyond what the oracle did. -/
theorem handle_cases (gate : Gate σ) (submission : Submission) (world : World σ) :
    (∃ value command, (gate.receive submission world).1 = some value ∧
      Command.ofJson value = .ok command ∧ gate.policy.check command = .ok () ∧
      gate.handle submission world =
        (.dispatched (gate.dispatcher.dispatch command (gate.receive submission world).2).1,
          (gate.dispatcher.dispatch command (gate.receive submission world).2).2)) ∨
    ((∀ value, (gate.receive submission world).1 = some value →
        ¬gate.policy.acceptsJson value = true) ∧
      (gate.handle submission world).2 = (gate.receive submission world).2 ∧
      ∀ result, (gate.handle submission world).1 ≠ .dispatched result) := by
  cases received : (gate.receive submission world).1 with
  | none =>
    obtain ⟨message, ended⟩ := handle_of_receive_eq_none received
    rw [ended]
    exact .inr ⟨nofun, rfl, nofun⟩
  | some value =>
    rw [handle_of_receive_eq_some received]
    by_cases accepts : gate.policy.acceptsJson value = true
    · obtain ⟨command, read, checked⟩ := Policy.acceptsJson_iff.mp accepts
      exact .inl ⟨value, command, rfl, read, checked, handleValue_of_check read checked _⟩
    · refine .inr ⟨?_, handleValue_of_not_accepts accepts _⟩
      rintro _ ⟨⟩
      exact accepts

/-- A submission ends dispatched exactly when it comes to a value that the policy accepts. Otherwise
no handler runs. When it is dispatched, the handlers that run are those of the leaves that run, in
their order, each with the parameters of its leaf; all leaves are on the list of allowed actions. -/
theorem dispatch_is_mediated (registry : Registry σ) (oracle : Oracle σ) (settings : Settings)
    (authorize : Command → Bool) (submission : Submission) (world : World σ) :
    let gate := ofSettings registry oracle settings authorize
    let received := (gate.receive submission world).1
    let start := (gate.receive submission world).2
    let outcome := (gate.handle submission world).1
    let after := (gate.handle submission world).2
    start.calls = world.calls ∧
    ((∃ result, outcome = .dispatched result) ↔
      ∃ value, received = some value ∧ gate.policy.acceptsJson value = true) ∧
    ((∀ result, outcome ≠ .dispatched result) → after = start) ∧
    (∀ result, outcome = .dispatched result → ∃ value command,
      received = some value ∧ Command.ofJson value = .ok command ∧
      after.calls = world.calls ++
        (command.leaves.filter gate.dispatcher.Runs).map ToolCall.invocation ∧
      after = registry.invokeAll
        ((command.leaves.filter gate.dispatcher.Runs).map ToolCall.invocation) start ∧
      ∀ leaf ∈ command.leaves, leaf.action ∈ settings.policy.allowedActions) := by
  intro gate received start outcome after
  have quiet : start.calls = world.calls := receive_calls submission world
  rcases gate.handle_cases submission world with
    ⟨value, command, taken, read, checked, handled⟩ | ⟨refused, unchanged, undispatched⟩
  · have ended : outcome = .dispatched (gate.dispatcher.dispatch command start).1 :=
      congrArg Prod.fst handled
    have left : after = (gate.dispatcher.dispatch command start).2 := congrArg Prod.snd handled
    have accepts : gate.policy.acceptsJson value = true :=
      Policy.acceptsJson_iff.mpr ⟨command, read, checked⟩
    refine ⟨quiet, ⟨fun _ => ⟨value, taken, accepts⟩, fun _ => ⟨_, ended⟩⟩,
      fun undispatched => absurd ended (undispatched _), fun _ _ =>
        ⟨value, command, taken, read, ?_, ?_, ?_⟩⟩
    · rw [left, Dispatcher.dispatch_calls, quiet]
    · rw [left, Dispatcher.dispatch_world]
      rfl
    · intro leaf inside
      exact (Policy.passes_of_mem_leaves checked inside).allowed leaf rfl
  · refine ⟨quiet, ⟨?_, ?_⟩, fun _ => unchanged, fun result ended =>
      absurd ended (undispatched result)⟩
    · rintro ⟨result, ended⟩
      exact absurd ended (undispatched result)
    · rintro ⟨value, taken, accepts⟩
      exact absurd accepts (refused value taken)

end Gate

namespace House

def count : Handler Nat := fun _ rings => (.done (.whole (rings + 1)), rings + 1)

def registry : Registry Nat :=
  Registry.empty.tryRegister {
    name := "house"
    description := "Bell and door"
    actions := [
      ⟨"ring", ⟨"Rings the bell", [], false, count⟩⟩,
      ⟨"lock", ⟨"Locks the door", [], true, count⟩⟩] }

def silent : Oracle Nat where
  generate _ rings := (.error .timeout, rings)
  check rings := (.error .timeout, rings)

def settings : Settings where
  policy := { allowedActions := ["ring", "lock", "sing"], deniedPatterns := ["", "Off"] }

def call (action : String) (more : Fields) : Json := .object (("action", .string action) :: more)

def evening : Json :=
  call "chain" [("tasks", .array [
    call "ring" [],
    call "chain" [("tasks", .array [
      call "lock" [("confirm", .bool true)],
      call "lock" [("parameters", .object [("confirm", .bool false)])],
      call "sing" []])]])]

theorem evening_is_mediated :
    let gate := Gate.ofSettings registry silent settings Policy.permitAll
    gate.policy.acceptsJson evening = true ∧
      (gate.handle (.value evening) (.start 0)).2.calls = [⟨"ring", []⟩, ⟨"lock", []⟩] := by
  have mediated := Gate.dispatch_is_mediated registry silent settings Policy.permitAll
    (.value evening) (.start 0)
  obtain ⟨-, dispatched, -, ran⟩ := mediated
  have accepts :
      (Policy.ofSettings settings.policy Policy.permitAll).acceptsJson evening = true := by
    decide +kernel
  refine ⟨accepts, ?_⟩
  obtain ⟨result, ended⟩ := dispatched.mpr ⟨evening, rfl, accepts⟩
  obtain ⟨value, command, received, read, calls, -, -⟩ := ran result ended
  cases received
  cases read
  exact calls

end House

end CommandGate
