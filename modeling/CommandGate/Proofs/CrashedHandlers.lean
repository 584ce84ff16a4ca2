import CommandGate.Proofs.ChainExecution
import CommandGate.Proofs.CommandAnswers
import CommandGate.Proofs.MailConfiguration

/-!
Handlers that crash. The dispatcher makes an error of a crash, in the place of its leaf, so a posted
command is always answered. The endpoints of the mail account run their handlers past the dispatcher:
where such a handler crashes, the exchange ends without a response, and there is no other way for an
exchange to end so.
-/

namespace CommandGate

open Api

variable {σ : Type}

/-! ### At a leaf of a command -/

def crashMessage (action : String) (trace : Option String) : String :=
  action ++ " crashed: " ++ trace.getD "unknown panic"

namespace Dispatcher

variable {dispatcher : Dispatcher σ} {call : ToolCall} {trace : Option String} {world : World σ}

def Crashes (dispatcher : Dispatcher σ) (call : ToolCall) (world : World σ)
    (trace : Option String) : Prop :=
  dispatcher.Runs call ∧ ∃ action, dispatcher.registry.lookup call.action = some action ∧
    (action.handler call.parameters world.state).1 = .crashed trace

theorem execute_of_crashes (crashes : dispatcher.Crashes call world trace) :
    (dispatcher.execute call world).1 = .error (crashMessage call.action trace) := by
  obtain ⟨runs, action, owned, crashed⟩ := crashes
  have ended : (action.invoke call.action call.parameters world).1 = .crashed trace := crashed
  rw [execute_runs owned runs, ended]
  rfl

theorem executeAll_of_crashes {calls : List ToolCall} {index : Nat}
    (here : calls[index]? = some call)
    (crashes : dispatcher.Crashes call (dispatcher.stageOf calls world index) trace) :
    (dispatcher.executeAll calls world).1[index]? =
      some (.error (crashMessage call.action trace)) := by
  obtain ⟨result, there, executed⟩ := execute_stageOf here world
  rw [there, ← execute_of_crashes crashes, executed]

end Dispatcher

namespace Api

theorem Endpoint.path_of_ofPath? {path : String} {endpoint : Endpoint}
    (known : ofPath? path = some endpoint) : path = endpoint.path := by
  have same := List.find?_some known
  exact (beq_iff_eq.mp same).symm

def Ending.IsJson (ending : Ending) : Prop :=
  ∃ status body, ending = .response ⟨status, .json body⟩

/-- The answer to a command tells of an error at this leaf: a single call is answered by the error, a
chain has it in the leaf's place among the results of its leaves. -/
inductive Reported (index : Nat) (message : String) : Command → Ending → Prop where
  | single {call : ToolCall} (here : index = 0) :
      Reported index message (.tool call) (.response ⟨500, errorBody message⟩)
  | chain {tasks : List Command} {entries : List Json}
      (length : entries.length = (Command.chain tasks).leaves.length)
      (here : entries[index]? = some (ExecutionResult.error message).toJson) :
      Reported index message (.chain tasks)
        (.response ⟨200, .json (.object [("results", .array entries), ("status", .string "success")])⟩)

theorem isJson_outcomeResponse (outcome : Outcome) :
    (Ending.response (outcomeResponse outcome)).IsJson := by
  by_cases failure : outcome.IsFailure
  · obtain ⟨message, answered⟩ := outcomeResponse_of_isFailure failure
    exact ⟨_, _, congrArg Ending.response answered⟩
  · obtain ⟨body, status, answered, -⟩ := outcomeResponse_of_not_isFailure failure
    exact ⟨_, body, congrArg Ending.response answered⟩

end Api

theorem Dispatcher.reported_of_crashes {dispatcher : Dispatcher σ} {command : Command}
    {world : World σ} {call : ToolCall} {index : Nat} {trace : Option String}
    (dispatchable : command.isDispatchable = true) (here : command.leaves[index]? = some call)
    (crashes : dispatcher.Crashes call (dispatcher.stageOf command.leaves world index) trace) :
    Reported index (crashMessage call.action trace) command
      (.response (outcomeResponse (.dispatched (dispatcher.dispatch command world).1))) := by
  cases command with
  | tool leaf =>
    obtain ⟨rfl, rfl⟩ : index = 0 ∧ leaf = call := by
      cases index with
      | zero => exact ⟨rfl, Option.some.inj here⟩
      | succ index => cases here
    have result : (dispatcher.dispatch (.tool leaf) world).1 =
        .single (.error (crashMessage leaf.action trace)) :=
      congrArg DispatchResult.single (execute_of_crashes crashes)
    rw [result]
    exact .single rfl
  | chain tasks =>
    have result := executeAll_of_crashes here crashes
    refine .chain ?_ ?_
    · rw [List.length_map]
      exact executeAll_length _ world
    · rw [List.getElem?_map]
      exact congrArg (Option.map ExecutionResult.toJson) result
  | text message => cases dispatchable
  | error message => cases dispatchable

/-! ### Posted commands -/

namespace Api.Request

inductive AsksForAction (request : Request) : Prop where
  | command (posted : request.method = "POST") (routed : request.path = "/command")
  | configure (posted : request.method = "POST") (routed : request.path = "/configure_email")
  | status (asked : request.method = "GET") (routed : request.path = "/email_status")

end Api.Request

namespace Gate

variable {gate : Gate σ} {request : Request} {submission : Submission} {command : Command}
  {world : World σ} {trace : Option String}

theorem isJson_runCommand (gate : Gate σ) (request : Request) (world : World σ) :
    (gate.runCommand request world).1.IsJson := by
  cases read : request.body? CommandRequest.decoder with
  | error failure =>
    obtain ⟨message, refused⟩ : ∃ message, gate.runCommand request world =
        (.response ⟨400, errorBody message⟩, world) := runCommand_of_refused read world
    rw [refused]
    exact ⟨_, _, rfl⟩
  | ok taken =>
    cases taken with
    | text userText =>
      simp only [runCommand, read]
      split
      · exact ⟨_, _, rfl⟩
      · exact isJson_outcomeResponse _
    | resubmit value =>
      simp only [runCommand, read]
      exact isJson_outcomeResponse _

/-- The submission comes to this command, and the policy lets the command pass. -/
def Takes (gate : Gate σ) (submission : Submission) (world : World σ) (command : Command) : Prop :=
  ∃ value, (gate.receive submission world).1 = some value ∧ Command.ofJson value = .ok command ∧
    gate.policy.check command = .ok ()

theorem handle_of_takes (takes : gate.Takes submission world command) :
    (gate.handle submission world).1 =
      .dispatched (gate.dispatcher.dispatch command (gate.receive submission world).2).1 := by
  obtain ⟨value, received, read, accepted⟩ := takes
  rw [handle_of_receive_eq_some received, handleValue_of_check read accepted]

/-! ### Handlers that are run past the dispatcher -/

/-- The handler that the endpoint of the request runs by itself, and what it hands to it. -/
inductive Unguarded (gate : Gate σ) (request : Request) : Action σ → Fields → Prop where
  | configure {action : Action σ} {parameters checked : Fields} (posted : request.method = "POST")
      (routed : request.path = "/configure_email") (carries : request.Carries parameters)
      (found : gate.registry.lookup "configure_email" = some action)
      (fit : mailParameters action parameters = .ok checked) : Unguarded gate request action checked
  | status {action : Action σ} (asked : request.method = "GET" ∨ request.method = "HEAD")
      (routed : request.path = "/email_status")
      (found : gate.registry.lookup "email_status" = some action) :
      Unguarded gate request action []

def CrashesUnguarded (gate : Gate σ) (request : Request) (world : World σ) (trace : Option String) :
    Prop :=
  ∃ action parameters, gate.Unguarded request action parameters ∧
    (action.handler parameters world.state).1 = .crashed trace

theorem configuredResponse_cases (answer : Answer) :
    (configuredResponse answer).IsJson ∨ ∃ trace, answer = .crashed trace := by
  cases answer with
  | done result => exact .inl ⟨_, _, rfl⟩
  | failed error => cases error <;> exact .inl ⟨_, _, rfl⟩
  | crashed trace => exact .inr ⟨trace, rfl⟩

theorem statusResponse_cases (answer : Answer) :
    (statusResponse answer).IsJson ∨ ∃ trace, answer = .crashed trace := by
  cases answer with
  | done result =>
    rw [statusResponse]
    split <;> exact .inl ⟨_, _, rfl⟩
  | failed error => exact .inl ⟨_, _, rfl⟩
  | crashed trace => exact .inr ⟨trace, rfl⟩

theorem configureEmail_cases (posted : request.method = "POST")
    (routed : request.path = "/configure_email") (world : World σ) :
    (gate.configureEmail request world).1.IsJson ∨
      ∃ trace, gate.CrashesUnguarded request world trace ∧
        (gate.configureEmail request world).1 = .aborted trace := by
  unfold configureEmail
  split
  next failure unread => exact .inl ⟨_, _, rfl⟩
  next parameters read =>
    split
    next absent => exact .inl ⟨_, _, rfl⟩
    next action found =>
      split
      next failure unfit => exact .inl ⟨_, _, rfl⟩
      next checked fit =>
        refine (configuredResponse_cases _).imp_right ?_
        rintro ⟨trace, crashed⟩
        have carries := Request.body?_eq_ok_iff.mp read
        exact ⟨trace, ⟨action, checked, .configure posted routed carries found fit, crashed⟩,
          congrArg configuredResponse crashed⟩

theorem emailStatus_cases (asked : request.method = "GET" ∨ request.method = "HEAD")
    (routed : request.path = "/email_status") (world : World σ) :
    (gate.emailStatus world).1.IsJson ∨
      ∃ trace, gate.CrashesUnguarded request world trace ∧
        (gate.emailStatus world).1 = .aborted trace := by
  unfold emailStatus
  split
  next absent => exact .inl ⟨_, _, rfl⟩
  next action found =>
    refine (statusResponse_cases _).imp_right ?_
    rintro ⟨trace, crashed⟩
    exact ⟨trace, ⟨action, [], .status asked routed found, crashed⟩,
      congrArg statusResponse crashed⟩

theorem serve_allowed {endpoint : Endpoint} (routed : request.path = endpoint.path)
    (allowed : endpoint.allows request.method = true) (world : World σ) :
    (gate.serve request world).1 =
      if request.method == "HEAD" then (gate.runEndpoint endpoint request world).1.withoutBody
      else (gate.runEndpoint endpoint request world).1 := by
  have asked : request.method ≠ "OPTIONS" := by
    intro options
    rw [options] at allowed
    cases endpoint <;> cases allowed
  simp [serve, asked, routed, Endpoint.ofPath?_path, allowed]

theorem runEndpoint_cases {endpoint : Endpoint} (routed : request.path = endpoint.path)
    (allowed : endpoint.allows request.method = true) (world : World σ) :
    (∃ response, (gate.runEndpoint endpoint request world).1 = .response response) ∨
      ∃ trace, gate.CrashesUnguarded request world trace ∧
        (gate.runEndpoint endpoint request world).1 = .aborted trace := by
  have answered {ending : Ending} : ending.IsJson → ∃ response, ending = .response response := by
    rintro ⟨status, body, same⟩
    exact ⟨_, same⟩
  cases endpoint with
  | health => exact .inl ⟨_, rfl⟩
  | command => exact .inl (answered (isJson_runCommand gate request world))
  | chat =>
    left
    rw [runEndpoint, runChat]
    split
    · exact ⟨_, rfl⟩
    · split <;> exact ⟨_, rfl⟩
  | capabilities => exact .inl ⟨_, rfl⟩
  | configureEmail =>
    have posted : request.method = "POST" := beq_iff_eq.mp allowed
    exact (configureEmail_cases posted routed world).imp_left answered
  | emailStatus =>
    have asked : request.method = "GET" ∨ request.method = "HEAD" := by
      simpa [Endpoint.allows, Endpoint.isRead] using allowed
    exact (emailStatus_cases asked routed world).imp_left answered

/-- Every exchange ends in a response, or in the crash of a handler that nothing guards. -/
theorem serve_cases (gate : Gate σ) (request : Request) (world : World σ) :
    (∃ response, (gate.serve request world).1 = .response response) ∨
      ∃ trace, gate.CrashesUnguarded request world trace ∧
        (gate.serve request world).1 = .aborted trace := by
  cases known : Endpoint.ofPath? request.path with
  | none =>
    left
    unfold serve
    rw [known]
    split <;> exact ⟨_, rfl⟩
  | some endpoint =>
    have routed := Endpoint.path_of_ofPath? known
    cases allowed : endpoint.allows request.method with
    | false =>
      left
      simp only [serve, known, allowed]
      split <;> exact ⟨_, rfl⟩
    | true =>
      rw [serve_allowed routed allowed]
      rcases runEndpoint_cases routed allowed world with
        ⟨response, answered⟩ | ⟨trace, crashes, aborted⟩
      · rw [answered]
        left
        split <;> exact ⟨_, rfl⟩
      · rw [aborted]
        right
        refine ⟨trace, crashes, ?_⟩
        split <;> rfl

theorem serve_of_crashesUnguarded (crashes : gate.CrashesUnguarded request world trace) :
    (gate.serve request world).1 = .aborted trace := by
  obtain ⟨action, parameters, unguarded, crashed⟩ := crashes
  cases unguarded with
  | configure posted routed carries found fit =>
    rw [serve_configureEmail posted routed]
    simp only [configureEmail, Request.body?_eq_ok_iff.mpr carries, found, fit]
    exact congrArg configuredResponse crashed
  | status asked routed found =>
    have allowed : Endpoint.emailStatus.allows request.method = true := by
      simpa [Endpoint.allows, Endpoint.isRead] using asked
    have ended : (gate.emailStatus world).1 = .aborted trace := by
      simp only [emailStatus, found]
      exact congrArg statusResponse crashed
    rw [serve_allowed routed allowed, runEndpoint, ended]
    split <;> rfl

theorem serve_eq_aborted_iff :
    (gate.serve request world).1 = .aborted trace ↔ gate.CrashesUnguarded request world trace := by
  refine ⟨fun aborted => ?_, serve_of_crashesUnguarded⟩
  rcases gate.serve_cases request world with ⟨response, answered⟩ | ⟨other, crashes, ended⟩
  · rw [aborted] at answered
    cases answered
  · rw [aborted] at ended
    cases ended
    exact crashes

theorem serve_command (posted : request.method = "POST") (routed : request.path = "/command")
    (world : World σ) : gate.serve request world = gate.runCommand request world :=
  serve_posted .command rfl posted routed world

theorem isJson_serve (asks : request.AsksForAction)
    (guarded : ∀ trace, ¬gate.CrashesUnguarded request world trace) :
    (gate.serve request world).1.IsJson := by
  cases asks with
  | command posted routed =>
    rw [serve_command posted routed]
    exact isJson_runCommand gate request world
  | configure posted routed =>
    rw [serve_configureEmail posted routed]
    refine (configureEmail_cases posted routed world).resolve_right ?_
    rintro ⟨trace, crashes, -⟩
    exact guarded trace crashes
  | status asked routed =>
    have allowed : Endpoint.emailStatus.allows request.method = true := by
      simp [Endpoint.allows, Endpoint.isRead, asked]
    have whole : (request.method == "HEAD") = false := by simp [asked]
    rw [serve_allowed routed allowed, whole]
    refine (emailStatus_cases (.inl asked) routed world).resolve_right ?_
    rintro ⟨trace, crashes, -⟩
    exact guarded trace crashes

/-- An exchange ends without a response exactly if the configuration of the mail account or the question
for its state runs a handler that crashes; otherwise what asks for an action is answered in JSON. A
posted command always is: a crash of a handler is told as an error at its leaf, as a failure of the
server for a single call, among the other results for a chain. -/
theorem crashes_are_answered_unless_unguarded (gate : Gate σ) (request : Request) (world : World σ) :
    let ended := gate.serve request world
    (∀ trace, ended.1 = .aborted trace ↔ gate.CrashesUnguarded request world trace) ∧
    (request.AsksForAction → (∀ trace, ¬gate.CrashesUnguarded request world trace) →
      ended.1.IsJson) ∧
    (request.method = "POST" → request.path = "/command" →
      ended.1.IsJson ∧
      ∀ submission command, request.Brings submission → gate.Takes submission world command →
        let start := (gate.receive submission world).2
        ∀ index call trace, command.leaves[index]? = some call →
          gate.dispatcher.Crashes call (gate.dispatcher.stageOf command.leaves start index) trace →
          Reported index (crashMessage call.action trace) command ended.1) := by
  intro ended
  refine ⟨fun trace => serve_eq_aborted_iff, isJson_serve, fun posted routed => ?_⟩
  have served : ended = gate.runCommand request world := serve_command posted routed world
  rw [served]
  refine ⟨isJson_runCommand gate request world, ?_⟩
  intro submission command brings takes start index call trace here crashes
  rw [runCommand_of_brings brings world, handle_of_takes takes]
  have ⟨_, _, _, accepted⟩ := takes
  exact Dispatcher.reported_of_crashes (Policy.isDispatchable_of_check accepted) here crashes

end Gate

namespace House

def jam : Handler Nat := fun _ rings => (.crashed (some "jam"), rings)

def brittle : Registry Nat :=
  Registry.empty.tryRegister {
    name := "house"
    description := "Bell and door"
    actions := [
      ⟨"ring", ⟨"Rings the bell", [], false, count⟩⟩,
      ⟨"lock", ⟨"Locks the door", [], false, jam⟩⟩,
      ⟨"email_status", ⟨"Tells of the account", [], false, jam⟩⟩] }

def brittleGate : Gate Nat := .ofSettings brittle silent settings Policy.permitAll

def jammedFields : Fields :=
  [("command", call "chain" [("tasks", .array [call "ring" [], call "lock" [], call "ring" []])])]

theorem jammed_holds : (asking jammedFields).Holds (.object jammedFields) :=
  post_holds _ ⟨⟨trivial, ⟨⟨trivial, trivial⟩, ⟨trivial, trivial⟩, ⟨trivial, trivial⟩, trivial⟩,
    trivial⟩, trivial⟩ (by decide) (by decide)

theorem jam_is_told_in_its_place :
    (∀ trace, (brittleGate.serve (asking jammedFields) (.start 0)).1 ≠ .aborted trace) ∧
      Reported 1 "lock crashed: jam" (.chain [bare "ring", bare "lock", bare "ring"])
        (brittleGate.serve (asking jammedFields) (.start 0)).1 := by
  have posted : (asking jammedFields).method = "POST" := rfl
  have routed : (asking jammedFields).path = "/command" := by
    have here : (post "/command" "").path = "/command" := rfl
    exact here
  obtain ⟨-, -, commands⟩ :=
    brittleGate.crashes_are_answered_unless_unguarded (asking jammedFields) (.start 0)
  obtain ⟨⟨status, body, answered⟩, reported⟩ := commands posted routed
  refine ⟨fun trace aborted => ?_, ?_⟩
  · rw [answered] at aborted
    cases aborted
  · have brings : (asking jammedFields).Brings (.value _) := .value jammed_holds rfl
    have accepted : brittleGate.policy.check (.chain [bare "ring", bare "lock", bare "ring"]) =
        .ok () := rfl
    refine reported _ _ brings ⟨_, rfl, rfl, accepted⟩ 1 ⟨"lock", [], none⟩ (some "jam") rfl ?_
    exact ⟨⟨_, rfl, .inl ⟨rfl, List.not_mem_nil⟩⟩, _, rfl, rfl⟩

def statusRequest : Request := ⟨"GET", "/email_status", none, ""⟩

theorem jam_ends_the_exchange :
    statusRequest.AsksForAction ∧
      (brittleGate.serve statusRequest (.start 0)).1 = .aborted (some "jam") ∧
      ¬(brittleGate.serve statusRequest (.start 0)).1.IsJson := by
  have aborted : (brittleGate.serve statusRequest (.start 0)).1 = .aborted (some "jam") := rfl
  refine ⟨.status rfl rfl, aborted, ?_⟩
  rintro ⟨status, body, answered⟩
  rw [aborted] at answered
  cases answered

end House

end CommandGate
