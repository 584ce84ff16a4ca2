import CommandGate.Api.Routes
import CommandGate.Proofs.Mediation
import CommandGate.Proofs.RegistryHistory

/-!
What serving requests keeps. A property of the surroundings that no handler and no reply of the oracle
ends holds after every request, whatever its endpoint and its body, and so after every run of them.
-/

namespace CommandGate

variable {σ : Type} {holds : σ → Prop}

theorem Api.Endpoint.ofPath?_path (endpoint : Endpoint) : ofPath? endpoint.path = some endpoint := by
  cases endpoint <;> rfl

theorem Gate.serve_posted {gate : Gate σ} {request : Api.Request} (endpoint : Api.Endpoint)
    (taken : endpoint.isRead = false) (posted : request.method = "POST")
    (routed : request.path = endpoint.path) (world : World σ) :
    gate.serve request world = gate.runEndpoint endpoint request world := by
  simp [serve, posted, routed, Api.Endpoint.ofPath?_path, Api.Endpoint.allows, taken]

def Action.Keeps (action : Action σ) (holds : σ → Prop) : Prop :=
  ∀ parameters state, holds state → holds (action.handler parameters state).2

def Oracle.Keeps (oracle : Oracle σ) (holds : σ → Prop) : Prop :=
  ∀ request state, holds state → holds (oracle.generate request state).2

def Registry.Keeps (registry : Registry σ) (holds : σ → Prop) : Prop :=
  ∀ name action, registry.lookup name = some action → action.Keeps holds

structure Gate.Keeps (gate : Gate σ) (holds : σ → Prop) : Prop where
  registry : gate.registry.Keeps holds
  oracle : gate.oracle.Keeps holds

namespace Registry

variable {registry : Registry σ}

theorem mem_of_mem_acceptedAmong {registration : PluginRegistration σ}
    {registrations : List (PluginRegistration σ)}
    (accepted : registration ∈ registry.acceptedAmong registrations) :
    registration ∈ registrations := by
  induction registrations generalizing registry with
  | nil => exact accepted
  | cons first registrations ih =>
    rw [acceptedAmong] at accepted
    split at accepted
    · rcases List.mem_cons.mp accepted with rfl | later
      · exact List.mem_cons_self
      · exact List.mem_cons_of_mem _ (ih later)
    · exact List.mem_cons_of_mem _ (ih accepted)

theorem keeps_registerAll {registrations : List (PluginRegistration σ)}
    (each : ∀ registration ∈ registrations, ∀ entry ∈ registration.actions,
      entry.action.Keeps holds) : (empty.registerAll registrations).Keeps holds := by
  intro name action found
  have consistent := consistent_registerAll registrations
  obtain ⟨plugin, installed, listed⟩ := consistent.lookup_eq_some_iff.mp found
  obtain ⟨before, last, later, history, -, sound, rfl⟩ :=
    (records_registerAll registrations).last plugin installed
  have accepted : last ∈ empty.acceptedAmong registrations := by simp [history]
  exact each last (mem_of_mem_acceptedAmong accepted) _ ((Plugin.mem_ofRegistration sound).mp listed)

theorem Keeps.invoke (keeps : registry.Keeps holds) (call : Call) {world : World σ}
    (before : holds world.state) : holds (registry.invoke world call).state := by
  unfold Registry.invoke
  split
  next absent => exact before
  next action found => exact keeps _ action found _ _ before

theorem Keeps.invokeAll (keeps : registry.Keeps holds) (calls : List Call) {world : World σ}
    (before : holds world.state) : holds (registry.invokeAll calls world).state := by
  induction calls generalizing world with
  | nil => exact before
  | cons call calls ih => exact ih (keeps.invoke call before)

end Registry

theorem Oracle.Keeps.askTimes {oracle : Oracle σ} (keeps : oracle.Keeps holds)
    (request : GenerateRequest) (calls : Nat) {world : World σ} (before : holds world.state) :
    holds (oracle.askTimes request calls world).state := by
  induction calls generalizing world with
  | zero => exact before
  | succ calls ih => exact ih (keeps request _ before)

theorem Oracle.Keeps.askAgain {oracle : Oracle σ} (keeps : oracle.Keeps holds)
    (request : GenerateRequest) (more : Nat) {world : World σ} (before : holds world.state) :
    holds (oracle.askAgain request more world).2.state := by
  obtain ⟨earlier, -, asked⟩ := oracle.exists_stopsAfter request more world
  rw [asked]
  exact keeps.askTimes request (earlier + 1) before

namespace Gate

open Api

def serveAll (gate : Gate σ) : List Request → World σ → List Ending × World σ
  | [], world => ([], world)
  | request :: requests, world =>
    let (ending, world) := gate.serve request world
    let (endings, world) := serveAll gate requests world
    (ending :: endings, world)

variable {gate : Gate σ} {world : World σ}

theorem Keeps.receive (keeps : gate.Keeps holds) (submission : Submission)
    (before : holds world.state) : holds (gate.receive submission world).2.state := by
  cases submission with
  | text userText =>
    rw [receive_text_world]
    exact keeps.oracle.askAgain _ _ before
  | value value => exact before

theorem Keeps.handle (keeps : gate.Keeps holds) (submission : Submission)
    (before : holds world.state) : holds (gate.handle submission world).2.state := by
  have received := keeps.receive submission before
  rcases gate.handle_cases submission world with
    ⟨value, command, -, -, -, handled⟩ | ⟨-, unchanged, -⟩
  · rw [handled, Dispatcher.dispatch_world]
    exact keeps.registry.invokeAll _ received
  · rw [unchanged]
    exact received

theorem Keeps.runCommand (keeps : gate.Keeps holds) (request : Request)
    (before : holds world.state) : holds (gate.runCommand request world).2.state := by
  unfold Gate.runCommand
  split
  next failure unread => exact before
  next userInput read =>
    split
    · exact before
    · exact keeps.handle (.text userInput) before
  next command read => exact keeps.handle (.value command) before

theorem Keeps.runChat (keeps : gate.Keeps holds) (request : Request)
    (before : holds world.state) : holds (gate.runChat request world).2.state := by
  unfold Gate.runChat
  split
  next failure unread => exact before
  next chat read =>
    have asked : holds (gate.chat chat.message world).2.state := keeps.oracle.askAgain _ _ before
    rcases answer : gate.chat chat.message world with ⟨error | reply, after⟩
    all_goals
      rw [answer] at asked
      exact asked

theorem Keeps.configureEmail (keeps : gate.Keeps holds) (request : Request)
    (before : holds world.state) : holds (gate.configureEmail request world).2.state := by
  unfold Gate.configureEmail
  split
  next failure unread => exact before
  next parameters read =>
    split
    next absent => exact before
    next action found =>
      split
      next failure unfit => exact before
      next checked fit => exact keeps.registry _ action found checked _ before

theorem Keeps.emailStatus (keeps : gate.Keeps holds) (before : holds world.state) :
    holds (gate.emailStatus world).2.state := by
  unfold Gate.emailStatus
  split
  next absent => exact before
  next action found => exact keeps.registry _ action found [] _ before

theorem Keeps.runEndpoint (keeps : gate.Keeps holds) (endpoint : Endpoint) (request : Request)
    (before : holds world.state) : holds (gate.runEndpoint endpoint request world).2.state := by
  cases endpoint with
  | health => exact before
  | command => exact keeps.runCommand request before
  | chat => exact keeps.runChat request before
  | capabilities => exact before
  | configureEmail => exact keeps.configureEmail request before
  | emailStatus => exact keeps.emailStatus before

theorem Keeps.serve (keeps : gate.Keeps holds) (request : Request) (before : holds world.state) :
    holds (gate.serve request world).2.state := by
  unfold Gate.serve
  split
  next options => exact before
  next asked =>
    split
    next unknown => exact before
    next endpoint known =>
      split
      next refused => exact before
      next allowed => exact keeps.runEndpoint endpoint request before

theorem Keeps.serveAll (keeps : gate.Keeps holds) (requests : List Request)
    (before : holds world.state) : holds (gate.serveAll requests world).2.state := by
  induction requests generalizing world with
  | nil => exact before
  | cons request requests ih => exact ih (keeps.serve request before)

end Gate

end CommandGate
