import CommandGate.Proofs.CleanMails
import CommandGate.Proofs.SubmittedCommands
import CommandGate.Proofs.ValueReading

/-!
Posted commands and how they are answered. Where the body submits nothing, the client is at fault and
nobody is called. Otherwise the status of the answer is decided by how the submission ends. Only a text
is put to the oracle, at most as often as the settings allow.
-/

namespace CommandGate

open Api

variable {σ : Type}

/-! ### How an outcome is answered -/

def Api.errorBody (message : String) : Body :=
  .json (.object [("message", .string message), ("status", .string "error")])

/-- What counts as a failure of the server. The errors of a chain do not, even if all calls of the
chain end in one. -/
inductive Outcome.IsFailure : Outcome → Prop where
  | failed (message : String) : IsFailure (.failed message)
  | rejected (rejection : Rejection) : IsFailure (.rejected rejection)
  | single (message : String) : IsFailure (.dispatched (.single (.error message)))

namespace Api

variable {outcome : Outcome}

theorem outcomeResponse_of_isFailure (failure : outcome.IsFailure) :
    ∃ message, outcomeResponse outcome = ⟨500, errorBody message⟩ := by
  cases failure with
  | failed message => exact ⟨message, rfl⟩
  | rejected rejection => exact ⟨_, rfl⟩
  | single message => exact ⟨message, rfl⟩

theorem outcomeResponse_of_not_isFailure (fine : ¬outcome.IsFailure) :
    ∃ body status, outcomeResponse outcome = ⟨200, .json body⟩ ∧
      body.get? "status" = some (.string status) ∧
      status ∈ ["text_response", "success", "cancelled"] := by
  cases outcome with
  | text message => exact ⟨_, "text_response", rfl, rfl, by decide⟩
  | failed message => exact absurd (.failed message) fine
  | rejected rejection => exact absurd (.rejected rejection) fine
  | dispatched result =>
    cases result with
    | single result =>
      cases result with
      | success value => exact ⟨_, "success", rfl, rfl, by decide⟩
      | error message => exact absurd (.single message) fine
      | cancelled action message needs command => exact ⟨_, "cancelled", rfl, rfl, by decide⟩
    | chain results => exact ⟨_, "success", rfl, rfl, by decide⟩

theorem outcomeResponse_status_of_not_isFailure (fine : ¬outcome.IsFailure) :
    (outcomeResponse outcome).status = 200 := by
  obtain ⟨body, status, answered, -⟩ := outcomeResponse_of_not_isFailure fine
  exact congrArg Response.status answered

theorem outcomeResponse_status_eq_500_iff :
    (outcomeResponse outcome).status = 500 ↔ outcome.IsFailure := by
  refine ⟨fun failed => ?_, fun failure => ?_⟩
  · by_contra fine
    rw [outcomeResponse_status_of_not_isFailure fine] at failed
    cases failed
  · obtain ⟨message, answered⟩ := outcomeResponse_of_isFailure failure
    exact congrArg Response.status answered

theorem outcomeResponse_status_ne_400 (outcome : Outcome) :
    (outcomeResponse outcome).status ≠ 400 := by
  by_cases failure : outcome.IsFailure
  · rw [outcomeResponse_status_eq_500_iff.mpr failure]
    decide
  · rw [outcomeResponse_status_of_not_isFailure failure]
    decide

theorem Ending.exists_eq_response_iff {response : Response} {status : Nat} :
    (∃ body, Ending.response response = .response ⟨status, body⟩) ↔ response.status = status := by
  cases response
  simp

end Api

/-! ### How often the oracle is asked -/

theorem Oracle.askAgain_requests (oracle : Oracle σ) (request : GenerateRequest) (more : Nat)
    (world : World σ) :
    ∃ calls, 1 ≤ calls ∧ calls ≤ more + 1 ∧
      (oracle.askAgain request more world).2.requests =
        world.requests ++ List.replicate calls request := by
  obtain ⟨earlier, stops, asked⟩ := oracle.exists_stopsAfter request more world
  refine ⟨earlier + 1, Nat.le_add_left 1 earlier, Nat.succ_le_succ stops.allowed, ?_⟩
  rw [asked]
  exact requests_askTimes (earlier + 1)

theorem Registry.invokeAll_requests (registry : Registry σ) (calls : List Call) (world : World σ) :
    (registry.invokeAll calls world).requests = world.requests := by
  induction calls generalizing world with
  | nil => rfl
  | cons call calls ih =>
    have kept : (registry.invoke world call).requests = world.requests := by
      unfold invoke
      split
      next absent => rfl
      next action found => rfl
    exact (ih _).trans kept

namespace Gate

variable {gate : Gate σ}

theorem handle_requests (submission : Submission) (world : World σ) :
    (gate.handle submission world).2.requests = (gate.receive submission world).2.requests := by
  rcases gate.handle_cases submission world with
    ⟨value, command, -, -, -, handled⟩ | ⟨-, unchanged, -⟩
  · rw [handled, Dispatcher.dispatch_world, Registry.invokeAll_requests]
  · rw [unchanged]

theorem handle_text_requests (userText : String) (world : World σ) :
    ∃ calls, 1 ≤ calls ∧ calls ≤ max 1 gate.settings.maxAttempts.toNat ∧
      (gate.handle (.text userText) world).2.requests = world.requests ++
        List.replicate calls (gate.settings.commandRequest userText gate.registry.describe) := by
  obtain ⟨calls, some, few, made⟩ := gate.oracle.askAgain_requests
    (gate.settings.commandRequest userText gate.registry.describe)
    (gate.settings.maxAttempts.toNat - 1) world
  refine ⟨calls, some, by omega, ?_⟩
  rw [handle_requests, receive_text_world]
  exact made

/-! ### Commands that are posted -/

variable {request : Request} {submission : Submission}

theorem runCommand_of_brings (brings : request.Brings submission) (world : World σ) :
    gate.runCommand request world =
      (.response (outcomeResponse (gate.handle submission world).1),
        (gate.handle submission world).2) := by
  cases brings with
  | text holds taken visible =>
    have read := Request.body?_buffered_eq_ok_iff.mpr ⟨_, holds, taken⟩
    simp only [runCommand, CommandRequest.decoder, read, visible, Bool.false_eq_true, if_false]
    rfl
  | value holds taken =>
    have read := Request.body?_buffered_eq_ok_iff.mpr ⟨_, holds, taken⟩
    simp only [runCommand, CommandRequest.decoder, read]
    rfl

theorem runCommand_of_submits
    (distinct : ∀ document, request.Holds document → document.HasDistinctNames)
    (submits : request.Submits submission) (world : World σ) :
    gate.runCommand request world =
      (.response (outcomeResponse (gate.handle submission world).1),
        (gate.handle submission world).2) :=
  runCommand_of_brings (submits.brings distinct) world

theorem runCommand_of_refused {failure : Failure}
    (refused : request.body? CommandRequest.decoder = .error failure) (world : World σ) :
    ∃ message, gate.runCommand request world = (.response ⟨400, errorBody message⟩, world) := by
  obtain ⟨message, rfl⟩ := Request.exists_of_body?_eq_error refused
  rw [runCommand, refused]
  exact ⟨message, rfl⟩

theorem runCommand_of_submitsNothing
    (distinct : ∀ document, request.Holds document → document.HasDistinctNames)
    (nothing : request.SubmitsNothing) (world : World σ) :
    ∃ message, gate.runCommand request world = (.response ⟨400, errorBody message⟩, world) := by
  cases read : request.body? CommandRequest.decoder with
  | error failure => exact runCommand_of_refused read world
  | ok command =>
    obtain ⟨document, holds, taken⟩ := Request.body?_buffered_eq_ok_iff.mp read
    cases nothing with
    | unreadable unread => exact absurd holds (unread document)
    | neither again textless absent =>
      cases holds.unique again
      rw [CommandRequest.ofJson?_of_textless (distinct _ holds) textless, absent] at taken
      cases taken
    | blank again given blank =>
      cases holds.unique again
      rw [CommandRequest.ofJson?_of_text (distinct _ holds) given] at taken
      cases taken
      rw [runCommand, read]
      simp only [blank, if_true]
      exact ⟨_, rfl⟩

theorem serve_of_submits (posts : request.PostsCommand) (submits : request.Submits submission)
    (world : World σ) :
    gate.serve request world =
      (.response (outcomeResponse (gate.handle submission world).1),
        (gate.handle submission world).2) :=
  (serve_posted .command rfl posts.posted posts.routed world).trans
    (runCommand_of_submits posts.distinct submits world)

theorem serve_of_submitsNothing (posts : request.PostsCommand) (nothing : request.SubmitsNothing)
    (world : World σ) :
    ∃ message, gate.serve request world = (.response ⟨400, errorBody message⟩, world) := by
  rw [serve_posted .command rfl posts.posted posts.routed world]
  exact runCommand_of_submitsNothing posts.distinct nothing world

/-- A posted command is refused as the fault of the client exactly if nothing is submitted, and then
nobody is called. Otherwise it is answered by its outcome: the status is that of a server error exactly
for a failure, and the body tells the status as well. A value is not put to the oracle; a text is, as
often as the settings allow at most, and whatever else stands in the body makes no difference. -/
theorem commands_are_answered_by_outcome (gate : Gate σ) {request : Request}
    (posts : request.PostsCommand) (world : World σ) :
    let ended := gate.serve request world
    ((∃ body, ended.1 = .response ⟨400, body⟩) ↔ request.SubmitsNothing) ∧
    (request.SubmitsNothing →
      ∃ message, ended = (.response ⟨400, errorBody message⟩, world)) ∧
    (¬request.SubmitsNothing ↔ ∃ submission, request.Submits submission) ∧
    (∀ submission, request.Submits submission →
      let outcome := (gate.handle submission world).1
      ended.2 = (gate.handle submission world).2 ∧
      ((∃ body, ended.1 = .response ⟨500, body⟩) ↔ outcome.IsFailure) ∧
      (outcome.IsFailure → ∃ message, ended.1 = .response ⟨500, errorBody message⟩) ∧
      (¬outcome.IsFailure → ∃ body status, ended.1 = .response ⟨200, .json body⟩ ∧
        body.get? "status" = some (.string status) ∧
        status ∈ ["text_response", "success", "cancelled"])) ∧
    (∀ value, request.Submits (.value value) → ended.2.requests = world.requests) ∧
    (∀ userText, request.Submits (.text userText) →
      (∃ calls, 1 ≤ calls ∧ calls ≤ max 1 gate.settings.maxAttempts.toNat ∧
        ended.2.requests = world.requests ++
          List.replicate calls (gate.settings.commandRequest userText gate.registry.describe)) ∧
      ∀ other : Request, other.PostsCommand → other.Submits (.text userText) →
        gate.serve other world = ended) := by
  intro ended
  have answered : ∀ submission, request.Submits submission →
      ended = (.response (outcomeResponse (gate.handle submission world).1),
        (gate.handle submission world).2) :=
    fun submission submits => serve_of_submits posts submits world
  refine ⟨⟨fun blamed => ?_, fun nothing => ?_⟩, fun nothing => ?_,
    ⟨fun something => ?_, fun ⟨_, submits⟩ => submits.not_submitsNothing⟩,
    fun submission submits => ?_, fun value submits => ?_, fun userText submits => ?_⟩
  · refine request.exists_submits_or_submitsNothing.resolve_left ?_
    rintro ⟨submission, submits⟩
    rw [answered submission submits] at blamed
    exact outcomeResponse_status_ne_400 _ (Ending.exists_eq_response_iff.mp blamed)
  · obtain ⟨message, refused⟩ : ∃ message, ended = (.response ⟨400, errorBody message⟩, world) :=
      serve_of_submitsNothing posts nothing world
    exact ⟨_, congrArg Prod.fst refused⟩
  · exact serve_of_submitsNothing posts nothing world
  · exact request.exists_submits_or_submitsNothing.resolve_right something
  · intro outcome
    rw [answered submission submits]
    refine ⟨rfl, Ending.exists_eq_response_iff.trans outcomeResponse_status_eq_500_iff,
      fun failure => ?_, fun fine => ?_⟩
    · obtain ⟨message, told⟩ := outcomeResponse_of_isFailure failure
      exact ⟨message, congrArg Ending.response told⟩
    · obtain ⟨body, status, told, named⟩ := outcomeResponse_of_not_isFailure fine
      exact ⟨body, status, congrArg Ending.response told, named⟩
  · rw [answered _ submits]
    exact handle_requests (.value value) world
  · rw [answered _ submits]
    exact ⟨handle_text_requests userText world,
      fun other again same => serve_of_submits again same world⟩

end Gate

namespace House

theorem post_holds (path : String) {value : Json} (whole : value.Whole)
    (shallow : value.depth ≤ Json.nesting) (small : value.compact.utf8ByteSize ≤ Request.bodyLimit) :
    (post path value.compact).Holds value where
  declared := by
    have json : declaresJson "application/json" = true := by decide +kernel
    exact json
  small := small
  read := by
    change Json.readDocument Json.nesting (String.ofList value.write).toList = _
    rw [String.toList_ofList]
    exact Json.readDocument_write whole shallow

def asking (members : Fields) : Request := post "/command" (Json.object members).compact

theorem asking_postsCommand {members : Fields} (holds : (asking members).Holds (.object members))
    (distinct : members.names.Nodup) : (asking members).PostsCommand where
  posted := rfl
  routed := by
    have here : (post "/command" "").path = "/command" := rfl
    exact here
  distinct := by
    rintro document again others same
    cases holds.unique again
    cases same
    exact distinct

def sungFields : Fields := [("user_input", .string "Chime!")]

def mixedFields : Fields := ("command", call "ring" []) :: sungFields

def mutteredFields : Fields := [("command", call "ring" []), ("user_input", .string " \t")]

def ringFields : Fields := [("command", call "ring" [])]

theorem sung_holds : (asking sungFields).Holds (.object sungFields) :=
  post_holds _ ⟨trivial, trivial⟩ (by decide) (by decide)

theorem mixed_holds : (asking mixedFields).Holds (.object mixedFields) :=
  post_holds _ ⟨⟨trivial, trivial⟩, trivial, trivial⟩ (by decide) (by decide)

theorem muttered_holds : (asking mutteredFields).Holds (.object mutteredFields) :=
  post_holds _ ⟨⟨trivial, trivial⟩, trivial, trivial⟩ (by decide) (by decide)

theorem ring_holds : (asking ringFields).Holds (.object ringFields) :=
  post_holds _ ⟨⟨trivial, trivial⟩, trivial⟩ (by decide) (by decide)

def gateUnanswered : Gate Nat := .ofSettings registry silent settings Policy.permitAll

/-- With a silent oracle a text fails, a command beside it or not. The command alone is run without
asking, and a blank text is refused. -/
theorem silence_is_answered :
    (∃ message, (gateUnanswered.serve (asking sungFields) (.start 0)).1 =
        .response ⟨500, errorBody message⟩) ∧
      (∃ calls, 1 ≤ calls ∧ calls ≤ 3 ∧
        (gateUnanswered.serve (asking sungFields) (.start 0)).2.requests = List.replicate calls
          (settings.oracle.commandRequest "Chime!" registry.describe)) ∧
      gateUnanswered.serve (asking mixedFields) (.start 0) =
        gateUnanswered.serve (asking sungFields) (.start 0) ∧
      (∃ body status, (gateUnanswered.serve (asking ringFields) (.start 0)).1 =
          .response ⟨200, .json body⟩ ∧ body.get? "status" = some (.string status) ∧
        status ∈ ["text_response", "success", "cancelled"]) ∧
      (gateUnanswered.serve (asking ringFields) (.start 0)).2.requests = [] ∧
      ∃ message, gateUnanswered.serve (asking mutteredFields) (.start 0) =
        (.response ⟨400, errorBody message⟩, .start 0) := by
  have sungPosts := asking_postsCommand sung_holds (by decide)
  have mixedPosts := asking_postsCommand mixed_holds (by decide)
  have mutteredPosts := asking_postsCommand muttered_holds (by decide)
  have ringPosts := asking_postsCommand ring_holds (by decide)
  have visible : Text.isBlankText "Chime!" = false := by decide +kernel
  have sings : (asking sungFields).Submits (.text "Chime!") := .text sung_holds rfl visible
  have mixes : (asking mixedFields).Submits (.text "Chime!") := .text mixed_holds rfl visible
  have mutters : (asking mutteredFields).SubmitsNothing :=
    .blank muttered_holds rfl (by decide +kernel)
  have rings : (asking ringFields).Submits (.value (call "ring" [])) := .value ring_holds nofun rfl
  have failure : (gateUnanswered.handle (.text "Chime!") (.start 0)).1.IsFailure :=
    Outcome.IsFailure.failed "LLM error: Oracle timed out"
  have fine : ¬(gateUnanswered.handle (.value (call "ring" [])) (.start 0)).1.IsFailure := by
    have rang : (gateUnanswered.handle (.value (call "ring" [])) (.start 0)).1 =
        .dispatched (.single (.success (.whole 1))) := rfl
    rw [rang]
    nofun
  obtain ⟨-, -, -, sungAnswered, -, sungAsked⟩ :=
    Gate.commands_are_answered_by_outcome gateUnanswered sungPosts (.start 0)
  obtain ⟨-, -, -, rungAnswered, rungUnasked, -⟩ :=
    Gate.commands_are_answered_by_outcome gateUnanswered ringPosts (.start 0)
  obtain ⟨-, refused, -⟩ :=
    Gate.commands_are_answered_by_outcome gateUnanswered mutteredPosts (.start 0)
  obtain ⟨-, -, sungFails, -⟩ := sungAnswered _ sings
  obtain ⟨-, -, -, rungSucceeds⟩ := rungAnswered _ rings
  obtain ⟨asked, alike⟩ := sungAsked _ sings
  exact ⟨sungFails failure, asked, alike _ mixedPosts mixes, rungSucceeds fine, rungUnasked _ rings,
    refused mutters⟩

end House

end CommandGate
