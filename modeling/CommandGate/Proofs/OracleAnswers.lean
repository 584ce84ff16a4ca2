import CommandGate.Oracle.Client
import CommandGate.Proofs.CleanMails
import CommandGate.Proofs.SubmittedCommands
import CommandGate.Proofs.ValueReading

/-!
Answers of the oracle's server. The error that the server gives counts before the status of its
answer, the status before the form of the body. No answer is a reason to ask again, and a reply is
passed on to the client as the object that it came in.
-/

namespace CommandGate

open Api

namespace Json

variable {document : Json}

theorem arrange_eq_string_iff {text : String} :
    document.arrange = .string text ↔ document = .string text := by
  cases document <;> simp [arrange]

theorem arrangeMembers_eq_mapValues (members : Fields) :
    arrangeMembers members = members.mapValues arrange :=
  arrangeMembers_eq_map members

theorem get?_arrange (distinct : document.HasDistinctNames) (name : String) :
    document.arrange.get? name = (document.get? name).map arrange := by
  cases document with
  | object members =>
    have distinct' : (Members.names (arrangeMembers members)).Nodup := by
      rw [arrangeMembers_eq_mapValues, Members.names_mapValues]
      exact distinct members rfl
    rw [arrange, get?, get?, Members.get?_ofList_of_nodup distinct', arrangeMembers_eq_mapValues,
      Members.get?_mapValues]
  | _ => rfl

end Json

/-! ### What an answer says -/

def Tells (body name text : String) : Prop :=
  ∃ value, Json.ofString? body = some value ∧ value.get? name = some (.string text)

/-- If the body is the text of an object, no two members of it share a name. -/
def HasDistinctNames (body : String) : Prop :=
  ∀ document, Json.readDocument Json.nesting body.toList = .ok document → document.HasDistinctNames

section Classification

variable {body : String} {document : Json}

theorem tells_iff_of_read (distinct : document.HasDistinctNames)
    (read : Json.readDocument Json.nesting body.toList = .ok document) {name text : String} :
    Tells body name text ↔ document.get? name = some (.string text) := by
  have held : Json.ofString? body = some document.arrange :=
    Json.ofString?_eq_some_iff.mpr ⟨document, read, rfl⟩
  simp only [Tells, held, Option.some.injEq, exists_eq_left', Json.get?_arrange distinct,
    Option.map_eq_some_iff, Json.arrange_eq_string_iff, exists_eq_right]

theorem not_tells_of_unread {fault : Json.Fault}
    (unread : Json.readDocument Json.nesting body.toList = .error fault) {name text : String} :
    ¬Tells body name text := by
  rintro ⟨value, held, -⟩
  obtain ⟨document, read, -⟩ := Json.ofString?_eq_some_iff.mp held
  rw [unread] at read
  cases read

theorem bind_string?_eq_some_iff {value : Option Json} {text : String} :
    value.bind Json.string? = some text ↔ value = some (.string text) := by
  rcases value with _ | value
  · simp
  · cases value <;> simp [Json.string?]

theorem backendFailure?_object (members : Fields) :
    backendFailure? (.object members) =
      (CommandRequest.only? "error" members).bind Json.string? := by
  simp only [backendFailure?, CommandRequest.only?]
  generalize List.filter _ members = found
  rcases found with _ | ⟨⟨key, value⟩, others⟩
  · rfl
  · cases value <;> cases others <;> rfl

theorem backendFailure?_eq_some_iff (distinct : document.HasDistinctNames) {reason : String} :
    backendFailure? document = some reason ↔ document.get? "error" = some (.string reason) := by
  cases document with
  | object members =>
    rw [backendFailure?_object, CommandRequest.only?_eq_get? (distinct members rfl)]
    exact bind_string?_eq_some_iff
  | _ => simp [backendFailure?, Json.get?]

namespace GenerateReply

def ofMembers (text : String) (members : Fields) : GenerateReply :=
  ⟨text, Members.ofList (Json.arrangeMembers (members.filter (·.1 != "response")))⟩

theorem ofJson?_object (members : Fields) :
    ofJson? (.object members) = ((CommandRequest.only? "response" members).bind Json.string?).map
      fun text => ofMembers text members := by
  simp only [ofJson?, CommandRequest.only?]
  generalize List.filter _ members = found
  rcases found with _ | ⟨⟨key, value⟩, others⟩
  · rfl
  · cases value <;> cases others <;> rfl

theorem ofJson?_eq_some_iff (distinct : document.HasDistinctNames) {reply : GenerateReply} :
    ofJson? document = some reply ↔ ∃ (members : Fields) (text : String),
      document = .object members ∧ members.get? "response" = some (.string text) ∧
        reply = ofMembers text members := by
  cases document with
  | object members =>
    rw [ofJson?_object, CommandRequest.only?_eq_get? (distinct members rfl),
      Option.map_eq_some_iff]
    simp only [bind_string?_eq_some_iff]
    constructor
    · rintro ⟨text, given, rfl⟩
      exact ⟨members, text, rfl, given, rfl⟩
    · rintro ⟨_, text, same, given, rfl⟩
      cases same
      exact ⟨text, given, rfl⟩
  | _ => simp [ofJson?]

theorem get?_extra {members : Fields} (distinct : members.names.Nodup) (text name : String) :
    (ofMembers text members).extra.get? name =
      (Members.get? name (members.filter (·.1 != "response"))).map Json.arrange := by
  have apart : (Members.names (members.filter (·.1 != "response"))).Nodup :=
    distinct.sublist (List.filter_sublist.map _)
  rw [ofMembers, Members.get?_ofList_of_nodup, Json.arrangeMembers_eq_mapValues,
    Members.get?_mapValues]
  rw [Json.arrangeMembers_eq_mapValues, Members.names_mapValues]
  exact apart

theorem toJson_ofMembers {members : Fields} {text : String} (distinct : members.names.Nodup)
    (given : members.get? "response" = some (.string text)) :
    (ofMembers text members).toJson = (Json.object members).arrange := by
  have fresh : "response" ∉ (ofMembers text members).extra.names := by
    rw [← Members.exists_get?_iff]
    rintro ⟨value, found⟩
    rw [get?_extra distinct, Members.get?_filter_self] at found
    cases found
  have apart :
      (Members.names (("response", .string text) :: (ofMembers text members).extra)).Nodup :=
    List.nodup_cons.mpr ⟨fresh, (Members.ascending_ofList _).nodup⟩
  have apart' : (Members.names (Json.arrangeMembers members)).Nodup := by
    rw [Json.arrangeMembers_eq_mapValues, Members.names_mapValues]
    exact distinct
  have written : (ofMembers text members).toJson = .object
      (Members.ofList (("response", .string text) :: (ofMembers text members).extra)) := rfl
  rw [written, Json.arrange, Json.object.injEq]
  refine Members.eq_of_get?_eq (Members.ascending_ofList _) (Members.ascending_ofList _)
    fun name => ?_
  rw [Members.get?_ofList_of_nodup apart, Members.get?_ofList_of_nodup apart',
    Json.arrangeMembers_eq_mapValues, Members.get?_mapValues]
  by_cases named : name = "response"
  · subst named
    rw [given, Members.get?, if_pos rfl]
    rfl
  · rw [Members.get?, if_neg (Ne.symm named), get?_extra distinct, Members.get?_filter_ne named]

end GenerateReply

/-! ### How an answer is classified -/

def IsSuccessful (status : Nat) : Prop := 200 ≤ status ∧ status < 300

instance (status : Nat) : Decidable (IsSuccessful status) := by
  unfold IsSuccessful
  infer_instance

theorem isSuccessful_iff {status : Nat} :
    (decide (200 ≤ status) && decide (status < 300)) = true ↔ IsSuccessful status := by
  simp [IsSuccessful]

namespace GenerateReply

variable {status : Nat}

theorem classify_of_unread {fault : Json.Fault}
    (unread : Json.readDocument Json.nesting body.toList = .error fault) :
    classify status body =
      .error (if IsSuccessful status then .badResponse fault.message else .status status body) := by
  simp only [classify, unread, isSuccessful_iff]
  split <;> rfl

theorem classify_of_read (read : Json.readDocument Json.nesting body.toList = .ok document) :
    classify status body =
      match backendFailure? document with
      | some reason => .error (.backend reason)
      | none =>
        if IsSuccessful status then
          match ofJson? document with
          | some reply => .ok reply
          | none => .error (.badResponse Json.Fault.mismatch.message)
        else .error (.status status body) := by
  simp only [classify, read]
  cases backendFailure? document with
  | some reason => rfl
  | none =>
    by_cases successful : IsSuccessful status
    · simp only [isSuccessful_iff.mpr successful, if_pos successful]
      rfl
    · simp only [Bool.eq_false_iff.mpr (mt isSuccessful_iff.mp successful), if_neg successful]
      rfl

theorem classify_of_failed (distinct : HasDistinctNames body) {reason : String}
    (failed : Tells body "error" reason) : classify status body = .error (.backend reason) := by
  cases read : Json.readDocument Json.nesting body.toList with
  | error fault => exact absurd failed (not_tells_of_unread read)
  | ok document =>
    have given := (tells_iff_of_read (distinct document read) read).mp failed
    rw [classify_of_read read, (backendFailure?_eq_some_iff (distinct document read)).mpr given]

theorem backendFailure?_of_silent (distinct : HasDistinctNames body)
    (silent : ∀ reason, ¬Tells body "error" reason)
    (read : Json.readDocument Json.nesting body.toList = .ok document) :
    backendFailure? document = none := by
  rw [Option.eq_none_iff_forall_ne_some]
  intro reason failed
  exact silent reason ((tells_iff_of_read (distinct document read) read).mpr
    ((backendFailure?_eq_some_iff (distinct document read)).mp failed))

theorem classify_of_unsuccessful (distinct : HasDistinctNames body)
    (silent : ∀ reason, ¬Tells body "error" reason) (unsuccessful : ¬IsSuccessful status) :
    classify status body = .error (.status status body) := by
  cases read : Json.readDocument Json.nesting body.toList with
  | error fault => rw [classify_of_unread read, if_neg unsuccessful]
  | ok document =>
    rw [classify_of_read read, backendFailure?_of_silent distinct silent read]
    exact if_neg unsuccessful

theorem classify_of_told (distinct : HasDistinctNames body)
    (silent : ∀ reason, ¬Tells body "error" reason) (successful : IsSuccessful status)
    {text : String} (told : Tells body "response" text) :
    ∃ reply value, classify status body = .ok reply ∧ reply.response = text ∧
      Json.ofString? body = some value ∧ reply.toJson = value := by
  cases read : Json.readDocument Json.nesting body.toList with
  | error fault => exact absurd told (not_tells_of_unread read)
  | ok document =>
    have apart := distinct document read
    have given := (tells_iff_of_read apart read).mp told
    cases document with
    | object members =>
      have taken : ofJson? (.object members) = some (ofMembers text members) :=
        (ofJson?_eq_some_iff apart).mpr ⟨members, text, rfl, given, rfl⟩
      refine ⟨ofMembers text members, (Json.object members).arrange, ?_, rfl,
        Json.ofString?_eq_some_iff.mpr ⟨_, read, rfl⟩, toJson_ofMembers (apart members rfl) given⟩
      rw [classify_of_read read, backendFailure?_of_silent distinct silent read]
      simp only [if_pos successful, taken]
    | _ => cases given

theorem classify_of_mute (distinct : HasDistinctNames body)
    (silent : ∀ reason, ¬Tells body "error" reason) (successful : IsSuccessful status)
    (mute : ∀ text, ¬Tells body "response" text) :
    ∃ reason, classify status body = .error (.badResponse reason) := by
  cases read : Json.readDocument Json.nesting body.toList with
  | error fault =>
    exact ⟨fault.message, by rw [classify_of_unread read, if_pos successful]⟩
  | ok document =>
    have apart := distinct document read
    have refused : ofJson? document = none := by
      rw [Option.eq_none_iff_forall_ne_some]
      intro reply taken
      obtain ⟨members, text, rfl, given, -⟩ := (ofJson?_eq_some_iff apart).mp taken
      exact mute text ((tells_iff_of_read apart read).mpr given)
    refine ⟨Json.Fault.mismatch.message, ?_⟩
    rw [classify_of_read read, backendFailure?_of_silent distinct silent read]
    simp only [if_pos successful, refused]

/-- What a status and a body come to, with the reasons for it. -/
inductive Classified (status : Nat) (body : String) : Except OracleError GenerateReply → Prop where
  | failed {reason : String} (told : Tells body "error" reason) :
    Classified status body (.error (.backend reason))
  | unsuccessful (silent : ∀ reason, ¬Tells body "error" reason)
    (unsuccessful : ¬IsSuccessful status) : Classified status body (.error (.status status body))
  | replied {reply : GenerateReply} {value : Json} (silent : ∀ reason, ¬Tells body "error" reason)
    (successful : IsSuccessful status) (told : Tells body "response" reply.response)
    (held : Json.ofString? body = some value) (kept : reply.toJson = value) :
    Classified status body (.ok reply)
  | mute {reason : String} (silent : ∀ reason, ¬Tells body "error" reason)
    (successful : IsSuccessful status) (mute : ∀ text, ¬Tells body "response" text) :
    Classified status body (.error (.badResponse reason))

theorem classified (distinct : HasDistinctNames body) (status : Nat) :
    Classified status body (classify status body) := by
  by_cases failed : ∃ reason, Tells body "error" reason
  · obtain ⟨reason, told⟩ := failed
    rw [classify_of_failed distinct told]
    exact .failed told
  · have silent := not_exists.mp failed
    by_cases successful : IsSuccessful status
    · by_cases said : ∃ text, Tells body "response" text
      · obtain ⟨text, told⟩ := said
        obtain ⟨reply, value, taken, rfl, held, kept⟩ :=
          classify_of_told distinct silent successful told
        rw [taken]
        exact .replied silent successful told held kept
      · obtain ⟨reason, refused⟩ :=
          classify_of_mute distinct silent successful (not_exists.mp said)
        rw [refused]
        exact .mute silent successful (not_exists.mp said)
    · rw [classify_of_unsuccessful distinct silent successful]
      exact .unsuccessful silent successful

end GenerateReply

end Classification

/-! ### Asking the server -/

variable {σ : Type}

def OracleSettings.Answered (settings : OracleSettings) (network : Http.Network σ)
    (request : GenerateRequest) (state : σ) (status : Nat) (body : String) (left : σ) : Prop :=
  ∃ message, Http.Request.build "POST" (settings.endpoint "/api/generate") none
      (some request.toJson) (some settings.timeoutSecs) = .ok message ∧
    network message state = (.answered ⟨status, some body⟩, left)

theorem OracleSettings.generate_of_answered {settings : OracleSettings} {network : Http.Network σ}
    {request : GenerateRequest} {state left : σ} {status : Nat} {body : String}
    (answered : settings.Answered network request state status body left) :
    settings.generate network request state = (GenerateReply.classify status body, left) := by
  obtain ⟨message, built, replied⟩ := answered
  simp only [generate, built, Http.Request.send, replied]

theorem GenerateReply.isTransient_of_classify {status : Nat} {body : String} {error : OracleError}
    (failed : classify status body = .error error) : error.isTransient = false := by
  simp only [classify] at failed
  split at failed
  · split at failed <;> cases failed <;> rfl
  · split at failed
    · cases failed
      rfl
    · split at failed
      · cases failed
        rfl
      · split at failed <;> cases failed
        rfl

theorem Oracle.askAgain_of_final {oracle : Oracle σ} {request : GenerateRequest} {world : World σ}
    {answer : Except OracleError GenerateReply} {left : σ}
    (asked : oracle.generate request world.state = (answer, left))
    (final : ∀ error, answer = .error error → error.isTransient = false) (more : Nat) :
    oracle.askAgain request more world =
      (answer, { world with state := left, requests := world.requests ++ [request] }) := by
  have once : oracle.ask request world =
      (answer, { world with state := left, requests := world.requests ++ [request] }) := by
    rw [ask, asked]
  have other : (oracle.ask request world).1 ≠ .error .timeout := by
    rw [once]
    rintro rfl
    cases final .timeout rfl
  rw [askAgain_of_other other, once]

theorem OracleSettings.client_generate (settings : OracleSettings) (network : Http.Network σ) :
    (settings.client network).generate = settings.generate network := by
  rw [client]

theorem OracleSettings.Answered.askAgain {settings : OracleSettings} {network : Http.Network σ}
    {request : GenerateRequest} {state left : σ} {status : Nat} {body : String}
    (answered : settings.Answered network request state status body left) {world : World σ}
    (here : world.state = state) (more : Nat) :
    (settings.client network).askAgain request more world =
      (GenerateReply.classify status body,
        { world with state := left, requests := world.requests ++ [request] }) := by
  have asked : (settings.client network).generate request world.state =
      (GenerateReply.classify status body, left) := by
    rw [client_generate, here, generate_of_answered answered]
  exact Oracle.askAgain_of_final asked (fun _ => GenerateReply.isTransient_of_classify) more

structure Api.Request.PostsChat (request : Request) (message : String) : Prop where
  posted : request.method = "POST"
  routed : request.path = "/chat"
  read : request.body? ChatRequest.decoder = .ok ⟨message⟩

theorem Gate.serve_chat {gate : Gate σ} {chat : Request} {message : String}
    (posts : chat.PostsChat message) {world after : World σ} {reply : GenerateReply}
    (answered : gate.chat message world = (.ok reply, after)) :
    gate.serve chat world = (.response ⟨200, .json reply.toJson⟩, after) := by
  rw [serve_posted .chat rfl posts.posted posts.routed world]
  simp only [runEndpoint, runChat, posts.read, answered]

/-- An HTTP answer is an error of the server exactly if it tells one, whatever its status. Otherwise
its status is the error exactly if it is no success; a success is a reply exactly if it tells a
text, and else it is a bad response. The oracle is asked once for one answer, however often it may
be asked. A reply to a chat message is passed on as the object that the oracle answered with. -/
theorem http_answers_are_classified {settings : OracleSettings} {network : Http.Network σ}
    {request : GenerateRequest} {state left : σ} {status : Nat} {body : String}
    (answered : settings.Answered network request state status body left)
    (distinct : HasDistinctNames body) :
    let answer := (settings.generate network request state).1
    (∀ reason, answer = .error (.backend reason) ↔ Tells body "error" reason) ∧
    ((∀ reason, ¬Tells body "error" reason) →
      (answer = .error (.status status body) ↔ ¬IsSuccessful status) ∧
      (IsSuccessful status →
        (∀ text, (∃ reply, answer = .ok reply ∧ reply.response = text) ↔
          Tells body "response" text) ∧
        ((∀ text, ¬Tells body "response" text) →
          ∃ reason, answer = .error (.badResponse reason)))) ∧
    (∀ more (world : World σ), world.state = state →
      (settings.client network).askAgain request more world =
        (answer, { world with state := left, requests := world.requests ++ [request] })) ∧
    ∀ (gate : Gate σ) (chat : Request) message (world : World σ),
      gate.oracle = settings.client network → gate.settings.chatRequest message = request →
      chat.PostsChat message → world.state = state → ∀ reply, answer = .ok reply →
      ∃ value, Json.ofString? body = some value ∧
        gate.serve chat world = (.response ⟨200, .json value⟩,
          { world with state := left, requests := world.requests ++ [request] }) := by
  intro answer
  have taken : answer = GenerateReply.classify status body :=
    congrArg Prod.fst (OracleSettings.generate_of_answered answered)
  have classified : GenerateReply.Classified status body answer := by
    rw [taken]
    exact GenerateReply.classified distinct status
  have once {world : World σ} (here : world.state = state) (more : Nat) :
      (settings.client network).askAgain request more world =
        (answer, { world with state := left, requests := world.requests ++ [request] }) := by
    rw [taken]
    exact answered.askAgain here more
  clear_value answer
  refine ⟨fun reason => ⟨?_, fun told => ?_⟩, fun silent => ⟨⟨?_, fun unsuccessful => ?_⟩,
    fun successful => ⟨fun text => ⟨?_, fun told => ?_⟩, fun mute => ?_⟩⟩,
    fun more world here => once here more, ?_⟩
  · rintro rfl
    cases classified with
    | failed told => exact told
  · rw [taken, GenerateReply.classify_of_failed distinct told]
  · rintro rfl
    cases classified with
    | unsuccessful _ unsuccessful => exact unsuccessful
  · rw [taken, GenerateReply.classify_of_unsuccessful distinct silent unsuccessful]
  · rintro ⟨reply, rfl, rfl⟩
    cases classified with
    | replied _ _ told => exact told
  · obtain ⟨reply, -, replied, said, -⟩ :=
      GenerateReply.classify_of_told distinct silent successful told
    exact ⟨reply, taken.trans replied, said⟩
  · rw [taken]
    exact GenerateReply.classify_of_mute distinct silent successful mute
  · intro gate chat message world same requested posts here reply replied
    subst replied
    cases classified with
    | replied _ _ _ held kept =>
      have chatted : gate.chat message world =
          (.ok reply, { world with state := left, requests := world.requests ++ [request] }) := by
        rw [Gate.chat, same, requested, Oracle.generateWithRetry, once here]
      refine ⟨_, held, ?_⟩
      rw [Gate.serve_chat posts chatted, kept]

namespace House

def serving (status : Nat) (body : String) : Http.Network Nat := fun _ rings =>
  (.answered ⟨status, some body⟩, rings + 1)

def localOracle : OracleSettings := { baseUrl := "http://[::1]:11434" }

theorem localOracle_answered (request : GenerateRequest) (rings status : Nat) (body : String) :
    localOracle.Answered (serving status body) request rings status body (rings + 1) := by
  have sendable : (Http.Url.parse? (localOracle.endpoint "/api/generate").toList).any
      (fun url => url.host?.isSome && url.isSendable) = true := by decide +kernel
  cases parsed : Http.Url.parse? (localOracle.endpoint "/api/generate").toList with
  | none =>
    rw [parsed] at sendable
    cases sendable
  | some url =>
    rw [parsed, Option.any_some, Bool.and_eq_true, Option.isSome_iff_ne_none] at sendable
    refine ⟨⟨"POST", url.anonymous, url.credentials?, none, some request.toJson,
      some localOracle.timeoutSecs⟩, ?_, rfl⟩
    simp [Http.Request.build, parsed, sendable]

/-- A text with other members beside it; an error that is no text does not count. -/
def murmur : Json :=
  .object [("context", .array [.whole 7, .object []]), ("done", .bool true), ("error", .null),
    ("response", .string "Hm.")]

def gateOver (network : Http.Network Nat) : Gate Nat where
  registry := registry
  oracle := localOracle.client network
  settings := localOracle
  policy := .ofSettings settings.policy Policy.permitAll
  dangerousActions := []

def greeting : Request := post "/chat" "\x7b\"message\": \"Hello?\"\x7d"

theorem greeting_postsChat : greeting.PostsChat "Hello?" where
  posted := rfl
  routed := rfl
  read := by
    have told : (ChatRequest.decoder.ofText greeting.body).map ChatRequest.message =
        .ok "Hello?" := by decide +kernel
    obtain ⟨⟨message⟩, read, rfl⟩ := Json.exists_of_map_eq_ok told
    exact Request.body?_eq_ok_iff_ofText.mpr ⟨by decide, by decide, read⟩

theorem murmur_read : Json.readDocument Json.nesting murmur.compact.toList = .ok murmur := by
  rw [Json.compact, String.toList_ofList]
  exact Json.readDocument_write
    ⟨⟨⟨7, rfl, by decide, by decide⟩, trivial, trivial⟩, trivial, trivial, trivial, trivial⟩ (by decide)

theorem murmur_distinct : HasDistinctNames murmur.compact := by
  intro document read members same
  cases murmur_read.symm.trans read
  cases same
  exact (by decide : ["context", "done", "error", "response"].Nodup)

theorem murmur_tells {name text : String} :
    Tells murmur.compact name text ↔ murmur.get? name = some (.string text) :=
  tells_iff_of_read (murmur_distinct murmur murmur_read) murmur_read

theorem murmur_is_passed_on :
    let network := serving 200 murmur.compact
    let request := localOracle.chatRequest "Hello?"
    (∃ reply, (localOracle.generate network request 0).1 = .ok reply ∧ reply.response = "Hm.") ∧
      ((gateOver network).serve greeting (.start 0)).2.requests = [request] ∧
      ∃ value, Json.ofString? murmur.compact = some value ∧
        ((gateOver network).serve greeting (.start 0)).1 = .response ⟨200, .json value⟩ := by
  intro network request
  obtain ⟨-, fine, -, chats⟩ :=
    http_answers_are_classified (localOracle_answered request 0 200 murmur.compact) murmur_distinct
  have silent : ∀ reason, ¬Tells murmur.compact "error" reason := fun reason told =>
    nomatch murmur_tells.mp told
  obtain ⟨reply, replied, told⟩ :=
    ((fine silent).2 (by decide)).1 "Hm." |>.mpr (murmur_tells.mpr rfl)
  obtain ⟨value, held, passed⟩ :=
    chats (gateOver network) greeting "Hello?" (.start 0) rfl rfl greeting_postsChat rfl reply
      replied
  refine ⟨⟨reply, replied, told⟩, ?_, value, held, ?_⟩
  · rw [passed]
    rfl
  · rw [passed]

end House

end CommandGate
