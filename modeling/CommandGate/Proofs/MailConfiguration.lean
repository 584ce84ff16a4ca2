import CommandGate.Api.Routes
import CommandGate.Proofs.BodyReading
import CommandGate.Proofs.CleanMails
import CommandGate.Proofs.SchemaCheck
import CommandGate.Proofs.ValueReading

/-!
The mail account configured by a posted object. The check of the parameters, the sign of an address, the
types of the fields and what an account needs come together in one condition on what is submitted. Where
it holds the account becomes exactly what was submitted; otherwise the client is told so and nothing
changes.
-/

namespace CommandGate

open Mail Api

variable {σ : Type}

namespace Mail

/-- The value is this port: as a whole number, or as a text that shows nothing but the number. -/
inductive GivesPort (port : Nat) : Json → Prop where
  | number : GivesPort port (.whole port)
  | text {text : String} (denotes : Number.Denotes (Text.trim text.toList) port) :
      GivesPort port (.string text)

/-- The object submits this account, and the account can be used for an address. -/
structure Account.Submitted (account : Account) (parameters : Fields) : Prop where
  server : parameters.get? "smtp_server" = some (.string account.server)
  serverFits : FitsHeader account.server
  email : parameters.get? "email" = some (.string account.email)
  emailMarked : '@' ∈ account.email.toList
  emailLine : OneLine account.email
  password : parameters.get? "password" = some (.string account.password)
  passwordGiven : account.password ≠ ""
  port : ∃ value, parameters.get? "smtp_port" = some value ∧ GivesPort account.port value
  portSmall : account.port < 65536

def accountKinds : Members ParameterKind :=
  [("email", .string), ("password", .string), ("smtp_port", .number), ("smtp_server", .string)]

theorem fits_port_iff {parameters : Fields} {name : String} {port : Nat} (small : port < 65536) :
    Schema.Fits parameters name .number (.whole port) ↔
      ∃ value, parameters.get? name = some value ∧ GivesPort port value := by
  constructor
  · rintro ⟨value, held, -, taken⟩
    refine ⟨value, held, ?_⟩
    rcases ParameterKind.accept_number_eq_whole_iff.mp taken with rfl | ⟨text, rfl, word⟩
    · exact .number
    · exact .text (Number.signedWord?_eq_some_iff.mp word).1
  · rintro ⟨value, held, gives⟩
    cases gives with
    | number => exact ⟨_, held, nofun, ParameterKind.accept_number_eq_whole_iff.mpr (.inl rfl)⟩
    | @text text denotes =>
      have word : Number.signedWord? (Text.trim text.toList) = some (port : Int) :=
        Number.signedWord?_eq_some_iff.mpr ⟨denotes, by omega, by omega⟩
      exact ⟨_, held, nofun, ParameterKind.accept_number_eq_whole_iff.mpr (.inr ⟨text, rfl, word⟩)⟩

theorem Service.mem_configure (service : Service σ) :
    ∃ action, ("configure_email", action) ∈ (Plugin.ofRegistration service.registration).actions ∧
      action.handler = service.configure ∧ Schema.kinds action.parameters = accountKinds := by
  have distinct : (Members.names
      (service.registration.actions.map fun entry => (entry.name, entry.action))).Nodup := by
    change ["configure_email", "send_email", "email_status"].Nodup
    decide
  have installed := (Members.get?_ofList_eq_some_iff distinct).mpr List.mem_cons_self
  exact ⟨_, Members.mem_of_get? installed, rfl, rfl⟩

end Mail

namespace Gate

variable {action : Action σ} {parameters checked : Fields} {account : Account}

theorem mailParameters_eq_ok_iff :
    mailParameters action parameters = .ok checked ↔
      Schema.check action.parameters parameters = .ok checked ∧
        ∃ email, checked.get? "email" = some (.string email) ∧ '@' ∈ email.toList := by
  unfold mailParameters
  cases Schema.check action.parameters parameters with
  | error fault => simp
  | ok passed =>
    simp only [Except.ok.injEq]
    constructor
    · intro read
      split at read
      next email held =>
        split at read
        next marked =>
          cases read
          exact ⟨rfl, email, held, by simpa using marked⟩
        · cases read
      · cases read
    · rintro ⟨rfl, email, held, marked⟩
      simp [held, marked]

theorem exists_of_mailParameters_eq_error {failure : Failure}
    (refused : mailParameters action parameters = .error failure) :
    ∃ message, failure = .badRequest message := by
  unfold mailParameters at refused
  split at refused
  · cases refused
    exact ⟨_, rfl⟩
  · split at refused
    · split at refused
      · cases refused
      · cases refused
        exact ⟨_, rfl⟩
    · cases refused
      exact ⟨_, rfl⟩

theorem submitted_of_configured (declared : Schema.kinds action.parameters = accountKinds)
    (passed : mailParameters action parameters = .ok checked)
    (accepted : Account.configured checked = .ok account) : account.Submitted parameters := by
  obtain ⟨fit, email, held, marked⟩ := mailParameters_eq_ok_iff.mp passed
  obtain ⟨given, usable⟩ := Account.given_of_configured accepted
  obtain ⟨fits, rfl⟩ := Schema.check_eq_ok_iff.mp fit
  -- what is passed on under a declared name comes from a value that fits its kind
  have back {name : String} {kind : ParameterKind} {value : Json}
      (found : accountKinds.get? name = some kind)
      (got : (Schema.passedOn action.parameters parameters).get? name = some value) :
      Schema.Fits parameters name kind value := by
    have fitting := fits (name, kind) (declared ▸ Members.mem_of_get? found)
    exact (Schema.get?_passedOn_eq_some_iff (declared ▸ found) fitting).mp got
  have text {name text : String} (found : accountKinds.get? name = some .string)
      (got : (Schema.passedOn action.parameters parameters).get? name = some (.string text)) :
      parameters.get? name = some (.string text) := by
    obtain ⟨text, held, same⟩ := Schema.fits_string_iff.mp (back found got)
    exact same ▸ held
  have same : email = account.email := by
    rw [given.email] at held
    cases held
    rfl
  exact {
    server := text rfl given.server
    serverFits := usable.server
    email := text rfl given.email
    emailMarked := same ▸ marked
    emailLine := usable.email.oneLine
    password := text rfl given.password
    passwordGiven := usable.password
    port := (fits_port_iff given.portSmall).mp (back rfl given.port)
    portSmall := given.portSmall }

theorem exists_configured_of_submitted (declared : Schema.kinds action.parameters = accountKinds)
    (distinct : (Members.names parameters).Nodup) (submitted : account.Submitted parameters) :
    ∃ checked, mailParameters action parameters = .ok checked ∧
      Account.configured checked = .ok account := by
  have server := Schema.fits_string_iff.mpr ⟨_, submitted.server, rfl⟩
  have email := Schema.fits_string_iff.mpr ⟨_, submitted.email, rfl⟩
  have password := Schema.fits_string_iff.mpr ⟨_, submitted.password, rfl⟩
  have port := (fits_port_iff submitted.portSmall).mpr submitted.port
  have fits : ∀ entry ∈ Schema.kinds action.parameters,
      ∃ accepted, Schema.Fits parameters entry.1 entry.2 accepted := by
    rw [declared]
    simp only [accountKinds, List.forall_mem_cons]
    exact ⟨⟨_, email⟩, ⟨_, password⟩, ⟨_, port⟩, ⟨_, server⟩, nofun⟩
  have found : ∀ {name : String} {kind : ParameterKind}, accountKinds.get? name = some kind →
      (Schema.kinds action.parameters).get? name = some kind := fun listed => declared ▸ listed
  have emailOn := email.get?_passedOn (found rfl)
  have given : account.Given (Schema.passedOn action.parameters parameters) := {
    server := server.get?_passedOn (found rfl)
    port := port.get?_passedOn (found rfl)
    portSmall := submitted.portSmall
    email := emailOn
    password := password.get?_passedOn (found rfl) }
  have once : (Members.names (Schema.passedOn action.parameters parameters)).Nodup := by
    rw [Schema.names_passedOn]
    exact distinct
  have visible : Text.isBlankText account.email = false := visible_of_mem submitted.emailMarked rfl
  have usable : account.Usable :=
    ⟨submitted.serverFits, ⟨visible, submitted.emailLine⟩, submitted.passwordGiven⟩
  refine ⟨_, mailParameters_eq_ok_iff.mpr ⟨Schema.check_eq_ok_iff.mpr ⟨fits, rfl⟩, ?_⟩, ?_⟩
  · exact ⟨_, emailOn, submitted.emailMarked⟩
  · exact (Account.configured_eq_ok_iff once).mpr ⟨given, usable⟩

end Gate

namespace Mail

theorem Account.exists_of_configured_eq_error {parameters : Fields} {fault : ActionError}
    (refused : configured parameters = .error fault) :
    ∃ reason, fault = .invalidParameters reason := by
  unfold configured at refused
  split at refused
  · cases refused
    exact ⟨_, rfl⟩
  next account read =>
    cases checked : account.check with
    | ok _ => simp [checked, Except.map] at refused
    | error fault' =>
      simp only [checked, Except.map, Except.error.injEq] at refused
      unfold check at checked
      split at checked
      · cases checked
        exact ⟨_, refused.symm⟩
      · split at checked
        · cases checked
          exact ⟨_, refused.symm⟩
        · cases checked

end Mail

/-! ### The request -/

namespace Gate

variable {gate : Gate σ} {service : Service σ} {action : Action σ} {request : Request}
  {parameters : Fields} {account : Account}

def savedResponse : Response :=
  ⟨200, .json (StatusMessage.success "SMTP settings saved").toJson⟩

def refusedResponse (message : String) : Response := ⟨400, .json (StatusMessage.error message).toJson⟩

theorem serve_configureEmail (posted : request.method = "POST")
    (routed : request.path = "/configure_email") (world : World σ) :
    gate.serve request world = gate.configureEmail request world :=
  serve_posted .configureEmail rfl posted routed world

theorem configureEmail_of_not_carries (refused : ∀ parameters, ¬request.Carries parameters)
    (world : World σ) :
    ∃ message, gate.configureEmail request world = (.response (refusedResponse message), world) := by
  unfold configureEmail
  split
  next failure unread =>
    obtain ⟨message, rfl⟩ := Request.exists_of_body?_eq_error unread
    exact ⟨message, rfl⟩
  next parameters read => exact absurd (Request.body?_eq_ok_iff.mp read) (refused parameters)

theorem configureEmail_of_submitted (carries : request.Carries parameters)
    (found : gate.registry.lookup "configure_email" = some action)
    (handles : action.handler = service.configure)
    (declared : Schema.kinds action.parameters = accountKinds)
    (submitted : account.Submitted parameters) (world : World σ) :
    (gate.configureEmail request world).1 = .response savedResponse ∧
      (gate.configureEmail request world).2.state = service.store account world.state := by
  obtain ⟨checked, passed, accepted⟩ :=
    exists_configured_of_submitted declared carries.ascending.nodup submitted
  simp only [configureEmail, Request.body?_eq_ok_iff.mpr carries, found, passed, Action.invoke,
    handles, Service.configure, accepted]
  exact ⟨rfl, trivial⟩

theorem configureEmail_of_unsubmitted (carries : request.Carries parameters)
    (found : gate.registry.lookup "configure_email" = some action)
    (handles : action.handler = service.configure)
    (declared : Schema.kinds action.parameters = accountKinds)
    (unsubmitted : ∀ account : Account, ¬account.Submitted parameters) (world : World σ) :
    ∃ message, (gate.configureEmail request world).1 = .response (refusedResponse message) ∧
      (gate.configureEmail request world).2.state = world.state := by
  simp only [configureEmail, Request.body?_eq_ok_iff.mpr carries, found]
  cases passed : mailParameters action parameters with
  | error failure =>
    obtain ⟨message, rfl⟩ := exists_of_mailParameters_eq_error passed
    exact ⟨message, rfl, rfl⟩
  | ok checked =>
    cases accepted : Account.configured checked with
    | ok account => exact absurd (submitted_of_configured declared passed accepted) (unsubmitted account)
    | error fault =>
      obtain ⟨reason, rfl⟩ := Account.exists_of_configured_eq_error accepted
      simp only [Action.invoke, handles, Service.configure, accepted]
      exact ⟨_, rfl, trivial⟩

/-- A posted object is answered with success exactly if it submits an account, whatever else it holds,
and this account is kept from then on. Any other body is refused and changes nothing. -/
theorem configurations_are_exact_and_atomic (service : Service σ)
    (registrations : List (PluginRegistration σ)) (oracle : Oracle σ) (settings : Settings)
    (authorize : Command → Bool) (request : Request) (world : World σ)
    (installed : .ofRegistration service.registration ∈
      (Registry.empty.registerAll registrations).plugins)
    (posted : request.method = "POST") (routed : request.path = "/configure_email") :
    let gate := ofSettings (Registry.empty.registerAll registrations) oracle settings authorize
    let ended := gate.serve request world
    (∀ parameters, request.Carries parameters →
      ((∃ body, ended.1 = .response ⟨200, body⟩) ↔
        ∃ account : Account, account.Submitted parameters) ∧
      (∀ account : Account, account.Submitted parameters →
        ended.1 = .response savedResponse ∧
          ended.2.state = service.store account world.state ∧
          service.account? ended.2.state = some account) ∧
      ((∀ account : Account, ¬account.Submitted parameters) →
        (∃ message, ended.1 = .response (refusedResponse message)) ∧
          ended.2.state = world.state)) ∧
    ((∀ parameters, ¬request.Carries parameters) →
      (∃ message, ended.1 = .response (refusedResponse message)) ∧ ended.2 = world) := by
  intro gate ended
  obtain ⟨action, listed, handles, declared⟩ := service.mem_configure
  have found : gate.registry.lookup "configure_email" = some action :=
    (Registry.consistent_registerAll registrations).lookup_eq_some_iff.mpr ⟨_, installed, listed⟩
  have served : ended = gate.configureEmail request world := serve_configureEmail posted routed world
  rw [served]
  refine ⟨fun parameters carries => ⟨⟨fun succeeded => ?_, ?_⟩, ?_, fun unsubmitted => ?_⟩,
    fun refused => ?_⟩
  · by_contra unsubmitted
    obtain ⟨message, told, -⟩ := configureEmail_of_unsubmitted carries found handles declared
      (not_exists.mp unsubmitted) world
    obtain ⟨body, saved⟩ := succeeded
    rw [told] at saved
    cases saved
  · rintro ⟨account, submitted⟩
    have saved := configureEmail_of_submitted carries found handles declared submitted world
    exact ⟨_, saved.1⟩
  · intro account submitted
    obtain ⟨saved, stored⟩ :=
      configureEmail_of_submitted carries found handles declared submitted world
    exact ⟨saved, stored, by rw [stored, service.account?_store]⟩
  · obtain ⟨message, told, kept⟩ :=
      configureEmail_of_unsubmitted carries found handles declared unsubmitted world
    exact ⟨⟨message, told⟩, kept⟩
  · obtain ⟨message, told⟩ : ∃ message, gate.configureEmail request world =
        (.response (refusedResponse message), world) := configureEmail_of_not_carries refused world
    rw [told]
    exact ⟨⟨message, rfl⟩, rfl⟩

end Gate

namespace House

def mailService : Service (Surroundings Nat) := (Service.beside chute).recorded

def cookFields : Fields :=
  [("email", .string "cook@house.example"), ("password", .string "ladle"),
    ("smtp_port", .string " +0587"), ("smtp_server", .string "mail.kitchen.example"),
    ("zone", .whole 3)]

def cookRequest : Request := post "/configure_email" (Json.object cookFields).compact

theorem cookRequest_carries : cookRequest.Carries cookFields where
  declared := by decide +kernel
  small := by decide +kernel
  object := by
    have ordered : (Json.object cookFields).Ordered := by
      have ascending : ["email", "password", "smtp_port", "smtp_server", "zone"].Pairwise (· < ·) := by
        decide
      exact ⟨ascending, trivial, trivial, trivial, trivial, trivial, trivial⟩
    have whole : (Json.object cookFields).Whole :=
      ⟨trivial, trivial, trivial, trivial, ⟨3, rfl, by decide, by decide⟩, trivial⟩
    have shallow : (Json.object cookFields).depth ≤ Json.nesting := by decide
    change Json.read? (String.ofList (Json.object cookFields).write).toList = _
    rw [String.toList_ofList]
    exact Json.read?_write ordered whole shallow

theorem cookFields_submit : cook.Submitted cookFields := by
  have trimmed : Text.trim " +0587".toList = '+' :: ['0', '5', '8', '7'] := by decide +kernel
  have denotes : Number.Denotes (Text.trim " +0587".toList) 587 :=
    trimmed ▸ .plus (List.cons_ne_nil _ _) (List.all_eq_true.mp rfl)
  exact {
    server := rfl
    serverFits := ⟨by decide +kernel, by decide +kernel, by decide +kernel⟩
    email := rfl
    emailMarked := by decide +kernel
    emailLine := ⟨by decide +kernel, by decide +kernel⟩
    password := rfl
    passwordGiven := by decide +kernel
    port := ⟨_, rfl, .text denotes⟩
    portSmall := by decide }

theorem cook_is_configured_for_the_butler :
    let gate := Gate.ofSettings (Registry.empty.registerAll [mailService.registration])
      silent.outside mailSettings Policy.permitAll
    let ended := gate.serve cookRequest (.start ⟨(some butler, 0), []⟩)
    ended.1 = .response Gate.savedResponse ∧ mailService.account? ended.2.state = some cook := by
  have passed : mailService.registration.check = .ok () := by decide +kernel
  have accepted : Registry.empty.register mailService.registration =
      (.ok (), ⟨[.ofRegistration mailService.registration]⟩) :=
    Registry.register_eq_ok_iff.mpr ⟨PluginRegistration.check_eq_ok_iff.mp passed, nofun, rfl⟩
  have installed : .ofRegistration mailService.registration ∈
      (Registry.empty.registerAll [mailService.registration]).plugins := by
    change _ ∈ (Registry.empty.tryRegister mailService.registration).plugins
    rw [Registry.tryRegister_of_ok accepted]
    exact List.mem_singleton_self _
  have configured := Gate.configurations_are_exact_and_atomic mailService [mailService.registration]
    silent.outside mailSettings Policy.permitAll cookRequest (.start ⟨(some butler, 0), []⟩)
    installed rfl (by decide +kernel)
  obtain ⟨saved, -, stored⟩ := (configured.1 _ cookRequest_carries).2.1 cook cookFields_submit
  exact ⟨saved, stored⟩

end House

end CommandGate
