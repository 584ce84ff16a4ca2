import CommandGate.Proofs.MailParameters

/-!
Histories of the mail plugin: configures, sends and reports of its status, in the order in which they
take hold of the account. The transport is watched by a service that keeps what it is handed. A mail
is handed over for a send that is addressed and comes after a successful configure, from the account of
the last one; nothing else is handed over, and what fails leaves the account as it is.
-/

namespace CommandGate.Mail

variable {σ τ : Type}

structure Delivery where
  account : Account
  mail : OutgoingMail
  deriving DecidableEq

structure Recorded (σ : Type) where
  state : σ
  handed : List Delivery
  deriving DecidableEq

inductive Operation where
  | configure (parameters : Fields)
  | send (parameters : Fields)
  | status (parameters : Fields)

structure Event where
  operation : Operation
  answer : Answer

namespace Service

def recorded (service : Service σ) : Service (Recorded σ) where
  account? reached := service.account? reached.state
  store account reached := { reached with state := service.store account reached.state }
  transport account mail reached :=
    let (ended, state) := service.transport account mail reached.state
    (ended, ⟨state, reached.handed ++ [⟨account, mail⟩]⟩)
  account?_store account reached := service.account?_store account reached.state
  account?_transport account mail reached := service.account?_transport account mail reached.state

/-- The service that keeps its account beside the surroundings of its transport. -/
def beside (transport : Transport τ) : Service (Option Account × τ) where
  account? := Prod.fst
  store account state := (some account, state.2)
  transport account mail state :=
    let (ended, outside) := transport account mail state.2
    (ended, state.1, outside)
  account?_store _ _ := rfl
  account?_transport _ _ _ := rfl

def operate (service : Service σ) : Operation → σ → Answer × σ
  | .configure parameters => service.configure parameters
  | .send parameters => service.send parameters
  | .status parameters => service.status parameters

def operateAll (service : Service σ) : List Operation → σ → List Event × σ
  | [], state => ([], state)
  | operation :: operations, state =>
    let (answer, state) := service.operate operation state
    let (events, state) := operateAll service operations state
    (⟨operation, answer⟩ :: events, state)

variable {service : Service σ}

theorem operateAll_concat (operations : List Operation) (operation : Operation) (state : σ) :
    service.operateAll (operations ++ [operation]) state =
      let run := service.operateAll operations state
      let last := service.operate operation run.2
      (run.1 ++ [⟨operation, last.1⟩], last.2) := by
  induction operations generalizing state with
  | nil => rfl
  | cons first operations ih => simp [operateAll, ih]

theorem operateAll_operations (operations : List Operation) (state : σ) :
    (service.operateAll operations state).1.map Event.operation = operations := by
  induction operations generalizing state with
  | nil => rfl
  | cons first operations ih => simp [operateAll, ih]

/-! ### The record beside the service -/

def sendAnswer (mail : OutgoingMail) : Except ActionError Unit → Answer
  | .error fault => .failed fault
  | .ok _ => .done (.object [("message", .string ("Email sent to " ++ mail.recipient))])

theorem send_of_outgoing_error {parameters : Fields} {state : σ} {fault : ActionError}
    (refused : outgoing (service.account? state) parameters = .error fault) :
    service.send parameters state = (.failed fault, state) := by
  simp only [send, refused]

theorem send_of_outgoing_ok {parameters : Fields} {state : σ} {account : Account}
    {mail : OutgoingMail}
    (sends : outgoing (service.account? state) parameters = .ok (account, mail)) :
    service.send parameters state =
      let ended := service.transport account mail state
      (sendAnswer mail ended.1, ended.2) := by
  simp only [send, sends]
  rcases service.transport account mail state with ⟨ended, state⟩
  cases ended <;> rfl

theorem recorded_operate (operation : Operation) (reached : Recorded σ) :
    ((service.recorded.operate operation reached).1, (service.recorded.operate operation reached).2.state) =
      service.operate operation reached.state := by
  cases operation with
  | configure parameters =>
    simp only [operate, configure]
    split <;> rfl
  | send parameters =>
    cases sends : outgoing (service.account? reached.state) parameters with
    | error fault =>
      simp only [operate, service.send_of_outgoing_error sends,
        service.recorded.send_of_outgoing_error sends]
    | ok handed =>
      simp only [operate, service.send_of_outgoing_ok sends,
        service.recorded.send_of_outgoing_ok sends]
      rfl
  | status parameters => rfl

theorem recorded_operateAll (operations : List Operation) (reached : Recorded σ) :
    ((service.recorded.operateAll operations reached).1,
        (service.recorded.operateAll operations reached).2.state) =
      service.operateAll operations reached.state := by
  induction operations generalizing reached with
  | nil => rfl
  | cons operation operations ih =>
    simp only [operateAll]
    rw [← recorded_operate, ← ih]

end Service

/-! ### What a history asks for -/

def Event.Configured (event : Event) : Prop :=
  ∃ parameters result, event = ⟨.configure parameters, .done result⟩

def Event.Configures (event : Event) (account : Account) : Prop :=
  ∃ parameters result, event = ⟨.configure parameters, .done result⟩ ∧ account.Given parameters

/-- The account is the one of the last configure that succeeded. -/
def LastConfigured (past : List Event) (account : Account) : Prop :=
  ∃ before event after, past = before ++ event :: after ∧ event.Configures account ∧
    ∀ later ∈ after, ¬later.Configured

structure Sendable (parameters : Fields) : Prop where
  recipient : ∃ recipient, parameters.get? "to" = some (.string recipient) ∧ FitsHeader recipient
  subject : ∃ subject, parameters.get? "subject" = some (.string subject) ∧ FitsHeader subject

/-- A send with these parameters hands a mail over. -/
structure Due (past : List Event) (parameters : Fields) : Prop where
  sendable : Sendable parameters
  configured : ∃ earlier ∈ past, earlier.Configured

structure Sends (past : List Event) (parameters : Fields) (delivery : Delivery) : Prop where
  account : LastConfigured past delivery.account
  mail : Addressed delivery.account parameters delivery.mail

/-- The deliveries are those of the events, one for each send that is due and none besides. -/
inductive Handed : List Event → List Delivery → Prop
  | nil : Handed [] []
  | sent {past handed parameters answer delivery} (before : Handed past handed)
      (due : Due past parameters) (sends : Sends past parameters delivery) :
      Handed (past ++ [⟨.send parameters, answer⟩]) (handed ++ [delivery])
  | quiet {past handed event} (before : Handed past handed)
      (undue : ∀ parameters, event.operation = .send parameters → ¬Due past parameters) :
      Handed (past ++ [event]) handed

def Told (past : List Event) (answer : Answer) : Prop :=
  ∃ configured, answer = .done (.object [("email_configured", .bool configured)]) ∧
    (configured = true ↔ ∃ earlier ∈ past, earlier.Configured)

/-- What holds of a service, its record and its history at every moment. -/
structure Service.Follows (service : Service σ) (events : List Event) (reached : Recorded σ) :
    Prop where
  stored : ∀ account, service.account? reached.state = some account ↔ LastConfigured events account
  known : (service.account? reached.state).isSome = true ↔ ∃ event ∈ events, event.Configured
  handed : Handed events reached.handed
  told : ∀ past parameters answer later,
    events = past ++ ⟨.status parameters, answer⟩ :: later → Told past answer

theorem Event.Configures.configured {event : Event} {account : Account}
    (configures : event.Configures account) : event.Configured := by
  obtain ⟨parameters, result, same, -⟩ := configures
  exact ⟨parameters, result, same⟩

theorem Event.Configures.unique {event : Event} {first second : Account}
    (here : event.Configures first) (there : event.Configures second) : first = second := by
  obtain ⟨parameters, result, rfl, given⟩ := here
  obtain ⟨_, _, same, given'⟩ := there
  cases same
  exact given.unique given'

theorem lastConfigured_concat_iff {past : List Event} {event : Event} {account : Account} :
    LastConfigured (past ++ [event]) account ↔
      event.Configures account ∨ ¬event.Configured ∧ LastConfigured past account := by
  constructor
  · rintro ⟨before, last, after, same, found, quiet⟩
    rcases after.eq_nil_or_concat with rfl | ⟨after, final, rfl⟩
    · have ends : event = last := List.singleton_inj.mp (List.append_inj' same rfl).2
      exact .inl (ends ▸ found)
    · have cut : past ++ [event] = (before ++ last :: after) ++ [final] := by simpa using same
      obtain ⟨rest, ends⟩ := List.append_inj' cut rfl
      have unconfigured : ¬event.Configured := by
        rw [List.singleton_inj.mp ends]
        exact quiet final (by simp)
      have earlier : ∀ later ∈ after, ¬later.Configured := fun later inside =>
        quiet later (by simp [inside])
      exact .inr ⟨unconfigured, before, last, after, rest, found, earlier⟩
  · rintro (configures | ⟨unconfigured, before, last, after, rfl, found, quiet⟩)
    · exact ⟨past, event, [], rfl, configures, nofun⟩
    · refine ⟨before, last, after ++ [event], by simp, found, fun later inside => ?_⟩
      rcases List.mem_append.mp inside with earlier | here
      · exact quiet later earlier
      · exact List.mem_singleton.mp here ▸ unconfigured

theorem exists_addressed_iff {account : Account} {parameters : Fields} :
    (∃ mail, Addressed account parameters mail) ↔ Sendable parameters := by
  constructor
  · rintro ⟨mail, addressed⟩
    exact ⟨⟨_, addressed.recipient, addressed.recipientFits⟩,
      ⟨_, addressed.subject, addressed.subjectFits⟩⟩
  · rintro ⟨⟨recipient, recipientHeld, recipientFits⟩, ⟨subject, subjectHeld, subjectFits⟩⟩
    exact ⟨⟨account.email, recipient, subject, textOf parameters "body"⟩,
      rfl, recipientHeld, recipientFits, subjectHeld, subjectFits, rfl⟩

/-! ### One operation -/

namespace Service

/-- What an operation can do: configure an account, hand one mail over, or leave all as it is. -/
inductive Operates (service : Service σ) (reached : Recorded σ) :
    Operation → Answer → Recorded σ → Prop
  | configured {account parameters result} (given : account.Given parameters)
      (usable : account.Usable) :
      Operates service reached (.configure parameters) (.done result)
        { reached with state := service.store account reached.state }
  | sent {account mail parameters answer state}
      (kept : service.account? reached.state = some account)
      (addressed : Addressed account parameters mail)
      (unmoved : service.account? state = service.account? reached.state) :
      Operates service reached (.send parameters) answer ⟨state, reached.handed ++ [⟨account, mail⟩]⟩
  | quiet {operation answer} (unconfigured : ¬Event.Configured ⟨operation, answer⟩)
      (unsent : ∀ parameters account mail, operation = .send parameters →
        service.account? reached.state = some account → ¬Addressed account parameters mail) :
      Operates service reached operation answer reached

theorem operates (service : Service σ) (operation : Operation) (reached : Recorded σ) :
    let last := service.recorded.operate operation reached
    service.Operates reached operation last.1 last.2 := by
  cases operation with
  | configure parameters =>
    simp only [operate, configure]
    split
    next refused =>
      exact .quiet (by rintro ⟨_, _, ⟨⟩⟩) nofun
    next account accepted =>
      obtain ⟨given, usable⟩ := Account.given_of_configured accepted
      exact .configured given usable
  | send parameters =>
    cases sends : outgoing (service.account? reached.state) parameters with
    | error fault =>
      simp only [operate, service.recorded.send_of_outgoing_error sends]
      refine .quiet (by rintro ⟨_, _, ⟨⟩⟩) ?_
      rintro _ account mail ⟨⟩ kept addressed
      exact absurd (sends.symm.trans (outgoing_eq_ok_iff.mpr ⟨kept, addressed⟩)) nofun
    | ok handed =>
      simp only [operate, service.recorded.send_of_outgoing_ok sends]
      obtain ⟨kept, addressed⟩ := outgoing_eq_ok_iff.mp sends
      exact .sent kept addressed (service.account?_transport _ _ reached.state)
  | status parameters => exact .quiet (by rintro ⟨_, _, ⟨⟩⟩) nofun

variable {service : Service σ} {events : List Event} {reached after : Recorded σ}
  {operation : Operation} {answer : Answer}

theorem Operates.account?_eq (operates : service.Operates reached operation answer after)
    (unconfigured : ¬Event.Configured ⟨operation, answer⟩) :
    service.account? after.state = service.account? reached.state := by
  cases operates with
  | configured given _ => exact absurd ⟨_, _, rfl⟩ unconfigured
  | sent kept addressed unmoved => exact unmoved
  | quiet _ _ => rfl

theorem Operates.stored (operates : service.Operates reached operation answer after)
    (stored : ∀ account,
      service.account? reached.state = some account ↔ LastConfigured events account)
    (account : Account) :
    service.account? after.state = some account ↔
      LastConfigured (events ++ [⟨operation, answer⟩]) account := by
  rw [lastConfigured_concat_iff]
  by_cases configured : Event.Configured ⟨operation, answer⟩
  · cases operates with
    | @configured kept parameters result given _ =>
      have here : Event.Configures ⟨.configure parameters, .done result⟩ kept := ⟨_, _, rfl, given⟩
      rw [service.account?_store, Option.some.injEq]
      constructor
      · rintro rfl
        exact .inl here
      · rintro (there | ⟨unconfigured, -⟩)
        · exact here.unique there
        · exact absurd configured unconfigured
    | sent _ _ _ => exact absurd configured (by rintro ⟨_, _, ⟨⟩⟩)
    | quiet unconfigured _ => exact absurd configured unconfigured
  · have other : ¬Event.Configures ⟨operation, answer⟩ account := fun here =>
      configured here.configured
    rw [operates.account?_eq configured, stored account]
    simp [configured, other]

theorem Operates.known (operates : service.Operates reached operation answer after)
    (known : (service.account? reached.state).isSome = true ↔ ∃ event ∈ events, event.Configured) :
    (service.account? after.state).isSome = true ↔
      ∃ event ∈ events ++ [⟨operation, answer⟩], event.Configured := by
  by_cases configured : Event.Configured ⟨operation, answer⟩
  · refine ⟨fun _ => ⟨_, by simp, configured⟩, fun _ => ?_⟩
    cases operates with
    | configured _ _ => rw [service.account?_store]; rfl
    | sent _ _ _ => exact absurd configured (by rintro ⟨_, _, ⟨⟩⟩)
    | quiet unconfigured _ => exact absurd configured unconfigured
  · rw [operates.account?_eq configured, known]
    simp [or_and_right, exists_or, configured]

theorem Operates.handed (operates : service.Operates reached operation answer after)
    (follows : service.Follows events reached) :
    Handed (events ++ [⟨operation, answer⟩]) after.handed := by
  cases operates with
  | configured _ _ => exact .quiet follows.handed nofun
  | sent kept addressed unmoved =>
    refine .sent follows.handed ⟨exists_addressed_iff.mp ⟨_, addressed⟩, ?_⟩
      ⟨(follows.stored _).mp kept, addressed⟩
    exact follows.known.mp (by rw [kept]; rfl)
  | quiet unconfigured unsent =>
    refine .quiet follows.handed ?_
    rintro parameters rfl ⟨sendable, configured⟩
    obtain ⟨account, kept⟩ := Option.isSome_iff_exists.mp (follows.known.mpr configured)
    obtain ⟨mail, addressed⟩ := exists_addressed_iff.mpr sendable
    exact unsent parameters account mail rfl kept addressed

theorem Follows.told_status (follows : service.Follows events reached) (parameters : Fields) :
    Told events (service.recorded.operate (.status parameters) reached).1 :=
  ⟨_, rfl, follows.known⟩

theorem Follows.operate (follows : service.Follows events reached) (operation : Operation) :
    let last := service.recorded.operate operation reached
    service.Follows (events ++ [⟨operation, last.1⟩]) last.2 := by
  intro last
  have operates := service.operates operation reached
  refine ⟨operates.stored follows.stored, operates.known follows.known, operates.handed follows, ?_⟩
  intro past parameters answer later same
  -- the status asked for is this operation, or it was answered before
  rcases later.eq_nil_or_concat with rfl | ⟨later, final, rfl⟩
  · obtain ⟨rfl, ends⟩ := List.append_inj' same rfl
    cases List.singleton_inj.mp ends
    exact follows.told_status parameters
  · have split : events ++ [⟨operation, last.1⟩] =
        (past ++ ⟨.status parameters, answer⟩ :: later) ++ [final] := by simpa using same
    exact follows.told past parameters answer later (List.append_inj' split rfl).1

theorem follows_operateAll {start : σ} (fresh : service.account? start = none)
    (operations : List Operation) :
    let run := service.recorded.operateAll operations ⟨start, []⟩
    service.Follows run.1 run.2 := by
  induction operations using List.reverseRecOn with
  | nil =>
    refine ⟨fun account => ?_, ?_, .nil, fun past _ _ _ same => ?_⟩
    · simp [operateAll, fresh, LastConfigured]
    · simp [operateAll, fresh]
    · simp [operateAll] at same
  | append_singleton operations operation ih =>
    rw [operateAll_concat]
    exact ih.operate operation

/-- Whatever the operations and the transport, a service that starts without an account hands over
one mail for each send that is due and none besides, from the account of the last configure that
succeeded; it tells whether one did, and whatever is not a configure that succeeds leaves the account as
it is. -/
theorem histories_follow_configures (service : Service σ) (start : σ)
    (fresh : service.account? start = none) (operations : List Operation) :
    let (events, reached) := service.recorded.operateAll operations ⟨start, []⟩
    service.operateAll operations start = (events, reached.state) ∧
      events.map Event.operation = operations ∧
      service.Follows events reached ∧
      ∀ operation,
        let (answer, after) := service.recorded.operate operation reached
        ¬Event.Configured ⟨operation, answer⟩ →
          service.account? after.state = service.account? reached.state := by
  have same := service.recorded_operateAll operations ⟨start, []⟩
  refine ⟨same.symm, operateAll_operations _ _, follows_operateAll fresh operations,
    fun operation => ?_⟩
  exact (service.operates operation _).account?_eq

end Service

end CommandGate.Mail

namespace CommandGate.House

open Mail

def accountFields (account : Account) : Fields :=
  [("email", .string account.email), ("password", .string account.password),
    ("smtp_port", .whole account.port), ("smtp_server", .string account.server)]

def letterFields (recipient subject : String) : Fields :=
  [("subject", .string subject), ("to", .string recipient)]

def cook : Account := ⟨"mail.kitchen.example", 587, "cook@house.example", "ladle"⟩

def butler : Account := ⟨"mail.hall.example", 465, "butler@house.example", "bell"⟩

def chute : Transport Nat := fun _ _ taken =>
  (if taken % 2 = 0 then .ok () else .error (.failed "jammed"), taken + 1)

def correspondence : List Operation := [
  .send (letterFields "guest@town.example" "Too early"),
  .configure (accountFields { cook with port := 70000 }),
  .status [],
  .configure (accountFields cook),
  .send (letterFields "guest@town.example" "Dinner"),
  .configure (accountFields { butler with server := " " }),
  .send (letterFields "guest@town.example" "Dessert"),
  .configure (accountFields butler),
  .send (letterFields "guest@town.example\r\nBcc: all" "Rooms"),
  .send (letterFields "guest@town.example" "Keys")]

/-- The cook sends twice, the second mail into the jam, and then the butler sends. -/
theorem correspondence_follows_configures :
    let service := Service.beside chute
    let run := service.recorded.operateAll correspondence ⟨(none, 0), []⟩
    service.account? (none, 0) = none ∧
      run.2.handed = [
        ⟨cook, ⟨"cook@house.example", "guest@town.example", "Dinner", ""⟩⟩,
        ⟨cook, ⟨"cook@house.example", "guest@town.example", "Dessert", ""⟩⟩,
        ⟨butler, ⟨"butler@house.example", "guest@town.example", "Keys", ""⟩⟩] ∧
      Handed run.1 run.2.handed ∧ LastConfigured run.1 butler := by
  intro service run
  have follows : service.Follows run.1 run.2 :=
    (Service.histories_follow_configures service (none, 0) rfl correspondence).2.2.1
  have reached : run.2 = ⟨(some butler, 3), [
      ⟨cook, ⟨"cook@house.example", "guest@town.example", "Dinner", ""⟩⟩,
      ⟨cook, ⟨"cook@house.example", "guest@town.example", "Dessert", ""⟩⟩,
      ⟨butler, ⟨"butler@house.example", "guest@town.example", "Keys", ""⟩⟩]⟩ := by decide +kernel
  have stored : service.account? run.2.state = some butler := by rw [reached]; rfl
  exact ⟨rfl, by rw [reached], follows.handed, (follows.stored butler).mp stored⟩

end CommandGate.House
