import CommandGate.Proofs.Advertised
import CommandGate.Proofs.MailHistory
import CommandGate.Proofs.ServedRequests

/-!
Mails that leave a server. The mail plugin stands beside any other plugins, which know neither its
account nor its transport. Whatever is asked of the server, the account that is kept can be used, and so
the sender, the recipient and the subject of every mail that is handed over fit their header fields.
-/

namespace CommandGate

open Mail Api

variable {σ τ α : Type}

/-! ### One operation -/

namespace Mail

structure Delivery.Clean (delivery : Delivery) : Prop where
  sender : FitsHeader delivery.mail.sender
  recipient : FitsHeader delivery.mail.recipient
  subject : FitsHeader delivery.mail.subject
  server : FitsHeader delivery.account.server
  password : delivery.account.password ≠ ""

theorem Addressed.clean {account : Account} {parameters : Fields} {mail : OutgoingMail}
    (addressed : Addressed account parameters mail) (usable : account.Usable) :
    Delivery.Clean ⟨account, mail⟩ where
  sender := addressed.sender ▸ usable.email
  recipient := addressed.recipientFits
  subject := addressed.subjectFits
  server := usable.server
  password := usable.password

namespace Service

variable {service : Service σ}

/-- The account that is kept can be used, and what was handed over so far is clean. -/
structure Clean (service : Service σ) (reached : Recorded σ) : Prop where
  stored : ∀ account, service.account? reached.state = some account → account.Usable
  handed : ∀ delivery ∈ reached.handed, delivery.Clean

theorem Operates.clean {reached after : Recorded σ} {operation : Operation} {answer : Answer}
    (operates : service.Operates reached operation answer after) (before : service.Clean reached) :
    service.Clean after := by
  cases operates with
  | configured given usable =>
    refine ⟨fun account stored => ?_, before.handed⟩
    rw [service.account?_store] at stored
    exact Option.some.inj stored ▸ usable
  | sent kept addressed unmoved =>
    have usable := before.stored _ kept
    refine ⟨fun account stored => before.stored account (unmoved ▸ stored), fun delivery inside => ?_⟩
    rcases List.mem_append.mp inside with earlier | last
    · exact before.handed delivery earlier
    · rw [List.mem_singleton.mp last]
      exact addressed.clean usable
  | quiet _ _ => exact before

theorem keeps_clean (service : Service σ) :
    ∀ entry ∈ service.recorded.registration.actions, entry.action.Keeps service.Clean := by
  intro entry listed parameters reached before
  simp only [registration, List.mem_cons, List.not_mem_nil, or_false] at listed
  rcases listed with rfl | rfl | rfl
  · exact (service.operates (.configure parameters) reached).clean before
  · exact (service.operates (.send parameters) reached).clean before
  · exact (service.operates (.status parameters) reached).clean before

end Service

end Mail

/-! ### Beside the mail plugin -/

/-- The surroundings of a server whose mail plugin is watched: its account, the rest, and what its
transport was handed. -/
abbrev Surroundings (τ : Type) := Recorded (Option Account × τ)

def Surroundings.outside (act : τ → α × τ) (reached : Surroundings τ) : α × Surroundings τ :=
  let (result, rest) := act reached.state.2
  (result, { reached with state := (reached.state.1, rest) })

theorem Surroundings.outside_clean {transport : Transport τ} {act : τ → α × τ}
    {reached : Surroundings τ} (before : (Service.beside transport).Clean reached) :
    (Service.beside transport).Clean (Surroundings.outside act reached).2 :=
  ⟨before.stored, before.handed⟩

def Action.outside (action : Action τ) : Action (Surroundings τ) where
  description := action.description
  parameters := action.parameters
  dangerous := action.dangerous
  handler parameters := Surroundings.outside (action.handler parameters)

def PluginRegistration.outside (registration : PluginRegistration τ) :
    PluginRegistration (Surroundings τ) where
  name := registration.name
  description := registration.description
  actions := registration.actions.map fun entry => ⟨entry.name, entry.action.outside⟩

def Oracle.outside (oracle : Oracle τ) : Oracle (Surroundings τ) where
  generate request := Surroundings.outside (oracle.generate request)
  check := Surroundings.outside oracle.check

/-- What a server registers: the mail plugin, or a plugin that knows nothing of it. -/
inductive Installed (τ : Type) where
  | mail
  | other (registration : PluginRegistration τ)

def Installed.registration (transport : Transport τ) :
    Installed τ → PluginRegistration (Surroundings τ)
  | .mail => (Service.beside transport).recorded.registration
  | .other registration => registration.outside

def Gate.mailing (transport : Transport τ) (plugins : List (Installed τ)) (oracle : Oracle τ)
    (settings : Settings) (authorize : Command → Bool) : Gate (Surroundings τ) :=
  .ofSettings (Registry.empty.registerAll (plugins.map (Installed.registration transport)))
    oracle.outside settings authorize

theorem Installed.keeps_clean (transport : Transport τ) (plugin : Installed τ) :
    ∀ entry ∈ (plugin.registration transport).actions,
      entry.action.Keeps (Service.beside transport).Clean := by
  cases plugin with
  | mail => exact (Service.beside transport).keeps_clean
  | other registration =>
    intro entry listed parameters reached before
    obtain ⟨inner, -, rfl⟩ := List.mem_map.mp listed
    exact Surroundings.outside_clean before

namespace Gate

theorem mailing_keeps (transport : Transport τ) (plugins : List (Installed τ)) (oracle : Oracle τ)
    (settings : Settings) (authorize : Command → Bool) :
    (mailing transport plugins oracle settings authorize).Keeps (Service.beside transport).Clean where
  registry := by
    refine Registry.keeps_registerAll fun registration listed => ?_
    obtain ⟨plugin, -, rfl⟩ := List.mem_map.mp listed
    exact plugin.keeps_clean transport
  oracle _ _ before := Surroundings.outside_clean before

/-- Whatever requests a server without an account is sent, every mail that its transport is handed
has a sender, a recipient and a subject that fit their header fields, and comes with the name of a
server and a password. -/
theorem mails_handed_over_are_clean (transport : Transport τ) (plugins : List (Installed τ))
    (oracle : Oracle τ) (settings : Settings) (authorize : Command → Bool) (outside : τ)
    (requests : List Request) :
    let gate := mailing transport plugins oracle settings authorize
    let reached := (gate.serveAll requests (.start ⟨(none, outside), []⟩)).2.state
    ∀ delivery ∈ reached.handed,
      FitsHeader delivery.mail.sender ∧ FitsHeader delivery.mail.recipient ∧
        FitsHeader delivery.mail.subject ∧ FitsHeader delivery.account.server ∧
        delivery.account.password ≠ "" := by
  intro gate reached delivery inside
  have start : (Service.beside transport).Clean ⟨(none, outside), []⟩ := ⟨nofun, nofun⟩
  have clean : (Service.beside transport).Clean reached :=
    (mailing_keeps transport plugins oracle settings authorize).serveAll requests start
  have fits := clean.handed delivery inside
  exact ⟨fits.sender, fits.recipient, fits.subject, fits.server, fits.password⟩

end Gate

namespace House

def post (path body : String) : Request := ⟨"POST", path, some "application/json", body⟩

def mailSettings : Settings where
  policy := { allowedActions := ["send_email"] }

def configureRequest : Request := post "/configure_email" (Json.object
  [("email", .string "cook@house.example"), ("password", .string "ladle"),
    ("smtp_port", .string " 587"), ("smtp_server", .string "mail.kitchen.example")]).compact

def sendRequest (subject : String) : Request := post "/command" (Json.object
  [("command", ToolCall.toJson ⟨"send_email", letterFields "guest@town.example" subject, none⟩)]).compact

theorem dinner_is_handed_over_clean :
    ((Gate.mailing chute [.mail, .other watch] silent mailSettings Policy.permitAll).serveAll
        [configureRequest, sendRequest "Dinner"] (.start ⟨(none, 0), []⟩)).2.state.handed =
      [⟨cook, ⟨"cook@house.example", "guest@town.example", "Dinner", ""⟩⟩] ∧
    FitsHeader "cook@house.example" ∧ FitsHeader "guest@town.example" ∧ FitsHeader "Dinner" ∧
      FitsHeader "mail.kitchen.example" ∧ "ladle" ≠ "" := by
  have handed :
      ((Gate.mailing chute [.mail, .other watch] silent mailSettings Policy.permitAll).serveAll
          [configureRequest, sendRequest "Dinner"] (.start ⟨(none, 0), []⟩)).2.state.handed =
        [⟨cook, ⟨"cook@house.example", "guest@town.example", "Dinner", ""⟩⟩] := by decide +kernel
  have clean := Gate.mails_handed_over_are_clean chute [.mail, .other watch] silent mailSettings
    Policy.permitAll 0 [configureRequest, sendRequest "Dinner"]
  dsimp only at clean
  rw [handed] at clean
  exact ⟨handed, clean _ (List.mem_singleton_self _)⟩

end House

end CommandGate
