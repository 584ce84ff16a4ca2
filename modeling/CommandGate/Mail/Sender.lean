import CommandGate.Mail.Account
import CommandGate.Mail.Message
import CommandGate.Plugin.Registration
import CommandGate.Settings.Basic
/-!
The mail plugin. It keeps one account, which configuring replaces as a whole; a mail is sent from the
account that is kept at that moment. What fails changes nothing.
-/
namespace CommandGate.Mail

abbrev Transport (σ : Type) := Account → OutgoingMail → σ → Except ActionError Unit × σ

/-- Where the plugin keeps its account in surroundings of type `σ`, and how mails leave it. A mail
that leaves does not touch the account. -/
structure Service (σ : Type) where
  account? : σ → Option Account
  store : Account → σ → σ
  transport : Transport σ
  account?_store : ∀ account state, account? (store account state) = some account
  account?_transport : ∀ account mail state,
    account? (transport account mail state).2 = account? state

def mailOf (account : Account) (recipient subject : String) (parameters : Fields) : OutgoingMail where
  sender := account.email
  recipient := recipient
  subject := subject
  body :=
    match parameters.get? "body" with
    | some (.string body) => body
    | _ => ""

def outgoing (account? : Option Account) (parameters : Fields) :
    Except ActionError (Account × OutgoingMail) :=
  match requiredText parameters "to" with
  | .error fault => .error fault
  | .ok recipient =>
    match requiredText parameters "subject" with
    | .error fault => .error fault
    | .ok subject =>
      if breaksLine recipient || breaksLine subject then
        .error (.invalidParameters "header fields must be a single line")
      else
        match account? with
        | none => .error (.notConfigured "SMTP settings are not defined")
        | some account => .ok (account, mailOf account recipient subject parameters)

namespace Service

variable {σ : Type}

def configure (service : Service σ) : Handler σ := fun parameters state =>
  match Account.configured parameters with
  | .error fault => (.failed fault, state)
  | .ok account =>
    (.done (.object [("message", .string "SMTP settings saved")]), service.store account state)

def send (service : Service σ) : Handler σ := fun parameters state =>
  match outgoing (service.account? state) parameters with
  | .error fault => (.failed fault, state)
  | .ok (account, mail) =>
    match service.transport account mail state with
    | (.error fault, state) => (.failed fault, state)
    | (.ok _, state) =>
      (.done (.object [("message", .string ("Email sent to " ++ mail.recipient))]), state)

def status (service : Service σ) : Handler σ := fun _ state =>
  (.done (.object [("email_configured", .bool (service.account? state).isSome)]), state)

def registration (service : Service σ) : PluginRegistration σ where
  name := "email_sender"
  description := "Configurable e-mail sending"
  actions := [
    { name := "configure_email"
      action := {
        description := "Configures the SMTP account"
        parameters := [
          ("email", "string (your e-mail address)"),
          ("password", "string (your password)"),
          ("smtp_port", "number (ex: 587)"),
          ("smtp_server", "string (ex: smtp.gmail.com)")]
        dangerous := false
        handler := service.configure } },
    { name := "send_email"
      action := {
        description := "Sends an e-mail"
        parameters := [
          ("body", "string"),
          ("subject", "string"),
          ("to", "string (recipient e-mail)")]
        dangerous := false
        handler := service.send } },
    { name := "email_status"
      action := {
        description := "Reports whether SMTP settings are configured"
        parameters := []
        dangerous := false
        handler := service.status } }]

end Service

def relay {σ : Type} (submit : Account → Message → σ → Except String Unit × σ) : Transport σ :=
  fun account mail state =>
    match mail.message with
    | .error fault => (.error fault, state)
    | .ok message =>
      match submit account message state with
      | (.ok _, state) => (.ok (), state)
      | (.error reason, state) => (.error (.failed ("SMTP send failed: " ++ reason)), state)

end CommandGate.Mail
