import CommandGate.Mail.Body
import CommandGate.Mail.Header
import CommandGate.Plugin.Action
/-!
Mails as they are handed to a transport, and the messages made of them. A message needs two good
addresses; the sender's is looked at first.
-/
namespace CommandGate.Mail

structure OutgoingMail where
  sender : String
  recipient : String
  subject : String
  body : String
  deriving DecidableEq, Repr

structure Message where
  headers : List String
  body : String

def addressOf (field text : String) : Except ActionError Mailbox :=
  match Mailbox.parse text.toList with
  | .ok mailbox => .ok mailbox
  | .error fault =>
    .error (.invalidParameters (field ++ " '" ++ text ++ "': " ++ fault.message))

def OutgoingMail.message (mail : OutgoingMail) : Except ActionError Message :=
  match addressOf "from" mail.sender with
  | .error fault => .error fault
  | .ok sender =>
    match addressOf "to" mail.recipient with
    | .error fault => .error fault
    | .ok recipient =>
      let encoding := TransferEncoding.suiting mail.body.toUTF8.toList
      .ok {
        headers :=
          mailboxHeader "From" sender ++ mailboxHeader "To" recipient ++
            textHeader "Subject" mail.subject.toList ++
            ["Content-Type: text/plain; charset=utf-8",
              "Content-Transfer-Encoding: " ++ encoding.name]
        body := encoding.encode mail.body }

end CommandGate.Mail
