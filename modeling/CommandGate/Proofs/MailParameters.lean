import CommandGate.Mail.Sender
import CommandGate.Proofs.CommandReading
import CommandGate.Proofs.MemberOrder

/-!
What the parameters of the mail plugin say. The account of a configuration is the one that its four
parameters give, taken as they are; it is accepted exactly if it can be used. The mail of a send is the
one that its parameters address from the account.
-/

namespace CommandGate.Mail

structure OneLine (text : String) : Prop where
  unreturned : '\r' ∉ text.toList
  unfed : '\n' ∉ text.toList

/-- A text that fits a header field: one line with something visible in it. -/
structure FitsHeader (text : String) : Prop where
  visible : Text.isBlankText text = false
  oneLine : OneLine text

theorem breaksLine_eq_false_iff {text : String} : breaksLine text = false ↔ OneLine text := by
  have parted : breaksLine text = false ↔ '\r' ∉ text.toList ∧ '\n' ∉ text.toList := by
    simp only [breaksLine, List.any_eq_false, Bool.or_eq_true, beq_iff_eq, not_or]
    constructor
    · intro passed
      exact ⟨fun inside => (passed _ inside).1 rfl, fun inside => (passed _ inside).2 rfl⟩
    · rintro ⟨unreturned, unfed⟩ c inside
      exact ⟨fun same => unreturned (same ▸ inside), fun same => unfed (same ▸ inside)⟩
  rw [parted]
  exact ⟨fun ⟨unreturned, unfed⟩ => ⟨unreturned, unfed⟩,
    fun ⟨unreturned, unfed⟩ => ⟨unreturned, unfed⟩⟩

theorem visible_of_mem {text : String} {c : Char} (inside : c ∈ text.toList)
    (visible : Text.isBlank c = false) : Text.isBlankText text = false := by
  rw [Text.isBlankText, List.all_eq_false]
  exact ⟨c, inside, by simp [visible]⟩

/-! ### Accounts -/

namespace Account

/-- The four parameters give exactly this account. -/
structure Given (account : Account) (parameters : Fields) : Prop where
  server : parameters.get? "smtp_server" = some (.string account.server)
  port : parameters.get? "smtp_port" = some (.whole account.port)
  portSmall : account.port < 65536
  email : parameters.get? "email" = some (.string account.email)
  password : parameters.get? "password" = some (.string account.password)

structure Usable (account : Account) : Prop where
  server : FitsHeader account.server
  email : FitsHeader account.email
  password : account.password ≠ ""

theorem Given.unique {first second : Account} {parameters : Fields}
    (here : first.Given parameters) (there : second.Given parameters) : first = second := by
  obtain ⟨server, port, email, password⟩ := first
  obtain ⟨server', port', email', password'⟩ := second
  have servers := here.server.symm.trans there.server
  have ports := here.port.symm.trans there.port
  have emails := here.email.symm.trans there.email
  have passwords := here.password.symm.trans there.password
  simp only [Option.some.injEq, Json.string.injEq] at servers emails passwords
  simp only [Json.whole, Option.some.injEq, Json.number.injEq, Numeral.whole.injEq] at ports
  have same : port = port' := by omega
  rw [servers, emails, passwords, same]

end Account

theorem readText_eq_ok_iff {value : Json} {text : String} :
    readText value = .ok text ↔ value = .string text := by
  cases value <;> simp [readText]

theorem readPort_eq_ok_iff {value : Json} {port : Nat} :
    readPort value = .ok port ↔ value = .whole port ∧ port < 65536 := by
  constructor
  · intro read
    unfold readPort at read
    split at read
    next n =>
      split at read
      next within =>
        have same : n.toNat = port := Except.ok.inj read
        have whole : n = (port : Int) := by omega
        exact ⟨by rw [whole]; rfl, by omega⟩
      · cases read
    · cases read
  · rintro ⟨rfl, small⟩
    have within : (0 : Int) ≤ port ∧ (port : Int) < 65536 := by omega
    simp [readPort, Json.whole, within]

theorem field_eq_ok_iff {α : Type} {read : Json → Except String α} {parameters : Fields}
    {name : String} {result : α} :
    field read parameters name = .ok result ↔
      ∃ value, parameters.get? name = some value ∧ read value = .ok result := by
  unfold field
  cases parameters.get? name <;> simp

theorem typeFault?_eq_none_iff {name : String} {value : Json} :
    typeFault? name value = none ↔
      (name = "smtp_port" → ∃ port, readPort value = .ok port) ∧
        (name ∈ ["smtp_server", "email", "password"] → ∃ text, readText value = .ok text) := by
  unfold typeFault?
  split
  next port =>
    subst port
    cases readPort value <;> simp
  next other =>
    split
    next listed => cases readText value <;> simp [other, listed]
    next foreign => simp [other, foreign]

namespace Account

theorem given_iff {account : Account} {parameters : Fields} :
    account.Given parameters ↔
      field readText parameters "smtp_server" = .ok account.server ∧
        field readPort parameters "smtp_port" = .ok account.port ∧
        field readText parameters "email" = .ok account.email ∧
        field readText parameters "password" = .ok account.password := by
  simp only [field_eq_ok_iff, readText_eq_ok_iff, readPort_eq_ok_iff]
  constructor
  · rintro ⟨server, port, small, email, password⟩
    exact ⟨⟨_, server, rfl⟩, ⟨_, port, rfl, small⟩, ⟨_, email, rfl⟩, ⟨_, password, rfl⟩⟩
  · rintro ⟨⟨_, server, rfl⟩, ⟨_, port, rfl, small⟩, ⟨_, email, rfl⟩, ⟨_, password, rfl⟩⟩
    exact ⟨server, port, small, email, password⟩

theorem Given.typed {account : Account} {parameters : Fields} (given : account.Given parameters)
    (distinct : (Members.names parameters).Nodup) :
    (parameters.findSome? fun (name, value) => typeFault? name value) = none := by
  rw [List.findSome?_eq_none_iff]
  rintro ⟨name, value⟩ inside
  have held : parameters.get? name = some value := (Members.get?_eq_some_iff distinct).mpr inside
  refine typeFault?_eq_none_iff.mpr ⟨?_, ?_⟩
  · rintro rfl
    rw [given.port, Option.some.injEq] at held
    exact ⟨account.port, readPort_eq_ok_iff.mpr ⟨held.symm, given.portSmall⟩⟩
  · intro listed
    have named : name = "smtp_server" ∨ name = "email" ∨ name = "password" := by simpa using listed
    rcases named with rfl | rfl | rfl
    · exact ⟨_, readText_eq_ok_iff.mpr (Option.some.inj (held.symm.trans given.server))⟩
    · exact ⟨_, readText_eq_ok_iff.mpr (Option.some.inj (held.symm.trans given.email))⟩
    · exact ⟨_, readText_eq_ok_iff.mpr (Option.some.inj (held.symm.trans given.password))⟩

theorem given_of_ofParameters {account : Account} {parameters : Fields}
    (read : ofParameters parameters = .ok account) : account.Given parameters := by
  unfold ofParameters at read
  split at read
  · cases read
  · obtain ⟨server, serverRead, read⟩ := Command.bind_eq_ok_iff.mp read
    obtain ⟨port, portRead, read⟩ := Command.bind_eq_ok_iff.mp read
    obtain ⟨email, emailRead, read⟩ := Command.bind_eq_ok_iff.mp read
    obtain ⟨password, passwordRead, read⟩ := Command.bind_eq_ok_iff.mp read
    cases read
    exact given_iff.mpr ⟨serverRead, portRead, emailRead, passwordRead⟩

theorem ofParameters_of_given {account : Account} {parameters : Fields}
    (given : account.Given parameters) (distinct : (Members.names parameters).Nodup) :
    ofParameters parameters = .ok account := by
  obtain ⟨server, port, email, password⟩ := given_iff.mp given
  unfold ofParameters
  rw [given.typed distinct]
  simp only [server, port, email, password, bind, Except.bind]
  rfl

theorem check_eq_ok_iff {account : Account} : account.check = .ok () ↔ account.Usable := by
  unfold check
  constructor
  · intro passed
    split at passed
    · cases passed
    next complete =>
      split at passed
      · cases passed
      next single =>
        simp only [Bool.or_eq_true, not_or, Bool.not_eq_true, beq_eq_false_iff_ne,
          breaksLine_eq_false_iff] at complete single
        obtain ⟨⟨server, email⟩, password⟩ := complete
        exact ⟨⟨server, single.2⟩, ⟨email, single.1⟩, password⟩
  · rintro ⟨⟨server, serverLine⟩, ⟨email, emailLine⟩, password⟩
    have complete : (Text.isBlankText account.server || Text.isBlankText account.email ||
        account.password == "") = false := by simp [server, email, password]
    have single : (breaksLine account.email || breaksLine account.server) = false := by
      rw [breaksLine_eq_false_iff.mpr emailLine, breaksLine_eq_false_iff.mpr serverLine]
      rfl
    rw [complete, single]
    rfl

theorem configured_eq_ok_iff_of_read {account : Account} {parameters : Fields} :
    configured parameters = .ok account ↔
      ofParameters parameters = .ok account ∧ account.check = .ok () := by
  unfold configured
  cases ofParameters parameters with
  | error fault => simp
  | ok read =>
    cases passed : read.check with
    | error fault =>
      simp only [passed, Except.map, reduceCtorEq, false_iff, not_and, Except.ok.injEq]
      rintro rfl
      simp [passed]
    | ok _ =>
      simp only [passed, Except.map, Except.ok.injEq]
      constructor
      · rintro rfl
        exact ⟨rfl, passed⟩
      · exact And.left

theorem given_of_configured {account : Account} {parameters : Fields}
    (accepted : configured parameters = .ok account) : account.Given parameters ∧ account.Usable := by
  obtain ⟨read, passed⟩ := configured_eq_ok_iff_of_read.mp accepted
  exact ⟨given_of_ofParameters read, check_eq_ok_iff.mp passed⟩

theorem configured_eq_ok_iff {account : Account} {parameters : Fields}
    (distinct : (Members.names parameters).Nodup) :
    configured parameters = .ok account ↔ account.Given parameters ∧ account.Usable := by
  refine ⟨given_of_configured, fun ⟨given, usable⟩ => ?_⟩
  exact configured_eq_ok_iff_of_read.mpr
    ⟨ofParameters_of_given given distinct, check_eq_ok_iff.mpr usable⟩

end Account

/-! ### Mails -/

def textOf (parameters : Fields) (name : String) : String :=
  ((parameters.get? name).bind Json.string?).getD ""

/-- The mail that the parameters address from the account. -/
structure Addressed (account : Account) (parameters : Fields) (mail : OutgoingMail) : Prop where
  sender : mail.sender = account.email
  recipient : parameters.get? "to" = some (.string mail.recipient)
  recipientFits : FitsHeader mail.recipient
  subject : parameters.get? "subject" = some (.string mail.subject)
  subjectFits : FitsHeader mail.subject
  body : mail.body = textOf parameters "body"

theorem mailOf_body (account : Account) (recipient subject : String) (parameters : Fields) :
    (mailOf account recipient subject parameters).body = textOf parameters "body" := by
  simp only [mailOf, textOf]
  split
  next text held => simp [held, Json.string?]
  next other =>
    cases held : parameters.get? "body" with
    | none => rfl
    | some value => cases value <;> simp_all [Json.string?]

theorem outgoing_eq_ok_iff {stored : Option Account} {parameters : Fields} {account : Account}
    {mail : OutgoingMail} :
    outgoing stored parameters = .ok (account, mail) ↔
      stored = some account ∧ Addressed account parameters mail := by
  constructor
  · intro sent
    unfold outgoing at sent
    split at sent
    · cases sent
    next recipient toGiven =>
      split at sent
      · cases sent
      next subject subjectGiven =>
        split at sent
        · cases sent
        next single =>
          simp only [Bool.or_eq_true, not_or, Bool.not_eq_true, breaksLine_eq_false_iff] at single
          split at sent
          · cases sent
          next kept =>
            cases sent
            obtain ⟨toHeld, toVisible⟩ := requiredText_eq_ok_iff.mp toGiven
            obtain ⟨subjectHeld, subjectVisible⟩ := requiredText_eq_ok_iff.mp subjectGiven
            exact ⟨rfl, rfl, toHeld, ⟨toVisible, single.1⟩, subjectHeld,
              ⟨subjectVisible, single.2⟩, mailOf_body _ _ _ _⟩
  · rintro ⟨rfl, sender, recipient, recipientFits, subject, subjectFits, body⟩
    have toGiven : requiredText parameters "to" = .ok mail.recipient :=
      requiredText_eq_ok_iff.mpr ⟨recipient, recipientFits.visible⟩
    have subjectGiven : requiredText parameters "subject" = .ok mail.subject :=
      requiredText_eq_ok_iff.mpr ⟨subject, subjectFits.visible⟩
    have single : (breaksLine mail.recipient || breaksLine mail.subject) = false := by
      rw [breaksLine_eq_false_iff.mpr recipientFits.oneLine,
        breaksLine_eq_false_iff.mpr subjectFits.oneLine]
      rfl
    have same : mailOf account mail.recipient mail.subject parameters = mail := by
      have sameBody : (mailOf account mail.recipient mail.subject parameters).body = mail.body :=
        (mailOf_body _ _ _ _).trans body.symm
      have sameSender : (mailOf account mail.recipient mail.subject parameters).sender = mail.sender :=
        sender.symm
      calc mailOf account mail.recipient mail.subject parameters
          = ⟨mail.sender, mail.recipient, mail.subject, mail.body⟩ := by
            rw [← sameSender, ← sameBody]
            rfl
        _ = mail := rfl
    simp only [outgoing, toGiven, subjectGiven, single, same, Bool.false_eq_true, if_false]

end CommandGate.Mail
