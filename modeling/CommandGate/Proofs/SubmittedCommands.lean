import CommandGate.Proofs.BodyReading
import CommandGate.Proofs.Mediation

/-!
What a body submits. An object without two members of one name submits its user text, or where it has
none its command; where it submits neither, or a blank text, it submits nothing. No body does both.
-/

namespace CommandGate

open Api

def Json.HasDistinctNames (value : Json) : Prop :=
  ∀ members, value = .object members → (Members.names members).Nodup

namespace CommandRequest

variable {document : Json}

theorem only?_eq_get? {members : Fields} (distinct : (Members.names members).Nodup) (name : String) :
    only? name members = members.get? name := by
  induction members with
  | nil => rfl
  | cons member members ih =>
    obtain ⟨key, value⟩ := member
    obtain ⟨fresh, distinct⟩ := List.nodup_cons.mp distinct
    by_cases same : key = name
    · have none : members.filter (·.1 == name) = [] := by
        refine List.filter_eq_nil_iff.mpr fun other inside shared => fresh ?_
        have again : other.1 = key := by simpa [same] using shared
        exact List.mem_map.mpr ⟨other, inside, again⟩
      simp [only?, Members.get?, same, none]
    · simpa [only?, Members.get?, same] using ih distinct

theorem ofJson?_of_text (distinct : document.HasDistinctNames) {userText : String}
    (given : document.get? "user_input" = some (.string userText)) :
    ofJson? document = some (.text userText) := by
  cases document with
  | object members =>
    have only : only? "user_input" members = some (.string userText) :=
      (only?_eq_get? (distinct members rfl) _).trans given
    simp only [ofJson?, only]
  | _ => cases given

theorem ofJson?_of_textless (distinct : document.HasDistinctNames)
    (textless : ∀ userText, document.get? "user_input" ≠ some (.string userText)) :
    ofJson? document = (document.get? "command").map fun command => .resubmit command.arrange := by
  cases document with
  | object members =>
    have only := only?_eq_get? (distinct members rfl)
    rw [ofJson?, only]
    split
    next userText given => exact absurd given (textless userText)
    next => rw [only]; rfl
  | _ => rfl

end CommandRequest

namespace Api.Request

variable {request : Request} {submission : Submission}

/-- A text is submitted by a string under `user_input` in which something is visible; without a string
there, the value under `command` is submitted. -/
inductive Submits (request : Request) : Submission → Prop where
  | text {document : Json} {userText : String} (holds : request.Holds document)
    (given : document.get? "user_input" = some (.string userText))
    (visible : Text.isBlankText userText = false) : Submits request (.text userText)
  | value {document command : Json} (holds : request.Holds document)
    (textless : ∀ userText, document.get? "user_input" ≠ some (.string userText))
    (given : document.get? "command" = some command) : Submits request (.value command.arrange)

inductive Brings (request : Request) : Submission → Prop where
  | text {document : Json} {userText : String} (holds : request.Holds document)
      (taken : CommandRequest.ofJson? document = some (.text userText))
      (visible : Text.isBlankText userText = false) : Brings request (.text userText)
  | value {document value : Json} (holds : request.Holds document)
      (taken : CommandRequest.ofJson? document = some (.resubmit value)) :
      Brings request (.value value)

theorem Submits.brings (submits : request.Submits submission)
    (distinct : ∀ document, request.Holds document → document.HasDistinctNames) :
    request.Brings submission := by
  cases submits with
  | text holds given visible =>
    exact .text holds (CommandRequest.ofJson?_of_text (distinct _ holds) given) visible
  | value holds textless given =>
    have taken := CommandRequest.ofJson?_of_textless (distinct _ holds) textless
    rw [given] at taken
    exact .value holds taken

inductive SubmitsNothing (request : Request) : Prop where
  | unreadable (unread : ∀ document, ¬request.Holds document)
  | neither {document : Json} (holds : request.Holds document)
    (textless : ∀ userText, document.get? "user_input" ≠ some (.string userText))
    (absent : document.get? "command" = none)
  | blank {document : Json} {userText : String} (holds : request.Holds document)
    (given : document.get? "user_input" = some (.string userText))
    (blank : Text.isBlankText userText = true)

theorem exists_submits_or_submitsNothing (request : Request) :
    (∃ submission, request.Submits submission) ∨ request.SubmitsNothing := by
  by_cases held : ∃ document, request.Holds document
  · obtain ⟨document, holds⟩ := held
    by_cases texts : ∃ userText, document.get? "user_input" = some (.string userText)
    · obtain ⟨userText, given⟩ := texts
      cases blank : Text.isBlankText userText with
      | false => exact .inl ⟨_, .text holds given blank⟩
      | true => exact .inr (.blank holds given blank)
    · have textless := not_exists.mp texts
      cases given : document.get? "command" with
      | none => exact .inr (.neither holds textless given)
      | some command => exact .inl ⟨_, .value holds textless given⟩
  · exact .inr (.unreadable (not_exists.mp held))

theorem Submits.not_submitsNothing (submits : request.Submits submission) :
    ¬request.SubmitsNothing := by
  intro nothing
  cases submits with
  | text holds given visible =>
    cases nothing with
    | unreadable unread => exact unread _ holds
    | neither again textless absent =>
      cases holds.unique again
      exact textless _ given
    | blank again other blank =>
      cases holds.unique again
      cases given.symm.trans other
      rw [visible] at blank
      cases blank
  | value holds textless given =>
    cases nothing with
    | unreadable unread => exact unread _ holds
    | neither again _ absent =>
      cases holds.unique again
      rw [given] at absent
      cases absent
    | blank again other blank =>
      cases holds.unique again
      exact textless _ other

structure PostsCommand (request : Request) : Prop where
  posted : request.method = "POST"
  routed : request.path = "/command"
  distinct : ∀ document, request.Holds document → document.HasDistinctNames

end Api.Request

end CommandGate
