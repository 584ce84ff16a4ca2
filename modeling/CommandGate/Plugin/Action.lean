import CommandGate.Json.Value
import CommandGate.Text.Blank
/-!
Actions of plugins. Running an action takes its parameters and the state of the surroundings, and
ends in a result, in an error, or in a crash; in each case the surroundings may have changed.
-/
namespace CommandGate

inductive ActionError where
  | invalidParameters (reason : String)
  | notConfigured (reason : String)
  | io (reason : String)
  | http (reason : String)
  | failed (reason : String)
  deriving DecidableEq

def ActionError.message : ActionError → String
  | invalidParameters reason => "Invalid parameters: " ++ reason
  | notConfigured reason => "Not configured: " ++ reason
  | io reason => "I/O error: " ++ reason
  | http reason => "HTTP error: " ++ reason
  | failed reason => reason

/-- How a run of an action ends. A crash may leave a text behind. -/
inductive Answer where
  | done (result : Json)
  | failed (error : ActionError)
  | crashed (trace : Option String)

def Answer.ofExcept : Except ActionError Json → Answer
  | .ok result => .done result
  | .error error => .failed error

abbrev Handler (σ : Type) := Fields → σ → Answer × σ

def Handler.pure {σ : Type} (run : Fields → Except ActionError Json) : Handler σ :=
  fun parameters state => (.ofExcept (run parameters), state)

structure Action (σ : Type) where
  description : String
  parameters : Members String
  dangerous : Bool
  handler : Handler σ

def requiredText (parameters : Fields) (name : String) : Except ActionError String :=
  match parameters.get? name with
  | some (.string value) =>
    if Text.isBlankText value then .error (.invalidParameters ("'" ++ name ++ "' is required"))
    else .ok value
  | some .null => .error (.invalidParameters ("'" ++ name ++ "' is required"))
  | none => .error (.invalidParameters ("'" ++ name ++ "' is required"))
  | some _ => .error (.invalidParameters ("'" ++ name ++ "' must be a string"))

theorem requiredText_eq_ok_iff {parameters : Fields} {name text : String} :
    requiredText parameters name = .ok text ↔
      parameters.get? name = some (.string text) ∧ Text.isBlankText text = false := by
  unfold requiredText
  split
  next value held =>
    split
    next blank =>
      simp only [held, reduceCtorEq, Option.some.injEq, Json.string.injEq, false_iff, not_and]
      rintro rfl
      simp [blank]
    next visible =>
      simp only [held, Except.ok.injEq, Option.some.injEq, Json.string.injEq]
      constructor
      · rintro rfl
        exact ⟨rfl, by simpa using visible⟩
      · exact And.left
  next held => simp [held]
  next held => simp [held]
  next value string _ held =>
    rw [held]
    constructor
    · intro read
      cases read
    · intro ⟨given, _⟩
      exact absurd (Option.some.inj given) (string text)

end CommandGate
