import CommandGate.Proofs.ValueParts
import CommandGate.Result.Json

/-!
Results read back from their JSON values. A reader that takes both forms tries the single result first,
and both have a `status` that may say `success`. What tells them apart is the name of the other field,
whatever stands in it: a chain has no `result`, so it is never taken for a single result.
-/

namespace CommandGate

namespace Decoder

variable {α ρ : Type}

theorem any_accept_of_ordered {value : Json} (ordered : value.Ordered) :
    any.accept value = some value :=
  congrArg some (Json.arrange_of_ordered ordered)

theorem acceptMembers_any (members : Fields) :
    acceptMembers any.accept members = some (Json.arrangeMembers members) := by
  induction members with
  | nil => rfl
  | cons member members ih =>
    rw [acceptMembers, ih]
    rfl

theorem mapping_any_accept_of_ordered {members : Fields} (ordered : (Json.object members).Ordered) :
    (mapping any).accept (.object members) = some members := by
  have arranged : (Json.object members).arrange = .object members := Json.arrange_of_ordered ordered
  change (acceptMembers any.accept members).map Members.ofList = some members
  rw [acceptMembers_any]
  exact congrArg some (Json.object.inj arranged)

theorem acceptAll_map {accept : Json → Option α} {toJson : α → Json} {values : List α}
    (each : ∀ value ∈ values, accept (toJson value) = some value) :
    acceptAll accept (values.map toJson) = some values := by
  induction values with
  | nil => rfl
  | cons value values ih =>
    obtain ⟨here, there⟩ := List.forall_mem_cons.mp each
    rw [List.map_cons, acceptAll, here, ih there]
    rfl

theorem record_accept (initial : ρ) (fields : List (Field ρ)) (members : Fields) :
    (record initial fields).accept (.object members) = acceptObject fields [] initial members :=
  rfl

theorem acceptObject_known {fields : List (Field ρ)} {field : Field ρ} {given : List String}
    {name : String} {value : Json} {change : ρ → ρ} {record result : ρ} {members : Fields}
    (known : fields.find? (·.name == name) = some field) (fresh : given.contains name = false)
    (taken : field.accept value = some change)
    (later : acceptObject fields (name :: given) (change record) members = some result) :
    acceptObject fields given record ((name, value) :: members) = some result := by
  simp only [acceptObject, known, fresh, taken, Bool.false_eq_true, if_false, Option.bind_some, later]

end Decoder

theorem Field.of_accept {α ρ : Type} {name : String} {required : Bool} {decoder : Decoder α}
    {set : α → ρ → ρ} {document : Json} {value : α}
    (taken : decoder.accept document = some value) :
    (Field.of name required decoder set).accept document = some (set value) :=
  congrArg (Option.map set) taken

open Decoder

theorem ToolCall.decoder_accept_toJson {call : ToolCall}
    (ordered : (Json.object call.parameters).Ordered) :
    decoder.accept call.toJson = some call := by
  obtain ⟨action, parameters, confirm⟩ := call
  have taken : (mapping any).accept (.object parameters) = some parameters :=
    mapping_any_accept_of_ordered ordered
  cases confirm with
  | none =>
    simp only [decoder, toJson, record_accept]
    exact acceptObject_known rfl rfl rfl (acceptObject_known rfl rfl (Field.of_accept taken) rfl)
  | some confirm =>
    simp only [decoder, toJson, record_accept]
    refine acceptObject_known rfl rfl rfl (acceptObject_known rfl rfl rfl ?_)
    exact acceptObject_known rfl rfl (Field.of_accept taken) rfl

namespace ExecutionResult

def Ordered : ExecutionResult → Prop
  | success result => result.Ordered
  | error _ => True
  | cancelled _ _ _ command => (Json.object command.parameters).Ordered

theorem ofJson?_toJson {result : ExecutionResult} (ordered : result.Ordered) (numbered : Bool) :
    ofJson? numbered result.toJson = some result := by
  cases result with
  | success result =>
    have taken : any.accept result = some result := any_accept_of_ordered ordered
    change (Tag.decoder .success).accept (.object [("result", result)]) = _
    rw [Tag.decoder, record_accept]
    exact acceptObject_known rfl rfl (Field.of_accept taken) rfl
  | error message => rfl
  | cancelled action message needsConfirmation command =>
    have taken : ToolCall.decoder.accept command.toJson = some command :=
      ToolCall.decoder_accept_toJson ordered
    change (Tag.decoder .cancelled).accept (.object [("action", .string action),
      ("command", command.toJson), ("message", .string message),
      ("needs_confirmation", .bool needsConfirmation)]) = _
    rw [Tag.decoder, record_accept]
    refine acceptObject_known rfl rfl rfl ?_
    refine acceptObject_known rfl rfl (Field.of_accept taken) ?_
    exact acceptObject_known rfl rfl rfl (acceptObject_known rfl rfl rfl rfl)

theorem ofJson?_chain (numbered : Bool) (results : List ExecutionResult) :
    ofJson? numbered (DispatchResult.chain results).toJson = none :=
  rfl

end ExecutionResult

namespace DispatchResult

def Ordered (result : DispatchResult) : Prop := ∀ entry ∈ result.results, entry.Ordered

theorem chainDecoder_accept_toJson {results : List ExecutionResult}
    (ordered : (chain results).Ordered) :
    chainDecoder.accept (chain results).toJson = some results := by
  have each : acceptAll (ExecutionResult.ofJson? true) (results.map ExecutionResult.toJson) =
      some results :=
    acceptAll_map fun entry inside => ExecutionResult.ofJson?_toJson (ordered entry inside) true
  have taken : (list (.buffered (ExecutionResult.ofJson? true))).accept
      (.array (results.map ExecutionResult.toJson)) = some results := each
  rw [chainDecoder, toJson, record_accept]
  refine acceptObject_known rfl rfl (Field.of_accept taken) ?_
  exact acceptObject_known rfl rfl rfl rfl

/-- A result of either form is read back from its JSON value as it was and in its own form, whatever
values, texts and held calls it comes with. -/
theorem results_survive_the_wire (result : DispatchResult) (ordered : result.Ordered) :
    decoder.accept result.toJson = some result := by
  change ofJson? result.toJson = some result
  cases result with
  | single result =>
    have read : ExecutionResult.ofJson? true (single result).toJson = some result :=
      ExecutionResult.ofJson?_toJson (ordered result (List.mem_singleton_self result)) true
    rw [ofJson?, read]
  | chain results =>
    rw [ofJson?, ExecutionResult.ofJson?_chain, chainDecoder_accept_toJson ordered]
    rfl

end DispatchResult

namespace House

/-- The payload of the first result is itself the JSON of a chain, and the held call carries fields
named like those of a result. -/
def disguised : DispatchResult :=
  .chain [
    .success (DispatchResult.chain [.error "success"]).toJson,
    .error "results",
    .cancelled "lock" "cancelled" false
      ⟨"lock", [("result", .null), ("results", .array []), ("status", .string "success")],
        some false⟩]

theorem disguised_survives :
    disguised.Ordered ∧ DispatchResult.decoder.accept disguised.toJson = some disguised := by
  have outer : ["results", "status"].Pairwise (· < ·) := by decide
  have inner : ["message", "status"].Pairwise (· < ·) := by decide
  have held : ["result", "results", "status"].Pairwise (· < ·) := by decide
  have ordered : disguised.Ordered := by
    simp only [DispatchResult.Ordered, disguised, DispatchResult.results, List.forall_mem_cons]
    exact ⟨⟨outer, ⟨⟨inner, trivial, trivial, trivial⟩, trivial⟩, trivial, trivial⟩, trivial,
      ⟨held, trivial, trivial, trivial, trivial⟩, nofun⟩
  exact ⟨ordered, DispatchResult.results_survive_the_wire disguised ordered⟩

end House

end CommandGate
