import CommandGate.Decoder
/-!
Capabilities: what an installed plugin offers, as it is shown to clients and to the oracle.
-/
namespace CommandGate

structure CapabilityAction where
  description : String
  parameters : Members String
  deriving DecidableEq

structure Capability where
  name : String
  description : String
  actions : Members CapabilityAction
  deriving DecidableEq

namespace CapabilityAction

def toJson (action : CapabilityAction) : Json :=
  .object [
    ("description", .string action.description),
    ("parameters", .object (action.parameters.mapValues .string))]

def decoder : Decoder CapabilityAction :=
  .record ⟨"", []⟩ [
    .needed "description" .text fun description action => { action with description },
    .needed "parameters" (.mapping .text) fun parameters action => { action with parameters }]

end CapabilityAction

namespace Capability

def toJson (capability : Capability) : Json :=
  .object [
    ("name", .string capability.name),
    ("description", .string capability.description),
    ("actions", .object (capability.actions.mapValues CapabilityAction.toJson))]

def decoder : Decoder Capability :=
  .record ⟨"", "", []⟩ [
    .needed "name" .text fun name capability => { capability with name },
    .needed "description" .text fun description capability => { capability with description },
    .needed "actions" (.mapping CapabilityAction.decoder) fun actions capability =>
      { capability with actions }]

end Capability

end CommandGate
