import CommandGate.Result.Basic
import CommandGate.Command.Json
import CommandGate.Decoder
/-!
Results as JSON values. A single result is tagged by its `status`; the results of a chain stand under
`results` beside the status `success`. A reader of either form tries the single result first.
-/
namespace CommandGate

open Decoder

namespace ToolCall

/-- The plain record of a call: unlike a loose command it takes no null in place of its fields. -/
def decoder : Decoder ToolCall :=
  .record ⟨"", [], none⟩ [
    .needed "action" .text fun action call => { call with action },
    .defaulted "parameters" (.mapping .any) fun parameters call => { call with parameters },
    .defaulted "confirm" (.optional .bool) fun confirm call => { call with confirm }]

end ToolCall

namespace ExecutionResult

def toJson : ExecutionResult → Json
  | .success result => .object [("result", result), ("status", .string "success")]
  | .error message => .object [("message", .string message), ("status", .string "error")]
  | .cancelled action message needsConfirmation command =>
    .object [
      ("action", .string action),
      ("command", command.toJson),
      ("message", .string message),
      ("needs_confirmation", .bool needsConfirmation),
      ("status", .string "cancelled")]

inductive Tag where
  | success
  | error
  | cancelled

def Tag.ofString? (name : String) : Option Tag :=
  if name = "success" then some .success
  else if name = "error" then some .error
  else if name = "cancelled" then some .cancelled
  else none

/-- The tag that a value stands for; where `numbered`, also by its number. -/
def Tag.ofJson? (numbered : Bool) : Json → Option Tag
  | .string name => Tag.ofString? name
  | .number (.whole n) =>
    if !numbered then none
    else if n = 0 then some .success
    else if n = 1 then some .error
    else if n = 2 then some .cancelled
    else none
  | _ => none

def Tag.decoder : Tag → Decoder ExecutionResult
  | .success => .record (.success .null) [.needed "result" .any fun result _ => .success result]
  | .error => .record (.error "") [.needed "message" .text fun message _ => .error message]
  | .cancelled =>
    .record (.cancelled "" "" false ⟨"", [], none⟩) [
      .needed "action" .text fun action result =>
        match result with
        | .cancelled _ message needs command => .cancelled action message needs command
        | result => result,
      .needed "message" .text fun message result =>
        match result with
        | .cancelled action _ needs command => .cancelled action message needs command
        | result => result,
      .needed "needs_confirmation" .bool fun needs result =>
        match result with
        | .cancelled action message _ command => .cancelled action message needs command
        | result => result,
      .needed "command" ToolCall.decoder fun command result =>
        match result with
        | .cancelled action message needs _ => .cancelled action message needs command
        | result => result]

/-- A result as an object with one `status`, or as an array that starts with the status. -/
def ofJson? (numbered : Bool) : Json → Option ExecutionResult
  | .object members =>
    match members.filter (·.1 == "status") with
    | [(_, status)] =>
      (Tag.ofJson? numbered status).bind fun tag =>
        tag.decoder.accept (.object (members.filter (·.1 != "status")))
    | _ => none
  | .array (status :: items) =>
    (Tag.ofJson? numbered status).bind fun tag => tag.decoder.accept (.array items)
  | _ => none

def decoder : Decoder ExecutionResult := .buffered (ofJson? false)

end ExecutionResult

namespace DispatchResult

def toJson : DispatchResult → Json
  | .single result => result.toJson
  | .chain results =>
    .object [
      ("results", .array (results.map ExecutionResult.toJson)),
      ("status", .string "success")]

/-- The only status of a chain, by its name alone or with nothing in it. -/
def chainStatus : Decoder Unit :=
  .buffered fun
    | .string name => if name = "success" then some () else none
    | .object [(name, .null)] => if name = "success" then some () else none
    | _ => none

def chainDecoder : Decoder (List ExecutionResult) :=
  .record [] [
    .needed "status" chainStatus fun _ results => results,
    .needed "results" (.list (.buffered (ExecutionResult.ofJson? true))) fun results _ => results]

def ofJson? (document : Json) : Option DispatchResult :=
  match ExecutionResult.ofJson? true document with
  | some result => some (.single result)
  | none => (chainDecoder.accept document).map .chain

def decoder : Decoder DispatchResult := .buffered ofJson?

end DispatchResult

end CommandGate
