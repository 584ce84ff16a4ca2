import CommandGate.Settings.Codec
/-!
The text-generation oracle: requests, replies and errors. A reply keeps every field that came with
the text, so that it can be passed on as it was.
-/
namespace CommandGate

structure GenerateRequest where
  model : String
  prompt : String
  stream : Bool
  temperature : Number.Extended
  format : Option String

structure GenerateReply where
  response : String
  extra : Fields

inductive OracleError where
  | timeout
  | connection (reason : String)
  | status (code : Nat) (body : String)
  | backend (reason : String)
  | badResponse (reason : String)
  deriving DecidableEq

namespace OracleError

def message : OracleError → String
  | timeout => "Oracle timed out"
  | connection reason => "Cannot reach oracle: " ++ reason
  | status code body => "Oracle returned HTTP " ++ toString code ++ ": " ++ body
  | backend reason => "Oracle error: " ++ reason
  | badResponse reason => "Unexpected oracle response: " ++ reason

def isTransient : OracleError → Bool
  | timeout => true
  | _ => false

end OracleError

namespace GenerateRequest

open Decoder

def toJson (request : GenerateRequest) : Json :=
  .object <|
    (match request.format with
      | some format => [("format", .string format)]
      | none => []) ++ [
    ("model", .string request.model),
    ("options", .object [("temperature", .ofSingle request.temperature)]),
    ("prompt", .string request.prompt),
    ("stream", .bool request.stream)]

def optionsDecoder : Decoder Number.Extended :=
  .record .undefined [.needed "temperature" .single fun temperature _ => temperature]

def decoder : Decoder GenerateRequest :=
  .record ⟨"", "", false, .undefined, none⟩ [
    .needed "model" .text fun model request => { request with model },
    .needed "prompt" .text fun prompt request => { request with prompt },
    .needed "stream" .bool fun stream request => { request with stream },
    .needed "options" optionsDecoder fun temperature request => { request with temperature },
    .defaulted "format" (.optional .text) fun format request => { request with format }]

end GenerateRequest

namespace GenerateReply

/-- All fields of the reply; another field named like the text takes its place. -/
def toJson (reply : GenerateReply) : Json :=
  .object (Members.ofList (("response", .string reply.response) :: reply.extra))

def ofJson? : Json → Option GenerateReply
  | .object members =>
    match members.filter (·.1 == "response") with
    | [(_, .string response)] =>
      match Json.arrange (.object (members.filter (·.1 != "response"))) with
      | .object extra => some ⟨response, extra⟩
      | _ => none
    | _ => none
  | _ => none

def decoder : Decoder GenerateReply := .buffered ofJson?

end GenerateReply

end CommandGate
