import CommandGate.Http.Url.Reader
import CommandGate.Json.Writer
/-!
One request of an HTTP client and what can become of it. A request that cannot be built never leaves;
one that leaves is answered, or finds nobody, or takes too long.
-/
namespace CommandGate.Http

structure Request where
  method : String
  url : Url
  /-- The user, with a password or without, that the address names. -/
  credentials : Option (List Char × Option (List Char))
  /-- The token that the request carries as its authorization. -/
  bearer : Option String
  body : Option Json
  /-- How long to wait for the whole exchange, in seconds. -/
  patience : Option Nat

/-- An answer; its body is missing if the connection ended before the announced length. -/
structure Reply where
  status : Nat
  body : Option String

inductive Fault where
  | unbuildable (url : Option Url)
  | unreachable (url : Url)
  | timedOut (url : Url)
  | cutShort (url : Url)
  deriving DecidableEq

def Fault.message : Fault → String
  | unbuildable none => "builder error"
  | unbuildable (some url) => "builder error for url (" ++ url.write ++ ")"
  | unreachable url => "error sending request for url (" ++ url.write ++ ")"
  | timedOut url => "error sending request for url (" ++ url.write ++ ")"
  | cutShort url => "error decoding response body for url (" ++ url.write ++ ")"

inductive Delivery where
  | answered (reply : Reply)
  | refused
  | tooLate

abbrev Network (σ : Type) := Request → σ → Delivery × σ

def isHeaderText (text : String) : Bool :=
  text.toList.all fun c => c == '\t' || (0x20 ≤ c.val && c.val != 0x7F)

/-- A request for an address given as text. The user that the address names is no part of its
URL. -/
def Request.build (method : String) (address : String) (bearer : Option String)
    (body : Option Json) (patience : Option Nat) : Except Fault Request :=
  match Url.parse? address.toList with
  | none => .error (.unbuildable none)
  | some url =>
    if url.host?.isNone then .error (.unbuildable (some url))
    else if !bearer.all isHeaderText then .error (.unbuildable none)
    else if !url.isSendable then .error (.unbuildable (some url.anonymous))
    else .ok ⟨method, url.anonymous, url.credentials?, bearer, body, patience⟩

def Request.send {σ : Type} (request : Request) (network : Network σ) (state : σ) :
    Except Fault Reply × σ :=
  match network request state with
  | (.answered reply, state) => (.ok reply, state)
  | (.refused, state) => (.error (.unreachable request.url), state)
  | (.tooLate, state) => (.error (.timedOut request.url), state)

def baseOf (address : String) : String :=
  String.ofList (address.toList.reverse.dropWhile (· == '/')).reverse

def Reply.isSuccess (reply : Reply) : Bool := 200 ≤ reply.status && reply.status < 300

end CommandGate.Http
