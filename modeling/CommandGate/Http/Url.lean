import CommandGate.Http.Host
import CommandGate.Http.Url.Path
/-!
URLs and how they are written. A URL has an authority where two slashes follow its scheme; even then
it may have no host.
-/
namespace CommandGate.Http

/-- Who is asked: a user with a password, both percent-encoded and mostly empty, at a host. -/
structure Authority where
  user : List Char
  password : List Char
  host : Option Host
  /-- The port, unless it is the one that the scheme means without it. -/
  port : Option Nat
  deriving DecidableEq, Repr

structure Url where
  scheme : List Char
  authority : Option Authority
  path : Path
  query : Option (List Char)
  fragment : Option (List Char)
  deriving DecidableEq, Repr

namespace Authority

def ofHost (host : Option Host) (port : Option Nat) : Authority := ⟨[], [], host, port⟩

def userinfo (authority : Authority) : List Char :=
  if authority.user.isEmpty && authority.password.isEmpty then []
  else
    let password := if authority.password.isEmpty then [] else ':' :: authority.password
    authority.user ++ password ++ ['@']

def write (authority : Authority) : List Char :=
  authority.userinfo ++ (authority.host.map Host.write).getD [] ++
    (authority.port.map (':' :: Nat.toDigits 10 ·)).getD []

def credentials? (authority : Authority) : Option (List Char × Option (List Char)) :=
  (percentDecode? authority.user).bind fun user =>
    let password := if authority.password.isEmpty then none else percentDecode? authority.password
    if user.isEmpty && password.isNone then none else some (user, password)

/-- The authority without a user and a password that can be read. -/
def anonymous (authority : Authority) : Authority :=
  if authority.credentials?.isSome then { authority with user := [], password := [] } else authority

end Authority

namespace Url

def host? (url : Url) : Option Host := url.authority.bind (·.host)

def isHttp (url : Url) : Bool := url.scheme == "http".toList || url.scheme == "https".toList

/-- A dot in front of a path that would otherwise be taken for an authority. -/
def pathGuard (url : Url) : List Char :=
  match url.authority, url.path with
  | none, .rooted ([] :: _ :: _) => ['/', '.']
  | _, _ => []

def write (url : Url) : String :=
  String.ofList <|
    url.scheme ++ ':' :: (url.authority.map ('/' :: '/' :: ·.write)).getD [] ++ url.pathGuard ++
      url.path.write ++ (url.query.map ('?' :: ·)).getD [] ++ (url.fragment.map ('#' :: ·)).getD []

def isUnsendable (c : Char) : Bool := ['"', '\x60', '\x7b', '\x7d'].contains c

def isSendable (url : Url) : Bool :=
  url.isHttp &&
    match url.host? with
    | some (.name text) => !text.any isUnsendable
    | some _ => true
    | none => false

def credentials? (url : Url) : Option (List Char × Option (List Char)) :=
  url.authority.bind (·.credentials?)

def anonymous (url : Url) : Url := { url with authority := url.authority.map Authority.anonymous }

end Url

end CommandGate.Http
