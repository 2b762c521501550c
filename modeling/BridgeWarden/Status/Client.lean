import BridgeWarden.Json.Reader
import BridgeWarden.Status.Decode
import BridgeWarden.Status.Router

/-!
A client of the status interface: what it asks for, and what it makes of a reply. A reply whose
status says that something went wrong is a fault, and so is one whose body is not what was asked
for.
-/

namespace BridgeWarden.Status

/-- What a client asks for. -/
inductive Call where
  | link
  | linkUp
  | health
  | report (payload : String)
  deriving DecidableEq, Inhabited

namespace Call

def resource : Call → Resource
  | .link => .link
  | .linkUp => .linkUp
  | .health => .health
  | .report _ => .remote

def method : Call → String
  | .report _ => "PUT"
  | _ => "GET"

def body : Call → Text.Bytes
  | .report payload => Text.encode payload.toList
  | _ => []

/-- The request that a call sends. -/
def request (c : Call) : Request := ⟨c.method, Resource.root ++ c.resource.path, c.body⟩

end Call

/-- What comes back for a request. -/
structure Reply where
  status : Nat
  body : Text.Bytes
  deriving DecidableEq, Inhabited

/-- What a call is answered with. -/
inductive CallValue where
  | link (snapshot : Link.Snapshot)
  | linkUp (up : Bool)
  | health (h : Health)
  | remote (r : RemoteReport)
  deriving DecidableEq, Inhabited

def CallValue.toJson : CallValue → Json
  | .link snapshot => snapshot.toJson
  | .linkUp up => .bool up
  | .health h => h.toJson
  | .remote r => r.toJson

/-- Why a call has no answer. -/
inductive CallFault where
  /-- Nothing came back. -/
  | request (method url : String)
  /-- The reply says that something went wrong. -/
  | status (code : Nat) (url : String)
  /-- The reply is not what was asked for. -/
  | decode
  deriving DecidableEq, Inhabited

def CallFault.message : CallFault → String
  | .request method url => method ++ " " ++ url
  | .status code url =>
      "HTTP status " ++ (if code < 500 then "client" else "server") ++ " error (" ++
        toString code ++ ") for url (" ++ url ++ ")"
  | .decode => "error decoding response body"

/-- A client of the interface at an address. -/
structure Client where
  base : String
  deriving DecidableEq, Inhabited

namespace Client

/-- A client of the interface at an address, whose last slashes do not matter. -/
def ofUrl (url : String) : Client :=
  ⟨String.ofList (url.toList.reverse.dropWhile (· == '/')).reverse⟩

/-- Where a call goes. -/
def url (c : Client) (call : Call) : String := c.base ++ Resource.root ++ call.resource.path

/-- The value of a call in the body of a reply. -/
def decode? (call : Call) (body : Text.Bytes) : Option CallValue :=
  ((Text.decode? body).bind Json.parse?).bind fun j =>
    match call with
    | .link => (Link.Snapshot.ofJson? j).map .link
    | .linkUp => j.bool?.map .linkUp
    | .health => (Health.ofJson? j).map .health
    | .report _ => (RemoteReport.ofJson? j).map .remote

/-- What a call comes to, given what comes back. -/
def outcome (c : Client) (call : Call) : Option Reply → Except CallFault CallValue
  | none => .error (.request call.method (c.url call))
  | some reply =>
      if 400 ≤ reply.status then .error (.status reply.status (c.url call))
      else match decode? call reply.body with
        | some value => .ok value
        | none => .error .decode

end Client

end BridgeWarden.Status
