import BridgeWarden.Status.Encode
import BridgeWarden.Json.Printer
import BridgeWarden.Text.Utf8

/-!
The status interface over HTTP: four resources below one root. Three of them are read, and show the
health as it is or a part of it; the fourth takes the remote site's reports.
-/

namespace BridgeWarden.Status

inductive Resource where
  | link
  | linkUp
  | health
  | remote
  deriving DecidableEq, Inhabited

namespace Resource

/-- Where all resources lie. -/
def root : String := "/api/v1"

def all : List Resource := [.link, .linkUp, .health, .remote]

/-- The path below the root. -/
def path : Resource → String
  | .link => "/link"
  | .linkUp => "/link/up"
  | .health => "/health"
  | .remote => "/telemetry/remote"

/-- The resource at a path. -/
def ofPath? (path : String) : Option Resource := all.find? fun r => root ++ r.path == path

/-- The methods that a resource knows. -/
def methods : Resource → List String
  | .link | .linkUp | .health => ["GET", "HEAD"]
  | .remote => ["PUT"]

end Resource

structure Request where
  method : String
  /-- The target without its query. -/
  path : String
  body : Text.Bytes

structure Response where
  status : Nat
  contentType : Option String
  /-- The methods that the resource knows, where another one was asked for. -/
  allow : Option String
  body : String
  deriving DecidableEq, Inhabited

namespace Response

def bare (status : Nat) : Response := ⟨status, none, none, ""⟩

def ofJson (j : Json) : Response := ⟨200, some "application/json", none, j.compact⟩

def notAllowed (methods : List String) : Response :=
  { bare 405 with allow := some (String.intercalate "," methods) }

/-- The answer to a report whose bytes are no text. -/
def notText (position : Nat) (length : Option Nat) : Response :=
  ⟨400, some "text/plain; charset=utf-8", none,
    "Request body didn't contain valid UTF-8: " ++ Text.describeFault position length⟩

def withoutBody (r : Response) : Response := { r with body := "" }

end Response

/-- What a resource that is read shows of the health. -/
def Resource.view (health : Health) : Resource → Json
  | .link => health.link.toJson
  | .linkUp => .bool health.linkUp
  | .health | .remote => health.toJson

/-- The answer to a request, and the payload to be recorded if it reports one. -/
def serve (health : Health) (r : Request) : Response × Option (List Char) :=
  match Resource.ofPath? r.path with
  | none => (.bare 404, none)
  | some resource =>
      if r.method ∉ resource.methods then (.notAllowed resource.methods, none)
      else match resource with
        | .remote => match Text.decode? r.body, Text.firstFault? 0 r.body with
          | some payload, _ =>
              let state := Remote.Suppression.ofPayload payload
              (.ofJson (RemoteReport.toJson ⟨state⟩), some payload)
          | none, some (position, length) => (.notText position length, none)
          | none, none => (.bare 400, none)
        | resource =>
            let shown := Response.ofJson (resource.view health)
            (if r.method = "HEAD" then shown.withoutBody else shown, none)

end BridgeWarden.Status
