import Sift.Connection.Url
import Sift.Engine.Error
import Sift.Decode.Basic

/-!
# Connection settings

How to reach a cluster over HTTP: a base URL, optional credentials and headers, a timeout and
whether to accept invalid certificates. A connection can be built from settings only if the URL
parses and can serve as a base (`HttpTarget.create`). What is shown of a connection
(`ConnectionInfo`) never carries credentials: only whether a user name is set.
-/

namespace Sift

open Json

/-- How to reach a cluster. -/
structure ConnectionConfig where
  id : String := ""
  name : String := ""
  url : String := ""
  username : Option String := none
  password : Option String := none
  headers : List (String × String) := []
  /-- When unset, the engine's request timeout applies. -/
  timeoutSecs : Option Nat := none
  acceptInvalidCerts : Bool := false
  deriving Inhabited, Repr

namespace ConnectionConfig

/-- Settings as JSON, without the password. -/
def toJson (c : ConnectionConfig) : Json :=
  .obj [("id", .str c.id), ("name", .str c.name), ("url", .str c.url),
    ("username", match c.username with | some u => .str u | none => .null),
    ("headers", Json.object (c.headers.map fun (k, v) => (k, .str v))),
    ("timeout_secs", match c.timeoutSecs with | some t => Json.nat t | none => .null),
    ("accept_invalid_certs", .bool c.acceptInvalidCerts)]

/-- The keys of settings; `id` and `url` are required. -/
def shape : Shape :=
  { name := "ConnectionConfig",
    fields := [["id"], ["name"], ["url"], ["username"], ["password"], ["headers"],
      ["timeout_secs"], ["accept_invalid_certs"]] }

/-- Reads settings. -/
def decode : Decoder ConnectionConfig :=
  shape.read [0, 2] ({} : ConnectionConfig) fun c f v =>
    match f with
    | 0 => return { c with id := ← Decode.string v }
    | 1 => return { c with name := ← Decode.string v }
    | 2 => return { c with url := ← Decode.string v }
    | 3 => return { c with username := ← Decode.option Decode.string v }
    | 4 => return { c with password := ← Decode.option Decode.string v }
    | 5 => return { c with headers := ← Decode.stringMap v }
    | 6 => return { c with timeoutSecs := ← Decode.option Decode.u64 v }
    | _ => return { c with acceptInvalidCerts := ← Decode.bool v }

end ConnectionConfig

/-- What is shown of a connection. -/
structure ConnectionInfo where
  id : String
  name : String
  url : String
  authenticated : Bool
  deriving Inhabited, Repr

namespace ConnectionInfo

/-- The view of settings: the name falls back to the id when empty. -/
def ofConfig (c : ConnectionConfig) : ConnectionInfo :=
  { id := c.id, name := if c.name.isEmpty then c.id else c.name, url := c.url,
    authenticated := c.username.isSome }

/-- A view as JSON. -/
def toJson (i : ConnectionInfo) : Json :=
  .obj [("id", .str i.id), ("name", .str i.name), ("url", .str i.url),
    ("authenticated", .bool i.authenticated)]

end ConnectionInfo

/-- A cluster reachable over HTTP: checked settings and the timeout in force. -/
structure HttpTarget where
  config : ConnectionConfig
  timeoutSecs : Nat
  deriving Inhabited, Repr

/-- Builds an HTTP connection: the URL must parse and be able to serve as a base; the timeout
is the connection's own or else `defaultTimeout`. -/
def HttpTarget.create (c : ConnectionConfig) (defaultTimeout : Nat) :
    Except EngineError HttpTarget :=
  match Url.check c.url with
  | .error e => .error (.invalidUrl (c.url ++ ": " ++ e.message))
  | .ok .pathOnly => .error (.invalidUrl c.url)
  | .ok .hierarchical => .ok ⟨c, c.timeoutSecs.getD defaultTimeout⟩

end Sift
