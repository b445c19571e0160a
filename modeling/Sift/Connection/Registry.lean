import Sift.Connection.Config

/-!
# The connection registry

Connections by id, each with its view and its backend. Adding a connection replaces any with
the same id; listing gives the views sorted by id. Looking up or removing an unknown id fails
with `unknownConnection`.
-/

namespace Sift

/-- Registered connections with backends of type `β`. -/
structure Registry (β : Type) where
  /-- One entry per id. -/
  entries : List (ConnectionInfo × β) := []
  deriving Inhabited

namespace Registry

variable {β : Type}

/-- The registry with a connection added, replacing one with the same id. -/
def add (r : Registry β) (info : ConnectionInfo) (b : β) : Registry β :=
  { entries := (r.entries.filter (·.1.id != info.id)) ++ [(info, b)] }

/-- The backend of a connection. -/
def get (r : Registry β) (id : String) : Except EngineError β :=
  match r.entries.find? (·.1.id == id) with
  | some (_, b) => .ok b
  | none => .error (.unknownConnection id)

/-- The registry without a connection. -/
def remove (r : Registry β) (id : String) : Except EngineError (Registry β) :=
  if r.entries.any (·.1.id == id) then .ok { entries := r.entries.filter (·.1.id != id) }
  else .error (.unknownConnection id)

/-- The registry with the backend of a connection replaced, if it is registered. -/
def update (r : Registry β) (id : String) (b : β) : Registry β :=
  { entries := r.entries.map fun (i, old) => if i.id == id then (i, b) else (i, old) }

/-- The views of all connections, sorted by id. -/
def list (r : Registry β) : List ConnectionInfo :=
  (r.entries.map (·.1)).mergeSort fun a b => a.id ≤ b.id

/-- Builds an HTTP connection from settings and registers it, `wrap` making it a backend. -/
def register (r : Registry β) (c : ConnectionConfig) (defaultTimeout : Nat)
    (wrap : HttpTarget → β) : Except EngineError (ConnectionInfo × Registry β) := do
  let t ← HttpTarget.create c defaultTimeout
  let info := ConnectionInfo.ofConfig c
  return (info, r.add info (wrap t))

end Registry

end Sift
