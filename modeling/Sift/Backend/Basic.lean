import Sift.Engine.Error

/-!
# Backends and the requests sent to them

A search backend answers two kinds of request: a search of an index with a request body, and
the mapping of an index. An `Exchange` is a computation that talks to a backend: it records
every request it sends, in order, whatever the backend answers, and it stops at the first
failure.
-/

namespace Sift

open Json

/-- What a request asks for. -/
inductive RequestKind where
  | search
  | mapping
  deriving DecidableEq, Repr

/-- The name of a kind of request. -/
def RequestKind.name : RequestKind → String
  | .search => "search"
  | .mapping => "mapping"

/-- A request sent to a backend; a mapping request has no body (`null`). -/
structure Request where
  kind : RequestKind
  index : String
  body : Json
  deriving Repr

/-- A request as JSON. -/
def Request.toJson (r : Request) : Json :=
  .obj [("kind", .str r.kind.name), ("index", .str r.index), ("body", r.body)]

/-- A search cluster: it answers a search of an index with a body, and the mapping of an
index, with a response document or a failure. -/
class SearchBackend (β : Type) where
  search : β → String → Json → Except EngineError Json
  mapping : β → String → Except EngineError Json

/-- A computation against a backend that records the requests it sends. -/
abbrev Exchange := ExceptT EngineError (StateM (List Request))

namespace Exchange

/-- The outcome of an exchange and the requests it sent, in order. -/
def run (x : Exchange α) : Except EngineError α × List Request := (ExceptT.run x).run []

/-- Fails with an engine error. -/
def fail (e : EngineError) : Exchange α := throw e

/-- The answer of a backend, or its failure. -/
def answer : Except EngineError α → Exchange α
  | .ok v => pure v
  | .error e => throw e

end Exchange

variable {β : Type} [SearchBackend β]

/-- Sends a search and records it. -/
def sendSearch (b : β) (index : String) (body : Json) : Exchange Json := do
  modify (· ++ [⟨.search, index, body⟩])
  Exchange.answer (SearchBackend.search b index body)

/-- Asks for a mapping and records the request. -/
def sendMapping (b : β) (index : String) : Exchange Json := do
  modify (· ++ [⟨.mapping, index, .null⟩])
  Exchange.answer (SearchBackend.mapping b index)

end Sift
