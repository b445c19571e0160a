import Sift.Session.Run

/-!
# Interleaved session operations

The operations of a session run concurrently. Each takes the session's locks one at a time (the
cache, the most recent search, the analyzer, the history) and awaits the backend with no lock
held; a preload spawns a task that fetches its page later and then stores it. A `World` is a
session with the operations in flight, each at the step it takes next (a `Stage`). A step of the
world starts an operation, or lets any one operation in flight take its next step
(`World.Step`), so every interleaving of the operations' steps is a run of the world
(`World.Run`).

A search looks its key up in the cache (or skips the cache). On a hit it remembers the search as
the most recent one. Otherwise it sends the search to the backend, stores the result in the
cache when allowed, and then records it in the analyzer and the history and remembers it. A page
reads the most recent search and goes on as a search of its window. A preload reads the most
recent search, checks whether the cache holds the next page, and if not spawns a task that
fetches the page and stores it. A reset empties the cache and then forgets the most recent
search. Streams, aggregations and field lookups use nothing but the backend: one step each.

Recording takes three locks in turn (analyzer, history, most recent search) and is one step
here: no operation reads the analyzer or the history, so steps of others between the three
cannot be told from steps before or after them. Resolving a connection and sending the search
are one step too, as nothing writes the registry.
-/

namespace Sift

open Json Time

/-- A search served to its caller: its connection, the search, and the result. -/
structure Served where
  connection : String
  query : SearchQuery
  result : SearchResult

/-- Where an operation in flight stands: the step it takes next. -/
inductive Stage where
  /-- A search about to look its key up in the cache, or to skip the cache. -/
  | lookup (connection : String) (q : SearchQuery) (useCache : Bool)
  /-- A search served from the cache, about to be remembered. -/
  | hit (connection : String) (q : SearchQuery) (r : SearchResult)
  /-- A search about to be sent to its connection's backend. -/
  | send (connection : String) (q : SearchQuery) (useCache : Bool)
  /-- A search answered by the backend, about to store its result when allowed. -/
  | store (connection : String) (q : SearchQuery) (useCache : Bool) (r : SearchResult)
  /-- A search answered and stored, about to be recorded and remembered. -/
  | record (connection : String) (q : SearchQuery) (r : SearchResult)
  /-- A page of the most recent search, about to read it. -/
  | page (connection : String) (page : Nat) (pageSize : Option Nat)
  /-- A preload, about to read the most recent search. -/
  | preload (connection : String)
  /-- A preload of a page, about to check whether the cache holds it. -/
  | probe (connection : String) (q : SearchQuery)
  /-- A spawned prefetch task, about to fetch its page. -/
  | prefetch (connection : String) (q : SearchQuery)
  /-- A prefetch task holding its page's result, about to store it. -/
  | prefill (connection : String) (q : SearchQuery) (r : SearchResult)
  | stream (connection : String) (q : SearchQuery) (pageSize maxResults : Option Nat)
  | aggregate (connection index : String) (query : Option Json) (specs : List AggregationSpec)
      (size : Option Nat)
  | fields (connection index : String)
  /-- A reset, about to empty the cache. -/
  | clear
  /-- A reset with the cache emptied, about to forget the most recent search. -/
  | forget

/-- The first step of a call. -/
def SessionCall.begin : SessionCall → Stage
  | .execute c q useCache => .lookup c q useCache
  | .executeBuilder c b useCache => .lookup c b.toQuery useCache
  | .goToPage c page pageSize => .page c page pageSize
  | .preload c => .preload c
  | .stream c q pageSize maxResults => .stream c q pageSize maxResults
  | .aggregate c index query specs size => .aggregate c index query specs size
  | .fields c index => .fields c index
  | .reset => .clear

namespace Stage

variable {β : Type} [SearchBackend β]

/-- One step of an operation at time `now`, a search it records having taken `elapsed`
milliseconds: the session after it, what remains of the operation (with a task it spawns), and
the search served when the step ends a search with a result. A fault stops everything. -/
def step (s : Session β) (now : Instant) (elapsed : Nat) :
    Stage → Except Fault (Session β × List Stage × Option Served)
  | .lookup c q useCache =>
    match s.lookup (q.cacheKey c) useCache with
    | (some r, s) => .ok (s, [.hit c q r], none)
    | (none, s) => .ok (s, [.send c q useCache], none)
  | .hit c q r => .ok (s.remember c q r.total, [], some ⟨c, q, r⟩)
  | .send c q useCache =>
    match s.send c q with
    | (.ok r, s) => .ok (s, [.store c q useCache r], none)
    | (.error _, s) => .ok (s, [], none)
  | .store c q useCache r => .ok (s.store (q.cacheKey c) useCache r, [.record c q r], none)
  | .record c q r => (s.recordSearch c q r now elapsed).map fun s => (s, [], some ⟨c, q, r⟩)
  | .page c n pageSize =>
    match s.last with
    | none => .ok (s, [], none)
    | some last =>
      match last.pageWindow n pageSize with
      | .ok q => .ok (s, [.lookup c q true], none)
      | .error _ => .ok (s, [], none)
  | .preload c =>
    match s.last.bind LastSearch.next? with
    | some q => .ok (s, [.probe c q], none)
    | none => .ok (s, [], none)
  | .probe c q =>
    if s.cache.contains (q.cacheKey c) then .ok (s, [], none) else .ok (s, [.prefetch c q], none)
  | .prefetch c q =>
    match s.send c q with
    | (.ok r, s) => .ok (s, [.prefill c q r], none)
    | (.error _, s) => .ok (s, [], none)
  | .prefill c q r => .ok ({ s with cache := s.cache.insert (q.cacheKey c) r }, [], none)
  | .stream c q pageSize maxResults => .ok ((s.stream c q pageSize maxResults).2, [], none)
  | .aggregate c index query specs size => .ok ((s.aggregate c index query specs size).2, [], none)
  | .fields c index => .ok ((s.fields c index).2, [], none)
  | .clear => .ok ({ s with cache := s.cache.clear }, [.forget], none)
  | .forget => .ok ({ s with last := none }, [], none)

end Stage

/-- A session with the operations in flight on it. -/
structure World (β : Type) where
  session : Session β
  /-- Operations in flight, spawned prefetch tasks among them. -/
  tasks : List Stage := []

/-- What a step of the world shows: a call started, or a step taken by an operation in flight,
with the search it served if it served one. -/
inductive Event where
  | call (x : SessionCall)
  | step (served : Option Served)

namespace World

variable {β : Type} [SearchBackend β]

/-- A step of the world: a caller starts an operation, or any operation in flight takes its next
step, at any time. -/
inductive Step : World β → Event → World β → Prop
  | call (w : World β) (x : SessionCall) : Step w (.call x) { w with tasks := w.tasks ++ [x.begin] }
  | step (s : Session β) (pre post : List Stage) (st : Stage) (now : Instant) (elapsed : Nat)
      {s' : Session β} {rest : List Stage} {out : Option Served}
      (h : st.step s now elapsed = .ok (s', rest, out)) :
      Step ⟨s, pre ++ st :: post⟩ (.step out) ⟨s', pre ++ rest ++ post⟩

/-- A run of the world: its steps one after another, and what they showed. -/
inductive Run : World β → List Event → World β → Prop
  | refl (w : World β) : Run w [] w
  | tail {w₁ w₂ w₃ : World β} {evs : List Event} {e : Event} :
      Run w₁ evs w₂ → Step w₂ e w₃ → Run w₁ (evs ++ [e]) w₃

end World

end Sift
