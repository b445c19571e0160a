import Sift.Json.Number

/-!
# JSON values

The dynamic values the engine passes around: query bodies, responses, parameters. An object is
a list of entries. A *value* in the engine's sense keeps its keys sorted (code point order, which
is the byte order of UTF-8) and unique; `Json.object` builds one from any entries, a later entry
winning over an earlier one with the same key. A document read from text keeps its entries as
written (`Json.normalize` then makes it a value), so that readers which care about the written
order and repeated keys can see them.
-/

namespace Sift

/-- A JSON document. -/
inductive Json where
  | null
  | bool (b : Bool)
  | num (n : Json.Number)
  | str (s : String)
  | arr (items : List Json)
  | obj (fields : List (String × Json))
  deriving Inhabited, Repr

namespace Json

mutual

/-- Structural equality of documents: same shape, same numbers, same keys in the same order. -/
def beq : Json → Json → Bool
  | .null, .null => true
  | .bool a, .bool b => a == b
  | .num a, .num b => a == b
  | .str a, .str b => a == b
  | .arr a, .arr b => beqItems a b
  | .obj a, .obj b => beqFields a b
  | _, _ => false

/-- Equality of item lists, item by item. -/
def beqItems : List Json → List Json → Bool
  | [], [] => true
  | x :: xs, y :: ys => beq x y && beqItems xs ys
  | _, _ => false

/-- Equality of entry lists, key and value entry by entry. -/
def beqFields : List (String × Json) → List (String × Json) → Bool
  | [], [] => true
  | (k, x) :: xs, (l, y) :: ys => k == l && beq x y && beqFields xs ys
  | _, _ => false

end

instance : BEq Json := ⟨beq⟩

/-- A number from a natural: exact below `2^64`. -/
def nat (n : Nat) : Json := .num (Number.ofNat n)

/-- A number from an integer of the 64-bit range. -/
def int (i : Int) : Json := .num (.int i)

/-- A number from a double. -/
def float (f : Float) : Json := .num (Number.ofFloat f)

/-- Inserts an entry into entries sorted by key, replacing an entry with the same key. -/
def insertSorted (k : String) (v : Json) : List (String × Json) → List (String × Json)
  | [] => [(k, v)]
  | (k', v') :: rest =>
    if k = k' then (k, v) :: rest
    else if k < k' then (k, v) :: (k', v') :: rest
    else (k', v') :: insertSorted k v rest

/-- Entries sorted by key with unique keys, a later entry winning over an earlier one. -/
def sortFields (fields : List (String × Json)) : List (String × Json) :=
  fields.foldl (fun acc (k, v) => insertSorted k v acc) []

/-- An object value built from entries in any order. -/
def object (fields : List (String × Json)) : Json :=
  .obj (sortFields fields)

mutual

/-- The value a document denotes: every object's keys sorted and made unique, the last
occurrence of a key winning. -/
def normalize : Json → Json
  | .arr items => .arr (normalizeItems items)
  | .obj fields => .obj (sortFields (normalizeFields fields))
  | j => j

/-- Normalizes each item. -/
def normalizeItems : List Json → List Json
  | [] => []
  | x :: xs => normalize x :: normalizeItems xs

/-- Normalizes each entry's value, keeping keys and order. -/
def normalizeFields : List (String × Json) → List (String × Json)
  | [] => []
  | (k, x) :: xs => (k, normalize x) :: normalizeFields xs

end

mutual

/-- Equality of values as the engine compares them: numbers by `Number.sameAs` (so `0.0` and
`-0.0` agree), everything else structurally. -/
def sameAs : Json → Json → Bool
  | .null, .null => true
  | .bool a, .bool b => a == b
  | .num a, .num b => a.sameAs b
  | .str a, .str b => a == b
  | .arr a, .arr b => sameItems a b
  | .obj a, .obj b => sameFields a b
  | _, _ => false

/-- `sameAs` item by item. -/
def sameItems : List Json → List Json → Bool
  | [], [] => true
  | x :: xs, y :: ys => sameAs x y && sameItems xs ys
  | _, _ => false

/-- `sameAs` entry by entry. -/
def sameFields : List (String × Json) → List (String × Json) → Bool
  | [], [] => true
  | (k, x) :: xs, (l, y) :: ys => k == l && sameAs x y && sameFields xs ys
  | _, _ => false

end

mutual

/-- The nesting depth of a document: a scalar has depth `0`, an array or object one more than
its deepest member (`1` when empty). -/
def depth : Json → Nat
  | .arr items => depthItems items + 1
  | .obj fields => depthFields fields + 1
  | _ => 0

/-- The greatest depth among items. -/
def depthItems : List Json → Nat
  | [] => 0
  | x :: xs => max (depth x) (depthItems xs)

/-- The greatest depth among entry values. -/
def depthFields : List (String × Json) → Nat
  | [] => 0
  | (_, x) :: xs => max (depth x) (depthFields xs)

end

/-- The value of a key of an object (the first entry with that key); nothing for other values. -/
def get? (j : Json) (key : String) : Option Json :=
  match j with
  | .obj fields => (fields.find? (·.1 == key)).map (·.2)
  | _ => none

/-- Whether an object has a key. -/
def hasKey (j : Json) (key : String) : Bool :=
  (j.get? key).isSome

/-- The value at a path of keys, through nested objects. -/
def getPath? (j : Json) : List String → Option Json
  | [] => some j
  | k :: ks => (j.get? k).bind (·.getPath? ks)

/-- The unsigned 64-bit integer a value holds, if it is one. -/
def asU64? : Json → Option Nat
  | .num n => n.toU64?
  | _ => none

/-- The boolean a value holds, if it is one. -/
def asBool? : Json → Option Bool
  | .bool b => some b
  | _ => none

/-- The items of an array. -/
def asArray? : Json → Option (List Json)
  | .arr items => some items
  | _ => none

/-- The text of a string value. -/
def asString? : Json → Option String
  | .str s => some s
  | _ => none

/-- An object with `v` set at key `k`, in sorted position; other values are left alone. -/
def set (j : Json) (k : String) (v : Json) : Json :=
  match j with
  | .obj fields => .obj (insertSorted k v fields)
  | _ => j

/-- The entries of an object (none for other values). -/
def fields : Json → List (String × Json)
  | .obj fs => fs
  | _ => []

/-- `{"match_all": {}}`, the query that matches every document. -/
def matchAll : Json := .obj [("match_all", .obj [])]

end Json

end Sift
