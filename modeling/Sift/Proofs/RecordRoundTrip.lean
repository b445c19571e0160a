import Mathlib
import Sift.History.Basic
import Sift.Aggregation.Basic
import Sift.Proofs.JsonValues
import Sift.Proofs.CacheKey
import Sift.Proofs.TimestampText

/-!
# Records read back from their values

A record becomes a JSON value as a map: its JSON form (`toJson`, fields in declaration order)
with every object's keys sorted (`Json.normalize`). Reading that value with the record's decoder
gives the record back (`decode_normalize_toJson`), for every condition, filter tree, sort spec,
aggregation tree, search query and history item that the engine can hold: JSON values with
sorted keys, integers below `2^64` and instants the timestamp format holds. Aliases, defaults
and catch-all names only matter for other documents: the written value uses each field's own
key, an absent sort or name is the default, and the catch-all names `unsupported` and `other` are
names of their own.

Each record's value is computed once as a sorted object (`normalize_toJson`); its decoder then
reads the entries in key order. The trees are read through a depth bound, which the depth of
their own value always meets.
-/

namespace Sift

open Json

/-! ## Objects with sorted keys -/

theorem insertSorted_cons_lt {k k' : String} (h : k < k') (v v' : Json)
    (rest : List (String × Json)) :
    insertSorted k v ((k', v') :: rest) = (k, v) :: (k', v') :: rest := by
  rw [insertSorted, if_neg (ne_of_lt h), if_pos h]

theorem insertSorted_cons_gt {k k' : String} (h : k' < k) (v v' : Json)
    (rest : List (String × Json)) :
    insertSorted k v ((k', v') :: rest) = (k', v') :: insertSorted k v rest := by
  rw [insertSorted, if_neg (ne_of_gt h), if_neg (not_lt.2 h.le)]

theorem insertSorted_nil (k : String) (v : Json) : insertSorted k v [] = [(k, v)] := rfl

@[simp] theorem normalize_str (s : String) : Json.normalize (.str s) = .str s := rfl

@[simp] theorem normalize_null : Json.normalize .null = .null := rfl

@[simp] theorem normalize_nat (n : Nat) : Json.normalize (Json.nat n) = Json.nat n := rfl

theorem normalize_arr (items : List Json) :
    Json.normalize (.arr items) = .arr (items.map Json.normalize) := by
  rw [Json.normalize, normalizeItems_eq_map]

theorem depth_le_depthItems {x : Json} {xs : List Json} (h : x ∈ xs) :
    x.depth ≤ depthItems xs := by
  induction xs with
  | nil => cases h
  | cons y ys ih =>
    rw [depthItems]
    rcases List.mem_cons.1 h with rfl | h
    · exact le_max_left _ _
    · exact le_trans (ih h) (le_max_right _ _)

/-! ## Decoders of fields -/

namespace Decode

variable {α : Type}

@[simp] theorem string_str (s : String) : string (.str s) = .ok s := rfl

theorem value_of_isValue {j : Json} (h : j.IsValue) : value j = .ok j := by
  rw [value, normalize_of_isValue h]

@[simp] theorem option_null (d : Decoder α) : option d .null = .ok none := rfl

@[simp] theorem option_string_str (s : String) : option string (.str s) = .ok (some s) := rfl

theorem option_of_ok {d : Decoder α} {j : Json} {a : α} (hj : j ≠ .null) (h : d j = .ok a) :
    option d j = .ok (some a) := by
  unfold option
  split
  · exact absurd rfl hj
  · rw [h]
    rfl

/-- A natural held as an integer reads back as an unsigned integer. (A natural below `2^64` is
held so, by `Json.nat_of_lt`; the proofs rewrite with that first, since the kernel would
otherwise compare the natural with `2^64` one unit at a time.) -/
theorem unsigned_natCast (what : String) (n : Nat) :
    unsigned what (.num (.int (n : Int))) = .ok n := by
  rw [unsigned, if_pos (Int.natCast_nonneg n), Int.toNat_natCast]

theorem list_go_map {d : Decoder α} {enc : α → Json} (xs : List α)
    (h : ∀ x ∈ xs, d (enc x) = .ok x) (i : Nat) : list.go d i (xs.map enc) = .ok xs := by
  induction xs generalizing i with
  | nil => rfl
  | cons x xs ih =>
    have hx : inside i d (enc x) = .ok x := by
      simp [inside, h x (by simp), Except.mapError]
    simp [list.go, hx, ih (fun y hy => h y (by simp [hy])) (i + 1), bind, Except.bind, pure,
      Except.pure]

/-- Items that each read back make an array that reads back. -/
theorem list_map {d : Decoder α} {enc : α → Json} {xs : List α}
    (h : ∀ x ∈ xs, d (enc x) = .ok x) : list d (.arr (xs.map enc)) = .ok xs :=
  list_go_map xs h 0

theorem object_of_isValue {fields : List (String × Json)} (h : (Json.obj fields).IsValue) :
    object (.obj fields) = .ok (.obj fields) := by
  rw [object, normalize_of_isValue h]

/-- A name that the choice picks reads as its choice. -/
theorem variant_str {names : List String} {fallback : Option α} {pick : String → Option α}
    {s : String} {v : α} (h : pick s = some v) : variant names fallback pick (.str s) = .ok v := by
  simp [variant, h]

end Decode

/-! ## Names of choices -/

theorem Operator.decode_name (o : Operator) : Operator.decode (.str o.name) = .ok o :=
  Decode.variant_str (by cases o <;> rfl)

theorem DataType.decode_name (t : DataType) : DataType.decode (.str t.name) = .ok t :=
  Decode.variant_str (by cases t <;> rfl)

theorem Occur.decode_name (o : Occur) : Occur.decode (.str o.name) = .ok o :=
  Decode.variant_str (by cases o <;> rfl)

theorem SortOrder.decode_name (o : SortOrder) : SortOrder.decode (.str o.name) = .ok o :=
  Decode.variant_str (by cases o <;> rfl)

/-! ## Conditions and sort specs -/

/-- A condition's value: its entries in key order. -/
theorem Condition.normalize_toJson (c : Condition) (h : c.value.IsValue) :
    Json.normalize c.toJson = .obj [("data_type", .str c.dataType.name), ("field", .str c.field),
      ("id", .str c.id),
      ("operator", match c.operator with | some o => .str o.name | none => .null),
      ("value", c.value)] := by
  rw [Condition.toJson, Json.normalize]
  cases c.operator <;>
  simp (disch := decide) only [normalizeFields, normalize_str, normalize_null, sortFields,
    List.foldl, insertSorted_nil, insertSorted_cons_lt, insertSorted_cons_gt,
    normalize_of_isValue h]

theorem Condition.decode_normalize_toJson (c : Condition) (h : c.value.IsValue) :
    Condition.decode (Json.normalize c.toJson) = .ok c := by
  rw [Condition.normalize_toJson c h]
  cases ho : c.operator with
  | none =>
    simp [Condition.decode, Shape.read, Shape.read.walk, Shape.fieldOf, Condition.shape,
      List.findIdx?_cons, DataType.decode_name, Decode.value_of_isValue h, bind, Except.bind, pure,
      Except.pure]
    rw [← ho]
  | some o =>
    simp [Condition.decode, Shape.read, Shape.read.walk, Shape.fieldOf, Condition.shape,
      List.findIdx?_cons, DataType.decode_name, Decode.value_of_isValue h,
      Decode.option_of_ok (by simp) (Operator.decode_name o), bind, Except.bind, pure, Except.pure]
    rw [← ho]

/-- A sort spec's value: its field and its order. -/
theorem SortSpec.normalize_toJson (s : SortSpec) :
    Json.normalize s.toJson = .obj [("field", .str s.field), ("order", .str s.order.name)] := by
  rw [SortSpec.toJson, Json.normalize]
  simp (disch := decide) only [normalizeFields, normalize_str, sortFields, List.foldl,
    insertSorted_nil, insertSorted_cons_gt]

theorem SortSpec.decode_normalize_toJson (s : SortSpec) :
    SortSpec.decode (Json.normalize s.toJson) = .ok s := by
  rw [SortSpec.normalize_toJson]
  simp [SortSpec.decode, Shape.read, Shape.read.walk, Shape.fieldOf, SortSpec.shape,
    List.findIdx?_cons, SortOrder.decode_name, bind, Except.bind, pure, Except.pure]

/-! ## Filter trees -/

/-- A filter tree the engine can hold: the value of every condition, at every level, is a JSON
value. -/
inductive Group.Valid : Group → Prop
  | mk {id : String} {occur : Occur} {conditions : List Condition} {groups : List Group} :
      (∀ c ∈ conditions, c.value.IsValue) → (∀ g ∈ groups, Group.Valid g) →
      Group.Valid ⟨id, occur, conditions, groups⟩

theorem Group.toJsonList_eq_map (gs : List Group) : Group.toJsonList gs = gs.map Group.toJson := by
  induction gs with
  | nil => rfl
  | cons g gs ih => rw [Group.toJsonList, ih, List.map_cons]

/-- A group's value: its conditions' values, its nested groups' values, its id and its
occurrence's name. -/
theorem Group.normalize_toJson (g : Group) :
    Json.normalize g.toJson =
      .obj [("conditions", .arr (g.conditions.map fun c => Json.normalize c.toJson)),
        ("groups", .arr (g.groups.map fun s => Json.normalize s.toJson)), ("id", .str g.id),
        ("operator", .str g.occur.name)] := by
  obtain ⟨id, occur, conditions, groups⟩ := g
  rw [Group.toJson, Json.normalize]
  simp (disch := decide) only [normalizeFields, normalize_str, normalize_arr,
    Group.toJsonList_eq_map, sortFields, List.foldl, insertSorted_nil, insertSorted_cons_lt,
    insertSorted_cons_gt, List.map_map, Function.comp_def]

/-- A nested group's value lies two levels below its parent's: in the array under `groups`. -/
theorem Group.depth_lt_of_mem {g s : Group} (hs : s ∈ g.groups) :
    (Json.normalize s.toJson).depth + 2 ≤ (Json.normalize g.toJson).depth := by
  have hitem := depth_le_depthItems (List.mem_map_of_mem (f := fun s => Json.normalize s.toJson) hs)
  rw [Group.normalize_toJson g]
  simp only [depth, depthFields] at hitem ⊢
  omega

/-- A group reads back from its value with any depth bound above the value's depth. -/
theorem Group.decodeWithin_normalize_toJson {g : Group} (hg : g.Valid) :
    ∀ fuel, (Json.normalize g.toJson).depth < fuel →
      Group.decodeWithin fuel (Json.normalize g.toJson) = .ok g := by
  induction hg with
  | @mk id occur conditions groups hconds _ ih =>
    intro fuel hfuel
    obtain _ | fuel := fuel
    · omega
    -- each nested group's value is two levels shallower, so one level less of bound suffices
    have hsub : ∀ s ∈ groups, Group.decodeWithin fuel (Json.normalize s.toJson) = .ok s :=
      fun s hs => ih s hs fuel (by
        have := Group.depth_lt_of_mem (g := ⟨id, occur, conditions, groups⟩) hs
        omega)
    rw [Group.normalize_toJson]
    simp [Group.decodeWithin, Shape.read, Shape.read.walk, Shape.fieldOf, Group.shape,
      List.findIdx?_cons, Occur.decode_name,
      Decode.list_map fun c hc => Condition.decode_normalize_toJson c (hconds c hc),
      Decode.list_map hsub, bind, Except.bind, pure, Except.pure]

theorem Group.decode_normalize_toJson {g : Group} (hg : g.Valid) :
    Group.decode (Json.normalize g.toJson) = .ok g :=
  Group.decodeWithin_normalize_toJson hg _ (Nat.lt_succ_self _)

/-! ## Aggregation trees -/

/-- An aggregation tree the engine can hold: the parameters of every spec, at every level, form
a JSON object value. -/
inductive AggregationSpec.Valid : AggregationSpec → Prop
  | mk {id name kind field : String} {params : List (String × Json)}
      {subAggregations : List AggregationSpec} :
      (Json.obj params).IsValue → (∀ s ∈ subAggregations, AggregationSpec.Valid s) →
      AggregationSpec.Valid ⟨id, name, kind, field, params, subAggregations⟩

theorem AggregationSpec.toJsonList_eq_map (ss : List AggregationSpec) :
    AggregationSpec.toJsonList ss = ss.map AggregationSpec.toJson := by
  induction ss with
  | nil => rfl
  | cons s ss ih => rw [AggregationSpec.toJsonList, ih, List.map_cons]

/-- A spec's value: its field, id and name, its parameters, its nested specs' values and its
kind under `type`. -/
theorem AggregationSpec.normalize_toJson (a : AggregationSpec) (hp : (Json.obj a.params).IsValue) :
    Json.normalize a.toJson =
      .obj [("field", .str a.field), ("id", .str a.id), ("name", .str a.name),
        ("params", .obj a.params),
        ("sub_aggregations", .arr (a.subAggregations.map fun s => Json.normalize s.toJson)),
        ("type", .str a.kind)] := by
  obtain ⟨id, name, kind, field, params, subAggregations⟩ := a
  rw [AggregationSpec.toJson, Json.normalize]
  simp (disch := decide) only [normalizeFields, normalize_str, normalize_arr,
    normalize_of_isValue hp, AggregationSpec.toJsonList_eq_map, sortFields, List.foldl,
    insertSorted_nil, insertSorted_cons_lt, insertSorted_cons_gt, List.map_map,
    Function.comp_def]

theorem AggregationSpec.depth_lt_of_mem {a s : AggregationSpec} (hp : (Json.obj a.params).IsValue)
    (hs : s ∈ a.subAggregations) :
    (Json.normalize s.toJson).depth + 2 ≤ (Json.normalize a.toJson).depth := by
  have hitem :=
    depth_le_depthItems (List.mem_map_of_mem (f := fun s => Json.normalize s.toJson) hs)
  rw [AggregationSpec.normalize_toJson a hp]
  simp only [depth, depthFields] at hitem ⊢
  omega

theorem AggregationSpec.decodeWithin_normalize_toJson {a : AggregationSpec} (ha : a.Valid) :
    ∀ fuel, (Json.normalize a.toJson).depth < fuel →
      AggregationSpec.decodeWithin fuel (Json.normalize a.toJson) = .ok a := by
  induction ha with
  | @mk id name kind field params subAggregations hp _ ih =>
    intro fuel hfuel
    obtain _ | fuel := fuel
    · omega
    have hsub : ∀ s ∈ subAggregations,
        AggregationSpec.decodeWithin fuel (Json.normalize s.toJson) = .ok s :=
      fun s hs => ih s hs fuel (by
        have := AggregationSpec.depth_lt_of_mem
          (a := ⟨id, name, kind, field, params, subAggregations⟩) hp hs
        omega)
    rw [AggregationSpec.normalize_toJson _ hp]
    simp [AggregationSpec.decodeWithin, Shape.read, Shape.read.walk, Shape.fieldOf,
      AggregationSpec.shape, List.findIdx?_cons, Decode.object_of_isValue hp, Json.fields,
      Decode.list_map hsub, bind, Except.bind, pure, Except.pure]

theorem AggregationSpec.decode_normalize_toJson {a : AggregationSpec} (ha : a.Valid) :
    AggregationSpec.decode (Json.normalize a.toJson) = .ok a :=
  AggregationSpec.decodeWithin_normalize_toJson ha _ (Nat.lt_succ_self _)

/-! ## Search queries and history items -/

theorem map_normalize_of_isValue {xs : List Json} (h : ∀ x ∈ xs, x.IsValue) :
    xs.map Json.normalize = xs := by
  conv_rhs => rw [← List.map_id xs]
  exact List.map_congr_left fun x hx => normalize_of_isValue (h x hx)

theorem Decode.list_value {xs : List Json} (h : ∀ x ∈ xs, x.IsValue) :
    Decode.list Decode.value (.arr xs) = .ok xs := by
  have hmap : Decode.list Decode.value (.arr (xs.map id)) = .ok xs :=
    Decode.list_map fun x hx => Decode.value_of_isValue (h x hx)
  rwa [List.map_id] at hmap

/-- A search query the engine can hold: a start and a size of 64 bits, and JSON values as query
and sort. -/
structure SearchQuery.Valid (q : SearchQuery) : Prop where
  from_lt : q.from < 2 ^ 64
  size_lt : q.size < 2 ^ 64
  query_isValue : q.query.IsValue
  sort_isValue : ∀ s ∈ q.sort, ∀ x ∈ s, x.IsValue

/-- A search query's value: start, index, query and size, then the sort if there is one. -/
theorem SearchQuery.normalize_toJson {q : SearchQuery} (hq : q.Valid) :
    Json.normalize q.toJson =
      .obj ([("from", Json.nat q.from), ("index", .str q.index), ("query", q.query),
        ("size", Json.nat q.size)] ++
        match q.sort with | some s => [("sort", .arr s)] | none => []) := by
  rw [SearchQuery.toJson, Json.normalize]
  cases hs : q.sort with
  | none =>
    simp (disch := decide) only [List.append_nil, normalizeFields, normalize_str, normalize_nat,
      normalize_of_isValue hq.query_isValue, sortFields, List.foldl, insertSorted_nil,
      insertSorted_cons_lt, insertSorted_cons_gt]
  | some s =>
    have hsort := map_normalize_of_isValue (hq.sort_isValue s (by simp [hs]))
    simp (disch := decide) only [List.cons_append, List.nil_append, normalizeFields, normalize_str,
      normalize_nat, normalize_arr, hsort, normalize_of_isValue hq.query_isValue, sortFields,
      List.foldl, insertSorted_nil, insertSorted_cons_lt, insertSorted_cons_gt]

theorem SearchQuery.decode_normalize_toJson {q : SearchQuery} (hq : q.Valid) :
    SearchQuery.decode (Json.normalize q.toJson) = .ok q := by
  rw [SearchQuery.normalize_toJson hq, Json.nat_of_lt hq.from_lt, Json.nat_of_lt hq.size_lt]
  cases hs : q.sort with
  | none =>
    simp [SearchQuery.decode, Shape.read, Shape.read.walk, Shape.fieldOf, SearchQuery.shape,
      List.findIdx?_cons, Decode.usize, Decode.unsigned_natCast,
      Decode.value_of_isValue hq.query_isValue, bind, Except.bind, pure, Except.pure]
    rw [← hs]
  | some s =>
    have hsort := Decode.list_value (hq.sort_isValue s (by simp [hs]))
    simp [SearchQuery.decode, Shape.read, Shape.read.walk, Shape.fieldOf, SearchQuery.shape,
      List.findIdx?_cons, Decode.usize, Decode.unsigned_natCast,
      Decode.value_of_isValue hq.query_isValue, Decode.option_of_ok (by simp) hsort, bind,
      Except.bind, pure, Except.pure]
    rw [← hs]

/-- An optional count below `2^64`, written as a number or `null`, reads back. (The bound is an
arrow, so that the `match` is the one the writer builds and not one over the bound too.) -/
theorem Decode.option_u64 (o : Option Nat) : (∀ n ∈ o, n < 2 ^ 64) →
    Decode.option Decode.u64 (match o with | some n => Json.nat n | none => .null) = .ok o := by
  intro h
  cases o with
  | none => rfl
  | some n =>
    dsimp only
    rw [Json.nat_of_lt (h n rfl)]
    exact Decode.option_of_ok (by simp) (Decode.unsigned_natCast _ n)

/-- A history item the engine can hold: a search query it can hold, an instant the timestamp
format holds, and counts of 64 bits. -/
structure HistoryItem.Valid (h : HistoryItem) : Prop where
  query_valid : h.query.Valid
  timestamp_valid : h.timestamp.Valid
  executionTime_lt : ∀ n ∈ h.executionTime, n < 2 ^ 64
  resultCount_lt : ∀ n ∈ h.resultCount, n < 2 ^ 64

/-- A history item's value: its entries in key order, the name only when there is one. -/
theorem HistoryItem.normalize_toJson (h : HistoryItem) :
    Json.normalize h.toJson = .obj ([("connection_id", .str h.connectionId),
      ("execution_time_ms", match h.executionTime with | some n => Json.nat n | none => .null),
      ("id", .str h.id)] ++ (match h.name with | some n => [("name", .str n)] | none => []) ++
      [("query", Json.normalize h.query.toJson),
        ("result_count", match h.resultCount with | some n => Json.nat n | none => .null),
        ("timestamp", .str h.timestamp.render)]) := by
  rw [HistoryItem.toJson, Json.normalize]
  cases h.name <;> cases h.executionTime <;> cases h.resultCount <;>
  simp (disch := decide) only [List.cons_append, List.nil_append, normalizeFields, normalize_str,
    normalize_nat, normalize_null, sortFields, List.foldl, insertSorted_nil, insertSorted_cons_lt,
    insertSorted_cons_gt]

theorem HistoryItem.decode_normalize_toJson {h : HistoryItem} (hh : h.Valid) :
    HistoryItem.decode (Json.normalize h.toJson) = .ok h := by
  rw [HistoryItem.normalize_toJson]
  cases hn : h.name <;>
  simp [HistoryItem.decode, Shape.read, Shape.read.walk, Shape.fieldOf, HistoryItem.shape,
    List.findIdx?_cons, Decode.option_u64 _ hh.executionTime_lt,
    Decode.option_u64 _ hh.resultCount_lt,
    SearchQuery.decode_normalize_toJson hh.query_valid, Decode.instant_render hh.timestamp_valid,
    bind, Except.bind, pure, Except.pure] <;>
  rw [← hn]

/-! ## Every record reads back -/

/-- Decoding undoes encoding: every condition, filter tree, sort spec, aggregation tree, search
query and history item the engine can hold reads back from its JSON value. -/
theorem records_read_back :
    (∀ c : Condition, c.value.IsValue → Condition.decode (Json.normalize c.toJson) = .ok c) ∧
    (∀ g : Group, g.Valid → Group.decode (Json.normalize g.toJson) = .ok g) ∧
    (∀ s : SortSpec, SortSpec.decode (Json.normalize s.toJson) = .ok s) ∧
    (∀ a : AggregationSpec, a.Valid →
      AggregationSpec.decode (Json.normalize a.toJson) = .ok a) ∧
    (∀ q : SearchQuery, q.Valid → SearchQuery.decode (Json.normalize q.toJson) = .ok q) ∧
    (∀ h : HistoryItem, h.Valid → HistoryItem.decode (Json.normalize h.toJson) = .ok h) :=
  ⟨Condition.decode_normalize_toJson, fun _ => Group.decode_normalize_toJson,
    SortSpec.decode_normalize_toJson, fun _ => AggregationSpec.decode_normalize_toJson,
    fun _ => SearchQuery.decode_normalize_toJson, fun _ => HistoryItem.decode_normalize_toJson⟩

/-- The catch-all operator and data type, a nested group, an aggregation with parameters, a query
of `null` without sort and a timestamp with nanoseconds all read back. -/
theorem records_read_back_samples :
    (Json.IsValue .null ∧
      Condition.decode (Json.normalize (Condition.toJson
        { operator := some .unsupported, dataType := .other })) =
        .ok { operator := some .unsupported, dataType := .other }) ∧
    (Group.Valid ⟨"g", .should, [{ operator := some .unsupported, dataType := .other }],
        [{ occur := .filter }]⟩ ∧
      Group.decode (Json.normalize (Group.toJson ⟨"g", .should,
        [{ operator := some .unsupported, dataType := .other }], [{ occur := .filter }]⟩)) =
        .ok ⟨"g", .should, [{ operator := some .unsupported, dataType := .other }],
          [{ occur := .filter }]⟩) ∧
    (AggregationSpec.Valid ⟨"a", "hosts", "terms", "host", [("size", Json.nat 5)], []⟩ ∧
      AggregationSpec.decode (Json.normalize (AggregationSpec.toJson
        ⟨"a", "hosts", "terms", "host", [("size", Json.nat 5)], []⟩)) =
        .ok ⟨"a", "hosts", "terms", "host", [("size", Json.nat 5)], []⟩) ∧
    (SearchQuery.Valid { index := "logs", query := .null } ∧
      SearchQuery.decode (Json.normalize (SearchQuery.toJson { index := "logs", query := .null })) =
        .ok { index := "logs", query := .null }) ∧
    (HistoryItem.Valid ⟨"h", none, { index := "logs", query := .null }, "c",
        ⟨1700000000, 123456789⟩, some 12, none⟩ ∧
      HistoryItem.decode (Json.normalize (HistoryItem.toJson ⟨"h", none,
        { index := "logs", query := .null }, "c", ⟨1700000000, 123456789⟩, some 12, none⟩)) =
        .ok ⟨"h", none, { index := "logs", query := .null }, "c", ⟨1700000000, 123456789⟩,
          some 12, none⟩) := by
  have hgroup : Group.Valid ⟨"g", .should,
      [{ operator := some .unsupported, dataType := .other }], [{ occur := .filter }]⟩ :=
    .mk (by simp) (by simpa using Group.Valid.mk (by simp) (by simp))
  have haggregation :
      AggregationSpec.Valid ⟨"a", "hosts", "terms", "host", [("size", Json.nat 5)], []⟩ :=
    .mk (by simp [Json.nat_of_lt (show 5 < 2 ^ 64 by norm_num), IsValue.num]) (by simp)
  have hquery : SearchQuery.Valid { index := "logs", query := .null } :=
    ⟨by norm_num, by norm_num, .null, by simp⟩
  have hinstant : Time.Instant.Valid ⟨1700000000, 123456789⟩ :=
    ⟨by decide, Or.inl (by norm_num)⟩
  have hitem : HistoryItem.Valid ⟨"h", none, { index := "logs", query := .null }, "c",
      ⟨1700000000, 123456789⟩, some 12, none⟩ :=
    ⟨hquery, hinstant, by simp, by simp⟩
  exact ⟨⟨.null, records_read_back.1 _ .null⟩, ⟨hgroup, records_read_back.2.1 _ hgroup⟩,
    ⟨haggregation, records_read_back.2.2.2.1 _ haggregation⟩,
    ⟨hquery, records_read_back.2.2.2.2.1 _ hquery⟩,
    ⟨hitem, records_read_back.2.2.2.2.2 _ hitem⟩⟩

end Sift
