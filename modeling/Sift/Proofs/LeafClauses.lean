import Sift.Filter.Clause

/-!
# Which conditions are left out, and what the others compile to

A condition is left out of a query (`Condition.clause?` gives nothing) exactly when one of four
things holds (`Condition.Omitted`): its field is empty; it has no operator, or one the compiler
does not know; its operator compares the field with a value and the value is missing (`null`,
`""` or `[]`, and nothing else: `false`, `0` and `{}` are values); or it is a `between` whose
value is not a pair.

Every other condition compiles to an object with one key, and the operator fixes the key
(`Operator.clauseName`): `equals` looks for a `match` on text fields and a `term` on all others.
The negated operators `not_equals`, `not_in` and `not_exists` give the clause of their positive
partner on the same condition wrapped in `{"bool":{"must_not":[…]}}`, and leave out exactly
the conditions their partner leaves out (`Condition.clause?_map_of_operator`).
-/

namespace Sift

open Json

/-- A value that counts as not given: `null`, the empty string or the empty list. -/
def Json.Missing (v : Json) : Prop := v = .null ∨ v = .str "" ∨ v = .arr []

theorem Json.isBlankValue_iff (v : Json) : v.isBlankValue = true ↔ v.Missing := by
  cases v <;> simp [isBlankValue, Missing, String.isEmpty_iff, List.isEmpty_iff]

namespace Operator

theorem ignoresValue_iff (op : Operator) : op.ignoresValue = true ↔ op = .present ∨ op = .absent := by
  cases op <;> simp [ignoresValue]

/-- The key of the clause an operator builds. `equals` matches text fields and looks up exact
terms in all others; a negated operator builds a `bool` clause; `unsupported` builds none. -/
def clauseName (op : Operator) (t : DataType) : Option String :=
  match op with
  | .equals => some (if t = .text then "match" else "term")
  | .notEquals | .noneOf | .absent => some "bool"
  | .contains | .endsWith => some "wildcard"
  | .startsWith => some "prefix"
  | .greaterThan | .greaterEqual | .lessThan | .lessEqual | .between => some "range"
  | .oneOf => some "terms"
  | .present => some "exists"
  | .regex => some "regexp"
  | .unsupported => none

variable {op : Operator} {field : String} {v : Json} {t : DataType}

/-- An operator builds nothing only when it is unknown, or a `between` not given a pair. -/
theorem clause?_eq_none_iff :
    op.clause? field v t = none ↔
      op = .unsupported ∨ (op = .between ∧ ∀ low high, v ≠ .arr [low, high]) := by
  cases op
  case between =>
    simp only [clause?]
    split <;> simp_all
  all_goals simp [clause?]

/-- What an operator builds is an object whose one key the operator names. -/
theorem clause?_keyed {cl : Json} (h : op.clause? field v t = some cl) :
    ∃ key body, op.clauseName t = some key ∧ cl = .obj [(key, body)] := by
  cases op
  case between =>
    simp only [clause?] at h
    split at h
    · cases h
      exact ⟨_, _, rfl, rfl⟩
    · cases h
  case unsupported => cases h
  all_goals
    simp only [clause?, Option.some.injEq] at h
    subst h
    by_cases ht : t = .text <;>
      simp [clauseName, ht, Clause.equality, Clause.negate, Clause.onField, Clause.range,
        Clause.terms, Clause.present]

end Operator

namespace Condition

/-- Why a condition is left out of a query. -/
def Omitted (c : Condition) : Prop :=
  c.field = "" ∨ c.operator = none ∨ c.operator = some .unsupported ∨
    (∃ op, c.operator = some op ∧ op ≠ .present ∧ op ≠ .absent ∧ c.value.Missing) ∨
    (c.operator = some .between ∧ ∀ low high, c.value ≠ .arr [low, high])

variable {c : Condition} {cl : Json}

/-- A condition is kept exactly when its field is named, its operator is known, its value is
given or not needed, and the operator builds a clause from it. -/
theorem clause?_eq_some_iff :
    c.clause? = some cl ↔ c.field ≠ "" ∧ ∃ op, c.operator = some op ∧
      (op.ignoresValue = true ∨ c.value.isBlankValue = false) ∧
        op.clause? c.field c.value c.dataType = some cl := by
  unfold clause?
  by_cases hfield : c.field = ""
  · simp [hfield]
  · rw [if_neg (by simpa [String.isEmpty_iff] using hfield)]
    cases hop : c.operator with
    | none => simp
    | some op =>
      by_cases hval : op.ignoresValue = true ∨ c.value.isBlankValue = false
      · have hkeep : (!op.ignoresValue && c.value.isBlankValue) = false := by
          cases hval <;> simp_all
        simp [hkeep, hfield, hval]
      · have hdrop : (!op.ignoresValue && c.value.isBlankValue) = true := by
          simp_all
        simp [hdrop, hval]

/-- Whether a condition is dropped for a missing value: its operator needs one and its value is
`null`, `""` or `[]`. -/
theorem lacksValue_iff (op : Operator) (v : Json) :
    (!op.ignoresValue && v.isBlankValue) = true ↔ op ≠ .present ∧ op ≠ .absent ∧ v.Missing := by
  rw [Bool.and_eq_true, Bool.not_eq_true', ← Json.isBlankValue_iff, ← Bool.not_eq_true,
    Operator.ignoresValue_iff, not_or, and_assoc]

/-- A condition is left out exactly for the reasons `Omitted` lists. -/
theorem clause?_eq_none_iff : c.clause? = none ↔ c.Omitted := by
  unfold clause? Omitted
  by_cases hfield : c.field = ""
  · simp [hfield]
  · rw [if_neg (by simpa [String.isEmpty_iff] using hfield)]
    cases hop : c.operator with
    | none => simp
    | some op =>
      simp only [hfield, reduceCtorEq, Option.some.injEq, exists_eq_left', false_or]
      by_cases hlacks : (!op.ignoresValue && c.value.isBlankValue) = true
      · -- dropped for its value, whatever the operator would build
        rw [if_pos hlacks]
        exact iff_of_true rfl (.inr (.inl ((lacksValue_iff op c.value).1 hlacks)))
      · rw [if_neg hlacks, Operator.clause?_eq_none_iff]
        rw [lacksValue_iff] at hlacks
        constructor
        · rintro (hunknown | hpair)
          · exact .inl hunknown
          · exact .inr (.inr hpair)
        · rintro (hunknown | hmissing | hpair)
          · exact .inl hunknown
          · exact absurd hmissing hlacks
          · exact .inr hpair

/-- A kept condition compiles to an object whose one key its operator names. -/
theorem clause?_keyed (h : c.clause? = some cl) :
    ∃ op key body, c.operator = some op ∧ op.clauseName c.dataType = some key ∧
      cl = .obj [(key, body)] := by
  obtain ⟨-, op, hop, -, hbuilt⟩ := clause?_eq_some_iff.1 h
  obtain ⟨key, body, hkey, rfl⟩ := Operator.clause?_keyed hbuilt
  exact ⟨op, key, body, hop, hkey, rfl⟩

/-- Two operators that need a value alike, and whose clauses correspond under `g` on every
field, value and data type, leave out the same conditions, and compile a kept one to clauses
that correspond under `g`. -/
theorem clause?_map_of_operator {op op' : Operator} {g : Json → Json}
    (hval : op.ignoresValue = op'.ignoresValue)
    (hbuild : ∀ field v t, op.clause? field v t = (op'.clause? field v t).map g) (c : Condition) :
    ({ c with operator := some op } : Condition).clause? =
      ({ c with operator := some op' } : Condition).clause?.map g := by
  unfold clause?
  dsimp only
  rw [hval]
  split
  · rfl
  · split
    · rfl
    · exact hbuild _ _ _

/-- A kept `equals` condition looks for a `match` on a text field and a `term` on any other. -/
theorem clause?_of_equals (hop : c.operator = some .equals) (hkept : ¬ c.Omitted) :
    c.clause? = some (.obj [(if c.dataType = .text then "match" else "term",
      .obj [(c.field, c.value)])]) := by
  obtain ⟨cl, hcl⟩ := Option.ne_none_iff_exists'.1 (mt clause?_eq_none_iff.1 hkept)
  obtain ⟨-, op, hop', -, hbuilt⟩ := clause?_eq_some_iff.1 hcl
  rw [hop, Option.some.injEq] at hop'
  subst hop'
  rw [hcl, ← hbuilt]
  simp only [Operator.clause?, Clause.equality, Clause.onField]
  split <;> rfl

end Condition

/-- Conditions are left out of a query exactly for the reasons `Condition.Omitted` lists. Every
other condition compiles to a clause with one key, fixed by its operator (for `equals`, by the
data type as well: `match` on text, `term` otherwise). The negated operators compile a condition
to the clause of their positive partner wrapped in `{"bool":{"must_not":[…]}}`, and leave out
the same conditions. -/
theorem Condition.clause?_omitted_or_keyed (c : Condition) :
    (c.clause? = none ↔ c.Omitted) ∧
    (¬ c.Omitted → ∃ op key body, c.operator = some op ∧ op.clauseName c.dataType = some key ∧
      c.clause? = some (.obj [(key, body)])) ∧
    ({ c with operator := some .notEquals } : Condition).clause? =
      ({ c with operator := some .equals } : Condition).clause?.map
        (fun p => Json.obj [("bool", .obj [("must_not", .arr [p])])]) ∧
    ({ c with operator := some .noneOf } : Condition).clause? =
      ({ c with operator := some .oneOf } : Condition).clause?.map
        (fun p => Json.obj [("bool", .obj [("must_not", .arr [p])])]) ∧
    ({ c with operator := some .absent } : Condition).clause? =
      ({ c with operator := some .present } : Condition).clause?.map
        (fun p => Json.obj [("bool", .obj [("must_not", .arr [p])])]) ∧
    (c.operator = some .equals → ¬ c.Omitted →
      c.clause? = some (.obj [(if c.dataType = .text then "match" else "term",
        .obj [(c.field, c.value)])])) := by
  refine ⟨clause?_eq_none_iff, fun hkept => ?_, ?_, ?_, ?_, clause?_of_equals⟩
  · obtain ⟨cl, hcl⟩ := Option.ne_none_iff_exists'.1 (mt clause?_eq_none_iff.1 hkept)
    obtain ⟨op, key, body, hop, hkey, rfl⟩ := clause?_keyed hcl
    exact ⟨op, key, body, hop, hkey, hcl⟩
  -- each negated operator needs a value exactly when its partner does, and wraps its clause
  all_goals refine clause?_map_of_operator ?_ (fun _ _ _ => ?_) c <;> rfl

/-- A title equal to `rust` on a text field is a `match` clause. -/
theorem Condition.clause?_equals_text :
    let c : Condition := { field := "title", operator := some .equals, value := .str "rust" }
    c.operator = some .equals ∧ ¬ c.Omitted ∧
      c.clause? = some (.obj [("match", .obj [("title", .str "rust")])]) := by
  intro c
  have hkept : ¬ c.Omitted := fun homitted => by
    have hnone := Condition.clause?_eq_none_iff.2 homitted
    cases hnone
  exact ⟨rfl, hkept, (Condition.clause?_omitted_or_keyed c).2.2.2.2.2 rfl hkept⟩

end Sift
