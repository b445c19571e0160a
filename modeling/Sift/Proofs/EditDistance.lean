import Mathlib
import Sift.Dsl.Similarity

/-!
# Edit distance and similarity

`Text.editDistance` fills the table of distances between prefixes row by row. Here it is shown
to be the Levenshtein distance `Text.levenshtein`, given by the textbook recursion on first
characters, and the metric facts that `Text.similarity` relies on are proved of that recursion:

* the distance is symmetric (`levenshtein_comm`);
* it is at most the longer length (`levenshtein_le_max`), so `n - d` in `similarity` never
  truncates;
* it is zero exactly between equal texts (`levenshtein_eq_zero_iff`).

The table's rows extend prefixes of the first text at their end, while the textbook recursion
takes characters off the front; the two meet in `levenshtein_append_singleton`, the recursion on
last characters, proved by induction over both prefixes.

`exactSimilarity` is `similarity` computed in exact rational arithmetic, `(n - d) / n` for the
longer length `n` and the distance `d`. It lies in `[0, 1]`, is `1` exactly between equal texts,
and, like `similarity` itself, does not depend on the order of its arguments.
-/

namespace Sift.Text

/-! ## The Levenshtein distance -/

/-- The Levenshtein distance between two character lists: the fewest insertions, deletions and
substitutions of single characters that turn one into the other. -/
def levenshtein : List Char → List Char → Nat
  | [], b => b.length
  | a, [] => a.length
  | x :: a, y :: b =>
    min (min (levenshtein a (y :: b) + 1) (levenshtein (x :: a) b + 1))
      (levenshtein a b + if x = y then 0 else 1)
termination_by a b => a.length + b.length

@[simp] theorem levenshtein_nil_left (b : List Char) : levenshtein [] b = b.length := by
  rw [levenshtein]

@[simp] theorem levenshtein_nil_right (a : List Char) : levenshtein a [] = a.length := by
  cases a <;> simp [levenshtein]

theorem levenshtein_cons_cons (x y : Char) (a b : List Char) :
    levenshtein (x :: a) (y :: b) =
      min (min (levenshtein a (y :: b) + 1) (levenshtein (x :: a) b + 1))
        (levenshtein a b + if x = y then 0 else 1) := by
  rw [levenshtein]

theorem levenshtein_comm (a b : List Char) : levenshtein a b = levenshtein b a := by
  fun_induction levenshtein a b with
  | case1 b => simp
  | case2 a _ => simp
  | case3 x a y b ih₁ ih₂ ih₃ =>
    rw [levenshtein_cons_cons y x b a, ih₁, ih₂, ih₃]
    -- the substitution costs agree, and the two single-character edits trade places
    have hcost : (if x = y then 0 else 1) = (if y = x then 0 else 1) := by
      simp only [eq_comm]
    rw [hcost]
    omega

theorem levenshtein_le_max (a b : List Char) : levenshtein a b ≤ max a.length b.length := by
  fun_induction levenshtein a b with
  | case1 b => simp
  | case2 a _ => simp
  | case3 x a y b _ _ ih =>
    have hsub : levenshtein a b + (if x = y then 0 else 1) ≤ levenshtein a b + 1 := by
      split <;> omega
    simp only [List.length_cons]
    omega

theorem levenshtein_self (a : List Char) : levenshtein a a = 0 := by
  induction a with
  | nil => simp
  | cons x a ih =>
    rw [levenshtein_cons_cons, ih]
    simp

theorem levenshtein_eq_zero_iff {a b : List Char} : levenshtein a b = 0 ↔ a = b := by
  refine ⟨fun h => ?_, fun h => h ▸ levenshtein_self a⟩
  fun_induction levenshtein a b with
  | case1 b => simpa [eq_comm] using h
  | case2 a _ => simpa using h
  | case3 x a y b _ _ ih =>
    -- only a free substitution of the first characters can leave nothing to pay
    have hxy : x = y := by
      by_contra hne
      simp only [hne, if_false] at h
      omega
    subst hxy
    simp only [if_true, Nat.add_zero] at h
    have hab : levenshtein a b = 0 := by omega
    rw [ih hab]

/-! ## The recursion on last characters -/

/-- The Levenshtein distance also follows its recursion on last characters: the table's rule. -/
theorem levenshtein_append_singleton (x y : Char) (a b : List Char) :
    levenshtein (a ++ [x]) (b ++ [y]) =
      min (min (levenshtein a (b ++ [y]) + 1) (levenshtein (a ++ [x]) b + 1))
        (levenshtein a b + if x = y then 0 else 1) := by
  induction a generalizing b with
  | nil =>
    induction b with
    | nil => simp [levenshtein_cons_cons]
    | cons d b ih =>
      simp only [List.nil_append, List.cons_append] at ih ⊢
      rw [levenshtein_cons_cons x d [] (b ++ [y]), ih, levenshtein_cons_cons x d [] b]
      simp only [levenshtein_nil_left, List.length_cons, List.length_append, List.length_nil]
      generalize (if x = y then 0 else 1) = s
      generalize (if x = d then 0 else 1) = t
      -- with the additions pushed into the minima, both sides are minima of the same terms
      simp only [← min_add_add_right, Nat.add_assoc]
      ac_rfl
  | cons c a iha =>
    induction b with
    | nil =>
      have h₀ := iha []
      simp only [List.nil_append, List.cons_append] at h₀ ⊢
      rw [levenshtein_cons_cons c y (a ++ [x]) [], h₀, levenshtein_cons_cons c y a []]
      simp only [levenshtein_nil_right, List.length_cons, List.length_append, List.length_nil]
      generalize (if x = y then 0 else 1) = s
      generalize (if c = y then 0 else 1) = t
      simp only [← min_add_add_right, Nat.add_assoc]
      ac_rfl
    | cons d b ihb =>
      have h₁ := iha (d :: b)
      have h₂ := iha b
      simp only [List.cons_append] at h₁ ihb ⊢
      -- both sides unfold to the minimum of the same nine ways to end the two edits
      rw [levenshtein_cons_cons c d (a ++ [x]) (b ++ [y]), h₁, ihb, h₂,
        levenshtein_cons_cons c d a (b ++ [y]), levenshtein_cons_cons c d (a ++ [x]) b,
        levenshtein_cons_cons c d a b]
      generalize (if x = y then 0 else 1) = s
      generalize (if c = d then 0 else 1) = t
      simp only [← min_add_add_right, Nat.add_assoc]
      ac_rfl

/-! ## The table computes the distance -/

theorem inits_map_length (b : List Char) : b.inits.map List.length = List.range (b.length + 1) := by
  induction b with
  | nil => rfl
  | cons c b ih =>
    rw [List.inits_cons, List.map_cons, List.map_map, List.length_cons, List.range_succ_eq_map,
      ← ih, List.map_map]
    rfl

theorem getLast?_inits (b : List Char) : b.inits.getLast? = some b := by
  induction b with
  | nil => rfl
  | cons c b ih =>
    rw [List.inits_cons, List.getLast?_cons, List.getLast?_map, ih]
    rfl

theorem inits_eq_nil_cons (b : List Char) : ∃ t, b.inits = [] :: t := by
  cases b with
  | nil => exact ⟨[], rfl⟩
  | cons c b => exact ⟨_, List.inits_cons c b⟩

/-- One row of the table, from column `pre` on: if the previous row holds the distances from `p`
to `pre` extended by each prefix of `bs`, the new row holds those from `p` extended by `x`. -/
theorem nextRow_inits (x : Char) (p pre bs : List Char) :
    nextRow x bs (bs.inits.map fun s => levenshtein p (pre ++ s)) (levenshtein (p ++ [x]) pre) =
      bs.inits.map fun s => levenshtein (p ++ [x]) (pre ++ s) := by
  induction bs generalizing pre with
  | nil => simp [nextRow]
  | cons c bs ih =>
    obtain ⟨t, ht⟩ := inits_eq_nil_cons bs
    have hrest := ih (pre ++ [c])
    rw [ht] at hrest
    rw [List.inits_cons, ht]
    simp only [List.map_cons, List.map_map, List.append_nil, Function.comp_def,
      List.append_assoc, List.singleton_append] at hrest ⊢
    rw [nextRow, ← levenshtein_append_singleton, hrest]

/-- The row for the prefix `done.reverse` holds its distances to every prefix of `b`. -/
theorem distanceRow_eq (b done : List Char) :
    distanceRow b done = b.inits.map (levenshtein done.reverse) := by
  induction done with
  | nil =>
    rw [distanceRow, List.reverse_nil, show levenshtein [] = List.length from
      funext levenshtein_nil_left, inits_map_length]
  | cons x done ih =>
    obtain ⟨t, ht⟩ := inits_eq_nil_cons b
    have hhead : ((distanceRow b done).head?.getD 0) + 1 = levenshtein (done.reverse ++ [x]) [] := by
      simp [ih, ht]
    have hrow := nextRow_inits x done.reverse [] b
    simp only [List.nil_append] at hrow
    rw [distanceRow, hhead, ih, hrow, List.reverse_cons]

/-- The table computes the Levenshtein distance. -/
theorem editDistance_eq_levenshtein (a b : List Char) : editDistance a b = levenshtein a b := by
  rw [editDistance, distanceRow_eq, List.reverse_reverse, List.getLast?_map, getLast?_inits]
  rfl

example : editDistance "kitten".toList "sitting".toList = 3 := by decide

/-! ## Similarity -/

/-- `similarity` in exact rational arithmetic: `(n - d) / n` for the longer length `n` and the
distance `d`, and `1` for equal texts. -/
def exactSimilarity (a b : String) : ℚ :=
  if a = b then 1
  else
    let n := max a.length b.length
    if n = 0 then 1 else ((n - editDistance a.toList b.toList : ℕ) : ℚ) / n

theorem editDistance_comm (a b : List Char) : editDistance a b = editDistance b a := by
  rw [editDistance_eq_levenshtein, editDistance_eq_levenshtein, levenshtein_comm]

theorem editDistance_le_max (a b : String) :
    editDistance a.toList b.toList ≤ max a.length b.length := by
  rw [editDistance_eq_levenshtein, ← String.length_toList, ← String.length_toList]
  exact levenshtein_le_max _ _

theorem editDistance_eq_zero_iff {a b : String} : editDistance a.toList b.toList = 0 ↔ a = b := by
  rw [editDistance_eq_levenshtein, levenshtein_eq_zero_iff, String.toList_inj]

theorem similarity_comm (a b : String) : similarity a b = similarity b a := by
  have hbeq : (a == b) = (b == a) := by
    by_cases h : a = b <;> simp [h, eq_comm]
  simp only [similarity, hbeq, max_comm a.length b.length, editDistance_comm a.toList]

theorem exactSimilarity_comm (a b : String) : exactSimilarity a b = exactSimilarity b a := by
  simp only [exactSimilarity, eq_comm (a := a), max_comm a.length b.length,
    editDistance_comm a.toList]

/-- Between different texts the exact similarity is a fraction below `1`. -/
theorem exactSimilarity_of_ne {a b : String} (h : a ≠ b) :
    0 ≤ exactSimilarity a b ∧ exactSimilarity a b < 1 := by
  have hn : 0 < max a.length b.length := by
    by_contra h0
    have ha : a.length = 0 := by omega
    have hb : b.length = 0 := by omega
    exact h (by rw [String.length_eq_zero_iff.1 ha, String.length_eq_zero_iff.1 hb])
  have hd : 0 < editDistance a.toList b.toList :=
    Nat.pos_of_ne_zero fun h0 => h (editDistance_eq_zero_iff.1 h0)
  simp only [exactSimilarity, h, hn.ne', if_false]
  refine ⟨by positivity, ?_⟩
  rw [div_lt_one (by exact_mod_cast hn)]
  exact_mod_cast Nat.sub_lt hn hd

/-- The similarity of texts is built on the Levenshtein distance, is symmetric, and read exactly
it is a number in `[0, 1]` that is `1` exactly between equal texts; the distance never exceeds the
longer length, so the subtraction in `similarity` never truncates. The same holds of the
similarity of JSON values, through their compact texts. -/
theorem similarity_symmetric_normalized :
    (∀ a b : String,
      editDistance a.toList b.toList = levenshtein a.toList b.toList ∧
      editDistance a.toList b.toList ≤ max a.length b.length ∧
      similarity a b = similarity b a ∧
      0 ≤ exactSimilarity a b ∧ exactSimilarity a b ≤ 1 ∧
      (exactSimilarity a b = 1 ↔ a = b)) ∧
    (∀ x y : Json,
      querySimilarity x y = querySimilarity y x ∧
      (exactSimilarity x.compact y.compact = 1 ↔ x.compact = y.compact)) := by
  have hunit : ∀ a b : String, 0 ≤ exactSimilarity a b ∧ exactSimilarity a b ≤ 1 ∧
      (exactSimilarity a b = 1 ↔ a = b) := by
    intro a b
    by_cases h : a = b
    · simp [exactSimilarity, h]
    · obtain ⟨h0, h1⟩ := exactSimilarity_of_ne h
      exact ⟨h0, h1.le, iff_of_false h1.ne h⟩
  refine ⟨fun a b => ⟨editDistance_eq_levenshtein _ _, editDistance_le_max a b, similarity_comm a b,
    hunit a b⟩,
    fun x y => ⟨similarity_comm _ _, (hunit _ _).2.2⟩⟩

end Sift.Text
