import Mathlib
import Sift.Proofs.LeafClauses

/-!
# Lists of terms written as text

An `in` or `not_in` condition takes its terms as a list, or as one string that lists them
between commas. The string is split at every comma, each part is trimmed of blanks (the Unicode
`White_Space` characters) and the empty parts are dropped (`Text.commaTerms`).

Written with any blanks around its commas, a list of plain terms (not empty, no comma, no blank
at either end) reads back as exactly those terms (`Text.commaTerms_joinTerms`), so a condition
compiles the same from the string as from the list; in particular the terms read from any string,
joined by bare commas, read back as themselves.

The check for a missing value looks at the value as given, before it is split: a string made of
commas and blanks only, such as `","` or `" , "`, is a value, and yields no terms at all
(`Text.commaTerms_eq_nil_iff`).
-/

namespace Sift.Text

/-! ## Trimming -/

/-- Trimming drops the blanks at the front, then those at the back. -/
theorem trimBlanks_toList (s : String) :
    (trimBlanks s).toList = (s.toList.dropWhile isBlank).rdropWhile isBlank := by
  simp [trimBlanks, List.rdropWhile]

/-- Blanks around a text do not change how it trims. -/
theorem trimBlanks_pad {a b : List Char} (ha : ∀ ch ∈ a, isBlank ch = true)
    (hb : ∀ ch ∈ b, isBlank ch = true) (x : List Char) :
    trimBlanks (String.ofList (a ++ x ++ b)) = trimBlanks (String.ofList x) := by
  rw [← String.toList_inj, trimBlanks_toList, trimBlanks_toList, String.toList_ofList,
    String.toList_ofList, List.append_assoc, List.dropWhile_append_of_pos ha, List.dropWhile_append]
  split
  · rename_i hnone
    rw [List.dropWhile_eq_nil_iff.2 hb, List.isEmpty_iff.1 hnone]
  · -- the back blanks go with the trailing ones of `x`
    simp only [List.rdropWhile, List.reverse_append]
    rw [List.dropWhile_append_of_pos (by simpa using hb)]

/-- A text trims to nothing exactly when it is all blanks. -/
theorem trimBlanks_eq_empty_iff (x : List Char) :
    trimBlanks (String.ofList x) = "" ↔ ∀ ch ∈ x, isBlank ch = true := by
  rw [← String.toList_inj, trimBlanks_toList, String.toList_ofList, String.toList_empty,
    List.rdropWhile_eq_nil_iff]
  constructor
  · -- what trimming the front leaves starts with a non-blank, so it must be empty
    intro hall
    rw [← List.dropWhile_eq_nil_iff]
    cases hdrop : x.dropWhile isBlank with
    | nil => rfl
    | cons hd tl =>
      have hhead := List.head_dropWhile_not isBlank (l := x) (by simp [hdrop])
      simp only [hdrop, List.head_cons] at hhead
      rw [hdrop] at hall
      exact absurd (hall hd List.mem_cons_self) (by simp [hhead])
  · intro hblank ch hch
    exact hblank ch ((List.dropWhile_sublist _).subset hch)

/-- Trimming twice trims no more. -/
theorem trimBlanks_trimBlanks (s : String) : trimBlanks (trimBlanks s) = trimBlanks s := by
  rw [← String.toList_inj, trimBlanks_toList, trimBlanks_toList]
  -- what is left after the front is trimmed starts with a non-blank, and so does its prefix
  have hfront : ((s.toList.dropWhile isBlank).rdropWhile isBlank).dropWhile isBlank =
      (s.toList.dropWhile isBlank).rdropWhile isBlank := by
    cases hkept : (s.toList.dropWhile isBlank).rdropWhile isBlank with
    | nil => rfl
    | cons hd tl =>
      obtain ⟨rest, hrest⟩ := hkept ▸ List.rdropWhile_prefix isBlank (s.toList.dropWhile isBlank)
      have hhead := List.head_dropWhile_not isBlank (l := s.toList) (by simp [← hrest])
      simp only [← hrest, List.cons_append, List.head_cons] at hhead
      exact List.dropWhile_cons_of_neg (by simpa using hhead)
  rw [hfront, List.rdropWhile_idempotent]

/-! ## Splitting at commas -/

/-- A property holds of every character of every part a list is split into at `a` exactly when
every character of the list is `a` or has it. -/
theorem forall_mem_splitOn {a : Char} {p : Char → Prop} :
    ∀ l : List Char, (∀ part ∈ l.splitOn a, ∀ ch ∈ part, p ch) ↔ ∀ ch ∈ l, ch = a ∨ p ch
  | [] => by simp [List.splitOn_nil]
  | x :: xs => by
    rw [List.splitOn_cons_eq_if_modifyHead]
    have ih := forall_mem_splitOn (a := a) (p := p) xs
    split
    · -- a separator: it starts a new, empty part
      rename_i hx
      rw [beq_iff_eq] at hx
      simp [ih, hx]
    · -- any other character joins the first part
      rename_i hx
      rw [beq_iff_eq] at hx
      obtain ⟨hd, tl, hsplit⟩ := List.exists_cons_of_ne_nil (List.splitOn_ne_nil a xs)
      rw [hsplit] at ih ⊢
      simp only [List.modifyHead_cons, List.forall_mem_cons] at ih ⊢
      rw [← ih]
      simp [hx, and_assoc]

/-- The parts a list is split into at a comma hold no comma. -/
theorem comma_not_mem_of_mem_splitOn {l part : List Char} (h : part ∈ l.splitOn ',') :
    ',' ∉ part := by
  have hparts := (forall_mem_splitOn (p := (· ≠ ',')) l).2 fun ch _ => eq_or_ne ch ','
  exact fun hmem => hparts part h ',' hmem rfl

/-- A blank is never a comma. -/
theorem comma_not_mem_of_blank {l : List Char} (h : ∀ ch ∈ l, isBlank ch = true) : ',' ∉ l :=
  fun hmem => absurd (h ',' hmem) (by decide)

/-- The terms of a list written as text: its parts between commas, trimmed, the empty ones
dropped. -/
theorem commaTerms_eq (s : String) :
    commaTerms s =
      ((s.toList.splitOn ',').map fun part => trimBlanks (String.ofList part)).filter
        (!·.isEmpty) := rfl

/-- A text lists no terms exactly when it is made of commas and blanks only. -/
theorem commaTerms_eq_nil_iff (s : String) :
    commaTerms s = [] ↔ ∀ ch ∈ s.toList, ch = ',' ∨ isBlank ch = true := by
  rw [commaTerms_eq, List.filter_eq_nil_iff, ← forall_mem_splitOn]
  simp only [List.mem_map, forall_exists_index, and_imp, forall_apply_eq_imp_iff₂,
    Bool.not_eq_true', Bool.not_eq_false, String.isEmpty_iff, trimBlanks_eq_empty_iff]

/-! ## Plain terms and their written lists -/

/-- A term as a written list can hold it: not empty, without commas, and with no blank at
either end. -/
def PlainTerm (x : String) : Prop := x ≠ "" ∧ ',' ∉ x.toList ∧ trimBlanks x = x

instance decidablePlainTerm : DecidablePred PlainTerm :=
  fun x => inferInstanceAs (Decidable (x ≠ "" ∧ ',' ∉ x.toList ∧ trimBlanks x = x))

/-- A separator in a written list of terms: one comma, with blanks on either side. -/
structure CommaSep where
  before : String
  after : String
  before_blank : ∀ ch ∈ before.toList, isBlank ch = true
  after_blank : ∀ ch ∈ after.toList, isBlank ch = true

/-- The text of a separator. -/
def CommaSep.text (sep : CommaSep) : String := sep.before ++ "," ++ sep.after

/-- A comma with no blanks around it. -/
def CommaSep.bare : CommaSep := ⟨"", "", by simp, by simp⟩

/-- Terms written one after another, each after the first preceded by its separator. -/
def joinTerms : String → List (CommaSep × String) → String
  | x, [] => x
  | x, (sep, y) :: rest => x ++ sep.text ++ joinTerms y rest

/-- The parts of a written list of plain terms, after any blanks before the first, trim to its
terms. -/
theorem splitOn_joinTerms {lead : List Char} (hlead : ∀ ch ∈ lead, isBlank ch = true)
    {x : String} (hx : PlainTerm x) {rest : List (CommaSep × String)}
    (hrest : ∀ e ∈ rest, PlainTerm e.2) :
    ((lead ++ (joinTerms x rest).toList).splitOn ',').map
        (fun part => trimBlanks (String.ofList part)) = x :: rest.map Prod.snd := by
  induction rest generalizing lead x with
  | nil =>
    -- a last term: one part, the term with blanks before it
    have hfree : ',' ∉ lead ++ x.toList := by
      rw [List.mem_append, not_or]
      exact ⟨comma_not_mem_of_blank hlead, hx.2.1⟩
    have htrim := trimBlanks_pad hlead (b := []) (by simp) x.toList
    rw [List.append_nil] at htrim
    rw [joinTerms, List.splitOn_eq_singleton hfree, List.map_singleton, htrim,
      String.ofList_toList, hx.2.2, List.map_nil]
  | cons e rest ih =>
    -- the first part ends at the separator's comma; the rest starts with its blanks
    obtain ⟨sep, y⟩ := e
    have hchars : lead ++ (joinTerms x ((sep, y) :: rest)).toList =
        (lead ++ x.toList ++ sep.before.toList) ++
          ',' :: (sep.after.toList ++ (joinTerms y rest).toList) := by
      simp [joinTerms, CommaSep.text, String.toList_append]
    have hfree : ',' ∉ lead ++ x.toList ++ sep.before.toList := by
      simp only [List.mem_append, not_or]
      exact ⟨⟨comma_not_mem_of_blank hlead, hx.2.1⟩, comma_not_mem_of_blank sep.before_blank⟩
    rw [hchars, List.splitOn_append_cons_self_of_not_mem hfree, List.map_cons,
      trimBlanks_pad hlead sep.before_blank, String.ofList_toList, hx.2.2,
      ih sep.after_blank (hrest _ List.mem_cons_self)
        (fun e he => hrest e (List.mem_cons_of_mem _ he))]
    rfl

/-- A list of plain terms, written with any blanks around its commas, reads back as its terms. -/
theorem commaTerms_joinTerms {x : String} (hx : PlainTerm x) {rest : List (CommaSep × String)}
    (hrest : ∀ e ∈ rest, PlainTerm e.2) :
    commaTerms (joinTerms x rest) = x :: rest.map Prod.snd := by
  have hsplit := splitOn_joinTerms (List.forall_mem_nil _) hx hrest
  rw [List.nil_append] at hsplit
  rw [commaTerms_eq, hsplit, List.filter_eq_self]
  -- plain terms are not empty, so none is dropped
  intro t ht
  rcases List.mem_cons.1 ht with rfl | ht
  · simpa [String.isEmpty_iff] using hx.1
  · obtain ⟨e, he, rfl⟩ := List.mem_map.1 ht
    simpa [String.isEmpty_iff] using (hrest e he).1

/-- A written list starts with its first term. -/
theorem joinTerms_toList_prefix (x : String) (rest : List (CommaSep × String)) :
    x.toList <+: (joinTerms x rest).toList := by
  cases rest with
  | nil => exact List.prefix_refl _
  | cons e rest => simp [joinTerms, String.toList_append]

/-- A written list of plain terms is not empty. -/
theorem joinTerms_ne_empty {x : String} (hx : PlainTerm x) (rest : List (CommaSep × String)) :
    joinTerms x rest ≠ "" := by
  intro hempty
  have hpre := joinTerms_toList_prefix x rest
  rw [hempty, String.toList_empty, List.prefix_nil] at hpre
  exact hx.1 (String.toList_eq_nil_iff.1 hpre)

/-- The terms read from a text are plain. -/
theorem plainTerm_of_mem_commaTerms {s t : String} (h : t ∈ commaTerms s) : PlainTerm t := by
  rw [commaTerms_eq, List.mem_filter, List.mem_map] at h
  obtain ⟨⟨part, hpart, rfl⟩, hne⟩ := h
  refine ⟨by simpa [String.isEmpty_iff] using hne, fun hmem => ?_, trimBlanks_trimBlanks _⟩
  -- trimming keeps a piece of the part, and the part holds no comma
  rw [trimBlanks_toList, String.toList_ofList] at hmem
  exact comma_not_mem_of_mem_splitOn hpart
    ((List.dropWhile_sublist _).subset ((List.rdropWhile_prefix _ _).subset hmem))

/-- Terms joined by bare commas are a written list. -/
theorem intercalate_eq_joinTerms (t : String) (ts : List String) :
    ",".intercalate (t :: ts) = joinTerms t (ts.map (CommaSep.bare, ·)) := by
  induction ts generalizing t with
  | nil => simp [joinTerms]
  | cons u ts ih =>
    rw [String.intercalate_cons_cons, ih]
    simp [joinTerms, CommaSep.text, CommaSep.bare, String.append_assoc]

/-- The terms read from any text, joined by commas, read back as themselves. -/
theorem commaTerms_intercalate_commaTerms (s : String) :
    commaTerms (",".intercalate (commaTerms s)) = commaTerms s := by
  cases hterms : commaTerms s with
  | nil => rfl
  | cons t ts =>
    have hplain : ∀ u ∈ t :: ts, PlainTerm u :=
      fun u hu => plainTerm_of_mem_commaTerms (hterms ▸ hu)
    rw [intercalate_eq_joinTerms, commaTerms_joinTerms (hplain t List.mem_cons_self)]
    · simp
    · intro e he
      obtain ⟨u, hu, rfl⟩ := List.mem_map.1 he
      exact hplain u (List.mem_cons_of_mem _ hu)

end Sift.Text

namespace Sift

open Text

/-! ## The terms of a condition -/

/-- A value that is given lists no terms exactly when it is a string of commas and blanks. -/
theorem Json.termList_eq_nil_iff {v : Json} (hgiven : v.isBlankValue = false) :
    v.termList = [] ↔
      ∃ s, v = .str s ∧ s ≠ "" ∧ ∀ ch ∈ s.toList, ch = ',' ∨ isBlank ch = true := by
  cases v with
  | str s =>
    have hne : s ≠ "" := by simpa [Json.isBlankValue, String.isEmpty_iff] using hgiven
    simp [Json.termList, commaTerms_eq_nil_iff, hne]
  | arr items =>
    have hne : items ≠ [] := by simpa [Json.isBlankValue, List.isEmpty_iff] using hgiven
    simp [Json.termList, hne]
  | _ => simp [Json.termList]

namespace Condition

/-- Under `in` or `not_in`, a condition's clause depends on its value only through whether the
value is missing and through the terms it lists. -/
theorem clause?_terms_congr {op : Operator} (hop : op = .oneOf ∨ op = .noneOf) (c : Condition)
    {v w : Json} (hblank : v.isBlankValue = w.isBlankValue) (hterms : v.termList = w.termList) :
    ({ c with operator := some op, value := v } : Condition).clause? =
      ({ c with operator := some op, value := w } : Condition).clause? := by
  rcases hop with rfl | rfl <;>
    simp only [clause?, Operator.clause?, Clause.terms, hblank, hterms]

/-- A list of plain terms reads the same whether it is given as a list or written as text with
any blanks around its commas: the text lists exactly these terms, and `in` and `not_in` compile
the two values to the same clause, or leave both out. The terms read from any text, joined by
bare commas, read back as themselves. -/
theorem clause?_written_terms_eq_list (c : Condition) {x : String} (hx : PlainTerm x)
    {rest : List (CommaSep × String)} (hrest : ∀ e ∈ rest, PlainTerm e.2) :
    Json.termList (.str (joinTerms x rest)) = (x :: rest.map Prod.snd).map .str ∧
    ({ c with operator := some .oneOf, value := .str (joinTerms x rest) } : Condition).clause? =
      ({ c with operator := some .oneOf, value := .arr ((x :: rest.map Prod.snd).map .str) } :
        Condition).clause? ∧
    ({ c with operator := some .noneOf, value := .str (joinTerms x rest) } : Condition).clause? =
      ({ c with operator := some .noneOf, value := .arr ((x :: rest.map Prod.snd).map .str) } :
        Condition).clause? ∧
    ∀ s : String, Json.termList (.str (",".intercalate (commaTerms s))) = Json.termList (.str s) := by
  have hterms : Json.termList (.str (joinTerms x rest)) = (x :: rest.map Prod.snd).map .str := by
    rw [Json.termList, commaTerms_joinTerms hx hrest]
  have hgiven : (Json.str (joinTerms x rest)).isBlankValue = false := by
    simp [Json.isBlankValue, joinTerms_ne_empty hx rest]
  refine ⟨hterms, clause?_terms_congr (.inl rfl) c (by rw [hgiven]; rfl) hterms,
    clause?_terms_congr (.inr rfl) c (by rw [hgiven]; rfl) hterms, fun s => ?_⟩
  rw [Json.termList, Json.termList, commaTerms_intercalate_commaTerms]

/-- The tags `a`, `b` and `c`, written with a blank after the first comma, compile under `in` as
the list of the three. -/
theorem clause?_written_tags :
    let a : CommaSep := ⟨"", " ", by simp, by simp [isBlank]⟩
    PlainTerm "a" ∧ (∀ e ∈ [(a, "b"), (CommaSep.bare, "c")], PlainTerm e.2) ∧
      joinTerms "a" [(a, "b"), (CommaSep.bare, "c")] = "a, b,c" ∧
      ({ field := "tag", operator := some .oneOf, value := .str "a, b,c" } : Condition).clause? =
        ({ field := "tag", operator := some .oneOf,
           value := .arr [.str "a", .str "b", .str "c"] } : Condition).clause? := by
  intro a
  have ha : PlainTerm "a" := by decide
  have hrest : ∀ e ∈ [(a, "b"), (CommaSep.bare, "c")], PlainTerm e.2 := by decide
  exact ⟨ha, hrest, by decide,
    (clause?_written_terms_eq_list { field := "tag" } ha hrest).2.1⟩

/-- A kept `in` or `not_in` condition compiles to a `terms` clause (under `not_in`, wrapped in
`{"bool":{"must_not":[…]}}`), and its list of terms is empty exactly when the value is a string,
not empty, made of commas and blanks only: the check for a missing value looks at the value
before it is split. -/
theorem kept_terms_empty_iff (c : Condition)
    (hop : c.operator = some .oneOf ∨ c.operator = some .noneOf) {cl : Json}
    (hkept : c.clause? = some cl) :
    ∃ terms : List Json,
      (c.operator = some .oneOf → cl = .obj [("terms", .obj [(c.field, .arr terms)])]) ∧
      (c.operator = some .noneOf → cl = .obj [("bool", .obj [("must_not",
        .arr [.obj [("terms", .obj [(c.field, .arr terms)])]])])]) ∧
      (terms = [] ↔ ∃ s, c.value = .str s ∧ s ≠ "" ∧
        ∀ ch ∈ s.toList, ch = ',' ∨ isBlank ch = true) := by
  obtain ⟨-, op, hop', hval, hbuilt⟩ := clause?_eq_some_iff.1 hkept
  -- both operators need a value, so the value is given
  have hgiven : c.value.isBlankValue = false := by
    rcases hop with h | h <;> rw [h, Option.some.injEq] at hop' <;> subst hop' <;>
      simpa [Operator.ignoresValue] using hval
  refine ⟨c.value.termList, fun h => ?_, fun h => ?_, Json.termList_eq_nil_iff hgiven⟩
  all_goals
    rw [h, Option.some.injEq] at hop'
    subst hop'
    simpa [Operator.clause?, Clause.negate, Clause.terms, Clause.onField] using hbuilt.symm

/-- A blank, a comma and a blank are a value, and `in` compiles them to a `terms` clause with no
terms. -/
theorem kept_terms_of_spaced_comma :
    let c : Condition := { field := "tag", operator := some .oneOf, value := .str " , " }
    (c.operator = some .oneOf ∨ c.operator = some .noneOf) ∧
      c.clause? = some (.obj [("terms", .obj [("tag", .arr [])])]) ∧
      ∃ terms : List Json,
        (c.operator = some .oneOf → Json.obj [("terms", .obj [("tag", .arr [])])] =
          .obj [("terms", .obj [(c.field, .arr terms)])]) ∧
        (c.operator = some .noneOf → Json.obj [("terms", .obj [("tag", .arr [])])] =
          .obj [("bool", .obj [("must_not", .arr [.obj [("terms", .obj [(c.field, .arr terms)])]])])]) ∧
        (terms = [] ↔ ∃ s, c.value = .str s ∧ s ≠ "" ∧
          ∀ ch ∈ s.toList, ch = ',' ∨ isBlank ch = true) := by
  intro c
  have hcl : c.clause? = some (.obj [("terms", .obj [("tag", .arr [])])]) := rfl
  exact ⟨.inl rfl, hcl, kept_terms_empty_iff c (.inl rfl) hcl⟩

/-- A lone comma is a value, and `in` compiles it to a `terms` clause with no terms, which no
document matches. -/
theorem clause?_lone_comma_has_no_terms :
    ({ field := "tag", operator := some .oneOf, value := .str "," } : Condition).clause? =
      some (.obj [("terms", .obj [("tag", .arr [])])]) := rfl

end Condition

end Sift
