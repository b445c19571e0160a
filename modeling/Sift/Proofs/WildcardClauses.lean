import Mathlib
import Sift.Filter.Clause

/-!
# What a wildcard clause finds

`contains` and `ends_with` conditions compile to a `wildcard` clause whose pattern is the value's
text between stars, `*text*`, or after one, `*text`. The search engine reads such a pattern as a
list of tokens (`Wildcard.tokens`): `*` stands for any run of characters, `?` for any one
character, `\` makes the character after it stand for itself (a `\` at the very end stands for
itself), and every other character stands for itself. `Wildcard.Matches` says which texts a list
of tokens matches, one rule per token.

The value's text goes into the pattern as it is, with no escaping. So the clause finds exactly
the texts that contain the value (that end with it) when the value has none of `*`, `?` and `\`
(`Wildcard.Plain`). When it has no `\`, the clause finds at least those, since `*` and `?` also
match themselves; but a value with wildcards finds more: `contains "*"` builds `***`, which
matches every text, the empty one included (`contains_star_finds_every_text`).
-/

namespace Sift

namespace Wildcard

/-- A token of a wildcard pattern. -/
inductive Token where
  /-- Any run of characters, the empty one included. -/
  | star
  /-- Any one character. -/
  | one
  /-- The character itself. -/
  | lit (c : Char)
  deriving DecidableEq, Repr

/-- The token a character stands for when no `\` comes before it. -/
def Token.ofChar (c : Char) : Token :=
  if c = '*' then .star else if c = '?' then .one else .lit c

/-- The tokens of a pattern: a `\` followed by a character is that character; a `\` at the very
end is itself. -/
def tokens : List Char → List Token
  | [] => []
  | [c] => [Token.ofChar c]
  | c :: d :: p => if c = '\\' then .lit d :: tokens p else Token.ofChar c :: tokens (d :: p)

/-- Which texts a list of tokens matches. -/
inductive Matches : List Token → List Char → Prop
  | nil : Matches [] []
  | starSkip {p s} : Matches p s → Matches (.star :: p) s
  | starTake {p c s} : Matches (.star :: p) s → Matches (.star :: p) (c :: s)
  | one {p c s} : Matches p s → Matches (.one :: p) (c :: s)
  | lit {p c s} : Matches p s → Matches (.lit c :: p) (c :: s)

/-- Whether a wildcard pattern finds a text. -/
def Finds (pattern text : String) : Prop := Matches (tokens pattern.toList) text.toList

/-- A text with none of the characters a pattern reads specially. -/
def Plain (v : List Char) : Prop := ∀ c ∈ v, c ≠ '*' ∧ c ≠ '?' ∧ c ≠ '\\'

instance decidablePlain (v : List Char) : Decidable (Plain v) :=
  inferInstanceAs (Decidable (∀ c ∈ v, c ≠ '*' ∧ c ≠ '?' ∧ c ≠ '\\'))

/-! ## Reading a pattern -/

@[simp] theorem tokens_nil : tokens [] = [] := rfl

theorem tokens_cons_of_ne {c : Char} (p : List Char) (hc : c ≠ '\\') :
    tokens (c :: p) = Token.ofChar c :: tokens p := by
  cases p with
  | nil => rfl
  | cons d p => simp [tokens, hc]

theorem tokens_star (p : List Char) : tokens ('*' :: p) = .star :: tokens p := by
  rw [tokens_cons_of_ne p (by decide)]
  rfl

/-- A text with no `\` reads one token per character. -/
theorem tokens_append_of_no_escape {v : List Char} (p : List Char) (hv : ∀ c ∈ v, c ≠ '\\') :
    tokens (v ++ p) = v.map Token.ofChar ++ tokens p := by
  induction v with
  | nil => rfl
  | cons c v ih =>
    rw [List.cons_append, tokens_cons_of_ne _ (hv c List.mem_cons_self),
      ih fun d hd => hv d (List.mem_cons_of_mem c hd)]
    rfl

/-- In a plain text every character stands for itself. -/
theorem map_ofChar_of_plain {v : List Char} (hv : Plain v) : v.map Token.ofChar = v.map .lit :=
  List.map_congr_left fun c hc => by simp [Token.ofChar, (hv c hc).1, (hv c hc).2.1]

/-- The `contains` pattern of a text with no `\`: a star, the text's characters, a star. -/
theorem tokens_contains {v : String} (hv : ∀ c ∈ v.toList, c ≠ '\\') :
    tokens ("*" ++ v ++ "*").toList = .star :: (v.toList.map Token.ofChar ++ [.star]) := by
  simp only [String.toList_append, String.reduceToList, List.cons_append, List.nil_append,
    tokens_star, tokens_append_of_no_escape _ hv]
  rfl

/-- The `ends_with` pattern of a text with no `\`: a star, then the text's characters. -/
theorem tokens_endsWith {v : String} (hv : ∀ c ∈ v.toList, c ≠ '\\') :
    tokens ("*" ++ v).toList = .star :: v.toList.map Token.ofChar := by
  simp only [String.toList_append, String.reduceToList, List.cons_append, List.nil_append,
    tokens_star]
  simpa using tokens_append_of_no_escape [] hv

/-! ## Matching -/

theorem matches_nil_iff {s : List Char} : Matches [] s ↔ s = [] := by
  constructor
  · intro h
    cases h
    rfl
  · rintro rfl
    exact .nil

/-- A star matches any run of characters, and the rest of the pattern the rest of the text. -/
theorem matches_star_iff {p : List Token} {s : List Char} :
    Matches (.star :: p) s ↔ ∃ s₁ s₂, s = s₁ ++ s₂ ∧ Matches p s₂ := by
  constructor
  · intro h
    induction s with
    | nil =>
      cases h with
      | starSkip h => exact ⟨[], [], rfl, h⟩
    | cons c s ih =>
      cases h with
      | starSkip h => exact ⟨[], c :: s, rfl, h⟩
      | starTake h =>
        obtain ⟨s₁, s₂, rfl, hrest⟩ := ih h
        exact ⟨c :: s₁, s₂, rfl, hrest⟩
  · rintro ⟨s₁, s₂, rfl, h⟩
    induction s₁ with
    | nil => exact .starSkip h
    | cons c s₁ ih => exact .starTake ih

/-- A star before a pattern that matches the empty text matches every text: the star takes it
all. -/
theorem matches_star_of_nil {p : List Token} (hp : Matches p []) (s : List Char) :
    Matches (.star :: p) s :=
  matches_star_iff.2 ⟨s, [], by simp, hp⟩

theorem matches_star (s : List Char) : Matches [.star] s :=
  matches_star_of_nil .nil s

/-- A pattern of stars alone matches every text. -/
theorem matches_replicate_star (n : Nat) (s : List Char) :
    Matches (List.replicate (n + 1) .star) s := by
  rw [List.replicate_succ]
  apply matches_star_of_nil
  -- the stars after the first take nothing
  induction n with
  | zero => exact .nil
  | succ n ih =>
    rw [List.replicate_succ]
    exact .starSkip ih

/-- Literal characters match themselves and nothing else. -/
theorem matches_lits_iff {v : List Char} {p : List Token} {s : List Char} :
    Matches (v.map .lit ++ p) s ↔ ∃ s', s = v ++ s' ∧ Matches p s' := by
  induction v generalizing s with
  | nil => simp
  | cons c v ih =>
    constructor
    · intro h
      cases h with
      | lit h =>
        obtain ⟨s', rfl, hrest⟩ := ih.1 h
        exact ⟨s', rfl, hrest⟩
    · rintro ⟨s', rfl, h⟩
      exact .lit (ih.2 ⟨s', rfl, h⟩)

/-- Each character of a text with no `\` matches itself, as a literal, a `?` or a `*`. -/
theorem matches_ofChar_self {v : List Char} {p : List Token} {s : List Char} (h : Matches p s) :
    Matches (v.map Token.ofChar ++ p) (v ++ s) := by
  induction v with
  | nil => exact h
  | cons c v ih =>
    simp only [List.map_cons, List.cons_append, Token.ofChar]
    split
    · exact .starTake (.starSkip ih)
    · split
      · exact .one ih
      · exact .lit ih

/-! ## The patterns of `contains` and `ends_with` -/

/-- The `contains` pattern of a plain text finds exactly the texts that contain it. -/
theorem finds_contains_iff {v : String} (hv : Plain v.toList) (s : String) :
    Finds ("*" ++ v ++ "*") s ↔ v.toList <:+: s.toList := by
  rw [Finds, tokens_contains fun c hc => (hv c hc).2.2, map_ofChar_of_plain hv, matches_star_iff]
  simp only [matches_lits_iff, List.IsInfix]
  constructor
  · rintro ⟨s₁, s₂, hs, s', hs₂, -⟩
    exact ⟨s₁, s', by rw [hs, hs₂, List.append_assoc]⟩
  · rintro ⟨s₁, s', h⟩
    exact ⟨s₁, v.toList ++ s', by rw [← h, List.append_assoc], s', rfl, matches_star s'⟩

/-- The `ends_with` pattern of a plain text finds exactly the texts that end with it. -/
theorem finds_endsWith_iff {v : String} (hv : Plain v.toList) (s : String) :
    Finds ("*" ++ v) s ↔ v.toList <:+ s.toList := by
  rw [Finds, tokens_endsWith fun c hc => (hv c hc).2.2, map_ofChar_of_plain hv,
    ← List.append_nil (v.toList.map _), matches_star_iff]
  simp only [matches_lits_iff, matches_nil_iff, List.IsSuffix]
  constructor
  · rintro ⟨s₁, s₂, hs, s', hs₂, rfl⟩
    exact ⟨s₁, by rw [hs, hs₂, List.append_nil]⟩
  · rintro ⟨s₁, h⟩
    exact ⟨s₁, v.toList, h.symm, [], by simp, rfl⟩

/-- With no `\` in the text, the `contains` pattern finds every text that contains it. -/
theorem finds_contains_of_infix {v : String} (hv : ∀ c ∈ v.toList, c ≠ '\\') {s : String}
    (h : v.toList <:+: s.toList) : Finds ("*" ++ v ++ "*") s := by
  obtain ⟨s₁, s₂, hs⟩ := h
  rw [Finds, tokens_contains hv, ← hs, List.append_assoc]
  exact matches_star_iff.2 ⟨s₁, _, rfl, matches_ofChar_self (matches_star s₂)⟩

/-- With no `\` in the text, the `ends_with` pattern finds every text that ends with it. -/
theorem finds_endsWith_of_suffix {v : String} (hv : ∀ c ∈ v.toList, c ≠ '\\') {s : String}
    (h : v.toList <:+ s.toList) : Finds ("*" ++ v) s := by
  obtain ⟨s₁, hs⟩ := h
  rw [Finds, tokens_endsWith hv, ← hs]
  exact matches_star_iff.2 ⟨s₁, _, rfl, by simpa using matches_ofChar_self (v := v.toList) .nil⟩

end Wildcard

open Wildcard

namespace Condition

/-- A `contains` or `ends_with` condition on a named field with a non-empty string value is
kept, and compiles to a `wildcard` clause on the value between stars, or after one. -/
theorem clause?_of_wildcard_operator {c : Condition} {v : String} (hv : c.value = .str v)
    (hfield : c.field ≠ "") (hne : v ≠ "") :
    (c.operator = some .contains →
      c.clause? = some (Clause.onField "wildcard" c.field (.str ("*" ++ v ++ "*")))) ∧
    (c.operator = some .endsWith →
      c.clause? = some (Clause.onField "wildcard" c.field (.str ("*" ++ v)))) := by
  have hkept : c.field.isEmpty = false := by simpa [String.isEmpty_iff] using hfield
  have hgiven : (Json.str v).isBlankValue = false := by
    simpa [Json.isBlankValue, String.isEmpty_iff] using hne
  refine ⟨fun hop => ?_, fun hop => ?_⟩ <;>
    simp [clause?, hkept, hop, hgiven, Operator.ignoresValue, Operator.clause?, hv,
      Json.patternText]

/-- What the wildcard clauses of `contains` and `ends_with` find. A condition on a named field
with a non-empty string value `v` compiles to the pattern `*v*` (`*v`), with `v` as it is. When
`v` holds none of `*`, `?` and `\`, the pattern finds exactly the texts that contain `v` (end
with `v`); when it holds no `\`, the pattern finds every such text, and possibly more. -/
theorem wildcard_clause_finds (c : Condition) (v : String) (hv : c.value = .str v)
    (hfield : c.field ≠ "") (hne : v ≠ "") :
    (c.operator = some .contains →
      c.clause? = some (Clause.onField "wildcard" c.field (.str ("*" ++ v ++ "*"))) ∧
      (Plain v.toList → ∀ s, Finds ("*" ++ v ++ "*") s ↔ v.toList <:+: s.toList) ∧
      ((∀ ch ∈ v.toList, ch ≠ '\\') → ∀ s, v.toList <:+: s.toList → Finds ("*" ++ v ++ "*") s)) ∧
    (c.operator = some .endsWith →
      c.clause? = some (Clause.onField "wildcard" c.field (.str ("*" ++ v))) ∧
      (Plain v.toList → ∀ s, Finds ("*" ++ v) s ↔ v.toList <:+ s.toList) ∧
      ((∀ ch ∈ v.toList, ch ≠ '\\') → ∀ s, v.toList <:+ s.toList → Finds ("*" ++ v) s)) := by
  obtain ⟨hcontains, hends⟩ := clause?_of_wildcard_operator hv hfield hne
  exact ⟨fun hop => ⟨hcontains hop, fun hp => finds_contains_iff hp,
      fun hesc _ => finds_contains_of_infix hesc⟩,
    fun hop => ⟨hends hop, fun hp => finds_endsWith_iff hp,
      fun hesc _ => finds_endsWith_of_suffix hesc⟩⟩

/-- A `contains` condition on the path whose value is `img` compiles to `*img*`, which finds
exactly the texts holding `img`. -/
theorem wildcard_clause_finds_img :
    let c : Condition := { field := "path", operator := some .contains, value := .str "img" }
    c.value = .str "img" ∧ c.field ≠ "" ∧ "img" ≠ "" ∧ Plain "img".toList ∧
      c.clause? = some (Clause.onField "wildcard" "path" (.str "*img*")) ∧
      ∀ s, Finds "*img*" s ↔ "img".toList <:+: s.toList := by
  intro c
  have hfield : c.field ≠ "" := by simp [c]
  have hne : "img" ≠ "" := by simp
  have hplain : Plain "img".toList := by simp [Plain]
  obtain ⟨hclause, hfinds, -⟩ := (wildcard_clause_finds c "img" rfl hfield hne).1 rfl
  exact ⟨rfl, hfield, hne, hplain, hclause, hfinds hplain⟩

/-- The value `*` is not escaped: `contains "*"` compiles to `***`, which finds every text, the
empty one included, though the empty text does not contain `*`. -/
theorem contains_star_finds_every_text :
    let c : Condition := { field := "path", operator := some .contains, value := .str "*" }
    c.clause? = some (Clause.onField "wildcard" "path" (.str "***")) ∧ (∀ s, Finds "***" s) ∧
      ¬ "*".toList <:+: "".toList := by
  intro c
  refine ⟨rfl, fun s => ?_, by simp⟩
  show Matches (tokens ['*', '*', '*']) s.toList
  rw [tokens_star, tokens_star, tokens_star, tokens_nil]
  exact matches_replicate_star 2 s.toList

end Condition

end Sift
