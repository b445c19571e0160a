import Sift.Json.Text
import Sift.Proofs.NumberText

/-!
# Compact text determines the document

The compact printer writes no blanks, so its text must carry every boundary itself. It does:
each value's text opens with a character that tells its kind (`chars_head`), strings end at the
first unescaped quote because an escaped character never starts with one, arrays and objects
end at their closing bracket, and a number runs until the next character that no number uses,
which in compact text is a comma, a closing bracket or the end. So a value's text followed by
what may follow it in compact text determines both the value and the rest
(`chars_append_inj`), and `compact` is injective on documents whose numbers are finite
(`compact_inj`).

The text is described as a list of characters (`Json.chars`), which `writeCompact` appends to
its accumulator (`toList_writeCompact`).
-/

namespace Sift.Json

/-! ## Escaped strings -/

/-- The escaped characters of a string body. -/
def escapedChars (cs : List Char) : List Char := cs.flatMap fun c => (escapeChar c).toList

/-- A string between quotes, escaped. -/
def quoteChars (s : String) : List Char := '"' :: escapedChars s.toList ++ ['"']

/-- The character a named escape `\x` stands for. -/
def namedEscape : Char → Option Char
  | '"' => some '"'
  | '\\' => some '\\'
  | 'n' => some '\n'
  | 'r' => some '\r'
  | 't' => some '\t'
  | 'b' => some '\x08'
  | 'f' => some '\x0c'
  | _ => none

/-- The value of a lowercase hex digit. -/
def hexDigitValue (c : Char) : Nat := if c.toNat < 58 then c.toNat - 48 else c.toNat - 87

/-- Reads the four characters after `\u` when they are `00` and two hex digits. -/
def readHexEscape : List Char → Option (Char × List Char)
  | '0' :: '0' :: h :: l :: r => some (Char.ofNat (16 * hexDigitValue h + hexDigitValue l), r)
  | _ => none

/-- Reads one character of an escaped string body: a backslash sequence, or a character that
stands for itself. -/
def unescapeUnit : List Char → Option (Char × List Char)
  | [] => none
  | c :: r =>
    if c = '\\' then
      match r with
      | e :: r' => if e = 'u' then readHexEscape r' else (namedEscape e).map (·, r')
      | [] => none
    else some (c, r)

theorem hexDigitValue_hexDigit {n : Nat} (h : n < 16) : hexDigitValue (hexDigit n) = n := by
  have hd : (hexDigit n).toNat = if n < 10 then 48 + n else 87 + n := by
    unfold hexDigit
    split <;> simp [Char.toNat_ofNat, Nat.isValidChar] <;> omega
  unfold hexDigitValue
  rw [hd]
  split <;> split <;> omega

/-- Reading an escaped character gives it back, with the rest of the text untouched. -/
theorem unescapeUnit_escapeChar (c : Char) (r : List Char) :
    unescapeUnit ((escapeChar c).toList ++ r) = some (c, r) := by
  unfold escapeChar
  split_ifs with h₁ h₂ h₃ h₄ h₅ h₆ h₇ h₈
  -- the seven named escapes, from `\"` to `\f`, read back through `namedEscape`
  any_goals (subst_vars; simp [unescapeUnit, namedEscape]; done)
  · -- a control character as `\u00XX`
    have hhi : c.toNat / 16 < 16 := by omega
    have hlo : c.toNat % 16 < 16 := Nat.mod_lt _ (by norm_num)
    simp only [String.toList_append, String.toList_singleton, String.reduceToList,
      List.cons_append, List.nil_append, unescapeUnit, if_true, readHexEscape,
      hexDigitValue_hexDigit hhi, hexDigitValue_hexDigit hlo, Nat.div_add_mod, Char.ofNat_toNat]
  · -- any other character stands for itself
    simp [unescapeUnit, h₂]

/-- An escaped character never starts with a quote, so the first unescaped quote ends the
string. -/
theorem escapeChar_ne_quote_cons (c : Char) (t : List Char) : (escapeChar c).toList ≠ '"' :: t := by
  intro h
  have hu := unescapeUnit_escapeChar c []
  rw [h, List.append_nil] at hu
  -- a plain quote reads as itself, so `c` would be the quote, escaped as `\"`
  simp only [unescapeUnit, show ('"' : Char) ≠ '\\' by decide, if_false, Option.some.injEq,
    Prod.mk.injEq] at hu
  obtain ⟨rfl, rfl⟩ := hu
  exact absurd h (by decide)

theorem escapeChar_ne_nil (c : Char) : (escapeChar c).toList ≠ [] := by
  intro h
  have hu := unescapeUnit_escapeChar c []
  rw [h] at hu
  cases hu

theorem escapedChars_cons_append (c : Char) (s r : List Char) :
    escapedChars (c :: s) ++ r = (escapeChar c).toList ++ (escapedChars s ++ r) := by
  simp [escapedChars]

/-- A nonempty escaped body does not start with the closing quote. -/
theorem escapedChars_cons_ne (c : Char) (s : List Char) {r r' : List Char} :
    escapedChars (c :: s) ++ r ≠ '"' :: r' := by
  rw [escapedChars_cons_append]
  obtain ⟨x, t, hxt⟩ := List.exists_cons_of_ne_nil (escapeChar_ne_nil c)
  rw [hxt, List.cons_append]
  intro h
  obtain ⟨rfl, -⟩ := List.cons.inj h
  exact escapeChar_ne_quote_cons c t hxt

/-- Escaped bodies up to the closing quote determine the string and what follows. -/
theorem escapedChars_append_quote_inj :
    ∀ (s₁ s₂ r₁ r₂ : List Char), escapedChars s₁ ++ '"' :: r₁ = escapedChars s₂ ++ '"' :: r₂ →
      s₁ = s₂ ∧ r₁ = r₂
  | [], [], _, _, h => ⟨rfl, (List.cons.inj h).2⟩
  | [], c :: s₂, _, _, h => absurd h.symm (escapedChars_cons_ne c s₂)
  | c :: s₁, [], _, _, h => absurd h (escapedChars_cons_ne c s₁)
  | c₁ :: s₁, c₂ :: s₂, r₁, r₂, h => by
    -- read the first escaped character off both sides
    rw [escapedChars_cons_append, escapedChars_cons_append] at h
    have hu := congrArg unescapeUnit h
    rw [unescapeUnit_escapeChar, unescapeUnit_escapeChar, Option.some.injEq, Prod.mk.injEq] at hu
    obtain ⟨hs, hr⟩ := escapedChars_append_quote_inj s₁ s₂ r₁ r₂ hu.2
    exact ⟨by rw [hu.1, hs], hr⟩

/-! ## Compact text as characters -/

mutual

/-- The characters of a document's compact text. -/
def chars : Json → List Char
  | .null => ['n', 'u', 'l', 'l']
  | .bool b => if b then ['t', 'r', 'u', 'e'] else ['f', 'a', 'l', 's', 'e']
  | .num n => n.render.toList
  | .str s => quoteChars s
  | .arr items => '[' :: itemsChars items true ++ [']']
  | .obj fields => '{' :: fieldsChars fields true ++ ['}']

/-- The characters of items, a comma before each but the first. -/
def itemsChars : List Json → Bool → List Char
  | [], _ => []
  | x :: xs, first => (if first then [] else [',']) ++ chars x ++ itemsChars xs false

/-- The characters of entries `"key":value`, a comma before each but the first. -/
def fieldsChars : List (String × Json) → Bool → List Char
  | [], _ => []
  | (k, x) :: xs, first =>
    (if first then [] else [',']) ++ quoteChars k ++ ':' :: chars x ++ fieldsChars xs false

end

theorem toList_foldl_escape (cs : List Char) (acc : String) :
    (cs.foldl (fun a c => a ++ escapeChar c) acc).toList = acc.toList ++ escapedChars cs := by
  induction cs generalizing acc with
  | nil =>
    simp [escapedChars]
  | cons c cs ih =>
    rw [List.foldl_cons, ih, String.toList_append, List.append_assoc]
    simp [escapedChars]

theorem toList_writeString (s acc : String) :
    (writeString s acc).toList = acc.toList ++ quoteChars s := by
  simp [writeString, String.foldl_eq_foldl_toList, toList_foldl_escape, quoteChars]

theorem toList_sep (first : Bool) (acc : String) :
    (if first then acc else acc.push ',').toList = acc.toList ++ if first then [] else [','] := by
  cases first <;> simp

mutual

/-- `writeCompact` appends the characters of the document. -/
theorem toList_writeCompact :
    ∀ (j : Json) (acc : String), (writeCompact j acc).toList = acc.toList ++ chars j
  | .null, acc => by simp [writeCompact, chars]
  | .bool b, acc => by cases b <;> simp [writeCompact, chars]
  | .num n, acc => by simp [writeCompact, chars]
  | .str s, acc => by simp [writeCompact, chars, toList_writeString]
  | .arr items, acc => by
    rw [writeCompact, String.toList_push, toList_writeCompactItems items true, String.toList_push]
    simp [chars]
  | .obj fields, acc => by
    rw [writeCompact, String.toList_push, toList_writeCompactFields fields true, String.toList_push]
    simp [chars]

theorem toList_writeCompactItems : ∀ (xs : List Json) (first : Bool) (acc : String),
    (writeCompactItems xs first acc).toList = acc.toList ++ itemsChars xs first
  | [], _, acc => by simp [writeCompactItems, itemsChars]
  | x :: xs, first, acc => by
    rw [writeCompactItems, toList_writeCompactItems xs false, toList_writeCompact x, toList_sep]
    simp [itemsChars]

theorem toList_writeCompactFields : ∀ (xs : List (String × Json)) (first : Bool) (acc : String),
    (writeCompactFields xs first acc).toList = acc.toList ++ fieldsChars xs first
  | [], _, acc => by simp [writeCompactFields, fieldsChars]
  | (k, x) :: xs, first, acc => by
    rw [writeCompactFields, toList_writeCompactFields xs false, toList_writeCompact x,
      String.toList_push, toList_writeString, toList_sep]
    simp [fieldsChars]

end

theorem toList_compact (j : Json) : (compact j).toList = chars j := by
  simp [compact, toList_writeCompact]

/-! ## Where a value's text ends -/

mutual

/-- Every number of the document is finite. -/
def finite : Json → Bool
  | .num n => n.finite
  | .arr items => finiteItems items
  | .obj fields => finiteFields fields
  | _ => true

/-- Every number of the items is finite. -/
def finiteItems : List Json → Bool
  | [] => true
  | x :: xs => finite x && finiteItems xs

/-- Every number of the entries' values is finite. -/
def finiteFields : List (String × Json) → Bool
  | [] => true
  | (_, x) :: xs => finite x && finiteFields xs

end

/-- The kinds of values, and `other` for a character that opens none. -/
inductive ValueKind
  | null | bool | num | str | arr | obj | other
  deriving DecidableEq

/-- The kind of value a character opens in compact text. -/
def openerKind (c : Char) : ValueKind :=
  if c.isDigit || c == '-' then .num
  else if c = 'n' then .null
  else if c = 't' ∨ c = 'f' then .bool
  else if c = '"' then .str
  else if c = '[' then .arr
  else if c = '{' then .obj
  else .other

/-- The kind of a document. -/
def kind : Json → ValueKind
  | .null => .null
  | .bool _ => .bool
  | .num _ => .num
  | .str _ => .str
  | .arr _ => .arr
  | .obj _ => .obj

/-- The first character of a value's text tells its kind. -/
theorem chars_head (j : Json) : ∃ c r, chars j = c :: r ∧ openerKind c = kind j := by
  cases j with
  | null => exact ⟨'n', _, rfl, by decide⟩
  | bool b =>
    cases b
    · exact ⟨'f', _, rfl, by decide⟩
    · exact ⟨'t', _, rfl, by decide⟩
  | num n =>
    obtain ⟨c, r, hcr, hc⟩ := n.render_head
    refine ⟨c, r, hcr, ?_⟩
    rcases hc with hc | rfl
    · simp [openerKind, hc, kind]
    · rfl
  | str s => exact ⟨'"', _, rfl, rfl⟩
  | arr items => exact ⟨'[', _, rfl, rfl⟩
  | obj fields => exact ⟨'{', _, rfl, rfl⟩

theorem kind_eq_of_chars_append {j₁ j₂ : Json} {r₁ r₂ : List Char}
    (h : chars j₁ ++ r₁ = chars j₂ ++ r₂) : kind j₁ = kind j₂ := by
  obtain ⟨c₁, t₁, h₁, k₁⟩ := chars_head j₁
  obtain ⟨c₂, t₂, h₂, k₂⟩ := chars_head j₂
  rw [h₁, h₂, List.cons_append, List.cons_append] at h
  rw [← k₁, ← k₂, (List.cons.inj h).1]

/-- A value's text never starts with a separator or a closing bracket. -/
theorem chars_ne_cons {j : Json} {c : Char} {r : List Char} (hc : openerKind c = .other)
    (h : chars j = c :: r) : False := by
  obtain ⟨c', r', h', k'⟩ := chars_head j
  rw [h'] at h
  obtain ⟨rfl, -⟩ := List.cons.inj h
  rw [hc] at k'
  cases j <;> cases k'

/-- What may follow a value in compact text: nothing, a comma, or a closing bracket. -/
def Delimited (r : List Char) : Prop := ∀ c ∈ r.head?, c = ',' ∨ c = ']' ∨ c = '}'

theorem Delimited.not_numberChar {c : Char} {r : List Char} (h : Delimited (c :: r)) :
    numberChar c = false := by
  rcases h c rfl with rfl | rfl | rfl <;> rfl

/-- A number's text runs up to the first character no number uses. -/
theorem append_inj_of_numberChar : ∀ {a b r₁ r₂ : List Char}, (∀ x ∈ a, numberChar x) →
    (∀ x ∈ b, numberChar x) → Delimited r₁ → Delimited r₂ → a ++ r₁ = b ++ r₂ → a = b ∧ r₁ = r₂
  | [], [], _, _, _, _, _, _, h => ⟨rfl, h⟩
  | [], y :: b, _, _, _, hb, d₁, _, h => by
    rw [List.nil_append] at h
    subst h
    exact absurd (hb y List.mem_cons_self) (by rw [d₁.not_numberChar]; decide)
  | x :: a, [], _, _, ha, _, _, d₂, h => by
    rw [List.nil_append] at h
    subst h
    exact absurd (ha x List.mem_cons_self) (by rw [d₂.not_numberChar]; decide)
  | x :: a, y :: b, _, _, ha, hb, d₁, d₂, h => by
    obtain ⟨rfl, htail⟩ := List.cons.inj h
    obtain ⟨rfl, hr⟩ := append_inj_of_numberChar (fun z hz => ha z (List.mem_cons_of_mem _ hz))
      (fun z hz => hb z (List.mem_cons_of_mem _ hz)) d₁ d₂ htail
    exact ⟨rfl, hr⟩

theorem delimited_itemsChars (xs : List Json) (r : List Char) :
    Delimited (itemsChars xs false ++ ']' :: r) := by
  cases xs <;> simp [Delimited, itemsChars]

theorem delimited_fieldsChars (xs : List (String × Json)) (r : List Char) :
    Delimited (fieldsChars xs false ++ '}' :: r) := by
  cases xs <;> simp [Delimited, fieldsChars]

theorem itemsChars_cons_ne (y : Json) (ys : List Json) (first : Bool) {r r' : List Char}
    (h : itemsChars (y :: ys) first ++ r = ']' :: r') : False := by
  cases first with
  | true =>
    -- the first item opens a value, which `]` does not
    obtain ⟨c, t, hct, _⟩ := chars_head y
    simp only [itemsChars, if_true, List.nil_append, hct, List.cons_append] at h
    obtain ⟨rfl, -⟩ := List.cons.inj h
    exact chars_ne_cons (by decide) hct
  | false =>
    simp [itemsChars] at h

theorem fieldsChars_cons_ne (kx : String × Json) (xs : List (String × Json)) (first : Bool)
    {r r' : List Char} (h : fieldsChars (kx :: xs) first ++ r = '}' :: r') : False := by
  obtain ⟨k, x⟩ := kx
  cases first <;> simp [fieldsChars, quoteChars] at h

/-! ## The text determines the value -/

mutual

/-- A value's text followed by what may follow it in compact text determines both. -/
theorem chars_append_inj : ∀ (j₁ j₂ : Json) (r₁ r₂ : List Char), finite j₁ → finite j₂ →
    Delimited r₁ → Delimited r₂ → chars j₁ ++ r₁ = chars j₂ ++ r₂ → j₁ = j₂ ∧ r₁ = r₂
  | .null, j₂, r₁, r₂, _, _, _, _, h => by
    cases j₂ with
    | null => exact ⟨rfl, List.append_cancel_left h⟩
    | _ => cases kind_eq_of_chars_append h
  | .bool b₁, j₂, r₁, r₂, _, _, _, _, h => by
    cases j₂ with
    | bool b₂ =>
      -- `true` and `false` differ in their first letter
      cases b₁ <;> cases b₂ <;> simp [chars] at h ⊢ <;> exact h
    | _ => cases kind_eq_of_chars_append h
  | .num n₁, j₂, r₁, r₂, f₁, f₂, d₁, d₂, h => by
    cases j₂ with
    | num n₂ =>
      obtain ⟨ht, hr⟩ := append_inj_of_numberChar n₁.numberChar_of_mem_render
        n₂.numberChar_of_mem_render d₁ d₂ h
      exact ⟨congrArg Json.num (Number.render_inj f₁ f₂ (String.toList_inj.1 ht)), hr⟩
    | _ => cases kind_eq_of_chars_append h
  | .str s₁, j₂, r₁, r₂, _, _, _, _, h => by
    cases j₂ with
    | str s₂ =>
      simp only [chars, quoteChars, List.cons_append, List.append_assoc] at h
      obtain ⟨hs, hr⟩ := escapedChars_append_quote_inj _ _ _ _ (List.cons.inj h).2
      exact ⟨congrArg Json.str (String.toList_inj.1 hs), hr⟩
    | _ => cases kind_eq_of_chars_append h
  | .arr xs, j₂, r₁, r₂, f₁, f₂, _, _, h => by
    cases j₂ with
    | arr ys =>
      simp only [chars, List.cons_append, List.append_assoc] at h
      obtain ⟨hxs, hr⟩ := itemsChars_append_inj xs ys true r₁ r₂ f₁ f₂ (List.cons.inj h).2
      exact ⟨congrArg Json.arr hxs, hr⟩
    | _ => cases kind_eq_of_chars_append h
  | .obj xs, j₂, r₁, r₂, f₁, f₂, _, _, h => by
    cases j₂ with
    | obj ys =>
      simp only [chars, List.cons_append, List.append_assoc] at h
      obtain ⟨hxs, hr⟩ := fieldsChars_append_inj xs ys true r₁ r₂ f₁ f₂ (List.cons.inj h).2
      exact ⟨congrArg Json.obj hxs, hr⟩
    | _ => cases kind_eq_of_chars_append h

/-- Items up to the closing bracket determine the items and what follows. -/
theorem itemsChars_append_inj : ∀ (xs ys : List Json) (first : Bool) (r₁ r₂ : List Char),
    finiteItems xs → finiteItems ys →
    itemsChars xs first ++ ']' :: r₁ = itemsChars ys first ++ ']' :: r₂ → xs = ys ∧ r₁ = r₂
  | [], [], _, _, _, _, _, h => ⟨rfl, (List.cons.inj h).2⟩
  | [], y :: ys, first, _, _, _, _, h => (itemsChars_cons_ne y ys first h.symm).elim
  | x :: xs, [], first, _, _, _, _, h => (itemsChars_cons_ne x xs first h).elim
  | x :: xs, y :: ys, first, r₁, r₂, f₁, f₂, h => by
    simp only [finiteItems, Bool.and_eq_true] at f₁ f₂
    simp only [itemsChars, List.append_assoc] at h
    -- the separators agree; then the first items, then the rest
    obtain ⟨rfl, hrest⟩ := chars_append_inj x y _ _ f₁.1 f₂.1 (delimited_itemsChars xs r₁)
      (delimited_itemsChars ys r₂) (List.append_cancel_left h)
    obtain ⟨rfl, hr⟩ := itemsChars_append_inj xs ys false r₁ r₂ f₁.2 f₂.2 hrest
    exact ⟨rfl, hr⟩

/-- Entries up to the closing brace determine the entries and what follows. -/
theorem fieldsChars_append_inj : ∀ (xs ys : List (String × Json)) (first : Bool)
    (r₁ r₂ : List Char), finiteFields xs → finiteFields ys →
    fieldsChars xs first ++ '}' :: r₁ = fieldsChars ys first ++ '}' :: r₂ → xs = ys ∧ r₁ = r₂
  | [], [], _, _, _, _, _, h => ⟨rfl, (List.cons.inj h).2⟩
  | [], ky :: ys, first, _, _, _, _, h => (fieldsChars_cons_ne ky ys first h.symm).elim
  | kx :: xs, [], first, _, _, _, _, h => (fieldsChars_cons_ne kx xs first h).elim
  | (k₁, x₁) :: xs, (k₂, x₂) :: ys, first, r₁, r₂, f₁, f₂, h => by
    simp only [finiteFields, Bool.and_eq_true] at f₁ f₂
    simp only [fieldsChars, quoteChars, List.append_assoc, List.cons_append] at h
    -- the separators agree; then the keys, up to their closing quotes
    obtain ⟨hk, hrest⟩ := escapedChars_append_quote_inj _ _ _ _
      (List.cons.inj (List.append_cancel_left h)).2
    obtain ⟨rfl, hrest'⟩ := chars_append_inj x₁ x₂ _ _ f₁.1 f₂.1 (delimited_fieldsChars xs r₁)
      (delimited_fieldsChars ys r₂) (List.cons.inj hrest).2
    obtain ⟨rfl, hr⟩ := fieldsChars_append_inj xs ys false r₁ r₂ f₁.2 f₂.2 hrest'
    exact ⟨by rw [String.toList_inj.1 hk], hr⟩

end

/-- Documents whose numbers are finite have distinct compact texts. -/
theorem compact_inj {j₁ j₂ : Json} (f₁ : finite j₁) (f₂ : finite j₂)
    (h : compact j₁ = compact j₂) : j₁ = j₂ := by
  have ht := congrArg String.toList h
  rw [toList_compact, toList_compact, ← List.append_nil (chars j₁),
    ← List.append_nil (chars j₂)] at ht
  have hnil : Delimited [] := by simp [Delimited]
  exact (chars_append_inj j₁ j₂ [] [] f₁ f₂ hnil hnil ht).1

end Sift.Json
