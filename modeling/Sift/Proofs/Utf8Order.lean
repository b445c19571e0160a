import Mathlib

/-!
# Strings compare as their UTF-8 bytes

Strings are ordered by their characters' code points, one after another. Stored and sent, they are
UTF-8 bytes, and byte order is the order every map keyed by text uses once it leaves the engine.
The two agree (`string_lt_iff_toUTF8_lt`). A character's encoding starts with a lead byte that
says how many continuation bytes follow and carries the highest bits of the code point. The lead
bytes of longer encodings are larger, and within one length the bytes carry the bits from the
highest down. So two distinct characters differ first at a byte that orders them as their code
points (`utf8EncodeChar_append_lt_iff`), whatever follows them.
-/

namespace Sift

/-- The continuation bytes that carry the low `6 * n` bits of `v`, most significant first:
`10xxxxxx` each. -/
def utf8Continuation : Nat → Nat → List Nat
  | 0, _ => []
  | n + 1, v => utf8Continuation n (v / 64) ++ [128 + v % 64]

/-- Continuation bytes compare as the bits they carry, and after equal bits as what follows. -/
theorem utf8Continuation_append_lt_iff (n : Nat) (v w : Nat) (s t : List Nat) :
    utf8Continuation n v ++ s < utf8Continuation n w ++ t ↔
      v % 64 ^ n < w % 64 ^ n ∨ v % 64 ^ n = w % 64 ^ n ∧ s < t := by
  induction n generalizing v w s t with
  | zero => simp [utf8Continuation, Nat.mod_one]
  | succ n ih =>
    -- the last byte carries the lowest six bits:
    -- `v % 64 ^ (n + 1) = v % 64 + 64 * (v / 64 % 64 ^ n)`
    simp only [utf8Continuation, List.append_assoc, List.singleton_append, ih,
      List.cons_lt_cons_iff, pow_succ', Nat.mod_mul]
    have hv := Nat.mod_lt v (show 64 > 0 by decide)
    have hw := Nat.mod_lt w (show 64 > 0 by decide)
    by_cases hst : s < t <;> simp only [hst, and_true, and_false, or_false] <;> omega

/-- Bytes compare as their values. -/
theorem lt_iff_map_toNat_lt : ∀ (l₁ l₂ : List UInt8),
    l₁ < l₂ ↔ l₁.map UInt8.toNat < l₂.map UInt8.toNat
  | [], [] => by simp
  | [], _ :: _ => by simp
  | _ :: _, [] => by simp
  | a :: l₁, b :: l₂ => by
    simp only [List.map_cons, List.cons_lt_cons_iff, UInt8.lt_iff_toNat_lt, UInt8.toNat_inj,
      lt_iff_map_toNat_lt l₁ l₂]

/-- The bytes of a character's encoding, as numbers: a lead byte that tells how many continuation
bytes follow and carries the highest bits, then the continuation bytes. -/
theorem map_toNat_utf8EncodeChar (c : Char) :
    (String.utf8EncodeChar c).map UInt8.toNat =
      if c.toNat ≤ 127 then [c.toNat]
      else if c.toNat ≤ 2047 then (192 + c.toNat / 64) :: utf8Continuation 1 c.toNat
      else if c.toNat ≤ 65535 then (224 + c.toNat / 4096) :: utf8Continuation 2 c.toNat
      else (240 + c.toNat / 262144) :: utf8Continuation 3 c.toNat := by
  have hc := c.valid
  simp only [UInt32.isValidChar, Nat.isValidChar, Char.toNat_val] at hc
  dsimp only [String.utf8EncodeChar]
  rw [Char.toNat_val]
  split_ifs <;> simp [utf8Continuation, UInt8.toNat_ofNat'] <;> omega

/-- Two distinct characters compare, encoded, as their code points, whatever bytes follow each. -/
theorem utf8EncodeChar_append_lt_iff {c d : Char} (h : c ≠ d) (s t : List UInt8) :
    String.utf8EncodeChar c ++ s < String.utf8EncodeChar d ++ t ↔ c < d := by
  have hne : c.toNat ≠ d.toNat := fun e => h (Char.toNat_inj.1 e)
  rw [lt_iff_map_toNat_lt, List.map_append, List.map_append, map_toNat_utf8EncodeChar,
    map_toNat_utf8EncodeChar, Char.lt_def, UInt32.lt_iff_toNat_lt, Char.toNat_val, Char.toNat_val]
  generalize c.toNat = v at *
  generalize d.toNat = w at *
  -- one case for each length of either encoding; the first byte that differs decides
  by_cases hst : s.map UInt8.toNat < t.map UInt8.toNat
  all_goals
    split_ifs <;>
    simp only [List.cons_append, List.nil_append, List.cons_lt_cons_iff,
      utf8Continuation_append_lt_iff, hst, and_true, and_false, or_false] <;> omega

/-- A common prefix does not change how two lists compare. -/
theorem append_lt_append_left_iff {α : Type} [LT α] [Std.Irrefl (· < · : α → α → Prop)]
    (p : List α) {l₁ l₂ : List α} : p ++ l₁ < p ++ l₂ ↔ l₁ < l₂ := by
  induction p with
  | nil => rfl
  | cons a p ih => simpa using ih

/-- Encoding characters one after another keeps their order. -/
theorem flatMap_utf8EncodeChar_lt_iff : ∀ l₁ l₂ : List Char,
    l₁.flatMap String.utf8EncodeChar < l₂.flatMap String.utf8EncodeChar ↔ l₁ < l₂
  | [], [] => by simp
  | [], d :: r => by
    obtain ⟨b, bs, hb⟩ := List.exists_cons_of_ne_nil (String.utf8EncodeChar_ne_nil (c := d))
    simp [hb]
  | _ :: _, [] => by simp
  | c :: r, d :: r' => by
    rw [List.flatMap_cons, List.flatMap_cons, List.cons_lt_cons_iff]
    by_cases h : c = d
    · subst h
      rw [append_lt_append_left_iff, flatMap_utf8EncodeChar_lt_iff r r']
      simp
    · rw [utf8EncodeChar_append_lt_iff h]
      simp [h]

/-- The bytes of a string are the encodings of its characters, one after another. -/
theorem toUTF8_toList_eq_flatMap (a : String) :
    a.toUTF8.data.toList = a.toList.flatMap String.utf8EncodeChar := by
  rw [String.toUTF8_eq_toByteArray, ← String.utf8Encode_toList, List.utf8Encode,
    List.toList_data_toByteArray]

/-- Strings compare as their UTF-8 bytes. -/
theorem string_lt_iff_toUTF8_lt (a b : String) :
    a < b ↔ a.toUTF8.data.toList < b.toUTF8.data.toList := by
  rw [toUTF8_toList_eq_flatMap, toUTF8_toList_eq_flatMap, flatMap_utf8EncodeChar_lt_iff]
  rfl

end Sift
