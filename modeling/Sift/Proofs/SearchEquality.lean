import Mathlib
import Sift.Search.Query

/-!
# Equality of searches is a partial equivalence

The engine compares searches field by field and their query values structurally, with numbers
compared by value: integers exactly and doubles by IEEE equality, so that `0.0` and `-0.0` agree
and a NaN equals nothing, itself included. This equality is therefore not reflexive, but it is
symmetric and transitive, which is what a history needs to speak of "the" recorded item equal to
a search: two items that both equal a third equal each other.

IEEE equality is read off Lean's logical model of doubles: two doubles are equal when their
unpacked forms compare `eq`, that is when both are zeros, or both are infinities of one sign, or
both are finite with the same sign, mantissa and exponent (`UnpackedFloat.compare_eq_eq_iff`).
From there the laws lift to numbers, to JSON values by structural recursion, and to searches.
-/

namespace Float.Model.UnpackedFloat

/-- What IEEE equality looks at: nothing for a NaN, which equals nothing; one class for all
zeros; the sign of an infinity; sign, mantissa and exponent of a finite value. An infinity's key
never meets a finite one's, whose mantissa is positive. -/
def eqKey : UnpackedFloat → Option (Option (Bool × Nat × Int))
  | .notANumber => none
  | .zero _ => some none
  | .infinity s => some (some (s == .positive, 0, 0))
  | .finite s m e _ => some (some (s == .positive, m, e))

@[simp] theorem Sign.compare_self (s : Sign) : compare s s = .eq := by
  cases s <;> rfl

/-- Two unpacked doubles compare equal exactly when neither is a NaN and their keys agree. -/
theorem compare_eq_eq_iff (a b : UnpackedFloat) :
    a.compare b = some .eq ↔ a.eqKey.isSome ∧ a.eqKey = b.eqKey := by
  -- every constructor and every sign: the comparison is a fixed answer or compares the
  -- exponents, then the mantissas
  rcases a with (_ | _) | _ | (_ | _) | ⟨(_ | _), m, e, hm⟩ <;>
    rcases b with (_ | _) | _ | (_ | _) | ⟨(_ | _), n, f, hn⟩ <;>
    simp [UnpackedFloat.compare, eqKey, Ordering.then_eq_eq, and_comm] <;> omega

theorem compare_eq_symm {a b : UnpackedFloat} (h : a.compare b = some .eq) :
    b.compare a = some .eq := by
  rw [compare_eq_eq_iff] at h ⊢
  exact ⟨h.2 ▸ h.1, h.2.symm⟩

theorem compare_eq_trans {a b c : UnpackedFloat} (h₁ : a.compare b = some .eq)
    (h₂ : b.compare c = some .eq) : a.compare c = some .eq := by
  rw [compare_eq_eq_iff] at h₁ h₂ ⊢
  exact ⟨h₁.1, h₁.2.trans h₂.2⟩

end Float.Model.UnpackedFloat

namespace Sift

open Float.Model

/-- IEEE equality of doubles is the comparison of their unpacked forms. -/
theorem float_beq_iff_compare (a b : Float) :
    (a == b) = true ↔ a.toModel.unpack.compare b.toModel.unpack = some .eq :=
  show (a.toModel.unpack.compare b.toModel.unpack == some .eq) = true ↔ _ from beq_iff_eq

/-- IEEE equality of doubles is symmetric and transitive (but not reflexive: NaN). -/
instance floatPartialEquivBEq : PartialEquivBEq Float where
  symm h := (float_beq_iff_compare _ _).2
    (UnpackedFloat.compare_eq_symm ((float_beq_iff_compare _ _).1 h))
  trans h₁ h₂ := (float_beq_iff_compare _ _).2
    (UnpackedFloat.compare_eq_trans ((float_beq_iff_compare _ _).1 h₁)
      ((float_beq_iff_compare _ _).1 h₂))

namespace Json

namespace Number

theorem sameAs_comm (a b : Number) : a.sameAs b = b.sameAs a := by
  cases a <;> cases b <;> simp only [sameAs, Bool.beq_comm, BEq.comm]

theorem sameAs_trans {a b c : Number} (h₁ : a.sameAs b = true) (h₂ : b.sameAs c = true) :
    a.sameAs c = true := by
  cases a <;> cases b <;> cases c <;> simp only [sameAs, Bool.false_eq_true] at h₁ h₂ ⊢
  · exact BEq.trans h₁ h₂
  · exact PartialEquivBEq.trans h₁ h₂

end Number

mutual

theorem sameAs_comm : ∀ a b : Json, sameAs a b = sameAs b a
  | .null, b => by cases b <;> rfl
  | .bool x, b => by cases b <;> simp only [sameAs, Bool.beq_comm]
  | .num x, b => by cases b <;> simp only [sameAs, Number.sameAs_comm x]
  | .str x, b => by cases b <;> simp only [sameAs, Bool.beq_comm]
  | .arr xs, b => by
    cases b with
    | arr ys => simp only [sameAs]; exact sameItems_comm xs ys
    | _ => simp [sameAs]
  | .obj xs, b => by
    cases b with
    | obj ys => simp only [sameAs]; exact sameFields_comm xs ys
    | _ => simp [sameAs]

theorem sameItems_comm : ∀ xs ys : List Json, sameItems xs ys = sameItems ys xs
  | [], [] => rfl
  | [], _ :: _ => rfl
  | _ :: _, [] => rfl
  | x :: xs, y :: ys => by
    simp only [sameItems]
    rw [sameAs_comm x y, sameItems_comm xs ys]

theorem sameFields_comm : ∀ xs ys : List (String × Json), sameFields xs ys = sameFields ys xs
  | [], [] => rfl
  | [], _ :: _ => rfl
  | _ :: _, [] => rfl
  | (k, x) :: xs, (l, y) :: ys => by
    simp only [sameFields]
    rw [Bool.beq_comm, sameAs_comm x y, sameFields_comm xs ys]

end

mutual

theorem sameAs_trans : ∀ {a b c : Json}, sameAs a b = true → sameAs b c = true →
    sameAs a c = true
  | .arr xs, b, c, h₁, h₂ => by
    cases b with
    | arr ys =>
      cases c with
      | arr zs => simp only [sameAs] at h₁ h₂ ⊢; exact sameItems_trans h₁ h₂
      | _ => simp [sameAs] at h₂
    | _ => simp [sameAs] at h₁
  | .obj xs, b, c, h₁, h₂ => by
    cases b with
    | obj ys =>
      cases c with
      | obj zs => simp only [sameAs] at h₁ h₂ ⊢; exact sameFields_trans h₁ h₂
      | _ => simp [sameAs] at h₂
    | _ => simp [sameAs] at h₁
  | .num x, b, c, h₁, h₂ => by
    cases b <;> cases c <;> simp only [sameAs, Bool.false_eq_true] at h₁ h₂ ⊢
    exact Number.sameAs_trans h₁ h₂
  -- the other scalars are equal exactly when `==` says so
  | .null, b, c, h₁, h₂ | .bool _, b, c, h₁, h₂ | .str _, b, c, h₁, h₂ => by
    cases b <;> cases c <;> simp_all [sameAs]

theorem sameItems_trans : ∀ {xs ys zs : List Json}, sameItems xs ys = true →
    sameItems ys zs = true → sameItems xs zs = true
  | [], [], [], _, _ => rfl
  | x :: xs, y :: ys, z :: zs, h₁, h₂ => by
    simp only [sameItems, Bool.and_eq_true] at h₁ h₂ ⊢
    exact ⟨sameAs_trans h₁.1 h₂.1, sameItems_trans h₁.2 h₂.2⟩
  | [], _ :: _, _, h₁, _ | _ :: _, [], _, h₁, _ => by simp [sameItems] at h₁
  | [], [], _ :: _, _, h₂ | _ :: _, _ :: _, [], _, h₂ => by simp [sameItems] at h₂

theorem sameFields_trans : ∀ {xs ys zs : List (String × Json)}, sameFields xs ys = true →
    sameFields ys zs = true → sameFields xs zs = true
  | [], [], [], _, _ => rfl
  | (k, x) :: xs, (l, y) :: ys, (m, z) :: zs, h₁, h₂ => by
    simp only [sameFields, Bool.and_eq_true, beq_iff_eq] at h₁ h₂ ⊢
    exact ⟨⟨h₁.1.1.trans h₂.1.1, sameAs_trans h₁.1.2 h₂.1.2⟩, sameFields_trans h₁.2 h₂.2⟩
  | [], _ :: _, _, h₁, _ | _ :: _, [], _, h₁, _ => by simp [sameFields] at h₁
  | [], [], _ :: _, _, h₂ | _ :: _, _ :: _, [], _, h₂ => by simp [sameFields] at h₂

end

end Json

namespace SearchQuery

theorem sameAs_comm (a b : SearchQuery) : a.sameAs b = b.sameAs a := by
  obtain ⟨i, q, f, n, o⟩ := a
  obtain ⟨i', q', f', n', o'⟩ := b
  cases o <;> cases o' <;> simp only [sameAs, Bool.beq_comm, Json.sameAs_comm]

theorem sameAs_trans {a b c : SearchQuery} (h₁ : a.sameAs b = true) (h₂ : b.sameAs c = true) :
    a.sameAs c = true := by
  obtain ⟨i, q, f, n, o⟩ := a
  obtain ⟨i', q', f', n', o'⟩ := b
  obtain ⟨i'', q'', f'', n'', o''⟩ := c
  simp only [sameAs, Bool.and_eq_true, beq_iff_eq] at h₁ h₂ ⊢
  obtain ⟨⟨⟨⟨rfl, hq₁⟩, rfl⟩, rfl⟩, ho₁⟩ := h₁
  obtain ⟨⟨⟨⟨rfl, hq₂⟩, rfl⟩, rfl⟩, ho₂⟩ := h₂
  refine ⟨⟨⟨⟨rfl, Json.sameAs_trans hq₁ hq₂⟩, rfl⟩, rfl⟩, ?_⟩
  -- the sorts: both absent, or all three present and equal as arrays
  cases o <;> cases o' <;> cases o'' <;> simp only [Bool.false_eq_true] at ho₁ ho₂ ⊢
  exact Json.sameAs_trans ho₁ ho₂

end SearchQuery

end Sift
