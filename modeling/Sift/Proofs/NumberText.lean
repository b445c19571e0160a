import Sift.Json.Number
import Sift.Proofs.ShortestDecimal

/-!
# The text of a number determines the number

Integers print in decimal, with a minus sign when negative. Doubles print their sign, then
`0.0` for zero and the shortest decimal of the magnitude otherwise, in positional or scientific
notation. Every double's text holds a point or an exponent, and no integer's does, so `1` and
`1.0` differ.

For doubles the text is read back exactly (`readDecimal`): the digits around the point give a
rational, the exponent after `e` scales it. Reading a rendered decimal gives its value
(`readDecimal_render`), and by `Binary.eq_of_shortest_value_eq` that value fixes the magnitude
of a finite double, so `Number.render` is injective on finite numbers (`Number.render_inj`).
-/

namespace Sift.Json

/-! ## Reading a decimal text -/

/-- The exponent after `e`: digits with an optional sign. -/
def readSignedExponent : List Char → ℤ
  | [] => 0
  | c :: ds =>
    if c = '-' then -(Nat.ofDigitChars 10 ds 0 : ℤ)
    else if c = '+' then Nat.ofDigitChars 10 ds 0
    else Nat.ofDigitChars 10 (c :: ds) 0

/-- The value of digits with an optional fraction after a point. -/
def readMantissa (t : List Char) : ℚ :=
  let int := t.takeWhile (· != '.')
  let frac := (t.dropWhile (· != '.')).drop 1
  (Nat.ofDigitChars 10 (int ++ frac) 0 : ℚ) / 10 ^ frac.length

/-- The value of a decimal text: a mantissa, then an optional exponent after `e`. -/
def readDecimal (t : List Char) : ℚ :=
  readMantissa (t.takeWhile (· != 'e')) * 10 ^ readSignedExponent ((t.dropWhile (· != 'e')).drop 1)

section Separators

variable {c : Char} {l r : List Char}

theorem bne_of_not_mem (h : c ∉ l) : ∀ x ∈ l, (x != c) = true := by
  intro x hx
  rw [bne_iff_ne]
  rintro rfl
  exact h hx

theorem takeWhile_bne_of_not_mem (h : c ∉ l) : l.takeWhile (· != c) = l :=
  List.takeWhile_eq_self_iff.2 (bne_of_not_mem h)

theorem dropWhile_bne_of_not_mem (h : c ∉ l) : l.dropWhile (· != c) = [] :=
  List.dropWhile_eq_nil_iff.2 (bne_of_not_mem h)

theorem takeWhile_bne_append (h : c ∉ l) : (l ++ c :: r).takeWhile (· != c) = l := by
  rw [List.takeWhile_append_of_pos (bne_of_not_mem h), List.takeWhile_cons_of_neg (by simp),
    List.append_nil]

theorem dropWhile_bne_append (h : c ∉ l) : (l ++ c :: r).dropWhile (· != c) = c :: r := by
  rw [List.dropWhile_append, dropWhile_bne_of_not_mem h, if_pos List.isEmpty_nil,
    List.dropWhile_cons_of_neg (by simp)]

end Separators

theorem readDecimal_of_not_mem {t : List Char} (h : 'e' ∉ t) : readDecimal t = readMantissa t := by
  simp [readDecimal, takeWhile_bne_of_not_mem h, dropWhile_bne_of_not_mem h, readSignedExponent]

theorem readDecimal_append_exponent {m x : List Char} (h : 'e' ∉ m) :
    readDecimal (m ++ 'e' :: x) = readMantissa m * 10 ^ readSignedExponent x := by
  simp only [readDecimal, takeWhile_bne_append h, dropWhile_bne_append h, List.drop_succ_cons,
    List.drop_zero]

theorem readMantissa_of_not_mem {t : List Char} (h : '.' ∉ t) :
    readMantissa t = Nat.ofDigitChars 10 t 0 := by
  simp [readMantissa, takeWhile_bne_of_not_mem h, dropWhile_bne_of_not_mem h]

theorem readMantissa_point {int frac : List Char} (h : '.' ∉ int) :
    readMantissa (int ++ '.' :: frac) = (Nat.ofDigitChars 10 (int ++ frac) 0 : ℚ) / 10 ^ frac.length := by
  simp only [readMantissa, takeWhile_bne_append h, dropWhile_bne_append h, List.drop_succ_cons,
    List.drop_zero]

/-! ## Digits -/

/-- Leading zeros add nothing. -/
theorem ofDigitChars_replicate_zero_append (k : Nat) (ds : List Char) :
    Nat.ofDigitChars 10 (List.replicate k '0' ++ ds) 0 = Nat.ofDigitChars 10 ds 0 := by
  rw [Nat.ofDigitChars_append, Nat.ofDigitChars_replicate_zero, Nat.mul_zero]

/-- Trailing zeros multiply by ten each. -/
theorem ofDigitChars_append_replicate_zero (ds : List Char) (k : Nat) :
    Nat.ofDigitChars 10 (ds ++ List.replicate k '0') 0 = 10 ^ k * Nat.ofDigitChars 10 ds 0 := by
  rw [Nat.ofDigitChars_append, Nat.ofDigitChars_replicate_zero]

/-- The decimal digits of a number: digit characters, at least one, reading as the number. -/
structure DigitText (ds : List Char) (n : Nat) : Prop where
  isDigit : ∀ c ∈ ds, c.isDigit
  ne_nil : ds ≠ []
  value : Nat.ofDigitChars 10 ds 0 = n

theorem digitText_toDigits (n : Nat) : DigitText (Nat.toDigits 10 n) n :=
  ⟨fun _ hc => Nat.isDigit_of_mem_toDigits (by norm_num) (by norm_num) hc, Nat.toDigits_ne_nil,
    Nat.ofDigitChars_ten_toDigits⟩

theorem toList_toString_nat (n : Nat) : (toString n).toList = Nat.toDigits 10 n := by
  rw [Nat.toString_eq_repr, Nat.toList_repr]

/-! ## The shapes of a rendered decimal -/

/-- The texts of a decimal `digits * 10^exp` over the digits `ds` of `digits`: positional and
integral, positional with the point inside the digits, positional below one, or scientific. -/
inductive DecimalText : List Char → Decimal.Scientific → Prop
  | integral {ds : List Char} {s : Decimal.Scientific} (k : Nat) (hds : DigitText ds s.digits)
      (hexp : s.exp = k) : DecimalText (ds ++ List.replicate k '0' ++ ['.', '0']) s
  | fraction {ds : List Char} {s : Decimal.Scientific} (p : Nat) (hds : DigitText ds s.digits)
      (hp : 0 < p) (hexp : s.exp = -((ds.length - p : Nat) : ℤ)) :
      DecimalText (ds.take p ++ '.' :: ds.drop p) s
  | small {ds : List Char} {s : Decimal.Scientific} (q : Nat) (hds : DigitText ds s.digits)
      (hexp : s.exp = -((q + ds.length : Nat) : ℤ)) :
      DecimalText ('0' :: '.' :: (List.replicate q '0' ++ ds)) s
  | scientific {c : Char} {rest : List Char} {s : Decimal.Scientific} (lead : ℤ) (sign : Char)
      (hds : DigitText (c :: rest) s.digits) (hlead : lead = rest.length + s.exp)
      (hsign : sign = if lead < 0 then '-' else '+') :
      DecimalText ((c :: if rest = [] then [] else '.' :: rest) ++
        'e' :: sign :: Nat.toDigits 10 lead.natAbs) s

/-- Every decimal renders in one of the four shapes. -/
theorem render_decimalText (s : Decimal.Scientific) :
    DecimalText (FloatStyle.json.render s).toList s := by
  have hlen : ((toString s.digits).length : ℤ) = (Nat.toDigits 10 s.digits).length := by
    rw [← String.length_toList, toList_toString_nat]
  simp only [FloatStyle.render, FloatStyle.json, hlen, apply_ite String.toList,
    String.toList_append, String.toList_ofList, toList_toString_nat, zeros, String.reduceToList]
  have hD := digitText_toDigits s.digits
  generalize Nat.toDigits 10 s.digits = ds at hD ⊢
  obtain ⟨c, rest, rfl⟩ := List.exists_cons_of_ne_nil hD.ne_nil
  simp only [List.length_cons, Nat.cast_add, Nat.cast_one]
  split_ifs with hpos hexp hpt hneg
  · -- positional and integral
    exact .integral s.exp.toNat hD (by omega)
  · -- the point falls inside the digits
    rw [List.append_assoc, List.singleton_append]
    refine .fraction (((rest.length : ℤ) + 1 + s.exp).toNat) hD (by omega) ?_
    simp only [List.length_cons]
    omega
  · -- below one: a point, then zeros
    rw [List.append_assoc, List.cons_append, List.cons_append, List.nil_append]
    exact .small (-((rest.length : ℤ) + 1 + s.exp)).toNat hD (by simp only [List.length_cons]; omega)
  -- scientific: one digit, then the others after a point
  all_goals have hlead : (rest.length : ℤ) + 1 + s.exp - 1 = rest.length + s.exp := by ring
  all_goals rw [hlead] at hneg ⊢
  · rcases rest with _ | ⟨c', rest⟩
    · simpa using DecimalText.scientific _ '-' hD rfl (if_pos hneg).symm
    · simpa using DecimalText.scientific _ '-' hD rfl (if_pos hneg).symm
  · rcases rest with _ | ⟨c', rest⟩
    · simpa using DecimalText.scientific _ '+' hD rfl (if_neg hneg).symm
    · simpa using DecimalText.scientific _ '+' hD rfl (if_neg hneg).symm

/-! ## Reading a rendered decimal back -/

theorem DigitText.not_mem {ds : List Char} {n : Nat} (h : DigitText ds n) (x : Char)
    (hx : x.isDigit = false) : x ∉ ds :=
  fun hm => absurd (h.isDigit x hm) (by rw [hx]; decide)

theorem readSignedExponent_sign (lead : ℤ) :
    readSignedExponent ((if lead < 0 then '-' else '+') :: Nat.toDigits 10 lead.natAbs) = lead := by
  split
  case isTrue hneg =>
    simp only [readSignedExponent, if_true, Nat.ofDigitChars_ten_toDigits]
    omega
  case isFalse hnn =>
    simp only [readSignedExponent, Nat.ofDigitChars_ten_toDigits]
    simp only [show ('+' : Char) ≠ '-' by decide, if_false, if_true]
    omega

/-- `d / 10^n` scaled by `10^(n + e)` is `d * 10^e`. -/
theorem div_pow_mul_zpow (d : ℚ) (n : Nat) (e : ℤ) :
    d / 10 ^ n * 10 ^ ((n : ℤ) + e) = d * 10 ^ e := by
  rw [zpow_add₀ (by norm_num), zpow_natCast]
  field_simp

/-- A character of a scientific mantissa, one digit and then the others after a point, is one
of the digits or the point. -/
theorem mem_scientific_mantissa {x c : Char} {rest : List Char}
    (h : x ∈ (c :: if rest = [] then [] else '.' :: rest)) : x ∈ c :: rest ∨ x = '.' := by
  split at h
  case isTrue hnil =>
    subst hnil
    exact .inl h
  case isFalse =>
    simp only [List.mem_cons] at h ⊢
    rcases h with h | h | h
    · exact .inl (.inl h)
    · exact .inr h
    · exact .inl (.inr h)

/-- A scientific mantissa reads as its digits over ten to the number of them after the point. -/
theorem readMantissa_scientific {c : Char} {rest : List Char} (hc : c.isDigit) :
    readMantissa (c :: if rest = [] then [] else '.' :: rest) =
      (Nat.ofDigitChars 10 (c :: rest) 0 : ℚ) / 10 ^ rest.length := by
  have hcdot : '.' ∉ [c] := by
    rw [List.mem_singleton]
    rintro rfl
    exact absurd hc (by decide)
  split
  case isTrue hnil =>
    subst hnil
    rw [readMantissa_of_not_mem hcdot]
    simp
  case isFalse =>
    rw [show c :: '.' :: rest = [c] ++ '.' :: rest from rfl, readMantissa_point hcdot]
    rfl

/-- A rendered decimal reads back as its value. -/
theorem DecimalText.readDecimal_eq {t : List Char} {s : Decimal.Scientific}
    (h : DecimalText t s) : readDecimal t = s.value := by
  cases h with
  | @integral ds _ k hds hexp =>
    have he : 'e' ∉ ds ++ List.replicate k '0' ++ ['.', '0'] := by
      simp [hds.not_mem 'e' rfl, List.mem_replicate]
    have hp : '.' ∉ ds ++ List.replicate k '0' := by
      simp [hds.not_mem '.' rfl, List.mem_replicate]
    rw [readDecimal_of_not_mem he, readMantissa_point hp,
      show ['0'] = List.replicate 1 '0' from rfl, ofDigitChars_append_replicate_zero,
      ofDigitChars_append_replicate_zero, hds.value, Decimal.Scientific.value, hexp, zpow_natCast,
      List.length_replicate]
    push_cast
    ring
  | @fraction ds _ p hds hp hexp =>
    have he : 'e' ∉ ds.take p ++ '.' :: ds.drop p := by
      simp only [List.mem_append, List.mem_cons, not_or]
      exact ⟨fun hm => hds.not_mem 'e' rfl (List.mem_of_mem_take hm), by decide,
        fun hm => hds.not_mem 'e' rfl (List.mem_of_mem_drop hm)⟩
    rw [readDecimal_of_not_mem he,
      readMantissa_point fun hm => hds.not_mem '.' rfl (List.mem_of_mem_take hm),
      List.take_append_drop, hds.value, List.length_drop, Decimal.Scientific.value, hexp,
      zpow_neg, zpow_natCast, div_eq_mul_inv]
  | @small ds _ q hds hexp =>
    have he : 'e' ∉ '0' :: '.' :: (List.replicate q '0' ++ ds) := by
      simp [hds.not_mem 'e' rfl, List.mem_replicate]
    rw [readDecimal_of_not_mem he, show '0' :: '.' :: (List.replicate q '0' ++ ds) =
      ['0'] ++ '.' :: (List.replicate q '0' ++ ds) from rfl, readMantissa_point (by decide),
      ← List.append_assoc, show ['0'] = List.replicate 1 '0' from rfl, List.replicate_append_replicate,
      ofDigitChars_replicate_zero_append, hds.value, List.length_append, List.length_replicate,
      Decimal.Scientific.value, hexp, zpow_neg, zpow_natCast, div_eq_mul_inv]
  | @scientific c rest _ lead sign hds hlead hsign =>
    -- the mantissa holds digits and perhaps a point, so the first `e` starts the exponent
    have he : 'e' ∉ (c :: if rest = [] then [] else '.' :: rest) := fun hm =>
      (mem_scientific_mantissa hm).elim (hds.not_mem 'e' rfl) (by decide)
    rw [readDecimal_append_exponent he, readMantissa_scientific (hds.isDigit c List.mem_cons_self),
      hsign, readSignedExponent_sign, hds.value, hlead, div_pow_mul_zpow]
    rfl

/-! ## What a number's text is made of -/

/-- The characters numbers are written in. -/
def numberChar (c : Char) : Bool :=
  c.isDigit || c == '-' || c == '+' || c == '.' || c == 'e'

theorem numberChar_of_isDigit {c : Char} (h : c.isDigit) : numberChar c := by
  simp [numberChar, h]

theorem DigitText.numberChar {ds : List Char} {n : Nat} (h : DigitText ds n) :
    ∀ x ∈ ds, numberChar x :=
  fun x hx => numberChar_of_isDigit (h.isDigit x hx)

theorem numberChar_of_mem_replicate {k : Nat} : ∀ x ∈ List.replicate k '0', numberChar x := by
  intro x hx
  rw [(List.mem_replicate.1 hx).2]
  rfl

theorem numberChar_of_mem_toDigits {n : Nat} : ∀ x ∈ Nat.toDigits 10 n, numberChar x :=
  (digitText_toDigits n).numberChar

namespace DecimalText

variable {t : List Char} {s : Decimal.Scientific}

/-- A rendered decimal starts with a digit. -/
theorem head (h : DecimalText t s) : ∃ c r, t = c :: r ∧ c.isDigit := by
  cases h with
  | @integral ds _ k hds _ =>
    obtain ⟨c, r, rfl⟩ := List.exists_cons_of_ne_nil hds.ne_nil
    exact ⟨c, _, rfl, hds.isDigit c List.mem_cons_self⟩
  | @fraction ds _ p hds hp _ =>
    -- the point comes after at least one digit
    obtain ⟨c, r, rfl⟩ := List.exists_cons_of_ne_nil hds.ne_nil
    obtain ⟨p, rfl⟩ := Nat.exists_eq_add_of_lt hp
    exact ⟨c, _, rfl, hds.isDigit c List.mem_cons_self⟩
  | small q hds _ =>
    exact ⟨'0', _, rfl, rfl⟩
  | @scientific c rest _ _ _ hds _ _ =>
    exact ⟨c, _, rfl, hds.isDigit c List.mem_cons_self⟩

/-- A rendered decimal is written in number characters. -/
theorem numberChar_of_mem (h : DecimalText t s) : ∀ x ∈ t, numberChar x := by
  cases h with
  | @integral ds _ k hds _ =>
    simp only [List.forall_mem_append, List.forall_mem_cons]
    exact ⟨⟨hds.numberChar, numberChar_of_mem_replicate⟩, rfl, rfl, by simp⟩
  | @fraction ds _ p hds _ _ =>
    simp only [List.forall_mem_append, List.forall_mem_cons]
    exact ⟨fun x hx => hds.numberChar x (List.mem_of_mem_take hx), rfl,
      fun x hx => hds.numberChar x (List.mem_of_mem_drop hx)⟩
  | @small ds _ q hds _ =>
    simp only [List.forall_mem_append, List.forall_mem_cons]
    exact ⟨rfl, rfl, numberChar_of_mem_replicate, hds.numberChar⟩
  | @scientific c rest _ lead sign hds _ hsign =>
    have hs : numberChar sign := by
      rw [hsign]
      split <;> rfl
    refine List.forall_mem_append.2 ⟨fun x hx => ?_, ?_⟩
    · rcases mem_scientific_mantissa hx with hdigit | rfl
      · exact hds.numberChar x hdigit
      · rfl
    · simp only [List.forall_mem_cons]
      exact ⟨rfl, hs, numberChar_of_mem_toDigits⟩

/-- A rendered decimal holds a point or an exponent. -/
theorem marker (h : DecimalText t s) : '.' ∈ t ∨ 'e' ∈ t := by
  cases h <;> simp

end DecimalText

/-! ## The texts of integers -/

theorem toList_toString_int (i : Int) :
    (toString i).toList =
      if 0 ≤ i then Nat.toDigits 10 i.natAbs else '-' :: Nat.toDigits 10 i.natAbs := by
  cases i with
  | ofNat m =>
    simp [toString, Int.repr, Nat.toList_repr]
  | negSucc m =>
    simp [toString, Int.repr, Nat.toList_repr]

/-- An integer's text is its digits, after a minus sign when negative. -/
theorem toString_int_inj {i₁ i₂ : Int} (h : toString i₁ = toString i₂) : i₁ = i₂ := by
  have ht := congrArg String.toList h
  rw [toList_toString_int, toList_toString_int] at ht
  -- digits never start with the minus sign
  have hhead : ∀ n : Nat, ∀ r, Nat.toDigits 10 n ≠ '-' :: r := by
    intro n r hn
    have := (digitText_toDigits n).isDigit '-' (by rw [hn]; exact List.mem_cons_self)
    exact absurd this (by decide)
  have habs : ∀ {a b : Nat}, Nat.toDigits 10 a = Nat.toDigits 10 b → a = b := by
    intro a b hab
    rw [← (digitText_toDigits a).value, ← (digitText_toDigits b).value, hab]
  split at ht <;> split at ht
  · have := habs ht
    omega
  · exact absurd ht (hhead _ _)
  · exact absurd ht.symm (hhead _ _)
  · have := habs (List.cons.inj ht).2
    omega

/-- Integers print neither a point nor an exponent. -/
theorem toString_int_no_marker (i : Int) :
    '.' ∉ (toString i).toList ∧ 'e' ∉ (toString i).toList := by
  have hd := (digitText_toDigits i.natAbs).not_mem
  rw [toList_toString_int]
  split
  · exact ⟨hd '.' rfl, hd 'e' rfl⟩
  · simp only [List.mem_cons, not_or]
    exact ⟨⟨by decide, hd '.' rfl⟩, ⟨by decide, hd 'e' rfl⟩⟩

/-! ## The texts of doubles -/

/-- The decimal a double's text writes for its magnitude: zero, or the shortest decimal. -/
def magnitudeDecimal (bits : UInt64) : Decimal.Scientific :=
  if bits &&& 0x7FFFFFFFFFFFFFFF == 0 then ⟨0, 0⟩
  else Decimal.shortest (Decimal.Binary.ofBits bits)

/-- A double prints its sign, then its magnitude as a decimal; zero prints as `0 * 10^0`. -/
theorem renderBits_eq (bits : UInt64) :
    FloatStyle.json.renderBits bits =
      (if bits >>> 63 == 1 then "-" else "") ++ FloatStyle.json.render (magnitudeDecimal bits) := by
  have hzero : "0" ++ FloatStyle.json.integralSuffix = FloatStyle.json.render ⟨0, 0⟩ := by decide
  simp only [FloatStyle.renderBits, magnitudeDecimal]
  by_cases hz : (bits &&& 0x7FFFFFFFFFFFFFFF == 0) = true
  · rw [if_pos hz, if_pos hz, hzero]
    split <;> simp
  · rw [if_neg hz, if_neg hz]
    split <;> simp

theorem zero_bits_eq (bits : UInt64) :
    (bits &&& 0x7FFFFFFFFFFFFFFF == 0) = decide (bits.toNat % 2 ^ 63 = 0) := by
  rw [Bool.eq_iff_iff, beq_iff_eq, decide_eq_true_iff, ← UInt64.toNat_inj, UInt64.toNat_and,
    show (0x7FFFFFFFFFFFFFFF : UInt64).toNat = 2 ^ 63 - 1 from rfl, Nat.and_two_pow_sub_one_eq_mod]
  rfl

theorem sign_bits_eq (bits : UInt64) : (bits >>> 63 == 1) = decide (2 ^ 63 ≤ bits.toNat) := by
  rw [Bool.eq_iff_iff, beq_iff_eq, decide_eq_true_iff, ← UInt64.toNat_inj,
    UInt64.toNat_shiftRight, show (63 : UInt64).toNat % 64 = 63 from rfl,
    Nat.shiftRight_eq_div_pow]
  have := UInt64.toNat_lt bits
  simp only [UInt64.reduceToNat]
  omega

/-- Bits are their sign and their magnitude. -/
theorem eq_of_sign_magnitude {b₁ b₂ : UInt64} (hs : 2 ^ 63 ≤ b₁.toNat ↔ 2 ^ 63 ≤ b₂.toNat)
    (hm : b₁.toNat % 2 ^ 63 = b₂.toNat % 2 ^ 63) : b₁ = b₂ := by
  have h₁ := UInt64.toNat_lt b₁
  have h₂ := UInt64.toNat_lt b₂
  rw [← UInt64.toNat_inj]
  omega

theorem magnitudeDecimal_value (bits : UInt64) :
    (magnitudeDecimal bits).value =
      if bits.toNat % 2 ^ 63 = 0 then 0
      else (Decimal.shortest (Decimal.Binary.ofMagnitude (bits.toNat % 2 ^ 63))).value := by
  unfold magnitudeDecimal
  rw [zero_bits_eq, Decimal.Binary.ofBits_eq_ofMagnitude]
  split_ifs <;> simp_all [Decimal.Scientific.value]

/-- A number is finite unless it is a double whose exponent bits are all ones: an infinity or
a NaN. -/
def Number.finite : Number → Bool
  | .int _ => true
  | .float bits => (bits >>> 52) &&& 0x7FF != 0x7FF

theorem Number.finite_float_iff (bits : UInt64) :
    (Number.float bits).finite ↔ bits.toNat % 2 ^ 63 < 2047 * 2 ^ 52 := by
  have hlt : bits.toNat % 2 ^ 63 < 2 ^ 63 := Nat.mod_lt _ (by norm_num)
  simp only [Number.finite, bne_iff_ne, ne_eq, ← UInt64.toNat_inj, Decimal.toNat_exponent_bits,
    UInt64.reduceToNat]
  omega

/-- The value of the decimal a finite double writes for its magnitude fixes the magnitude: zero
is the only magnitude of value zero, and the others have disjoint rounding intervals. -/
theorem magnitude_eq_of_value_eq {b₁ b₂ : UInt64} (f₁ : b₁.toNat % 2 ^ 63 < 2047 * 2 ^ 52)
    (f₂ : b₂.toNat % 2 ^ 63 < 2047 * 2 ^ 52)
    (hv : (magnitudeDecimal b₁).value = (magnitudeDecimal b₂).value) :
    b₁.toNat % 2 ^ 63 = b₂.toNat % 2 ^ 63 := by
  rw [magnitudeDecimal_value, magnitudeDecimal_value] at hv
  by_cases h₁ : b₁.toNat % 2 ^ 63 = 0 <;> by_cases h₂ : b₂.toNat % 2 ^ 63 = 0
  · omega
  · -- zero against a positive value
    rw [if_pos h₁, if_neg h₂] at hv
    exact absurd hv (Decimal.Binary.shortest_value_pos (by omega)).ne
  · rw [if_neg h₁, if_pos h₂] at hv
    exact absurd hv (Decimal.Binary.shortest_value_pos (by omega)).ne'
  · rw [if_neg h₁, if_neg h₂] at hv
    exact Decimal.Binary.eq_of_shortest_value_eq (by omega) (by omega) f₁ f₂ hv

/-- An optional minus sign before a text that starts with a digit is told by the first
character. -/
theorem signed_append_inj {s₁ s₂ : Bool} {t₁ t₂ : List Char}
    (hd₁ : ∃ c r, t₁ = c :: r ∧ c.isDigit) (hd₂ : ∃ c r, t₂ = c :: r ∧ c.isDigit)
    (h : (if s₁ then "-" else "").toList ++ t₁ = (if s₂ then "-" else "").toList ++ t₂) :
    s₁ = s₂ ∧ t₁ = t₂ := by
  obtain ⟨c₁, r₁, rfl, hc₁⟩ := hd₁
  obtain ⟨c₂, r₂, rfl, hc₂⟩ := hd₂
  cases s₁ <;> cases s₂ <;>
    simp only [Bool.false_eq_true, if_false, if_true, String.reduceToList, List.nil_append,
      List.cons_append] at h
  · exact ⟨rfl, h⟩
  · rw [(List.cons.inj h).1] at hc₁
    exact absurd hc₁ (by decide)
  · rw [← (List.cons.inj h).1] at hc₂
    exact absurd hc₂ (by decide)
  · exact ⟨rfl, (List.cons.inj h).2⟩

/-- Finite doubles print differently. -/
theorem renderBits_inj {b₁ b₂ : UInt64} (f₁ : b₁.toNat % 2 ^ 63 < 2047 * 2 ^ 52)
    (f₂ : b₂.toNat % 2 ^ 63 < 2047 * 2 ^ 52)
    (h : FloatStyle.json.renderBits b₁ = FloatStyle.json.renderBits b₂) : b₁ = b₂ := by
  have ht := congrArg String.toList h
  rw [renderBits_eq, renderBits_eq, String.toList_append, String.toList_append] at ht
  -- the first character tells the sign: a minus, or the decimal's leading digit
  obtain ⟨hs, hd⟩ := signed_append_inj (render_decimalText _).head (render_decimalText _).head ht
  -- the decimals read back as the same value, which fixes the magnitude
  have hv : (magnitudeDecimal b₁).value = (magnitudeDecimal b₂).value := by
    rw [← (render_decimalText _).readDecimal_eq, ← (render_decimalText _).readDecimal_eq, hd]
  rw [sign_bits_eq, sign_bits_eq] at hs
  exact eq_of_sign_magnitude (decide_eq_decide.1 hs) (magnitude_eq_of_value_eq f₁ f₂ hv)

/-- A double's text holds a point or an exponent. -/
theorem renderBits_marker (bits : UInt64) :
    '.' ∈ (FloatStyle.json.renderBits bits).toList ∨ 'e' ∈ (FloatStyle.json.renderBits bits).toList := by
  rw [renderBits_eq, String.toList_append]
  rcases (render_decimalText (magnitudeDecimal bits)).marker with h | h
  · exact .inl (List.mem_append_right _ h)
  · exact .inr (List.mem_append_right _ h)

/-! ## The text of a number -/

namespace Number

/-- A number's text starts with a digit or a minus sign. -/
theorem render_head (n : Number) : ∃ c r, n.render.toList = c :: r ∧ (c.isDigit ∨ c = '-') := by
  cases n with
  | int i =>
    obtain ⟨c, r, hcr⟩ := List.exists_cons_of_ne_nil (digitText_toDigits i.natAbs).ne_nil
    have hc := (digitText_toDigits i.natAbs).isDigit c (by rw [hcr]; exact List.mem_cons_self)
    simp only [render, toList_toString_int]
    split
    · exact ⟨c, r, hcr, .inl hc⟩
    · exact ⟨'-', _, rfl, .inr rfl⟩
  | float bits =>
    obtain ⟨c, r, hcr, hc⟩ := (render_decimalText (magnitudeDecimal bits)).head
    simp only [render, renderBits_eq, String.toList_append, hcr]
    split
    · exact ⟨'-', _, rfl, .inr rfl⟩
    · exact ⟨c, r, rfl, .inl hc⟩

/-- A number's text is written in number characters. -/
theorem numberChar_of_mem_render (n : Number) : ∀ x ∈ n.render.toList, numberChar x := by
  cases n with
  | int i =>
    simp only [render, toList_toString_int]
    split
    · exact numberChar_of_mem_toDigits
    · simp only [List.forall_mem_cons]
      exact ⟨rfl, numberChar_of_mem_toDigits⟩
  | float bits =>
    simp only [render, renderBits_eq, String.toList_append, List.forall_mem_append]
    refine ⟨?_, (render_decimalText _).numberChar_of_mem⟩
    split <;> simp [numberChar]

/-- Finite numbers print differently: an integer never as a double, and each kind injectively. -/
theorem render_inj {n₁ n₂ : Number} (h₁ : n₁.finite) (h₂ : n₂.finite)
    (h : n₁.render = n₂.render) : n₁ = n₂ := by
  -- an integer's text has no point and no exponent, a double's has one of them
  have hkind : ∀ (i : Int) (bits : UInt64), toString i ≠ FloatStyle.json.renderBits bits := by
    intro i bits hib
    have hno := toString_int_no_marker i
    rw [hib] at hno
    rcases renderBits_marker bits with hm | hm
    · exact hno.1 hm
    · exact hno.2 hm
  cases n₁ with
  | int i₁ =>
    cases n₂ with
    | int i₂ => exact congrArg Number.int (toString_int_inj h)
    | float b₂ => exact absurd h (hkind i₁ b₂)
  | float b₁ =>
    cases n₂ with
    | int i₂ => exact absurd h.symm (hkind i₂ b₁)
    | float b₂ =>
      exact congrArg Number.float
        (renderBits_inj ((finite_float_iff b₁).1 h₁) ((finite_float_iff b₂).1 h₂) h)

end Number

end Sift.Json
