import Mathlib
import Sift.Decimal.Shortest

/-!
# The shortest decimal of a double reads back as that double

A finite, nonzero double `b` is the exact rational `m * 2^e`; its rounding interval runs from
the midpoint with its lower neighbour to the midpoint with its upper one, both ends included
exactly when `m` is even (`Binary.Rounds`). This module proves that `shortest b` lies in that
interval, and that the rounding intervals of distinct doubles are disjoint, so that the value of
`shortest b` determines the magnitude of `b`.

The search walks grids `10^k` from coarse to fine. Every grid point `onGrid` returns lies in the
interval (`rounds_of_onGrid`); the last grid, seventeen digits below the leading one, is finer
than the interval is wide, so the search always ends on a grid point (`onGrid_isSome`). For
disjointness, the upper end of each magnitude's interval is the lower end of the next one's,
and two neighbours never both keep that shared end, since their significands differ in parity.
-/

namespace Sift.Decimal

/-! ## Values and rounding intervals -/

/-- The exact value `m * 2^e`. -/
def Binary.value (b : Binary) : ℚ := b.m * 2 ^ b.e

/-- The distance from the value down to the lower end of the interval, in quarters of `2^e`. -/
def Binary.gap (b : Binary) : Nat := if b.evenGap then 2 else 1

/-- The lower end of the rounding interval. -/
def Binary.low (b : Binary) : ℚ := ((4 * b.m - b.gap : Nat) : ℚ) * 2 ^ (b.e - 2)

/-- The upper end of the rounding interval. -/
def Binary.high (b : Binary) : ℚ := ((4 * b.m + 2 : Nat) : ℚ) * 2 ^ (b.e - 2)

/-- `v` reads back as `b`: it lies in the rounding interval of `b`, whose ends belong to it
exactly when the significand is even. -/
def Binary.Rounds (b : Binary) (v : ℚ) : Prop :=
  if b.m % 2 = 0 then b.low ≤ v ∧ v ≤ b.high else b.low < v ∧ v < b.high

/-- The exact value `digits * 10^exp`. -/
def Scientific.value (s : Scientific) : ℚ := s.digits * 10 ^ s.exp

namespace Binary

variable {b : Binary} {v : ℚ}

theorem gap_le_two (b : Binary) : b.gap ≤ 2 := by
  unfold gap
  split <;> omega

theorem one_le_gap (b : Binary) : 1 ≤ b.gap := by
  unfold gap
  split <;> omega

theorem low_pos (hm : 1 ≤ b.m) : 0 < b.low := by
  have hpos : 0 < 4 * b.m - b.gap := by
    have := b.gap_le_two
    omega
  unfold low
  positivity

/-- The interval is `(2 + gap) / 4` units of `2^e` wide. -/
theorem high_sub_low (hm : 1 ≤ b.m) : b.high - b.low = (2 + b.gap) * 2 ^ (b.e - 2) := by
  have hg := b.gap_le_two
  unfold high low
  rw [Nat.cast_sub (by omega)]
  push_cast
  ring

theorem low_lt_high (hm : 1 ≤ b.m) : b.low < b.high := by
  have hw := high_sub_low hm
  have : (0 : ℚ) < (2 + b.gap) * 2 ^ (b.e - 2) := by positivity
  linarith

theorem Rounds.low_le (h : b.Rounds v) : b.low ≤ v := by
  unfold Rounds at h
  split at h
  · exact h.1
  · exact h.1.le

theorem Rounds.le_high (h : b.Rounds v) : v ≤ b.high := by
  unfold Rounds at h
  split at h
  · exact h.2
  · exact h.2.le

/-- Only an even significand keeps the upper end. -/
theorem Rounds.even_of_eq_high (h : b.Rounds v) (hv : v = b.high) : b.m % 2 = 0 := by
  unfold Rounds at h
  split at h
  · assumption
  · exact absurd hv h.2.ne

/-- Only an even significand keeps the lower end. -/
theorem Rounds.even_of_low_eq (h : b.Rounds v) (hv : b.low = v) : b.m % 2 = 0 := by
  unfold Rounds at h
  split at h
  · assumption
  · exact absurd hv h.1.ne

theorem Rounds.pos (hm : 1 ≤ b.m) (h : b.Rounds v) : 0 < v :=
  lt_of_lt_of_le (low_pos hm) h.low_le

end Binary

/-! ## Reading the natural numerators of a grid -/

/-- Positive and negative parts of an exponent recombine. -/
theorem zpow_mul_pow_neg_toNat {a : ℚ} (ha : a ≠ 0) (p : ℤ) :
    a ^ p * a ^ (-p).toNat = a ^ p.toNat := by
  rw [← zpow_natCast, ← zpow_natCast, ← zpow_add₀ ha]
  congr 1
  omega

/-- A natural on the common denominator of the grid `10^k`, for binary exponent `p`, read as the
rational it stands for. -/
def gridRead (p k : ℤ) (n : Nat) : ℚ := n / (scaled 0 p k).2 * 10 ^ k

theorem scaled_den_pos (x : Nat) (p k : ℤ) : 0 < (scaled x p k).2 := by
  simp only [scaled, Nat.pow_eq]
  positivity

theorem gridRead_strictMono (p k : ℤ) : StrictMono (gridRead p k) := by
  intro n n' h
  have hden : (0 : ℚ) < (scaled 0 p k).2 := by exact_mod_cast scaled_den_pos 0 p k
  unfold gridRead
  gcongr

theorem gridRead_add (p k : ℤ) (n n' : Nat) :
    gridRead p k (n + n') = gridRead p k n + gridRead p k n' := by
  unfold gridRead
  push_cast
  ring

/-- A numerator of `scaled x p k` reads as `x * 2^p`. -/
theorem gridRead_scaled (x : Nat) (p k : ℤ) : gridRead p k (scaled x p k).1 = x * 2 ^ p := by
  have h2 := zpow_mul_pow_neg_toNat two_ne_zero p
  have h10 := zpow_mul_pow_neg_toNat (by norm_num : (10 : ℚ) ≠ 0) (-k)
  rw [neg_neg] at h10
  simp only [gridRead, scaled, Nat.pow_eq, Nat.cast_mul, Nat.cast_pow, Nat.cast_ofNat]
  rw [← h2, ← h10, zpow_neg]
  field_simp

/-- The multiple `d` of the denominator reads as the grid point `d * 10^k`. -/
theorem gridRead_mul_den (d x : Nat) (p k : ℤ) :
    gridRead p k (d * (scaled x p k).2) = d * 10 ^ k := by
  -- the denominator does not depend on the numerator's `x`
  have hx : (scaled x p k).2 = (scaled 0 p k).2 := rfl
  have hden : ((scaled 0 p k).2 : ℚ) ≠ 0 := by exact_mod_cast (scaled_den_pos 0 p k).ne'
  rw [hx]
  unfold gridRead
  push_cast
  field_simp

/-! ## One grid -/

/-- The candidates `[lo, hiNext)` of `onGrid` are the multiples `d` of the denominator inside
the interval `[a, h]` of numerators, its ends kept exactly when the interval is inclusive. -/
theorem grid_range {incl : Prop} [Decidable incl] {a h den d : Nat} (hden : 0 < den)
    (hlo : (if incl then (a + den - 1) / den else a / den + 1) ≤ d)
    (hhi : d < if (decide incl || decide (h % den ≠ 0)) = true then h / den + 1 else h / den) :
    if incl then a ≤ d * den ∧ d * den ≤ h else a < d * den ∧ d * den < h := by
  by_cases hincl : incl
  · simp only [hincl, if_true, decide_true, Bool.true_or] at hlo hhi ⊢
    rw [Nat.div_le_iff_le_mul_add_pred hden] at hlo
    have hd : d ≤ h / den := by omega
    rw [Nat.le_div_iff_mul_le hden] at hd
    constructor
    · rw [Nat.mul_comm] at hlo
      omega
    · exact hd
  · simp only [hincl, if_false, decide_false, Bool.false_or] at hlo hhi ⊢
    have ha : a / den < d := by omega
    rw [Nat.div_lt_iff_lt_mul hden] at ha
    refine ⟨ha, ?_⟩
    by_cases hmod : h % den = 0
    · -- `h` is itself a multiple: `d` stops one short of it
      simp only [hmod, ne_eq, not_true_eq_false, decide_false, Bool.false_eq_true,
        if_false] at hhi
      have := Nat.div_add_mod h den
      rw [hmod, Nat.add_zero] at this
      calc d * den < h / den * den := Nat.mul_lt_mul_of_pos_right hhi hden
        _ = h := by rw [Nat.mul_comm]; exact this
    · simp only [hmod, ne_eq, not_false_eq_true, decide_true, if_true] at hhi
      have hd : d * den ≤ h := (Nat.le_div_iff_mul_le hden).1 (by omega)
      have hne : d * den ≠ h := fun heq => hmod (by rw [← heq, Nat.mul_mod_left])
      omega

/-- An interval two grid steps wide holds a candidate. -/
theorem grid_nonempty (incl : Prop) [Decidable incl] {a h den : Nat} (hden : 0 < den)
    (hw : a + 2 * den ≤ h) :
    (if incl then (a + den - 1) / den else a / den + 1) <
      if (decide incl || decide (h % den ≠ 0)) = true then h / den + 1 else h / den := by
  have hceil : (a + den - 1) / den ≤ a / den + 1 := by
    rw [Nat.div_le_iff_le_mul_add_pred hden]
    have := Nat.lt_div_mul_add (a := a) hden
    rw [Nat.mul_add, Nat.mul_one, Nat.mul_comm]
    omega
  have hstep : a / den + 2 ≤ h / den := by
    calc a / den + 2 = (a + 2 * den) / den := by
          rw [Nat.add_mul_div_right _ _ hden]
      _ ≤ h / den := Nat.div_le_div_right hw
  split <;> split <;> omega

/-- Clamping into a nonempty range `[lo, hiNext)` lands inside it. -/
theorem clamp_mem {lo hiNext : Nat} (r : Nat) (h : lo < hiNext) :
    lo ≤ min (max r lo) (hiNext - 1) ∧ min (max r lo) (hiNext - 1) < hiNext := by
  omega

variable {b : Binary} {k : ℤ} {d : Nat}

/-- Every grid point `onGrid` offers reads back as `b`. -/
theorem rounds_of_onGrid (h : onGrid b k = some d) : b.Rounds (d * 10 ^ k) := by
  simp only [onGrid] at h
  rw [ite_eq_iff] at h
  rcases h with ⟨hlt, hX⟩ | ⟨_, hnone⟩
  case inr => cases hnone
  case inl =>
    -- the answer is clamped into the candidates `[lo, hiNext)`
    replace hX := Option.some.inj hX
    obtain ⟨hlo, hhi⟩ := clamp_mem (roundHalfEven _ _) hlt
    rw [hX] at hlo hhi
    have hrange := grid_range (scaled_den_pos _ _ _) hlo hhi
    have mono := gridRead_strictMono (b.e - 2) k
    have hlow : b.low = gridRead (b.e - 2) k (scaled (4 * b.m - b.gap) (b.e - 2) k).1 :=
      (gridRead_scaled _ _ _).symm
    have hhigh : b.high = gridRead (b.e - 2) k (scaled (4 * b.m + 2) (b.e - 2) k).1 :=
      (gridRead_scaled _ _ _).symm
    have hd : (d : ℚ) * 10 ^ k =
        gridRead (b.e - 2) k (d * (scaled (4 * b.m - b.gap) (b.e - 2) k).2) :=
      (gridRead_mul_den _ _ _ _).symm
    unfold Binary.Rounds
    rw [hlow, hhigh, hd]
    by_cases hev : b.m % 2 = 0
    · rw [if_pos hev] at hrange ⊢
      exact ⟨mono.le_iff_le.2 hrange.1, mono.le_iff_le.2 hrange.2⟩
    · rw [if_neg hev] at hrange ⊢
      exact ⟨mono.lt_iff_lt.2 hrange.1, mono.lt_iff_lt.2 hrange.2⟩

/-- A grid whose step is at most half the width of the interval has a point in it. -/
theorem onGrid_isSome (hw : b.low + 2 * 10 ^ k ≤ b.high) : (onGrid b k).isSome := by
  have mono := gridRead_strictMono (b.e - 2) k
  have hnat : (scaled (4 * b.m - b.gap) (b.e - 2) k).1 +
      2 * (scaled (4 * b.m - b.gap) (b.e - 2) k).2 ≤
      (scaled (4 * b.m + 2) (b.e - 2) k).1 := by
    rw [← mono.le_iff_le, gridRead_add, gridRead_mul_den, gridRead_scaled, gridRead_scaled]
    exact_mod_cast hw
  simp only [Binary.gap] at hnat
  have hne := grid_nonempty (b.m % 2 = 0) (scaled_den_pos _ _ _) hnat
  simp only [onGrid, if_pos hne, Option.isSome_some]

/-! ## The search -/

theorem Binary.value_eq_div (b : Binary) :
    b.value = ((b.m * Nat.pow 2 b.e.toNat : Nat) : ℚ) / (Nat.pow 2 (-b.e).toNat : Nat) := by
  have h2 := zpow_mul_pow_neg_toNat two_ne_zero b.e
  simp only [Binary.value, Nat.pow_eq, Nat.cast_mul, Nat.cast_pow, Nat.cast_ofNat]
  rw [← h2]
  field_simp

/-- Every double is at least `2^-1074`, far above `10^-400`. -/
theorem Binary.pow_neg_400_le_value (hm : 1 ≤ b.m) (he : -1074 ≤ b.e) :
    (10 : ℚ) ^ (-400 : ℤ) ≤ b.value := by
  -- `2^1074 = (8^179)^2` against `10^400 = (10^200)^2`, in powers small enough to stay symbolic
  have h8 : ((2 : Nat) ^ 3) ^ 179 ≤ 10 ^ 200 :=
    (Nat.pow_le_pow_left (by norm_num) 179).trans (Nat.pow_le_pow_right (by norm_num) (by norm_num))
  have hpow : (2 : Nat) ^ 1074 ≤ 10 ^ 400 :=
    calc (2 : Nat) ^ 1074 = (((2 : Nat) ^ 3) ^ 179) ^ 2 := by rw [← pow_mul, ← pow_mul]
      _ ≤ (10 ^ 200) ^ 2 := Nat.pow_le_pow_left h8 2
      _ = 10 ^ 400 := by rw [← pow_mul]
  calc (10 : ℚ) ^ (-400 : ℤ) ≤ 2 ^ (-1074 : ℤ) := by
        rw [zpow_neg, zpow_neg, inv_le_inv₀ (by positivity) (by positivity)]
        exact_mod_cast hpow
    _ ≤ 2 ^ b.e := zpow_le_zpow_right₀ (by norm_num) he
    _ ≤ b.value := le_mul_of_one_le_left (by positivity) (by exact_mod_cast hm)

/-- A positive natural reaches the power of ten of its leading digit. -/
theorem pow_digitCount_le {n : Nat} (hn : 1 ≤ n) : 10 ^ (digitCount n - 1) ≤ n := by
  rcases Nat.eq_zero_or_pos (digitCount n - 1) with h0 | hpos
  · rw [h0]
    exact hn
  · refine Nat.le_of_not_lt fun hlt => ?_
    -- below `10^(digits - 1)` it would have fewer digits
    have := Nat.toDigits_length 10 n (digitCount n - 1) hpos hlt
    unfold digitCount at this hpos
    omega

theorem one_le_digitCount (n : Nat) : 1 ≤ digitCount n :=
  List.length_pos_iff.2 Nat.toDigits_ne_nil

/-- Below one, the climb stops at an exponent whose power of ten the value reaches; when it runs
out of steps it answers `-400`, which every double reaches. -/
theorem pow_climb_le {num den : Nat} (hden : 0 < den) {x : ℚ} (hx : x = num / den)
    (hfloor : (10 : ℚ) ^ (-400 : ℤ) ≤ x) :
    ∀ fuel j, (10 : ℚ) ^ leadingExponent.climb num den fuel j ≤ x
  | 0, _ => by
    simpa only [leadingExponent.climb] using hfloor
  | fuel + 1, j => by
    simp only [leadingExponent.climb]
    split
    case isTrue h =>
      simp only [Nat.pow_eq] at h
      have hq : (den : ℚ) ≤ num * 10 ^ j := by exact_mod_cast h
      rw [hx, zpow_neg, zpow_natCast, inv_eq_one_div,
        div_le_div_iff₀ (by positivity) (by exact_mod_cast hden)]
      linarith
    case isFalse =>
      exact pow_climb_le hden hx hfloor fuel (j + 1)

/-- The leading exponent is a lower bound: `10^top ≤ m * 2^e`. -/
theorem Binary.pow_leadingExponent_le (hm : 1 ≤ b.m) (he : -1074 ≤ b.e) :
    (10 : ℚ) ^ leadingExponent b ≤ b.value := by
  have hden : 0 < Nat.pow 2 (-b.e).toNat := by
    simp only [Nat.pow_eq]
    positivity
  simp only [leadingExponent]
  split
  case isTrue hle =>
    -- at least one: the leading digit of the integer part
    set n := b.m * Nat.pow 2 b.e.toNat / Nat.pow 2 (-b.e).toNat
    have hn : 1 ≤ n := (Nat.one_le_div_iff hden).2 hle
    have hexp : (digitCount n : ℤ) - 1 = ((digitCount n - 1 : Nat) : ℤ) := by
      have := one_le_digitCount n
      omega
    calc (10 : ℚ) ^ ((digitCount n : ℤ) - 1) = ((10 ^ (digitCount n - 1) : Nat) : ℚ) := by
          rw [hexp, zpow_natCast]
          push_cast
          rfl
      _ ≤ n := by exact_mod_cast pow_digitCount_le hn
      _ ≤ b.value := by
          rw [b.value_eq_div]
          exact Nat.cast_div_le
  case isFalse =>
    exact pow_climb_le hden b.value_eq_div (b.pow_neg_400_le_value hm he) 400 1

/-- The search answers a point of some grid, provided its last grid has one. -/
theorem search_onGrid (b : Binary) (top : ℤ) :
    ∀ fuel n, (onGrid b (top - ((n + fuel : Nat) : ℤ) + 1)).isSome →
      ∃ d k, onGrid b k = some d ∧ shortest.search b top fuel n = ⟨d, k⟩
  | 0, n, h => by
    obtain ⟨d, hd⟩ := Option.isSome_iff_exists.1 h
    simp only [Nat.add_zero] at hd
    refine ⟨d, top - n + 1, hd, ?_⟩
    simp only [shortest.search, hd, Option.getD_some]
  | fuel + 1, n, h => by
    simp only [shortest.search]
    cases hg : onGrid b (top - n + 1) with
    | some d =>
        exact ⟨d, _, hg, rfl⟩
    | none =>
        -- the next grid down carries on with one step less
        have hnext : n + 1 + fuel = n + (fuel + 1) := by omega
        simpa only using search_onGrid b top fuel (n + 1) (by rwa [hnext])

/-- Trimming trailing zeros keeps the value. -/
theorem Scientific.value_trim : ∀ fuel (s : Scientific), (Scientific.trim fuel s).value = s.value
  | 0, _ => rfl
  | fuel + 1, s => by
    simp only [Scientific.trim]
    split
    case isTrue h =>
      rw [value_trim fuel]
      obtain ⟨q, hq⟩ := Nat.dvd_of_mod_eq_zero h.2
      simp only [value, hq, Nat.mul_div_cancel_left q (by norm_num : 0 < 10)]
      rw [zpow_add_one₀ (by norm_num)]
      push_cast
      ring
    case isFalse =>
      rfl

/-- The grid seventeen digits below the leading one steps at most half the interval's width:
`2 * 10^top / 10^17` is below `2^54 * 2^e / 10^17`, under the `3/4 * 2^e` the narrowest interval
spans. -/
theorem Binary.low_add_two_pow_le_high (hm : 1 ≤ b.m) (hm' : b.m < 2 ^ 53) (he : -1074 ≤ b.e) :
    b.low + 2 * 10 ^ (leadingExponent b - 17) ≤ b.high := by
  have hvalue : b.value ≤ 2 ^ 53 * 2 ^ b.e := by
    unfold Binary.value
    gcongr
    exact_mod_cast hm'.le
  have hg : (1 : ℚ) ≤ b.gap := by exact_mod_cast b.one_le_gap
  have hx : (0 : ℚ) < 2 ^ b.e := by positivity
  calc b.low + 2 * 10 ^ (leadingExponent b - 17)
        = b.low + 2 * 10 ^ leadingExponent b / 10 ^ 17 := by
          rw [zpow_sub₀ (by norm_num)]
          norm_num
          ring
      _ ≤ b.low + 2 * (2 ^ 53 * 2 ^ b.e) / 10 ^ 17 := by
          gcongr
          exact (b.pow_leadingExponent_le hm he).trans hvalue
      _ ≤ b.low + (2 + b.gap) * 2 ^ (b.e - 2) := by
          rw [zpow_sub₀ two_ne_zero]
          norm_num
          nlinarith
      _ = b.high := by
          rw [← b.high_sub_low hm]
          ring

/-- The shortest decimal of a finite, nonzero double lies in its rounding interval. -/
theorem Binary.rounds_shortest (hm : 1 ≤ b.m) (hm' : b.m < 2 ^ 53) (he : -1074 ≤ b.e) :
    b.Rounds (shortest b).value := by
  set top := leadingExponent b with htop
  -- the search's last grid is the one seventeen digits down, and it has a point
  have hlast : (onGrid b (top - ((1 + 17 : Nat) : ℤ) + 1)).isSome := by
    have hk : top - ((1 + 17 : Nat) : ℤ) + 1 = top - 17 := by
      push_cast
      ring
    rw [hk]
    exact onGrid_isSome (b.low_add_two_pow_le_high hm hm' he)
  obtain ⟨d, k, hd, hs⟩ := search_onGrid b top 17 1 hlast
  simp only [shortest]
  rw [← htop, Scientific.value_trim, hs]
  exact rounds_of_onGrid hd

/-! ## Neighbouring doubles -/

/-- The binary of a double's magnitude `N`, its bits below the sign: the low 52 bits are the
fraction, the next ones the biased exponent. -/
def Binary.ofMagnitude (N : Nat) : Binary :=
  if N / 2 ^ 52 = 0 then { m := N % 2 ^ 52, e := -1074, evenGap := true }
  else
    { m := N % 2 ^ 52 + 2 ^ 52, e := ((N / 2 ^ 52 : Nat) : ℤ) - 1075,
      evenGap := !(N % 2 ^ 52 = 0 && N / 2 ^ 52 > 1) }

/-- The fraction field of a double's bits: the low 52 bits of its magnitude. -/
theorem toNat_fraction_bits (bits : UInt64) :
    (bits &&& 0xFFFFFFFFFFFFF).toNat = bits.toNat % 2 ^ 63 % 2 ^ 52 := by
  rw [UInt64.toNat_and, show (0xFFFFFFFFFFFFF : UInt64).toNat = 2 ^ 52 - 1 from rfl,
    Nat.and_two_pow_sub_one_eq_mod]
  omega

/-- The exponent field of a double's bits: its magnitude above the fraction. -/
theorem toNat_exponent_bits (bits : UInt64) :
    ((bits >>> 52) &&& 0x7FF).toNat = bits.toNat % 2 ^ 63 / 2 ^ 52 := by
  rw [UInt64.toNat_and, show (0x7FF : UInt64).toNat = 2 ^ 11 - 1 from rfl,
    Nat.and_two_pow_sub_one_eq_mod, UInt64.toNat_shiftRight,
    show (52 : UInt64).toNat % 64 = 52 from rfl, Nat.shiftRight_eq_div_pow]
  omega

/-- Decoding bits reads the magnitude only. -/
theorem Binary.ofBits_eq_ofMagnitude (bits : UInt64) :
    Binary.ofBits bits = Binary.ofMagnitude (bits.toNat % 2 ^ 63) := by
  simp only [Binary.ofBits, Binary.ofMagnitude, toNat_fraction_bits, toNat_exponent_bits,
    Nat.pow_eq]

namespace Binary

theorem ofMagnitude_of_lt {N : Nat} (h : N < 2 ^ 52) :
    ofMagnitude N = { m := N, e := -1074, evenGap := true } := by
  have hdiv : N / 2 ^ 52 = 0 := Nat.div_eq_of_lt h
  simp only [ofMagnitude, hdiv, if_true, Nat.mod_eq_of_lt h]

theorem ofMagnitude_of_ge {N : Nat} (h : 2 ^ 52 ≤ N) :
    ofMagnitude N =
      { m := N % 2 ^ 52 + 2 ^ 52, e := ((N / 2 ^ 52 : Nat) : ℤ) - 1075,
        evenGap := !(N % 2 ^ 52 = 0 && N / 2 ^ 52 > 1) } := by
  have hdiv : N / 2 ^ 52 ≠ 0 := by omega
  simp only [ofMagnitude, hdiv, if_false]

/-- The significand has the parity of the magnitude. -/
theorem ofMagnitude_m_mod_two (N : Nat) : (ofMagnitude N).m % 2 = N % 2 := by
  unfold ofMagnitude
  split <;> simp only <;> omega

theorem one_le_ofMagnitude_m {N : Nat} (h : 1 ≤ N) : 1 ≤ (ofMagnitude N).m := by
  unfold ofMagnitude
  split <;> simp only <;> omega

theorem ofMagnitude_m_lt (N : Nat) : (ofMagnitude N).m < 2 ^ 53 := by
  unfold ofMagnitude
  split <;> simp only <;> omega

theorem ofMagnitude_e_ge (N : Nat) : -1074 ≤ (ofMagnitude N).e := by
  unfold ofMagnitude
  split <;> simp only <;> omega

/-- The next double with the same exponent shares the midpoint between them. -/
theorem high_eq_low_of_succ {b b' : Binary} (he : b'.e = b.e) (hm : b'.m = b.m + 1)
    (hg : b'.gap = 2) : b.high = b'.low := by
  unfold high low
  rw [he, hm, hg, show 4 * (b.m + 1) - 2 = 4 * b.m + 2 by omega]

/-- Across a power of two the unit doubles: the next double's exponent is one more. -/
theorem high_eq_low_of_carry {b b' : Binary} (he : b'.e = b.e + 1)
    (hm : 4 * b.m + 2 = 2 * (4 * b'.m - b'.gap)) : b.high = b'.low := by
  unfold high low
  rw [he, hm, show b.e + 1 - 2 = (b.e - 2) + 1 by ring, zpow_add_one₀ two_ne_zero]
  push_cast
  ring

/-- The upper end of each magnitude's interval is the lower end of the next one's. -/
theorem ofMagnitude_high_eq_low {N : Nat} (h1 : 1 ≤ N) (hN : N + 1 < 2047 * 2 ^ 52) :
    (ofMagnitude N).high = (ofMagnitude (N + 1)).low := by
  rcases Nat.lt_or_ge N (2 ^ 52) with hsub | hnorm
  · rcases Nat.lt_or_ge (N + 1) (2 ^ 52) with hsub' | hnorm'
    · -- among the subnormals
      rw [ofMagnitude_of_lt hsub, ofMagnitude_of_lt hsub']
      exact high_eq_low_of_succ rfl rfl rfl
    · -- from the largest subnormal to the smallest normal, with the same exponent
      have hN1 : N + 1 = 2 ^ 52 := by omega
      rw [ofMagnitude_of_lt hsub, ofMagnitude_of_ge hnorm', hN1]
      apply high_eq_low_of_succ
      · norm_num
      · simp only [Nat.mod_self, Nat.zero_add]
        omega
      · simp [gap]
  · have hnorm' : 2 ^ 52 ≤ N + 1 := by omega
    rw [ofMagnitude_of_ge hnorm, ofMagnitude_of_ge hnorm']
    rcases Nat.lt_or_ge (N % 2 ^ 52 + 1) (2 ^ 52) with hin | hcarry
    · -- within a binade
      have hdiv : (N + 1) / 2 ^ 52 = N / 2 ^ 52 := by omega
      have hmod : (N + 1) % 2 ^ 52 = N % 2 ^ 52 + 1 := by omega
      apply high_eq_low_of_succ
      · simp only [hdiv]
      · simp only [hmod]
        omega
      · simp [gap]
        omega
    · -- into the next binade, where the gap below narrows
      have hdiv : (N + 1) / 2 ^ 52 = N / 2 ^ 52 + 1 := by omega
      have hmod : (N + 1) % 2 ^ 52 = 0 := by omega
      apply high_eq_low_of_carry
      · simp only [hdiv]
        push_cast
        ring
      · have hgap : gap ⟨(N + 1) % 2 ^ 52 + 2 ^ 52, ((N + 1) / 2 ^ 52 : Nat) - 1075,
            !((N + 1) % 2 ^ 52 = 0 && (N + 1) / 2 ^ 52 > 1)⟩ = 1 := by
          simp only [gap, hmod, hdiv]
          simp
          omega
        rw [hgap]
        simp only [hmod]
        omega

/-- Upper ends grow with the magnitude. -/
theorem ofMagnitude_high_lt_high {N₁ N₂ : Nat} (h1 : 1 ≤ N₁) (h : N₁ < N₂)
    (hN : N₂ < 2047 * 2 ^ 52) : (ofMagnitude N₁).high < (ofMagnitude N₂).high := by
  induction N₂, Nat.succ_le_of_lt h using Nat.le_induction with
  | base =>
      rw [ofMagnitude_high_eq_low h1 hN]
      exact low_lt_high (one_le_ofMagnitude_m (by omega))
  | succ n hn ih =>
      calc (ofMagnitude N₁).high < (ofMagnitude n).high := ih (by omega) (by omega)
        _ = (ofMagnitude (n + 1)).low := ofMagnitude_high_eq_low (by omega) hN
        _ < (ofMagnitude (n + 1)).high := low_lt_high (one_le_ofMagnitude_m (by omega))

/-- A value never reads back as two magnitudes, the smaller one first. -/
theorem not_rounds_of_lt {N₁ N₂ : Nat} {v : ℚ} (h1 : 1 ≤ N₁) (h : N₁ < N₂)
    (hN : N₂ < 2047 * 2 ^ 52) (r₁ : (ofMagnitude N₁).Rounds v)
    (r₂ : (ofMagnitude N₂).Rounds v) : False := by
  have hv₁ := r₁.le_high
  have hv₂ := r₂.low_le
  rcases Nat.lt_or_ge (N₁ + 1) N₂ with hfar | hnext
  · -- a whole interval lies between them
    have hmid := ofMagnitude_high_lt_high h1 (show N₁ < N₂ - 1 by omega) (by omega)
    have hend := ofMagnitude_high_eq_low (show 1 ≤ N₂ - 1 by omega) (by omega)
    rw [Nat.sub_add_cancel (by omega)] at hend
    linarith
  · -- neighbours share one end, which only an even significand keeps
    obtain rfl : N₂ = N₁ + 1 := by omega
    have hshare := ofMagnitude_high_eq_low h1 hN
    have hv : v = (ofMagnitude N₁).high := le_antisymm hv₁ (hshare ▸ hv₂)
    have heven₁ := r₁.even_of_eq_high hv
    have heven₂ := r₂.even_of_low_eq (hshare ▸ hv.symm)
    rw [ofMagnitude_m_mod_two] at heven₁ heven₂
    omega

/-- Distinct finite, nonzero magnitudes have disjoint rounding intervals. -/
theorem eq_of_rounds_ofMagnitude {N₁ N₂ : Nat} {v : ℚ} (h₁ : 1 ≤ N₁) (h₂ : 1 ≤ N₂)
    (f₁ : N₁ < 2047 * 2 ^ 52) (f₂ : N₂ < 2047 * 2 ^ 52) (r₁ : (ofMagnitude N₁).Rounds v)
    (r₂ : (ofMagnitude N₂).Rounds v) : N₁ = N₂ := by
  rcases lt_trichotomy N₁ N₂ with hlt | heq | hgt
  · exact (not_rounds_of_lt h₁ hlt f₂ r₁ r₂).elim
  · exact heq
  · exact (not_rounds_of_lt h₂ hgt f₁ r₂ r₁).elim

theorem rounds_shortest_ofMagnitude {N : Nat} (h : 1 ≤ N) :
    (ofMagnitude N).Rounds (shortest (ofMagnitude N)).value :=
  rounds_shortest (one_le_ofMagnitude_m h) (ofMagnitude_m_lt N) (ofMagnitude_e_ge N)

/-- The shortest decimal of a finite, nonzero double is positive. -/
theorem shortest_value_pos {N : Nat} (h : 1 ≤ N) : 0 < (shortest (ofMagnitude N)).value :=
  (rounds_shortest_ofMagnitude h).pos (one_le_ofMagnitude_m h)

/-- The shortest decimal of a finite, nonzero double determines its magnitude. -/
theorem eq_of_shortest_value_eq {N₁ N₂ : Nat} (h₁ : 1 ≤ N₁) (h₂ : 1 ≤ N₂)
    (f₁ : N₁ < 2047 * 2 ^ 52) (f₂ : N₂ < 2047 * 2 ^ 52)
    (h : (shortest (ofMagnitude N₁)).value = (shortest (ofMagnitude N₂)).value) : N₁ = N₂ := by
  have r₁ := rounds_shortest_ofMagnitude h₁
  rw [h] at r₁
  exact eq_of_rounds_ofMagnitude h₁ h₂ f₁ f₂ r₁ (rounds_shortest_ofMagnitude h₂)

end Binary

end Sift.Decimal
