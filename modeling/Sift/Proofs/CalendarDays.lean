import Mathlib
import Sift.Time.Instant

/-!
# The calendar of instants

`civilFromDays` counts a day number into 400-year eras of 146097 days, each era into centuries of
36524 days, four-year cycles of 1461 days and years of 365 days, the year starting in March so
that the leap day ends it. Its arithmetic is read here as that decomposition (`eraDay_split`,
`civilFromDays_spec`), and from it follow the two facts the timestamp format needs:
`daysFromCivil` takes the date back to its day (`daysFromCivil_civilFromDays`), and the date of
every instant of the range is a valid date (`Instant.date_isValid`).
-/

namespace Sift.Time

/-- A day of an era, split into centuries, four-year cycles, years and a day of the year. The last
day of a year (`t = 365`) only exists in the fourth year of a cycle, and in the last cycle of a
century only for the fourth century. -/
theorem eraDay_split (doe : Nat) (h : doe ≤ 146096) :
    ∃ c k j t, doe = 36524 * c + 1461 * k + 365 * j + t ∧
      c ≤ 3 ∧ k ≤ 24 ∧ j ≤ 3 ∧ t ≤ 365 ∧ (t = 365 → j = 3 ∧ (k < 24 ∨ c = 3)) := by
  set c := min (doe / 36524) 3
  set k := min ((doe - 36524 * c) / 1461) 24
  set j := min ((doe - 36524 * c - 1461 * k) / 365) 3
  exact ⟨c, k, j, doe - 36524 * c - 1461 * k - 365 * j, by omega⟩

/-- The year of the era that `civilFromDays` computes from the day of the era is the count of the
split's centuries, cycles and years. -/
theorem yearOfEra_eq {c k j t : Nat} (hc : c ≤ 3) (hk : k ≤ 24) (hj : j ≤ 3) (ht : t ≤ 365)
    (hleap : t = 365 → j = 3 ∧ (k < 24 ∨ c = 3)) :
    ((36524 * c + 1461 * k + 365 * j + t) - (36524 * c + 1461 * k + 365 * j + t) / 1460 +
      (36524 * c + 1461 * k + 365 * j + t) / 36524 -
      (36524 * c + 1461 * k + 365 * j + t) / 146096) / 365 = 100 * c + 4 * k + j := by
  have h1 : (36524 * c + 1461 * k + 365 * j + t) / 1460 =
      25 * c + k + (24 * c + k + 365 * j + t) / 1460 := by
    rw [show 36524 * c + 1461 * k + 365 * j + t =
        24 * c + k + 365 * j + t + 1460 * (25 * c + k) by ring,
      Nat.add_mul_div_left _ _ (by norm_num), Nat.add_comm]
  have h2 : (36524 * c + 1461 * k + 365 * j + t) / 36524 =
      c + (1461 * k + 365 * j + t) / 36524 := by
    rw [show 36524 * c + 1461 * k + 365 * j + t = 1461 * k + 365 * j + t + 36524 * c by ring,
      Nat.add_mul_div_left _ _ (by norm_num), Nat.add_comm]
  have h3 : (1461 * k + 365 * j + t) / 36524 = (36524 * c + 1461 * k + 365 * j + t) / 146096 := by
    omega
  -- the leap days counted so far: one more than the cycles only on the era's last day
  have hδ : (24 * c + k + 365 * j + t) / 1460 ≤ 1 := by omega
  have hδ' : (24 * c + k + 365 * j + t) / 1460 = 1 → 1 ≤ t := by omega
  have hδ'' : t = 365 → (24 * c + k + 365 * j + t) / 1460 = 1 := by omega
  generalize (24 * c + k + 365 * j + t) / 1460 = δ at *
  rw [h1, h2, ← h3]
  generalize (1461 * k + 365 * j + t) / 36524 = ε
  omega

/-- The date of a day number, as the era, the split of the day of the era and the month and day
counted from March. -/
theorem civilFromDays_spec (z : Int) :
    ∃ era c k j t, z + 719468 = 146097 * era + (36524 * c + 1461 * k + 365 * j + t : Nat) ∧
      c ≤ 3 ∧ k ≤ 24 ∧ j ≤ 3 ∧ t ≤ 365 ∧ (t = 365 → j = 3 ∧ (k < 24 ∨ c = 3)) ∧
      civilFromDays z =
        { year := 400 * era + (100 * c + 4 * k + j : Nat) + (if 306 ≤ t then 1 else 0),
          month := if (5 * t + 2) / 153 < 10 then (5 * t + 2) / 153 + 3 else (5 * t + 2) / 153 - 9,
          day := t - (153 * ((5 * t + 2) / 153) + 2) / 5 + 1 } := by
  obtain ⟨c, k, j, t, hdoe, hc, hk, hj, ht, hleap⟩ :=
    eraDay_split ((z + 719468) % 146097).toNat (by omega)
  refine ⟨(z + 719468) / 146097, c, k, j, t, by omega, hc, hk, hj, ht, hleap, ?_⟩
  have hyoe := yearOfEra_eq hc hk hj ht hleap
  rw [← hdoe] at hyoe
  have hdoy : ((z + 719468) % 146097).toNat -
      (365 * (100 * c + 4 * k + j) + (100 * c + 4 * k + j) / 4 - (100 * c + 4 * k + j) / 100) = t := by
    omega
  simp only [civilFromDays, hyoe, hdoy]
  have hmp : (5 * t + 2) / 153 ≤ 11 := by omega
  congr 1
  split_ifs <;> omega

/-- A day number's date is taken back to the day number. -/
theorem daysFromCivil_civilFromDays (z : Int) :
    daysFromCivil (civilFromDays z).year (civilFromDays z).month (civilFromDays z).day = z := by
  obtain ⟨era, c, k, j, t, hz, hc, hk, hj, ht, hleap, hdate⟩ := civilFromDays_spec z
  rw [hdate]
  have hmp : (5 * t + 2) / 153 ≤ 11 := by omega
  have hstart : (153 * ((5 * t + 2) / 153) + 2) / 5 ≤ t := by omega
  have hjan : 306 ≤ t ↔ 10 ≤ (5 * t + 2) / 153 := by omega
  generalize hmp' : (5 * t + 2) / 153 = mp at *
  simp only [daysFromCivil]
  split_ifs <;> omega

theorem daysInMonth_eq (y : Int) (m : Nat) :
    daysInMonth y m = if m = 2 then (if isLeapYear y then 29 else 28)
      else if m = 4 ∨ m = 6 ∨ m = 9 ∨ m = 11 then 30 else 31 := by
  unfold daysInMonth
  split <;> simp_all

/-- Every day from the first day of the year -262143 to the last of the year 262142 has a valid
date. -/
theorem civilFromDays_isValid {z : Int} (h₁ : daysFromCivil (-262143) 1 1 ≤ z)
    (h₂ : z ≤ daysFromCivil 262142 12 31) : (civilFromDays z).isValid = true := by
  have hfirst : daysFromCivil (-262143) 1 1 = -96465292 := by decide
  have hlast : daysFromCivil 262142 12 31 = 95026236 := by decide
  rw [hfirst] at h₁
  rw [hlast] at h₂
  obtain ⟨era, c, k, j, t, hz, hc, hk, hj, ht, hleap, hdate⟩ := civilFromDays_spec z
  rw [hdate]
  simp only [Date.isValid, daysInMonth_eq, isLeapYear, Bool.and_eq_true, Bool.or_eq_true,
    decide_eq_true_eq]
  -- the month and the first day of the month, counted from March
  have hmp : (5 * t + 2) / 153 ≤ 11 ∧ 153 * ((5 * t + 2) / 153) ≤ 5 * t + 2 ∧
      5 * t + 2 < 153 * ((5 * t + 2) / 153) + 153 := by omega
  generalize (5 * t + 2) / 153 = mp at *
  have hstart : 5 * ((153 * mp + 2) / 5) ≤ 153 * mp + 2 ∧
      153 * mp + 2 < 5 * ((153 * mp + 2) / 5) + 5 := by omega
  generalize (153 * mp + 2) / 5 = s at *
  -- the first and last eras of the range are the only ones whose years may leave it
  have hera :
      era ≤ -657 ∨ era = -656 ∨ (-655 ≤ era ∧ era ≤ 654) ∨ era = 655 ∨ 656 ≤ era := by
    omega
  -- the day 365 of a March-based year is February 29 of a leap year
  have hleapYear : t = 365 → (400 * era + ↑(100 * c + 4 * k + j) + 1) % 4 = 0 ∧
      ((400 * era + ↑(100 * c + 4 * k + j) + 1) % 100 ≠ 0 ∨
        (400 * era + ↑(100 * c + 4 * k + j) + 1) % 400 = 0) := by
    intro h
    obtain ⟨rfl, hk | rfl⟩ := hleap h <;> omega
  refine ⟨⟨⟨⟨⟨?_, ?_⟩, ?_⟩, ?_⟩, ?_⟩, ?_⟩
  · split_ifs <;> rcases hera with h | rfl | h | rfl | h <;> omega
  · split_ifs <;> rcases hera with h | rfl | h | rfl | h <;> omega
  · split_ifs <;> omega
  · split_ifs <;> omega
  · omega
  · split_ifs <;> omega

namespace Instant

/-- The date of an instant of the range is a valid date. -/
theorem date_isValid {i : Instant} (h : i.inRange = true) : i.date.isValid = true := by
  have hfirst : daysFromCivil (-262143) 1 1 = -96465292 := by decide
  have hlast : daysFromCivil 262142 12 31 = 95026236 := by decide
  simp only [inRange, first, last, secondsPerDay, hfirst, hlast, Bool.and_eq_true,
    decide_eq_true_iff] at h
  apply civilFromDays_isValid <;> simp only [day, secondsPerDay, hfirst, hlast] <;> omega

theorem secondOfDay_lt (i : Instant) : i.secondOfDay < 86400 := by
  have hlt := Int.emod_lt_of_pos i.seconds (show (0 : Int) < 86400 by decide)
  have hnonneg := Int.emod_nonneg i.seconds (show (86400 : Int) ≠ 0 by decide)
  simp only [secondOfDay, secondsPerDay]
  omega

/-- An instant's seconds are its day's and its second of the day. -/
theorem seconds_eq (i : Instant) : i.seconds = i.day * 86400 + (i.secondOfDay : Int) := by
  have hnonneg := Int.emod_nonneg i.seconds (show (86400 : Int) ≠ 0 by decide)
  simp only [day, secondOfDay, secondsPerDay, Int.toNat_of_nonneg hnonneg]
  omega

end Instant

end Sift.Time
