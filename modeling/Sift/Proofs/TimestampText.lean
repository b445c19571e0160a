import Mathlib
import Sift.Time.Rfc3339
import Sift.Proofs.NumberText
import Sift.Proofs.CalendarDays

/-!
# Timestamps read back

An instant is written as `YYYY-MM-DDTHH:MM:SS[.fff]Z` (`Instant.render`) and read by
`Instant.parse`. Reading a written instant gives it back (`Instant.parse_render`) for every
instant the format can hold (`Instant.Valid`): one of the range, whose fraction is below a
second except during a leap second.

The reader is followed field by field. Each field's lemma reads the field's text followed by
any text that does not continue it (`year_renderYear`, `field_padded`, `fraction_renderFraction`),
and `fields_render` chains them through the reader's steps. `toInstant_shownFields` then takes
the fields back to the instant through the calendar of `Sift.Proofs.CalendarDays`.
-/

namespace Sift.Time

open Rfc3339 Json

/-! ## Reading the fields -/

theorem toList_padded (w n : Nat) :
    (padded w n).toList =
      List.replicate (w - (Nat.toDigits 10 n).length) '0' ++ Nat.toDigits 10 n := by
  simp [padded, ← String.length_toList, Nat.toList_repr]

/-- Padding with zeros keeps the digits reading as the number. -/
theorem digitText_padded (w n : Nat) : DigitText (padded w n).toList n := by
  rw [toList_padded]
  obtain ⟨hdig, hne, hval⟩ := digitText_toDigits n
  refine ⟨fun c hc => ?_, by simp [hne], by rw [ofDigitChars_replicate_zero_append, hval]⟩
  rcases List.mem_append.1 hc with hc | hc
  · rw [List.eq_of_mem_replicate hc]
    rfl
  · exact hdig c hc

theorem length_padded {w n : Nat} (hw : 0 < w) (h : n < 10 ^ w) :
    (padded w n).toList.length = w := by
  have := (Nat.length_toDigits_le_iff (by norm_num) hw).2 h
  rw [toList_padded, List.length_append, List.length_replicate]
  omega

theorem isBlank_of_isDigit {c : Char} (h : c.isDigit = true) : Text.isBlank c = false := by
  simp only [Char.isDigit, Bool.and_eq_true, decide_eq_true_eq] at h
  have h1 : 48 ≤ c.toNat := h.1
  have h2 : c.toNat ≤ 57 := h.2
  simp only [Text.isBlank]
  simp
  omega

/-- Digits up to something that is not a digit read as their number, within the width and the
limit. -/
theorem number_digits {ds rest : List Char} {n max : Nat} (hds : DigitText ds n)
    (hlen : ds.length ≤ max) (hrest : ∀ c ∈ rest.head?, c.isDigit = false)
    (hn : n ≤ numberLimit) : number max (ds ++ rest) = .ok (n, rest) := by
  obtain ⟨hdig, hne, hval⟩ := hds
  have htake : (ds ++ rest).takeWhile Char.isDigit = ds := by
    rw [List.takeWhile_append_of_pos hdig]
    cases rest with
    | nil => simp
    | cons c rest => simp [hrest c (by simp)]
  obtain ⟨d, ds', rfl⟩ := List.exists_cons_of_ne_nil hne
  have hd : d.isDigit = true := hdig d (by simp)
  have hfold : (d :: ds').foldl (fun a c => 10 * a + digitValue c) 0 = n := hval
  simp only [List.cons_append] at htake ⊢
  simp [number, hd, htake, List.take_of_length_le hlen, hfold, Nat.not_lt.2 hn]

theorem skipBlanks_cons {c : Char} (hc : Text.isBlank c = false) (cs : List Char) :
    skipBlanks (c :: cs) = c :: cs := by
  simp [skipBlanks, hc]

theorem skipBlanks_digitText {ds : List Char} {n : Nat} (hds : DigitText ds n) (rest : List Char) :
    skipBlanks (ds ++ rest) = ds ++ rest := by
  obtain ⟨d, ds', rfl⟩ := List.exists_cons_of_ne_nil hds.ne_nil
  exact skipBlanks_cons (isBlank_of_isDigit (hds.isDigit d (by simp))) _

/-- A field of two digits within its bounds reads as its number. -/
theorem field_padded {v lo hi : Nat} (hlo : lo ≤ v) (hhi : v ≤ hi) (hv : v < 100)
    {rest : List Char} (hrest : ∀ c ∈ rest.head?, c.isDigit = false) :
    field 2 lo hi ((padded 2 v).toList ++ rest) = .ok (v, rest) := by
  have hds := digitText_padded 2 v
  have hn : v ≤ numberLimit := by simp [numberLimit]; omega
  simp [field, skipBlanks_digitText hds,
    number_digits hds (length_padded (by norm_num) hv).le hrest hn, hlo, hhi, bind, Except.bind]

/-- A character that is not blank is matched by itself. -/
theorem literal_cons {c : Char} (hc : Text.isBlank c = false) (rest : List Char) :
    literal c (c :: rest) = .ok rest := by
  simp [literal, skipBlanks, hc]

theorem ok_bind_eq {ε α β : Type} (a : α) (f : α → Except ε β) :
    (Except.ok a >>= f) = f a := by
  simp only [bind, Except.bind]

/-- The range check of a year passes for a year within `2^31` of zero. -/
theorem year_range_ok {y : Int} {rest : List Char} (hlo : -(2 ^ 31) ≤ y) (hhi : y < 2 ^ 31) :
    (if -Int.pow 2 31 ≤ y ∧ y < Int.pow 2 31 then .ok (y, rest) else .error .outOfRange :
      Except TimeError (Int × List Char)) = .ok (y, rest) := by
  have hpow : Int.pow 2 31 = 2 ^ 31 := rfl
  rw [hpow, if_pos ⟨by omega, hhi⟩]

/-- A year without sign: four digits at most, below `2^31`. -/
theorem year_unsigned {cs rest : List Char} {v : Nat}
    (hminus : ∀ r, skipBlanks cs ≠ '-' :: r) (hplus : ∀ r, skipBlanks cs ≠ '+' :: r)
    (hnum : number 4 (skipBlanks cs) = .ok (v, rest)) (hv : v < 2 ^ 31) :
    year cs = .ok (v, rest) := by
  unfold year
  split
  · next h => exact absurd h (hminus _)
  · next h => exact absurd h (hplus _)
  · simp only [hnum, ok_bind_eq, pure_bind]
    exact year_range_ok (by omega) (by omega)

/-- A year after a minus sign: its digits, down to `-2^31`. -/
theorem year_negative {cs r rest : List Char} {v : Nat} (hcs : skipBlanks cs = '-' :: r)
    (hnum : number r.length r = .ok (v, rest)) (hv : v ≤ 2 ^ 31) :
    year cs = .ok (-(v : Int), rest) := by
  unfold year
  rw [hcs]
  simp only [hnum, ok_bind_eq, pure_bind]
  exact year_range_ok (by omega) (by omega)

/-- A year after a plus sign: its digits, below `2^31`. -/
theorem year_positive {cs r rest : List Char} {v : Nat} (hcs : skipBlanks cs = '+' :: r)
    (hnum : number r.length r = .ok (v, rest)) (hv : v < 2 ^ 31) :
    year cs = .ok (v, rest) := by
  unfold year
  rw [hcs]
  simp only [hnum, ok_bind_eq, pure_bind]
  exact year_range_ok (by omega) (by omega)

/-- A year of the range of instants reads back from its text. -/
theorem year_renderYear {Y : Int} (hY : -262143 ≤ Y ∧ Y ≤ 262142) {rest : List Char}
    (hrest : ∀ c ∈ rest.head?, c.isDigit = false) :
    year ((renderYear Y).toList ++ rest) = .ok (Y, rest) := by
  have hlim : ∀ v : Nat, v ≤ 262143 → v ≤ numberLimit := fun v hv => by
    simp [numberLimit]; omega
  unfold renderYear
  split_ifs with h0 hneg
  · -- four digits, no sign
    have hds := digitText_padded 4 Y.toNat
    have hnum := number_digits hds (length_padded (by norm_num) (by omega)).le hrest
      (hlim _ (by omega))
    obtain ⟨d, ds', hdd⟩ := List.exists_cons_of_ne_nil hds.ne_nil
    have hd : d.isDigit = true := hds.isDigit d (by simp [hdd])
    have hyear := @year_unsigned ((padded 4 Y.toNat).toList ++ rest) rest Y.toNat
      (fun r h => by rw [skipBlanks_digitText hds, hdd] at h; simp [(List.cons_eq_cons.1 h).1] at hd)
      (fun r h => by rw [skipBlanks_digitText hds, hdd] at h; simp [(List.cons_eq_cons.1 h).1] at hd)
      (by rw [skipBlanks_digitText hds]; exact hnum) (by omega)
    rwa [Int.toNat_of_nonneg h0.1] at hyear
  all_goals
    -- a sign, then at least four digits
    have hds := digitText_padded 4 Y.natAbs
    have hnum := @number_digits _ _ _ ((padded 4 Y.natAbs).toList.length + rest.length) hds
      (by omega) hrest (hlim _ (by omega))
    rw [String.toList_append, List.append_assoc]
  · have hcs : skipBlanks ("-".toList ++ ((padded 4 Y.natAbs).toList ++ rest)) =
        '-' :: ((padded 4 Y.natAbs).toList ++ rest) := by
      rw [show "-".toList = ['-'] by simp, List.singleton_append]
      exact skipBlanks_cons (by decide) _
    have hyear := year_negative hcs (by rw [List.length_append]; exact hnum) (by omega)
    rwa [Int.natCast_natAbs, abs_of_neg hneg, neg_neg] at hyear
  · have hcs : skipBlanks ("+".toList ++ ((padded 4 Y.natAbs).toList ++ rest)) =
        '+' :: ((padded 4 Y.natAbs).toList ++ rest) := by
      rw [show "+".toList = ['+'] by simp, List.singleton_append]
      exact skipBlanks_cons (by decide) _
    have hyear := year_positive hcs (by rw [List.length_append]; exact hnum) (by omega)
    rwa [Int.natCast_natAbs, abs_of_nonneg (by omega)] at hyear

/-- A point and `w` digits give the digits' number in units of `10^(9 - w)` nanoseconds. -/
theorem fraction_point {ds rest : List Char} {m : Nat} (hds : DigitText ds m)
    (hlen : ds.length ≤ 9) (hm : m < 10 ^ 9) (hrest : ∀ c ∈ rest.head?, c.isDigit = false) :
    fraction ('.' :: (ds ++ rest)) = .ok (m * 10 ^ (9 - ds.length), rest) := by
  have hnum := number_digits hds hlen hrest (by simp [numberLimit]; omega)
  have hdrop : rest.dropWhile Char.isDigit = rest := by
    cases rest with
    | nil => rfl
    | cons c rest => simp [hrest c (by simp)]
  simp [fraction, hnum, ok_bind_eq, hdrop, Nat.pow_eq]

/-- A fraction of a second reads back from its text. -/
theorem fraction_renderFraction {n : Nat} (hn : n < 10 ^ 9) {rest : List Char}
    (hrest : ∀ c ∈ rest.head?, c.isDigit = false ∧ c ≠ '.') :
    fraction ((renderFraction n).toList ++ rest) = .ok (n, rest) := by
  have hdig : ∀ c ∈ rest.head?, c.isDigit = false := fun c hc => (hrest c hc).1
  -- the digits of a fraction shown in `w` places
  have hpoint : ∀ w m, 0 < w → w ≤ 9 → m < 10 ^ w → m * 10 ^ (9 - w) = n →
      fraction (("." ++ padded w m).toList ++ rest) = .ok (n, rest) := by
    intro w m hw hw9 hm hmn
    have hlen := length_padded hw hm
    have hm9 : m < 10 ^ 9 := lt_of_lt_of_le hm (Nat.pow_le_pow_right (by norm_num) hw9)
    rw [String.toList_append, show ".".toList = ['.'] by simp, List.singleton_append,
      List.cons_append, fraction_point (digitText_padded w m) (by omega) hm9 hdig, hlen, hmn]
  unfold renderFraction
  split_ifs with h0 h6 h3
  · subst h0
    unfold fraction
    split
    · next r h =>
      simp only [String.toList_empty, List.nil_append] at h
      exact absurd (hrest '.' (by simp [h])).2 (by simp)
    · simp
  · exact hpoint 3 (n / 1000000) (by norm_num) (by norm_num) (by omega) (by omega)
  · exact hpoint 6 (n / 1000) (by norm_num) (by norm_num) (by omega) (by omega)
  · exact hpoint 9 n (by norm_num) le_rfl hn (by simp)

/-- The text of an instant, character by character: the date's fields, `T`, the clock's fields,
the fraction and `Z`. -/
theorem toList_render (i : Instant) :
    i.render.toList = (renderYear i.date.year).toList ++ '-' :: ((padded 2 i.date.month).toList ++
      '-' :: ((padded 2 i.date.day).toList ++ 'T' :: ((padded 2 (i.secondOfDay / 3600)).toList ++
      ':' :: ((padded 2 (i.secondOfDay % 3600 / 60)).toList ++ ':' ::
      ((padded 2 (i.secondOfDay % 60 + if i.nanos ≥ 1000000000 then 1 else 0)).toList ++
      ((renderFraction (i.nanos - (if i.nanos ≥ 1000000000 then 1 else 0) * 1000000000)).toList ++
        ['Z'])))))) := by
  simp [Instant.render, Instant.renderWith, Instant.clock, List.append_assoc]

/-- A fraction starts with its point, or is empty. -/
theorem renderFraction_append_head (n : Nat) {c : Char} (hc : c.isDigit = false)
    (rest : List Char) :
    ∀ d ∈ ((renderFraction n).toList ++ c :: rest).head?, d.isDigit = false := by
  unfold renderFraction
  split_ifs <;> simp [hc]

/-! ## Instants the format holds -/

namespace Instant

/-- An instant the timestamp format can hold: in the range of instants, its fraction below a
second except in a leap second, which only the last second of a minute has. -/
structure Valid (i : Instant) : Prop where
  inRange : i.inRange = true
  nanos_lt : i.nanos < 10 ^ 9 ∨ (i.nanos < 2 * 10 ^ 9 ∧ i.secondOfDay % 60 = 59)

/-- The fields an instant's text shows: its date, its clock reading (a leap second as the second
60 and the rest of its fraction) and a zero offset. -/
def shownFields (i : Instant) : Fields :=
  ⟨i.date.year, i.date.month, i.date.day, i.secondOfDay / 3600, i.secondOfDay % 3600 / 60,
    i.secondOfDay % 60 + (if i.nanos ≥ 1000000000 then 1 else 0),
    i.nanos - (if i.nanos ≥ 1000000000 then 1 else 0) * 1000000000, 0⟩

end Instant

/-- The fields read from an instant's text are the ones it shows. The reader is followed one step
at a time, each field's lemma taking its text off the front. -/
theorem fields_render {i : Instant} (hi : i.Valid) :
    Rfc3339.fields i.render.toList = .ok i.shownFields := by
  have hdate := Instant.date_isValid hi.inRange
  simp only [Date.isValid, daysInMonth_eq, Bool.and_eq_true, decide_eq_true_iff] at hdate
  obtain ⟨⟨⟨⟨⟨hy₁, hy₂⟩, hm₁⟩, hm₂⟩, hd₁⟩, hd₂⟩ := hdate
  have hd₃ : i.date.day ≤ 31 := by split_ifs at hd₂ <;> omega
  have hsod := i.secondOfDay_lt
  have hnanos := hi.nanos_lt
  have hsec : i.secondOfDay % 60 + (if i.nanos ≥ 1000000000 then 1 else 0) ≤ 60 := by
    split <;> omega
  have hfrac : i.nanos - (if i.nanos ≥ 1000000000 then 1 else 0) * 1000000000 < 10 ^ 9 := by
    split <;> omega
  have hZ : ∀ c ∈ (['Z'] : List Char).head?, c.isDigit = false ∧ c ≠ '.' := by
    simp only [List.head?_cons, Option.mem_def, Option.some.injEq, forall_eq']
    decide
  have hfracHead := renderFraction_append_head
    (i.nanos - (if i.nanos ≥ 1000000000 then 1 else 0) * 1000000000) (c := 'Z') (by decide) []
  rw [toList_render, Instant.shownFields]
  -- the leap second shows as a second of 60; the reading is taken as it is
  generalize i.secondOfDay % 60 + (if i.nanos ≥ 1000000000 then 1 else 0) = S at hsec ⊢
  generalize i.nanos - (if i.nanos ≥ 1000000000 then 1 else 0) * 1000000000 = N
    at hfrac hfracHead ⊢
  unfold Rfc3339.fields
  rw [year_renderYear ⟨hy₁, hy₂⟩ (by simp)]
  simp only [ok_bind_eq]
  rw [literal_cons (by decide)]
  simp only [ok_bind_eq]
  rw [field_padded hm₁ hm₂ (by omega) (by simp)]
  simp only [ok_bind_eq]
  rw [literal_cons (by decide)]
  simp only [ok_bind_eq]
  rw [field_padded hd₁ hd₃ (by omega) (by simp)]
  simp only [ok_bind_eq, pure_bind]
  rw [field_padded (Nat.zero_le _) (by omega) (by omega) (by simp)]
  simp only [ok_bind_eq]
  rw [literal_cons (by decide)]
  simp only [ok_bind_eq]
  rw [field_padded (Nat.zero_le _) (by omega) (by omega) (by simp)]
  simp only [ok_bind_eq]
  rw [literal_cons (by decide)]
  simp only [ok_bind_eq]
  rw [field_padded (Nat.zero_le _) hsec (by omega) hfracHead]
  simp only [ok_bind_eq]
  rw [fraction_renderFraction hfrac hZ]
  simp only [ok_bind_eq]
  have hoff : offset (skipBlanks ['Z']) = .ok (0, []) := by
    rw [skipBlanks_cons (by decide)]
    rfl
  rw [hoff]
  simp only [ok_bind_eq, skipBlanks, List.dropWhile_nil, List.isEmpty_nil, Bool.not_true,
    Bool.false_eq_true, if_false]
  rfl

/-! ## Back to the instant -/

/-- The range check of the instant read back passes once it is known to be an instant of the
range. -/
theorem inRange_ite_ok {s : Int} {n : Nat} {i : Instant} (hs : s = i.seconds) (hn : n = i.nanos)
    (hr : i.inRange = true) (e : TimeError) :
    (if (⟨s, n⟩ : Instant).inRange = true then Except.ok ⟨s, n⟩ else Except.error e) =
      Except.ok i := by
  subst hs hn
  exact if_pos hr

/-- The fields an instant shows denote the instant. -/
theorem toInstant_shownFields {i : Instant} (hi : i.Valid) : i.shownFields.toInstant = .ok i := by
  have hvalid : (⟨i.date.year, i.date.month, i.date.day⟩ : Date).isValid = true :=
    Instant.date_isValid hi.inRange
  have hday : daysFromCivil i.date.year i.date.month i.date.day = i.day :=
    daysFromCivil_civilFromDays i.day
  have hsec := i.seconds_eq
  have hsod := i.secondOfDay_lt
  have hnanos := hi.nanos_lt
  unfold Fields.toInstant Instant.shownFields
  rw [if_neg (by simp [hvalid]), if_neg (by simp)]
  dsimp only
  rw [hday, Instant.secondsPerDay]
  -- a leap second is read as the 59th second with a second's worth of nanoseconds
  by_cases hleap : i.nanos ≥ 1000000000
  · rw [if_pos hleap, if_pos (show i.secondOfDay % 60 + 1 = 60 by omega)]
    exact inRange_ite_ok (by omega) (by omega) hi.inRange _
  · rw [if_neg hleap, if_neg (show i.secondOfDay % 60 + 0 ≠ 60 by omega)]
    exact inRange_ite_ok (by omega) (by omega) hi.inRange _

/-- Reading an instant's text gives the instant back. -/
theorem Instant.parse_render {i : Instant} (hi : i.Valid) : Instant.parse i.render = .ok i := by
  rw [Instant.parse, fields_render hi, ok_bind_eq, toInstant_shownFields hi]

end Sift.Time

namespace Sift.Decode

/-- A string holding an instant's text decodes to the instant. -/
theorem instant_render {i : Time.Instant} (hi : i.Valid) : instant (.str i.render) = .ok i := by
  simp only [instant, Time.Instant.parse_render hi]

end Sift.Decode
