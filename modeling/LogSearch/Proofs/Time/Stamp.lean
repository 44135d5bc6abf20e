import LogSearch.Proofs.Time.Date
import LogSearch.Time.Text

/-!
# Stamps read back

A number with zeros in front is read back, if its width suits the reader and no digit follows where
the reader would go on. From this it follows for years, dates and times of day, and so for the form
of documents and range bounds.

Main statement: reading a stamp gives the instant cut to whole milliseconds (`readStamp?_stamp`).
-/

namespace LogSearch

variable {cs rest : List Char}

/-! ## Digits -/

theorem natOfDigits_eq (start : Nat) (digits : List Char) :
    natOfDigits start digits = Nat.ofDigitChars 10 digits start :=
  Nat.ofDigitChars_eq_foldl.symm

/-- Zeros in front do not count. -/
theorem natOfDigits_padded (w n : Nat) : natOfDigits 0 (padded w n) = n := by
  rw [natOfDigits_eq, padded, Nat.ofDigitChars_append, Nat.ofDigitChars_replicate_zero,
    Nat.mul_zero, decimalDigits, Nat.ofDigitChars_ten_toDigits]

theorem isDigit_of_mem_padded {w n : Nat} : ∀ c ∈ padded w n, c.isDigit = true := by
  intro c hc
  rcases List.mem_append.mp hc with hc | hc
  · rw [(List.mem_replicate.mp hc).2]
    decide
  · exact Nat.isDigit_of_mem_toDigits (by decide) (by decide) hc

/-- A number that fits into the width takes it exactly. -/
theorem length_padded {w n : Nat} (hpos : 0 < w) (h : n < 10 ^ w) :
    (padded w n).length = w := by
  have hle : (decimalDigits n).length ≤ w :=
    (Nat.length_toDigits_le_iff (by decide) hpos).mpr h
  rw [padded, List.length_append, List.length_replicate]
  omega

theorem le_length_padded (w n : Nat) : w ≤ (padded w n).length := by
  rw [padded, List.length_append, List.length_replicate]
  omega

/-- A text with a padded number at its front starts with a digit. -/
theorem padded_append_eq_cons {w : Nat} (hpos : 0 < w) (n : Nat) (rest : List Char) :
    ∃ c tail, padded w n ++ rest = c :: tail ∧ c.isDigit = true := by
  have hle := le_length_padded w n
  obtain ⟨c, tail, hc⟩ := List.exists_cons_of_length_pos (show 0 < (padded w n).length by omega)
  exact ⟨c, tail ++ rest, by rw [hc]; rfl, isDigit_of_mem_padded c (by rw [hc]; simp)⟩

theorem isBlank_of_isDigit {c : Char} (h : c.isDigit = true) : isBlank c = false := by
  simp only [Char.isDigit, Bool.and_eq_true, decide_eq_true_eq, UInt32.le_iff_toNat_le] at h
  simp only [isBlank, Char.toNat, Bool.or_eq_false_iff, Bool.and_eq_false_iff,
    decide_eq_false_iff_not, beq_eq_false_iff_ne]
  have h0 : ('0'.val).toNat = 48 := rfl
  have h9 : ('9'.val).toNat = 57 := rfl
  omega

theorem trimFront_cons {c : Char} (h : isBlank c = false) : trimFront (c :: cs) = c :: cs := by
  simp [trimFront, h]

theorem trimFront_padded {w : Nat} (hpos : 0 < w) (n : Nat) (rest : List Char) :
    trimFront (padded w n ++ rest) = padded w n ++ rest := by
  obtain ⟨c, tail, hc, hdigit⟩ := padded_append_eq_cons hpos n rest
  rw [hc, trimFront_cons (isBlank_of_isDigit hdigit)]

theorem takeWhile_digits {ds : List Char} (hds : ∀ c ∈ ds, c.isDigit = true)
    (hrest : ∀ c ∈ rest.head?, c.isDigit = false) :
    (ds ++ rest).takeWhile Char.isDigit = ds ∧ (ds ++ rest).dropWhile Char.isDigit = rest := by
  have hstop : rest.takeWhile Char.isDigit = [] ∧ rest.dropWhile Char.isDigit = rest := by
    cases rest with
    | nil => exact ⟨rfl, rfl⟩
    | cons c rest => simp [hrest c rfl]
  rw [List.takeWhile_append_of_pos hds, List.dropWhile_append_of_pos hds, hstop.1, hstop.2]
  simp

namespace TimeText

/-- Digits are read, if there are not too few of them and the reader stops behind them. -/
theorem digits?_append {ds : List Char} {least most : Nat} (hds : ∀ c ∈ ds, c.isDigit = true)
    (hleast : least ≤ ds.length) (hmost : ds.length ≤ most)
    (hrest : ds.length < most → ∀ c ∈ rest.head?, c.isDigit = false) :
    digits? least most (ds ++ rest) = some (natOfDigits 0 ds, rest) := by
  have htake : ((ds ++ rest).take most).takeWhile Char.isDigit = ds := by
    rw [List.take_append, List.take_of_length_le hmost]
    refine (takeWhile_digits hds ?_).1
    rcases Nat.lt_or_eq_of_le hmost with hlt | heq
    · intro c hc
      refine hrest hlt c ?_
      rw [List.head?_take, if_neg (by omega)] at hc
      exact hc
    · simp [heq]
  simp only [digits?, htake]
  rw [if_neg (Nat.not_lt.mpr hleast), List.drop_left]

/-- A month, a day or a part of the time of day, in two digits. -/
theorem short?_padded {n : Nat} (h : n < 100) :
    short? (padded 2 n ++ rest) = some (n, rest) := by
  have hlength := length_padded (w := 2) (by decide) h
  rw [short?, trimFront_padded (by decide),
    digits?_append isDigit_of_mem_padded (by omega) (by omega) (by omega), natOfDigits_padded]

theorem run?_padded {w n : Nat} (hpos : 0 < w)
    (hrest : ∀ c ∈ rest.head?, c.isDigit = false) :
    run? (padded w n ++ rest) = some (n, rest) := by
  have hle := le_length_padded w n
  have hmost : (padded w n).length ≤ (padded w n ++ rest).length := by simp
  rw [run?, digits?_append isDigit_of_mem_padded (by omega) hmost fun _ => hrest,
    natOfDigits_padded]

/-- A year is read in either form. -/
theorem year?_yearText (year : Int) (hrest : ∀ c ∈ rest.head?, c.isDigit = false) :
    year? (yearText year ++ rest) = some (year, rest) := by
  rw [yearText]
  split
  · next h =>
    have hlength := length_padded (w := 4) (n := year.toNat) (by decide) (by omega)
    have hread : digits? 1 4 (padded 4 year.toNat ++ rest) = some (year.toNat, rest) := by
      rw [digits?_append isDigit_of_mem_padded (by omega) (by omega) (by omega),
        natOfDigits_padded]
    -- the front is a digit, so neither sign is taken
    obtain ⟨c, tail, hc, hdigit⟩ := padded_append_eq_cons (w := 4) (by decide) year.toNat rest
    unfold year?
    rw [trimFront_padded (by decide)]
    rw [hc] at hread ⊢
    split
    · next heq => rw [(List.cons.inj heq).1] at hdigit; cases hdigit
    · next heq => rw [(List.cons.inj heq).1] at hdigit; cases hdigit
    · rw [hread, Option.map_some]
      simp only [Int.toNat_of_nonneg h.1]
  · next h =>
    have hread := run?_padded (w := 4) (n := year.natAbs) (by decide) hrest
    by_cases hneg : year < 0
    · rw [if_pos hneg, List.cons_append]
      show (run? (padded 4 year.natAbs ++ rest)).map _ = _
      rw [hread, Option.map_some]
      simp only [Option.some.injEq, Prod.mk.injEq, and_true]
      omega
    · rw [if_neg hneg, List.cons_append]
      show (run? (padded 4 year.natAbs ++ rest)).map _ = _
      rw [hread, Option.map_some]
      simp only [Option.some.injEq, Prod.mk.injEq, and_true]
      omega

/-- Decimals of a second, at most nine. -/
theorem fraction?_padded {w n : Nat} (hpos : 0 < w) (hw : w ≤ 9) (h : n < 10 ^ w)
    (hrest : ∀ c ∈ rest.head?, c.isDigit = false) :
    fraction? ('.' :: (padded w n ++ rest)) = some (n * Nat.pow 10 (9 - w), rest) := by
  have hlength := length_padded hpos h
  have hdigits : ∀ c ∈ padded w n, c.isDigit = true := isDigit_of_mem_padded
  obtain ⟨htake, hdrop⟩ := takeWhile_digits hdigits hrest
  have hne : (padded w n).isEmpty = false := by
    rw [List.isEmpty_eq_false_iff, ← List.length_pos_iff]
    omega
  have hkept : (padded w n).take 9 = padded w n := List.take_of_length_le (by omega)
  rw [fraction?, decimals?, htake, hdrop]
  simp only [hne, hkept, hlength, natOfDigits_padded, Bool.false_eq_true, if_false]

/-! ## Dates and times of day -/

theorem char?_cons (c : Char) (cs : List Char) : char? c (c :: cs) = some cs := by simp [char?]

variable {gap : List Char → List Char}

theorem date?_dateText (hgap : ∀ c cs, isBlank c = false → gap (c :: cs) = c :: cs) (t : Instant) :
    date? gap (t.dateText ++ rest) = some ((t.date.year, t.date.month, t.date.day), rest) := by
  obtain ⟨_, _, hmonth, _, hday, _⟩ := ofNumber_spec t.day
  have hmonth : t.date.month < 100 := Nat.lt_of_le_of_lt hmonth (by decide)
  have hday : t.date.day < 100 :=
    Nat.lt_of_le_of_lt (Nat.le_trans hday (monthLength_le _ _)) (by decide)
  have hdash : ∀ cs, char? '-' (gap ('-' :: cs)) = some cs := fun cs => by
    rw [hgap _ _ (by decide), char?_cons]
  have htext : t.dateText ++ rest = yearText t.date.year
      ++ '-' :: (padded 2 t.date.month ++ '-' :: (padded 2 t.date.day ++ rest)) := by
    simp [Instant.dateText]
  rw [htext, date?, year?_yearText _ (by simp), Option.bind_eq_bind, Option.bind_some]
  simp only [hdash, Option.bind_eq_bind, Option.bind_some]
  rw [short?_padded hmonth, Option.bind_some]
  simp only [hdash, Option.bind_some]
  rw [short?_padded hday]
  rfl

theorem hourMinute?_padded (hgap : ∀ c cs, isBlank c = false → gap (c :: cs) = c :: cs)
    {hour minute : Nat} (hhour : hour < 100) (hminute : minute < 100) :
    hourMinute? gap (padded 2 hour ++ ':' :: (padded 2 minute ++ rest))
      = some ((hour, minute), rest) := by
  rw [hourMinute?, short?_padded hhour, Option.bind_eq_bind, Option.bind_some]
  simp only [hgap ':' _ (by decide), char?_cons, Option.bind_eq_bind, Option.bind_some]
  rw [short?_padded hminute]
  rfl

theorem clockText_append (t : Instant) : t.clockText ++ rest = padded 2 (t.second / 3600)
    ++ ':' :: (padded 2 (t.second / 60 % 60)
      ++ ':' :: (padded 2 (t.second % 60 + t.nano / nanosPerSecond) ++ rest)) := by
  simp [Instant.clockText]

theorem clock?_clockText (hgap : ∀ c cs, isBlank c = false → gap (c :: cs) = c :: cs)
    (t : Instant) : clock? gap (t.clockText ++ rest)
      = some ((t.second / 3600, t.second / 60 % 60, t.second % 60 + t.nano / nanosPerSecond),
          rest) := by
  have hsecond := t.second_lt
  have hnano := t.nano_lt
  rw [secondsPerDay] at hsecond
  have hclock : t.second % 60 + t.nano / nanosPerSecond < 100 := by
    rw [nanosPerSecond] at *
    omega
  rw [clockText_append, clock?, hourMinute?_padded hgap (by omega) (by omega), Option.bind_eq_bind,
    Option.bind_some]
  simp only [hgap ':' _ (by decide), char?_cons, Option.bind_eq_bind, Option.bind_some]
  rw [short?_padded hclock]
  rfl

/-- A date and a time of day that exist are an instant; `leap` says whether the clock shows 60. -/
theorem Fields.instant?_eq {f : Fields} {second leap : Nat}
    (hdate : (⟨f.year, f.month, f.day⟩ : Date).isValid = true) (hhour : f.hour < 24)
    (hminute : f.minute < 60) (hleap : f.second = 60 ∧ leap = 1 ∨ f.second < 60 ∧ leap = 0)
    (hsecond : f.hour * 3600 + f.minute * 60 + f.second = second + leap) :
    f.instant? 0 = Instant.ofParts? (⟨f.year, f.month, f.day⟩ : Date).number second
      (f.nano + leap * nanosPerSecond) := by
  have hday : ∀ day : Int, day + (second : Int) / (86400 : Nat) = day := fun day => by omega
  have hrest : ((second : Int) % (86400 : Nat)).toNat = second := by omega
  -- 60 is read as 59 and a second more of nanoseconds
  rcases hleap with ⟨hsixty, rfl⟩ | ⟨hless, rfl⟩
  · have hseconds : (f.hour : Int) * 3600 + f.minute * 60 + (60 - 1 : Nat) - 0 = second := by
      omega
    simp only [instant?, hdate, hhour, hminute, hsixty, Nat.le_refl, decide_true, Bool.and_self,
      if_true, secondsPerDay, hseconds, hday, hrest]
  · have hseconds : (f.hour : Int) * 3600 + f.minute * 60 + (f.second - 0 : Nat) - 0 = second := by
      omega
    simp only [instant?, hdate, hhour, hminute, Nat.le_of_lt hless, Nat.ne_of_lt hless,
      decide_true, Bool.and_self, if_true, if_false, secondsPerDay, hseconds, hday, hrest]

end TimeText

namespace Instant

open TimeText

/-! ## Stamps -/

/-- The instant without what is less than a millisecond. -/
def wholeMillis (t : Instant) : Instant :=
  ⟨t.day, t.second, t.nano / 1000000 * 1000000, t.day_ge, t.day_le, t.second_lt,
    Nat.lt_of_le_of_lt (Nat.div_mul_le_self _ _) t.nano_lt, fun h =>
      t.leap_last (Nat.le_trans h (Nat.div_mul_le_self _ _))⟩

theorem ofParts?_self (t : Instant) : ofParts? t.day t.second t.nano = some t :=
  dif_pos ⟨t.day_ge, t.day_le, t.second_lt, t.nano_lt, t.leap_last⟩

/-- What a clock shows adds up to the second of the day. -/
theorem seconds_shown (second leap : Nat) :
    second / 3600 * 3600 + second / 60 % 60 * 60 + (second % 60 + leap) = second + leap := by
  omega

/-- What is shown of an instant says which it is. -/
theorem instant?_shown (t : Instant) :
    Fields.instant? ⟨t.date.year, t.date.month, t.date.day, t.second / 3600, t.second / 60 % 60,
      t.second % 60 + t.nano / nanosPerSecond, t.subSecond⟩ 0 = some t := by
  have hsecond := t.second_lt
  have hnano := t.nano_lt
  have hleap := t.leap_last
  simp only [secondsPerDay, nanosPerSecond] at hsecond hnano hleap
  have hnanos : t.subSecond + t.nano / nanosPerSecond * nanosPerSecond = t.nano :=
    Nat.mod_add_div' t.nano nanosPerSecond
  -- only a leap second is shown as 60
  have hsixty : t.second % 60 + t.nano / nanosPerSecond = 60 ∧ t.nano / nanosPerSecond = 1
      ∨ t.second % 60 + t.nano / nanosPerSecond < 60 ∧ t.nano / nanosPerSecond = 0 := by
    simp only [nanosPerSecond]
    omega
  have heq := @Fields.instant?_eq ⟨t.date.year, t.date.month, t.date.day, t.second / 3600,
      t.second / 60 % 60, t.second % 60 + t.nano / nanosPerSecond, t.subSecond⟩
    t.second (t.nano / nanosPerSecond) (ofNumber_isValid t.day_ge t.day_le) (by simp only; omega)
    (by simp only; omega) hsixty (seconds_shown _ _)
  have hnumber : (⟨t.date.year, t.date.month, t.date.day⟩ : Date).number = t.day :=
    number_ofNumber t.day
  simp only [hnanos, hnumber] at heq
  rw [heq]
  exact ofParts?_self t

/-- What is written of an instant says which it is, up to a millisecond. -/
theorem instant?_written (t : Instant) :
    Fields.instant? ⟨t.date.year, t.date.month, t.date.day, t.second / 3600, t.second / 60 % 60,
      t.second % 60 + t.nano / nanosPerSecond, t.subSecond / 1000000 * 1000000⟩ 0
      = some t.wholeMillis := by
  have hleap : t.wholeMillis.nano / nanosPerSecond = t.nano / nanosPerSecond := by
    simp only [wholeMillis, nanosPerSecond]
    omega
  have hmillis : t.wholeMillis.subSecond = t.subSecond / 1000000 * 1000000 := by
    simp only [subSecond, wholeMillis, nanosPerSecond]
    omega
  rw [← hleap, ← hmillis]
  exact instant?_shown t.wholeMillis

theorem readLoose?_stampChars (t : Instant) : readLoose? t.stampChars = some t.wholeMillis := by
  have hmillis : t.subSecond / 1000000 < 10 ^ 3 := by
    simp only [subSecond, nanosPerSecond]
    omega
  have hfraction : fraction? t.millisText = some (t.subSecond / 1000000 * 1000000, []) := by
    have h := @fraction?_padded [] 3 _ (by decide) (by decide) hmillis (by simp)
    rwa [List.append_nil] at h
  have htext : t.stampChars = t.dateText ++ (' ' :: (t.clockText ++ t.millisText)) := by
    simp [stampChars]
  -- any blanks may stand between date and time, and the first digit ends them
  have htrim : trimFront (' ' :: (t.clockText ++ t.millisText)) = t.clockText ++ t.millisText := by
    have hblank : trimFront (' ' :: (t.clockText ++ t.millisText))
        = trimFront (t.clockText ++ t.millisText) := rfl
    rw [hblank, clockText]
    simp only [List.append_assoc]
    rw [trimFront_padded (by decide)]
  rw [htext, readLoose?, date?_dateText fun _ _ _ => rfl, Option.bind_eq_bind, Option.bind_some]
  simp only [htrim]
  rw [clock?_clockText fun _ _ _ => rfl, Option.bind_eq_bind, Option.bind_some]
  simp only
  rw [hfraction, Option.bind_eq_bind, Option.bind_some]
  exact instant?_written t

/-- **A stamp is read as the instant cut to whole milliseconds.** -/
theorem readStamp?_stamp (t : Instant) : readStamp? t.stamp = some t.wholeMillis := by
  rw [readStamp?, stamp, String.toList_ofList, readStampChars?, readLoose?_stampChars]

theorem wholeMillis_eq_self {t : Instant} (h : t.nano % 1000000 = 0) : t.wholeMillis = t := by
  have hnano : t.nano / 1000000 * 1000000 = t.nano := by omega
  cases t
  simpa [wholeMillis] using hnano

end Instant

end LogSearch
