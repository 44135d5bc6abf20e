import LogSearch.Proofs.Time.Words

/-!
# Dates in words

`Keyword.WritesInstant` is the written form of an instant in an expression: a date, with a time of
day unless it is midnight, with seconds unless there are none. It is read back if what follows does
not go on with it (`Keyword.WritesInstant.instant?`), so `from … to …` and a date by itself have the
windows that they name.

Main statement: such an expression has exactly that window, or is refused because its ends are
reversed; with anything behind it that cannot belong to it, it is refused for that
(`readKeyword_names`).
-/

namespace LogSearch

open TimeText

variable {cs rest : List Char} {t : Instant}

namespace Keyword

/-! ## Numbers -/

theorem digits?_padded {w n : Nat} (hpos : 0 < w) (hrest : ∀ c ∈ rest.head?, c.isDigit = false) :
    digits? (padded w n ++ rest) = some (padded w n, rest) := by
  have hle := le_length_padded w n
  refine digits?_append (fun hnil => ?_) isDigit_of_mem_padded hrest
  rw [hnil, List.length_nil] at hle
  omega

theorem digits?_padded_cons {w n : Nat} {c : Char} (hpos : 0 < w) (hc : c.isDigit = false) :
    digits? (padded w n ++ c :: rest) = some (padded w n, c :: rest) :=
  digits?_padded hpos fun d hd => by
    obtain rfl := Option.some.inj hd
    exact hc

theorem within?_padded {w n : Nat} (hpos : 0 < w) (h : n < 10 ^ w) :
    within? w (padded w n) = some n := by
  rw [within?, if_pos (Nat.le_of_eq (length_padded hpos h)), natOfDigits_padded]

/-- A number ends with a digit. -/
theorem padded_eq_concat {w : Nat} (hpos : 0 < w) (n : Nat) :
    ∃ front c, padded w n = front ++ [c] ∧ c.isDigit = true := by
  have hle := le_length_padded w n
  exact exists_concat (List.ne_nil_of_length_pos (by omega)) isDigit_of_mem_padded

/-! ## Times of day -/

/-- What may stand between a date and a time of day. -/
def IsSeparator (separator : List Char) : Prop := IsGaps separator ∨ separator = ['T']

/-- The time of day of an instant as it may follow its date. -/
inductive WritesClock (t : Instant) : List Char → Prop
  | none (midnight : t.second = 0) : WritesClock t []
  | minutes {separator : List Char} (between : IsSeparator separator) (whole : t.second % 60 = 0) :
    WritesClock t (separator
      ++ (padded 2 (t.second / 3600) ++ ':' :: padded 2 (t.second / 60 % 60)))
  | seconds {separator : List Char} (between : IsSeparator separator) :
    WritesClock t (separator ++ t.clockText)

/-- A text that does not go on with a date or a time of day. -/
structure Stops (rest : List Char) : Prop where
  digit : ∀ c ∈ rest.head?, c.isDigit = false
  colon : ∀ c ∈ rest.head?, c ≠ ':'
  clock : Keyword.clock? rest = none

theorem isGap_of_isDigit {c : Char} (h : c.isDigit = true) : isGap c = false :=
  isGap_of_isAlphanum (by rw [Char.isAlphanum, h, Bool.or_true])

/-- Either separator is taken in the same way. -/
theorem clock?_separated {separator : List Char} (h : IsSeparator separator) (n : Nat) :
    clock? (separator ++ (padded 2 n ++ rest)) = clock? ('T' :: (padded 2 n ++ rest)) := by
  rcases h with hgaps | rfl
  · obtain ⟨c, tail, hdigits, hdigit⟩ := padded_append_eq_cons (w := 2) (by decide) n rest
    have hgap : gap? (separator ++ (padded 2 n ++ rest)) = some (padded 2 n ++ rest) := by
      refine gap?_append hgaps fun d hd => ?_
      rw [hdigits] at hd
      obtain rfl := Option.some.inj hd
      exact isGap_of_isDigit hdigit
    obtain ⟨d, gaps, rfl⟩ := List.exists_cons_of_ne_nil hgaps.1
    rw [clock?, clock?, hgap]
    intro rest' heq
    have hT := hgaps.2 d List.mem_cons_self
    rw [(List.cons.inj heq).1] at hT
    cases hT
  · rfl

theorem clock?_minutes {hour minute : Nat} (hdigit : ∀ c ∈ rest.head?, c.isDigit = false)
    (hcolon : ∀ c ∈ rest.head?, c ≠ ':') :
    clock? ('T' :: (padded 2 hour ++ ':' :: (padded 2 minute ++ rest)))
      = some ((padded 2 hour, padded 2 minute, []), rest) := by
  have hchar : char? ':' rest = none := by
    cases rest with
    | nil => rfl
    | cons c rest => rw [char?, if_neg (hcolon c rfl)]
  simp only [clock?, Option.bind_eq_bind, Option.bind_some, Option.bind_none,
    digits?_padded_cons (w := 2) (c := ':') (by decide) (by decide), char?_cons,
    digits?_padded (w := 2) (by decide) hdigit, hchar, Option.pure_def]

theorem clock?_seconds {hour minute second : Nat} (hdigit : ∀ c ∈ rest.head?, c.isDigit = false) :
    clock? ('T' :: (padded 2 hour ++ ':' :: (padded 2 minute ++ ':' :: (padded 2 second ++ rest))))
      = some ((padded 2 hour, padded 2 minute, padded 2 second), rest) := by
  simp only [clock?, Option.bind_eq_bind, Option.bind_some,
    digits?_padded_cons (w := 2) (c := ':') (by decide) (by decide), char?_cons,
    digits?_padded (w := 2) (by decide) hdigit, Option.pure_def]

theorem IsSeparator.head? {separator : List Char} (h : IsSeparator separator) :
    ∀ c ∈ (separator ++ rest).head?, c.isDigit = false := by
  rcases h with hgaps | rfl
  · exact fun c hc => (Bool.or_eq_false_iff.mp (hgaps.head? c hc)).2
  · rintro c ⟨⟩
    decide

/-- A time of day does not go on with the day before it. -/
theorem WritesClock.head? {written : List Char} (h : WritesClock t written) (hstops : Stops rest) :
    ∀ c ∈ (written ++ rest).head?, c.isDigit = false := by
  cases h with
  | none => exact hstops.digit
  | minutes between | seconds between =>
    rw [List.append_assoc]
    exact between.head?

/-- The time of day is read back. -/
theorem WritesClock.clock? {written : List Char} (h : WritesClock t written) (hstops : Stops rest) :
    ∃ hour minute second, (Keyword.clock? (written ++ rest)).getD (([], [], []), written ++ rest)
        = ((hour, minute, second), rest)
      ∧ within? 2 hour = some (t.second / 3600) ∧ within? 2 minute = some (t.second / 60 % 60)
      ∧ within? 2 second = some (t.second % 60 + t.nano / nanosPerSecond) := by
  have hsecond := t.second_lt
  have hnano := t.nano_lt
  have hleap := t.leap_last
  rw [secondsPerDay] at hsecond
  -- a leap second is never left out
  have hwhole : t.second % 60 = 0 → t.nano / nanosPerSecond = 0 := fun hzero => by
    rw [nanosPerSecond] at *
    omega
  have hshort : t.second % 60 + t.nano / nanosPerSecond < 100 := by
    rw [nanosPerSecond] at *
    omega
  have hhour : within? 2 (padded 2 (t.second / 3600)) = some (t.second / 3600) :=
    within?_padded (by decide) (by omega)
  have hminute : within? 2 (padded 2 (t.second / 60 % 60)) = some (t.second / 60 % 60) :=
    within?_padded (by decide) (by omega)
  cases h with
  | none midnight =>
    refine ⟨[], [], [], by rw [List.nil_append, hstops.clock, Option.getD_none], ?_, ?_, ?_⟩
    · simp [within?, natOfDigits, midnight]
    · simp [within?, natOfDigits, midnight]
    · rw [hwhole (by omega), midnight]
      rfl
  | @minutes separator between whole =>
    refine ⟨padded 2 (t.second / 3600), padded 2 (t.second / 60 % 60), [], ?_, hhour, hminute, ?_⟩
    · rw [List.append_assoc, List.append_assoc, List.cons_append, clock?_separated between,
        clock?_minutes hstops.digit hstops.colon, Option.getD_some]
    · rw [hwhole whole, whole]
      rfl
  | @seconds separator between =>
    refine ⟨padded 2 (t.second / 3600), padded 2 (t.second / 60 % 60),
      padded 2 (t.second % 60 + t.nano / nanosPerSecond), ?_, hhour, hminute,
      within?_padded (by decide) hshort⟩
    rw [List.append_assoc, clockText_append, clock?_separated between, clock?_seconds hstops.digit,
      Option.getD_some]

/-! ## Dates -/

/-- The written form of an instant of whole seconds in the years 0 to 9999. -/
structure WritesInstant (t : Instant) (cs : List Char) : Prop where
  year_nonneg : 0 ≤ t.date.year
  year_le : t.date.year ≤ 9999
  whole : t.subSecond = 0
  text : ∃ clock, WritesClock t clock ∧ cs = t.dateText ++ clock

/-- **An instant is read back**, if what follows does not go on with it. -/
theorem WritesInstant.instant? (h : WritesInstant t cs) (hstops : Stops rest) :
    Keyword.instant? (cs ++ rest) = some (t, rest) := by
  obtain ⟨clock, hclock, rfl⟩ := h.text
  obtain ⟨_, _, hmonth, _, hday, _⟩ := ofNumber_spec t.day
  have hmonth : within? 2 (padded 2 t.date.month) = some t.date.month :=
    within?_padded (by decide) (Nat.lt_of_le_of_lt hmonth (by decide))
  have hday : within? 2 (padded 2 t.date.day) = some t.date.day :=
    within?_padded (by decide) (Nat.lt_of_le_of_lt (Nat.le_trans hday (monthLength_le _ _))
      (by decide))
  have hyear : within? 4 (padded 4 t.date.year.toNat) = some t.date.year.toNat :=
    within?_padded (by decide) (by have := h.year_le; omega)
  obtain ⟨hour, minute, second, hread, hhour, hminute, hsecond⟩ := hclock.clock? hstops
  have htext : t.dateText ++ clock ++ rest = padded 4 t.date.year.toNat
      ++ '-' :: (padded 2 t.date.month ++ '-' :: (padded 2 t.date.day ++ (clock ++ rest))) := by
    simp [Instant.dateText, yearText, h.year_nonneg, h.year_le]
  have hshown := t.instant?_shown
  rw [h.whole] at hshown
  rw [htext]
  simp only [Keyword.instant?, Option.bind_eq_bind, Option.bind_some,
    digits?_padded_cons (w := 4) (c := '-') (by decide) (by decide), char?_cons,
    digits?_padded_cons (w := 2) (c := '-') (by decide) (by decide),
    digits?_padded (w := 2) (by decide) (hclock.head? hstops), hread, hyear, hmonth, hday, hhour,
    hminute, hsecond]
  rw [Int.toNat_of_nonneg h.year_nonneg, hshown]
  rfl

/-- A date begins with the digits of its year, and a dash follows them. -/
theorem WritesInstant.exists_year (h : WritesInstant t cs) :
    ∃ tail, cs = padded 4 t.date.year.toNat ++ '-' :: tail := by
  obtain ⟨clock, -, rfl⟩ := h.text
  exact ⟨padded 2 t.date.month ++ '-' :: (padded 2 t.date.day ++ clock), by
    simp [Instant.dateText, yearText, h.year_nonneg, h.year_le]⟩

theorem WritesInstant.exists_cons (h : WritesInstant t cs) :
    ∃ c tail, cs = c :: tail ∧ c.isDigit = true := by
  obtain ⟨tail, rfl⟩ := h.exists_year
  exact padded_append_eq_cons (by decide) _ _

/-- A date ends with a digit, with or without a time of day. -/
theorem WritesInstant.exists_last (h : WritesInstant t cs) :
    ∃ front c, cs = front ++ [c] ∧ c.isDigit = true := by
  obtain ⟨clock, hclock, rfl⟩ := h.text
  cases hclock with
  | none =>
    obtain ⟨front, c, hday, hc⟩ := padded_eq_concat (w := 2) (by decide) t.date.day
    exact ⟨yearText t.date.year ++ '-' :: padded 2 t.date.month ++ '-' :: front, c,
      by simp [Instant.dateText, hday], hc⟩
  | @minutes separator =>
    obtain ⟨front, c, hminute, hc⟩ := padded_eq_concat (w := 2) (by decide) (t.second / 60 % 60)
    exact ⟨t.dateText ++ separator ++ padded 2 (t.second / 3600) ++ ':' :: front, c,
      by simp [hminute], hc⟩
  | @seconds separator =>
    obtain ⟨front, c, hsecond, hc⟩ := padded_eq_concat (w := 2) (by decide)
      (t.second % 60 + t.nano / nanosPerSecond)
    exact ⟨t.dateText ++ separator ++ padded 2 (t.second / 3600) ++ ':'
      :: padded 2 (t.second / 60 % 60) ++ ':' :: front, c,
      by simp [Instant.clockText, hsecond], hc⟩

/-! ## What may follow -/

/-- A character that neither goes on with a date or a time of day nor separates words, such as any
letter but the one before a time of day. -/
structure Ends (c : Char) : Prop where
  blank : isBlank c = false
  digit : c.isDigit = false
  colon : c ≠ ':'
  clock : c ≠ 'T'

theorem ends_of_isAlpha {c : Char} (h : c.isAlpha = true) (hT : c ≠ 'T') : Ends c where
  blank := isBlank_of_isAlphanum (isAlphanum_of_isAlpha h)
  digit := isDigit_of_isAlpha h
  colon := by
    rintro rfl
    cases h
  clock := hT

theorem stops_nil : Stops [] := ⟨by simp, by simp, rfl⟩

theorem Ends.stops {c : Char} (h : Ends c) : Stops (c :: cs) where
  digit := by
    rintro d ⟨⟩
    exact h.digit
  colon := by
    rintro d ⟨⟩
    exact h.colon
  clock := by
    have hgap : isGap c = false := Bool.eq_false_iff.mpr fun hgap => by
      have hblank := isBlank_of_isGap hgap
      rw [h.blank] at hblank
      cases hblank
    rw [clock?, gap?_eq_none hgap]
    · rfl
    · rintro rest heq
      exact h.clock (List.cons.inj heq).1

/-- A date ends before the next word. -/
theorem IsGaps.stops {gaps : List Char} {word : String} (h : IsGaps gaps) (hcs : Spells word cs)
    (hlower : IsLowerWord word) : Stops (gaps ++ (cs ++ rest)) where
  digit := fun c hc => (Bool.or_eq_false_iff.mp (h.head? c hc)).2
  colon := by
    obtain ⟨c, gaps, rfl⟩ := List.exists_cons_of_ne_nil h.1
    rintro d ⟨⟩ rfl
    have hcolon := h.2 ':' List.mem_cons_self
    cases hcolon
  clock := by
    have hgap : gap? (gaps ++ (cs ++ rest)) = some (cs ++ rest) :=
      gap?_append h (spells_append_head? hcs hlower)
    obtain ⟨d, tail, rfl, -, hletter⟩ := hcs.exists_cons hlower
    obtain ⟨c, gaps, rfl⟩ := List.exists_cons_of_ne_nil h.1
    rw [clock?, hgap]
    · simp only [Option.bind_eq_bind, Option.bind_some, List.cons_append,
        digits?_eq_none (isDigit_of_isAlpha hletter), Option.bind_none]
    · rintro rest heq
      have hT := h.2 c List.mem_cons_self
      rw [(List.cons.inj heq).1] at hT
      cases hT

/-! ## Expressions -/

/-- Instants in words: one by itself, until now, or two. -/
inductive Names (now : Instant) : Instant → Instant → List Char → Prop
  | since {start : Instant} {cs : List Char} (written : WritesInstant start cs) :
    Names now start now cs
  | between {start stop : Instant} {front gaps first middle link last gaps' : List Char}
    (word : Spells "from" front) (gap : IsGaps gaps) (written : WritesInstant start first)
    (gap' : IsGaps middle) (word' : Spells "to" link) (gap'' : IsGaps gaps')
    (written' : WritesInstant stop last) :
    Names now start stop (front ++ (gaps ++ (first ++ (middle ++ (link ++ (gaps' ++ last))))))

variable {now start stop : Instant}

theorem distinguishes_days :
    Distinguishes [("today", Keyword.today), ("yesterday", Keyword.yesterday)] :=
  ⟨by decide, by decide⟩

/-- The year of a date is no amount before `ago`. -/
theorem WritesInstant.ago?_eq_none (h : WritesInstant t cs) : ago? (cs ++ rest) = none := by
  obtain ⟨tail, rfl⟩ := h.exists_year
  have hle := le_length_padded 4 t.date.year.toNat
  have hamount : WritesAmount t.date.year.toNat (padded 4 t.date.year.toNat) :=
    .digits (List.ne_nil_of_length_pos (by omega)) isDigit_of_mem_padded (natOfDigits_padded _ _)
      (by have := h.year_le; omega)
  have hread : amount? (padded 4 t.date.year.toNat ++ '-' :: (tail ++ rest))
      = some (t.date.year.toNat, '-' :: (tail ++ rest)) := by
    refine hamount.amount? ?_
    rintro c ⟨⟩
    decide
  rw [List.append_assoc, List.cons_append, ago?, hread]
  rfl

/-- A date by itself is taken by no other form. -/
theorem WritesInstant.read? (h : WritesInstant start cs) (hstops : Stops rest) :
    Keyword.read? (cs ++ rest) = some (.since start, rest) := by
  have hread := h.instant? hstops
  have hago : ago? (cs ++ rest) = none := h.ago?_eq_none
  obtain ⟨c, tail, rfl, hdigit⟩ := h.exists_cons
  rw [List.cons_append] at hread hago ⊢
  have hdays : firstWord? [("today", Keyword.today), ("yesterday", Keyword.yesterday)]
      (c :: (tail ++ rest)) = none := by
    have hfront : ∀ entry ∈ [("today", Keyword.today), ("yesterday", Keyword.yesterday)],
        entry.1.toList.head? = some 't' ∨ entry.1.toList.head? = some 'y' := by decide
    refine firstWord?_eq_none distinguishes_days fun entry hentry heq => ?_
    rcases hfront entry hentry with hletter | hletter
    all_goals
      exact toLower_ne_of_isDigit hdigit (by decide) (Option.some.inj (heq.symm.trans hletter))
  rw [Keyword.read?, between?_eq_none (toLower_ne_of_isDigit hdigit (by decide)),
    last?_eq_none (toLower_ne_of_isDigit hdigit (by decide)), hago, hdays, hread]
  rfl

/-- **Dates are recognised**, and what follows is left. -/
theorem Names.read? (h : Names now start stop cs) (hstops : Stops rest) :
    ∃ keyword, Keyword.read? (cs ++ rest) = some (keyword, rest)
      ∧ keyword.window now = some (Window.ofBounds start stop) := by
  cases h with
  | since written => exact ⟨.since start, written.read? hstops, rfl⟩
  | @between _ front gaps first middle link last gaps' word gap written gap' word' gap'' written' =>
    have hdate : ∀ {t : Instant} {cs rest : List Char}, WritesInstant t cs →
        ∀ c ∈ (cs ++ rest).head?, isGap c = false := by
      intro t cs rest h
      obtain ⟨c, tail, rfl, hdigit⟩ := h.exists_cons
      rintro d ⟨⟩
      exact isGap_of_isDigit hdigit
    have hlink : ∀ c ∈ (link ++ (gaps' ++ (last ++ rest))).head?, isGap c = false :=
      spells_append_head? word' (by decide)
    refine ⟨.between start stop, ?_, rfl⟩
    have hread : between? (front ++ (gaps ++ (first ++ (middle ++ (link ++ (gaps' ++
        (last ++ rest))))))) = some (.between start stop, rest) := by
      rw [between?, word.stripWord? (by decide)]
      simp only [Option.bind_eq_bind, Option.bind_some, gap?_append gap (hdate written),
        written.instant? (gap'.stops word' (by decide)), gap?_append gap' hlink,
        word'.stripWord? (by decide), gap?_append gap'' (hdate written'), written'.instant? hstops,
        Option.pure_def]
    simp only [List.append_assoc]
    rw [Keyword.read?, hread]
    rfl

/-! ## Whole texts -/

theorem IsTrimmed.append {other : List Char} (h : IsTrimmed cs) (h' : IsTrimmed other) :
    IsTrimmed (cs ++ other) := by
  obtain ⟨c, tail, rfl, hc⟩ := h.front
  obtain ⟨init, d, rfl, hd⟩ := h'.back
  exact ⟨⟨c, _, rfl, hc⟩, ⟨c :: tail ++ init, d, by simp, hd⟩⟩

/-- Blanks at the end of a text are dropped. -/
theorem IsTrimmed.trim_append {blanks : List Char} (h : IsTrimmed cs)
    (hblanks : ∀ c ∈ blanks, isBlank c = true) : trim (cs ++ blanks) = cs := by
  have hself := h.trim_eq
  obtain ⟨c, tail, rfl, hc⟩ := h.front
  have hdropped : trim (c :: tail ++ blanks) = trimBack (c :: tail) := by
    rw [trim, List.cons_append, trimFront_cons hc, trimBack, trimBack, ← List.cons_append,
      List.reverse_append,
      List.dropWhile_append_of_pos fun d hd => hblanks d (List.mem_reverse.mp hd)]
  rwa [trim, trimFront_cons hc, ← hdropped] at hself

/-- A text is what remains of it without the blanks at its end, and these blanks. -/
theorem exists_kept {c : Char} (hc : isBlank c = false) (tail : List Char) :
    ∃ kept blanks, tail = kept ++ blanks ∧ IsTrimmed (c :: kept)
      ∧ ∀ d ∈ blanks, isBlank d = true := by
  induction tail using List.reverseRecOn with
  | nil => exact ⟨[], [], rfl, ⟨⟨c, [], rfl, hc⟩, ⟨[], c, rfl, hc⟩⟩, nofun⟩
  | append_singleton tail d ih =>
    cases hd : isBlank d with
    | false =>
      exact ⟨tail ++ [d], [], (List.append_nil _).symm,
        ⟨⟨c, _, rfl, hc⟩, ⟨c :: tail, d, rfl, hd⟩⟩, nofun⟩
    | true =>
      obtain ⟨kept, blanks, rfl, hkept, hblanks⟩ := ih
      refine ⟨kept, blanks ++ [d], List.append_assoc _ _ _, hkept, fun e he => ?_⟩
      rcases List.mem_append.mp he with he | he
      · exact hblanks e he
      · rw [List.mem_singleton.mp he]
        exact hd

/-- Dates in words begin with a letter or a digit and end with a digit. -/
theorem Names.isTrimmed (h : Names now start stop cs) : IsTrimmed cs := by
  cases h with
  | since written =>
    obtain ⟨c, tail, hfront, hc⟩ := written.exists_cons
    obtain ⟨init, d, hback, hd⟩ := written.exists_last
    exact ⟨⟨c, tail, hfront, isBlank_of_isDigit hc⟩, ⟨init, d, hback, isBlank_of_isDigit hd⟩⟩
  | @between _ front gaps first middle link last gaps' word gap written gap' word' gap'' written' =>
    obtain ⟨c, tail, rfl, -, hc⟩ := word.exists_cons (by decide)
    obtain ⟨init, d, rfl, hd⟩ := written'.exists_last
    exact ⟨⟨c, _, rfl, isBlank_of_isAlphanum (isAlphanum_of_isAlpha hc)⟩,
      ⟨c :: tail ++ gaps ++ first ++ middle ++ link ++ gaps' ++ init, d, by simp,
        isBlank_of_isDigit hd⟩⟩

end Keyword

/-! ## Windows -/

/-- **Dates in words have exactly the window that they name**, or are refused because its ends are
reversed. With a text behind them that begins with a letter other than `T`, or with any other
character that ends them, they are refused for that text. -/
theorem readKeyword_names {text : String} {start stop now : Instant}
    (h : Keyword.Names now start stop text.toList) :
    (start ≤ stop → readKeyword text now = .ok ⟨start, stop⟩)
    ∧ (¬start ≤ stop → readKeyword text now = .error (.invalidBounds start stop))
    ∧ ∀ (more : String) (c : Char) (tail : List Char), more.toList = c :: tail → Keyword.Ends c →
        readKeyword (text ++ more) now = .error (.invalidKeyword
          ("unexpected input after keyword: '" ++ trimText more ++ "'")) := by
  have hread : readKeyword text now = Window.ofBounds start stop := by
    obtain ⟨keyword, hkeyword, hwindow⟩ := h.read? Keyword.stops_nil
    rw [List.append_nil] at hkeyword
    rw [readKeyword, h.isTrimmed.trim_eq, hkeyword]
    simp only [hwindow, Option.getD_some]
    rfl
  refine ⟨fun hle => by rw [hread, Window.ofBounds, if_pos hle],
    fun hlt => by rw [hread, Window.ofBounds, if_neg hlt], fun more c tail hmore hc => ?_⟩
  obtain ⟨kept, blanks, rfl, hkept, hblanks⟩ := Keyword.exists_kept hc.blank tail
  -- blanks behind what follows are dropped, by itself and behind the dates
  have hrest : trim (c :: (kept ++ blanks)) = c :: kept := hkept.trim_append hblanks
  have htrim : trim (text.toList ++ c :: (kept ++ blanks)) = text.toList ++ c :: kept := by
    rw [← List.cons_append, ← List.append_assoc]
    exact (h.isTrimmed.append hkept).trim_append hblanks
  have hstops : Keyword.Stops (c :: kept) := hc.stops
  obtain ⟨keyword, hkeyword, -⟩ := h.read? hstops
  rw [readKeyword, String.toList_append, hmore, htrim, hkeyword]
  simp only [hkept.trim_eq, List.isEmpty_cons, Bool.false_eq_true, if_false]
  rw [trimText, hmore, hrest]

/-- A range of two dates and a letter behind it, and a date after the present instant. -/
theorem readKeyword_names_noon :
    let midnight : Instant := ⟨16436, 0, 0, by decide, by decide, by decide, by decide, by decide⟩
    let noon : Instant := ⟨16437, 43200, 0, by decide, by decide, by decide, by decide, by decide⟩
    let text := "From 2015-01-01 to 2015-01-02T12:00"
    Keyword.Names noon midnight noon text.toList
      ∧ readKeyword text noon = .ok ⟨midnight, noon⟩
      ∧ readKeyword (text ++ "h ") noon
        = .error (.invalidKeyword "unexpected input after keyword: 'h'")
      ∧ Keyword.Names midnight noon midnight "2015-01-02 12:00:00".toList
      ∧ readKeyword "2015-01-02 12:00:00" midnight = .error (.invalidBounds noon midnight) := by
  intro midnight noon text
  have hgap : Keyword.IsGaps [' '] := ⟨by simp, by simp [isGap]⟩
  have hfirst : Keyword.WritesInstant midnight "2015-01-01".toList :=
    ⟨by decide, by decide, rfl, [], .none rfl, by decide⟩
  have hlast : Keyword.WritesInstant noon "2015-01-02T12:00".toList :=
    ⟨by decide, by decide, rfl, _, .minutes (.inr rfl) (by decide), by decide⟩
  have hnoon : Keyword.WritesInstant noon "2015-01-02 12:00:00".toList :=
    ⟨by decide, by decide, rfl, _, .seconds (.inl hgap), by decide⟩
  have hfrom : Spells "from" "From".toList := by decide
  have hto : Spells "to" "to".toList := by decide
  have htext : text.toList = "From".toList ++ ([' '] ++ ("2015-01-01".toList
      ++ ([' '] ++ ("to".toList ++ ([' '] ++ "2015-01-02T12:00".toList))))) := by decide
  have hrange : Keyword.Names noon midnight noon text.toList := by
    rw [htext]
    exact .between hfrom hgap hfirst hgap hto hgap hlast
  have hsince : Keyword.Names midnight noon midnight "2015-01-02 12:00:00".toList := .since hnoon
  exact ⟨hrange, (readKeyword_names hrange).1 (by decide),
    (readKeyword_names hrange).2.2 "h " 'h' [' '] rfl
      (Keyword.ends_of_isAlpha (by decide) (by decide)), hsince, (readKeyword_names hsince).2.1 (by decide)⟩

end LogSearch
