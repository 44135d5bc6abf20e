import LogSearch.Proofs.Text.Lowercase
import LogSearch.Time.Interval

/-!
# What an interval is written as

A text stands for an interval by its name or by the letter of its unit, with or without a one before
it (`Interval.Writes`). Letter case does not count, except that a small `m` is the minute and a capital
one the month.

The reader accepts all of these, and takes any number of ones for one: it accepts other texts too, in
which more ones stand before a name or a letter other than `m`, and nothing else
(`Interval.ofText?_eq_some_iff`). Main statement: what is accepted is what stands for the interval,
unless there are two ones or more (`Interval.ofText?_writes_iff`); eleven hours are then one
(`Interval.ofText?_elevenHours`).
-/

namespace LogSearch.Interval

variable {i : Interval} {cs : List Char} {text : String}

/-! ## Written forms -/

/-- The letter of a unit; minutes and months share one. -/
def letter? : Interval → Option Char
  | .hour => some 'h'
  | .day => some 'd'
  | .week => some 'w'
  | .quarter => some 'q'
  | .year => some 'y'
  | .minute => none
  | .month => none

/-- The name of an interval or the letter of its unit, in any letter case. -/
def Spelled (i : Interval) (cs : List Char) : Prop :=
  List.Forall₂ IsCaseOf cs i.name.toList ∨ ∃ c ∈ i.letter?, List.Forall₂ IsCaseOf cs [c]

/-- The name of an interval or the letter of its unit. -/
def Names (i : Interval) (cs : List Char) : Prop :=
  i.Spelled cs ∨ i = .minute ∧ cs = ['m'] ∨ i = .month ∧ cs = ['M']

/-- A text for an interval, alone or with a one. -/
def Writes (i : Interval) (text : String) : Prop :=
  ∃ cs, (text.toList = cs ∨ text.toList = '1' :: cs) ∧ i.Names cs

/-! ## The words of the reader -/

/-- The words are the names and the letters. -/
theorem mem_words_iff {word : String} :
    (word, i) ∈ words ↔ word = i.name ∨ ∃ c ∈ i.letter?, word = String.singleton c := by
  simp only [words, List.mem_cons, Prod.mk.injEq, List.not_mem_nil, or_false]
  cases i <;> simp [name, letter?]

/-- No word is listed twice, so each is found. -/
theorem lookup_words_iff {word : String} :
    List.lookup word words = some i ↔ (word, i) ∈ words := by
  constructor
  · intro h
    obtain ⟨before, after, hwords, -⟩ := List.lookup_eq_some_iff.mp h
    rw [hwords]
    exact List.mem_append_right _ List.mem_cons_self
  · intro h
    have hall : ∀ entry ∈ words, List.lookup entry.1 words = some entry.2 := by decide
    exact hall _ h

theorem isLower_of_mem_words {word : String} (h : (word, i) ∈ words) :
    ∀ c ∈ word.toList, c.isLower = true := by
  have hall : ∀ entry ∈ words, entry.1.toList.all Char.isLower = true := by decide
  exact List.all_eq_true.mp (hall _ h)

theorem isPlain_of_mem_words {word : String} (h : (word, i) ∈ words) :
    ∀ c ∈ word.toList, IsPlain c :=
  fun c hc => .inl (isLower_of_mem_words h c hc)

theorem spelled_iff : i.Spelled cs
    ↔ ∃ word, (word, i) ∈ words ∧ List.Forall₂ IsCaseOf cs word.toList := by
  simp only [mem_words_iff]
  constructor
  · rintro (h | ⟨c, hc, h⟩)
    · exact ⟨_, .inl rfl, h⟩
    · exact ⟨_, .inr ⟨c, hc, rfl⟩, by rwa [String.toList_singleton]⟩
  · rintro ⟨word, rfl | ⟨c, hc, rfl⟩, h⟩
    · exact .inl h
    · exact .inr ⟨c, hc, by rwa [String.toList_singleton] at h⟩

/-! ## Ones -/

theorem isCaseOf_one {c : Char} : IsCaseOf c '1' ↔ c = '1' := by
  constructor
  · rintro (h | ⟨-, h⟩)
    · have halpha : c.isAlpha = false := by
        rw [← Char.isLower_toLower_eq_isAlpha, h]
        rfl
      have hupper : ¬c.isUpper = true := by
        rw [Char.isAlpha, Bool.or_eq_false_iff] at halpha
        rw [halpha.1]
        exact Bool.false_ne_true
      rwa [Char.toLower_eq_of_not_isUpper hupper] at h
    · exact absurd h (by decide)
  · rintro rfl
    exact .inl rfl

theorem forall₂_ones_iff {ones : Nat} {plain : List Char} :
    List.Forall₂ IsCaseOf cs (List.replicate ones '1' ++ plain)
      ↔ ∃ rest, cs = List.replicate ones '1' ++ rest ∧ List.Forall₂ IsCaseOf rest plain := by
  induction ones generalizing cs with
  | zero => simp
  | succ ones ih =>
    rw [List.replicate_succ, List.cons_append, List.forall₂_cons_right_iff]
    constructor
    · rintro ⟨c, tail, hc, htail, rfl⟩
      obtain ⟨rest, rfl, hrest⟩ := ih.mp htail
      exact ⟨rest, by rw [isCaseOf_one.mp hc, List.cons_append], hrest⟩
    · rintro ⟨rest, rfl, hrest⟩
      exact ⟨'1', _, isCaseOf_one.mpr rfl, ih.mpr ⟨rest, rfl, hrest⟩, rfl⟩

theorem isPlain_of_mem_replicate {ones : Nat} : ∀ c ∈ List.replicate ones '1', IsPlain c := by
  intro c hc
  rw [List.eq_of_mem_replicate hc]
  decide

/-- **What is looked up** is the text in lower case without the ones before it, so texts that spell a
word behind any number of ones are found. -/
theorem lookup_lowercase_iff :
    List.lookup (String.ofList ((lowercase cs).dropWhile (· == '1'))) words = some i
      ↔ ∃ ones rest, cs = List.replicate ones '1' ++ rest ∧ i.Spelled rest := by
  rw [lookup_words_iff]
  constructor
  · intro h
    obtain ⟨ones, hones⟩ : ∃ ones, (lowercase cs).takeWhile (· == '1') = List.replicate ones '1' :=
      ⟨_, List.eq_replicate_of_mem fun c hc => by simpa using List.mem_takeWhile_imp hc⟩
    have hlower : lowercase cs
        = List.replicate ones '1' ++ (lowercase cs).dropWhile (· == '1') := by
      rw [← hones, List.takeWhile_append_dropWhile]
    have hword := isPlain_of_mem_words h
    rw [String.toList_ofList] at hword
    rw [lowercase_eq_iff (List.forall_mem_append.mpr ⟨isPlain_of_mem_replicate, hword⟩),
      forall₂_ones_iff] at hlower
    obtain ⟨rest, hcs, hrest⟩ := hlower
    exact ⟨ones, rest, hcs, spelled_iff.mpr ⟨_, h, by rwa [String.toList_ofList]⟩⟩
  · rintro ⟨ones, rest, hcs, hrest⟩
    obtain ⟨word, hmem, hword⟩ := spelled_iff.mp hrest
    have hlower : lowercase cs = List.replicate ones '1' ++ word.toList := by
      rw [lowercase_eq_iff
        (List.forall_mem_append.mpr ⟨isPlain_of_mem_replicate, isPlain_of_mem_words hmem⟩)]
      exact forall₂_ones_iff.mpr ⟨rest, hcs, hword⟩
    have hfront : ∀ entry ∈ words, entry.1.toList.dropWhile (· == '1') = entry.1.toList := by
      decide +kernel
    rw [hlower, List.dropWhile_append_of_pos (by simp), hfront _ hmem, String.ofList_toList]
    exact hmem

/-- What is read: words behind any number of ones, and the two letters that are taken as they are. -/
theorem ofText?_cases : ofText? text = some i
    ↔ (∃ ones rest, text.toList = List.replicate ones '1' ++ rest ∧ i.Spelled rest)
      ∨ i = .minute ∧ (text = "1m" ∨ text = "m") ∨ i = .month ∧ (text = "1M" ∨ text = "M") := by
  -- behind the ones a small `m` is no word, in either case
  have hletter : ∀ ⦃text⦄, (text = "1m" ∨ text = "m") ∨ text = "1M" ∨ text = "M" →
      List.lookup (String.ofList ((lowercase text.toList).dropWhile (· == '1'))) words = none := by
    rintro _ ((rfl | rfl) | rfl | rfl) <;> decide +kernel
  rw [← lookup_lowercase_iff, ofText?]
  simp only [Bool.or_eq_true, decide_eq_true_eq]
  by_cases hminute : text = "1m" ∨ text = "m"
  · have hmonth : ¬(text = "1M" ∨ text = "M") := by
      rcases hminute with rfl | rfl <;> decide
    simp [hminute, hmonth, hletter (.inl hminute), eq_comm]
  · by_cases hmonth : text = "1M" ∨ text = "M"
    · simp [hminute, hmonth, hletter (.inr hmonth), eq_comm]
    · simp [hminute, hmonth]

/-- What stands for an interval, in the terms of the reader. -/
theorem writes_iff : i.Writes text
    ↔ (∃ ones rest, ones < 2 ∧ text.toList = List.replicate ones '1' ++ rest ∧ i.Spelled rest)
      ∨ i = .minute ∧ (text = "1m" ∨ text = "m") ∨ i = .month ∧ (text = "1M" ∨ text = "M") := by
  simp only [← String.toList_inj]
  constructor
  · rintro ⟨cs, hcs | hcs, hspelled | ⟨rfl, rfl⟩ | ⟨rfl, rfl⟩⟩
    · exact .inl ⟨0, cs, by decide, hcs, hspelled⟩
    · exact .inr (.inl ⟨rfl, .inr hcs⟩)
    · exact .inr (.inr ⟨rfl, .inr hcs⟩)
    · exact .inl ⟨1, cs, by decide, hcs, hspelled⟩
    · exact .inr (.inl ⟨rfl, .inl hcs⟩)
    · exact .inr (.inr ⟨rfl, .inl hcs⟩)
  · rintro (⟨ones, rest, hones, htext, hspelled⟩ | ⟨rfl, h | h⟩ | ⟨rfl, h | h⟩)
    · refine ⟨rest, ?_, .inl hspelled⟩
      obtain rfl | rfl : ones = 0 ∨ ones = 1 := by omega
      · exact .inl htext
      · exact .inr htext
    · exact ⟨_, .inr h, .inr (.inl ⟨rfl, rfl⟩)⟩
    · exact ⟨_, .inl h, .inr (.inl ⟨rfl, rfl⟩)⟩
    · exact ⟨_, .inr h, .inr (.inr ⟨rfl, rfl⟩)⟩
    · exact ⟨_, .inl h, .inr (.inr ⟨rfl, rfl⟩)⟩

/-- **What the reader accepts**: what stands for the interval, and words behind two ones or more. -/
theorem ofText?_eq_some_iff : ofText? text = some i
    ↔ i.Writes text ∨ ∃ ones rest, 2 ≤ ones ∧ text.toList = List.replicate ones '1' ++ rest
      ∧ i.Spelled rest := by
  rw [ofText?_cases, writes_iff]
  constructor
  · rintro (⟨ones, rest, htext, hspelled⟩ | hletter)
    · rcases Nat.lt_or_ge ones 2 with hones | hones
      · exact .inl (.inl ⟨ones, rest, hones, htext, hspelled⟩)
      · exact .inr ⟨ones, rest, hones, htext, hspelled⟩
    · exact .inl (.inr hletter)
  · rintro ((⟨ones, rest, -, htext, hspelled⟩ | hletter) | ⟨ones, rest, -, htext, hspelled⟩)
    · exact .inl ⟨ones, rest, htext, hspelled⟩
    · exact .inr hletter
    · exact .inl ⟨ones, rest, htext, hspelled⟩

/-! ## One unit or none -/

/-- Neither a name nor a letter begins with a one. -/
theorem not_names_one (rest : List Char) : ¬i.Names ('1' :: rest) := by
  rintro (hspelled | ⟨-, h⟩ | ⟨-, h⟩)
  · obtain ⟨word, hmem, hword⟩ := spelled_iff.mp hspelled
    obtain ⟨c, more, hone, -, hcons⟩ := List.forall₂_cons_left_iff.mp hword
    have hlower : c.isLower = true :=
      isLower_of_mem_words hmem c (by rw [hcons]; exact List.mem_cons_self)
    rcases hone with rfl | ⟨h, -⟩
    · exact absurd hlower (by decide)
    · exact absurd h (by decide)
  · cases h
  · cases h

theorem not_writes_of_ones {ones : Nat} {rest : List Char} (hones : 2 ≤ ones)
    (htext : text.toList = List.replicate ones '1' ++ rest) : ¬i.Writes text := by
  obtain ⟨more, rfl⟩ := Nat.exists_eq_add_of_le' hones
  rw [List.replicate_succ, List.replicate_succ, List.cons_append, List.cons_append] at htext
  rintro ⟨cs, hcs | hcs, hnames⟩
  · rw [← hcs, htext] at hnames
    exact not_names_one _ hnames
  · rw [htext] at hcs
    rw [← (List.cons.inj hcs).2] at hnames
    exact not_names_one _ hnames

/-- **A text that stands for an interval is read as it**, and what is read as an interval stands for
it unless two ones or more stand before a word. -/
theorem ofText?_writes_iff (text : String) :
    (∀ i : Interval, i.Writes text → ofText? text = some i)
      ∧ ((∀ i, ofText? text = some i → i.Writes text)
        ↔ ∀ (ones : Nat) (i : Interval) (rest : List Char), 2 ≤ ones →
          text.toList = List.replicate ones '1' ++ rest → ¬i.Spelled rest) := by
  refine ⟨fun i h => ofText?_eq_some_iff.mpr (.inl h), ?_⟩
  constructor
  · intro h ones i rest hones htext hspelled
    have hread : ofText? text = some i :=
      ofText?_eq_some_iff.mpr (.inr ⟨ones, rest, hones, htext, hspelled⟩)
    exact not_writes_of_ones hones htext (h i hread)
  · intro h i hread
    rcases ofText?_eq_some_iff.mp hread with hwrites | ⟨ones, rest, hones, htext, hspelled⟩
    · exact hwrites
    · exact absurd hspelled (h ones i rest hones htext)

/-- Eleven hours are read as one, and stand for no interval. -/
theorem ofText?_elevenHours : ofText? "11h" = some .hour ∧ ∀ i : Interval, ¬i.Writes "11h" := by
  have hones : "11h".toList = List.replicate 2 '1' ++ ['h'] := rfl
  exact ⟨by decide +kernel, fun _ => not_writes_of_ones (Nat.le_refl 2) hones⟩

end LogSearch.Interval
