import LogSearch.Proofs.Query.Reading
import LogSearch.Proofs.Time.Back

/-!
# Ranges that go back by words

`Keyword.GoesBack` is the written form of `last 2 hours` and `2 hours ago`, apart from the reader:
words in any letter case, any separators between them, and for a unit any of its spellings. Words of
a list are tried in turn, so a spelling is found only if no word before it is an initial part of it
(`Keyword.firstWord?_append`); nothing that follows may be a letter.

Main statement: a text of either form has the window from so many units before the present instant
(`readKeyword_goesBack`).
-/

namespace LogSearch

variable {cs rest : List Char} {word : String}

/-! ## Words in any letter case -/

/-- A word in any letter case. -/
def Spells (word : String) (cs : List Char) : Prop := cs.map Char.toLower = word.toList

instance (word : String) (cs : List Char) : Decidable (Spells word cs) :=
  inferInstanceAs (Decidable (_ = _))

/-- A word of lower-case letters, at least one. -/
def IsLowerWord (word : String) : Prop := word.toList ≠ [] ∧ word.toList.all Char.isLower = true

instance (word : String) : Decidable (IsLowerWord word) := inferInstanceAs (Decidable (_ ∧ _))

theorem toLower_of_isLower {c : Char} (h : c.isLower = true) : c.toLower = c :=
  Char.toLower_eq_of_not_isUpper fun hupper => Char.not_isLower_of_isUpper hupper h

theorem IsLowerWord.map_toLower (h : IsLowerWord word) :
    word.toList.map Char.toLower = word.toList :=
  (List.map_congr_left fun _ hc => toLower_of_isLower (List.all_eq_true.mp h.2 _ hc)).trans
    (List.map_id _)

/-- What stands before the rest is the word, up to letter case. -/
theorem stripWord?_eq_some_iff {letters : List Char} : stripWord? letters cs = some rest
    ↔ ∃ front, cs = front ++ rest ∧ front.map Char.toLower = letters.map Char.toLower := by
  induction letters generalizing cs with
  | nil => simp [stripWord?, eq_comm]
  | cons w ws ih =>
    cases cs with
    | nil => simp [stripWord?]
    | cons c cs =>
      rw [stripWord?]
      constructor
      · intro h
        split at h
        · next hsame =>
          obtain ⟨front, rfl, hfront⟩ := ih.mp h
          exact ⟨c :: front, rfl, by rw [List.map_cons, List.map_cons, hfront, hsame]⟩
        · cases h
      · rintro ⟨front, hcs, hfront⟩
        cases front with
        | nil => cases hfront
        | cons d front =>
          obtain ⟨rfl, rfl⟩ := List.cons.inj hcs
          obtain ⟨hd, hfront⟩ := List.cons.inj hfront
          rw [if_pos hd.symm]
          exact ih.mpr ⟨front, rfl, hfront⟩

theorem Spells.stripWord? (h : Spells word cs) (hlower : IsLowerWord word) (rest : List Char) :
    stripWord? word.toList (cs ++ rest) = some rest :=
  stripWord?_eq_some_iff.mpr ⟨cs, rfl, h.trans hlower.map_toLower.symm⟩

/-- The front of a spelled word is a letter, the same as that of the word up to its case. -/
theorem Spells.exists_cons (h : Spells word cs) (hlower : IsLowerWord word) :
    ∃ c tail, cs = c :: tail ∧ word.toList.head? = some c.toLower ∧ c.isAlpha = true := by
  cases cs with
  | nil => exact absurd h.symm hlower.1
  | cons c tail =>
    have hword : word.toList = c.toLower :: tail.map Char.toLower := h.symm
    refine ⟨c, tail, rfl, by rw [hword]; rfl, ?_⟩
    rw [← Char.isLower_toLower_eq_isAlpha]
    exact List.all_eq_true.mp hlower.2 _ (by rw [hword]; exact List.mem_cons_self)

theorem Spells.isAlpha (h : Spells word cs) (hlower : IsLowerWord word) :
    ∀ c ∈ cs, c.isAlpha = true := by
  intro c hc
  rw [← Char.isLower_toLower_eq_isAlpha]
  refine List.all_eq_true.mp hlower.2 _ ?_
  rw [← h]
  exact List.mem_map_of_mem hc

/-- A word does not stand in front of a text that begins with another letter. -/
theorem stripWord?_eq_none {c : Char} (hlower : IsLowerWord word)
    (hc : word.toList.head? ≠ some c.toLower) : stripWord? word.toList (c :: cs) = none := by
  cases hstrip : stripWord? word.toList (c :: cs) with
  | none => rfl
  | some rest =>
    obtain ⟨front, hcs, hfront⟩ := stripWord?_eq_some_iff.mp hstrip
    have hspells : Spells word front := hfront.trans hlower.map_toLower
    obtain ⟨d, tail, rfl, hd, -⟩ := hspells.exists_cons hlower
    obtain ⟨rfl, -⟩ := List.cons.inj hcs
    exact absurd hd hc

namespace Keyword

variable {α : Type} {table : List (String × α)} {meaning : α}

/-- Words of which none is an initial part of a later one. -/
def Distinguishes (table : List (String × α)) : Prop :=
  (∀ entry ∈ table, IsLowerWord entry.1)
    ∧ table.Pairwise fun before after => ¬before.1.toList <+: after.1.toList

/-- A word does not stand in front of another one that it is no initial part of, if no letter
follows that one. -/
theorem stripWord?_eq_none_of_other {other : String} (hlower : IsLowerWord other)
    (hother : ¬other.toList <+: word.toList) (hcs : Spells word cs)
    (hrest : ∀ c ∈ rest.head?, c.isAlpha = false) :
    stripWord? other.toList (cs ++ rest) = none := by
  cases hstrip : stripWord? other.toList (cs ++ rest) with
  | none => rfl
  | some after =>
    obtain ⟨front, happend, hfront⟩ := stripWord?_eq_some_iff.mp hstrip
    rw [hlower.map_toLower] at hfront
    rcases List.append_eq_append_iff.mp happend with ⟨more, rfl, hmore⟩ | ⟨more, rfl, hmore⟩
    · cases more with
      | nil =>
        rw [List.append_nil] at hfront
        exact absurd (hfront ▸ hcs ▸ List.prefix_refl _) hother
      | cons c more =>
        -- it would go on with a letter where none is
        have hletter : c.toLower.isLower = true := by
          refine List.all_eq_true.mp hlower.2 _ ?_
          rw [← hfront]
          simp
        rw [Char.isLower_toLower_eq_isAlpha, hrest c (by rw [hmore]; rfl)] at hletter
        cases hletter
    · refine absurd ?_ hother
      rw [← hfront, ← hcs, List.map_append]
      exact List.prefix_append _ _

/-- **A word of a list is found**, in any letter case, if no letter follows it. -/
theorem firstWord?_append (h : Distinguishes table) (hmem : (word, meaning) ∈ table)
    (hcs : Spells word cs) (hrest : ∀ c ∈ rest.head?, c.isAlpha = false) :
    firstWord? table (cs ++ rest) = some (meaning, rest) := by
  obtain ⟨hlower, hpairs⟩ := h
  induction table with
  | nil => cases hmem
  | cons entry table ih =>
    obtain ⟨hlow, hlower⟩ := List.forall_mem_cons.mp hlower
    obtain ⟨hentry, hpairs⟩ := List.pairwise_cons.mp hpairs
    rw [firstWord?, List.findSome?_cons]
    rcases List.mem_cons.mp hmem with rfl | hmem
    · simp only [hcs.stripWord? hlow rest, Option.map_some]
    · simp only [stripWord?_eq_none_of_other hlow (hentry _ hmem) hcs hrest, Option.map_none]
      exact ih hmem hlower hpairs

/-- No word of a list is found if they all begin with other letters. -/
theorem firstWord?_eq_none {c : Char} (h : Distinguishes table)
    (hc : ∀ entry ∈ table, entry.1.toList.head? ≠ some c.toLower) :
    firstWord? table (c :: cs) = none := by
  rw [firstWord?, List.findSome?_eq_none_iff]
  intro entry hentry
  exact congrArg (Option.map _) (stripWord?_eq_none (h.1 entry hentry) (hc entry hentry))

/-! ## Separators -/

/-- Blanks, tabs, carriage returns and line feeds, at least one. -/
def IsGaps (cs : List Char) : Prop := cs ≠ [] ∧ ∀ c ∈ cs, isGap c = true

theorem isAlphanum_of_isAlpha {c : Char} (h : c.isAlpha = true) : c.isAlphanum = true := by
  rw [Char.isAlphanum, h, Bool.true_or]

theorem isGap_of_isAlphanum {c : Char} (h : c.isAlphanum = true) : isGap c = false := by
  refine Bool.eq_false_iff.mpr fun hgap => ?_
  simp only [isGap, Bool.or_eq_true, beq_iff_eq] at hgap
  obtain ((rfl | rfl) | rfl) | rfl := hgap <;> cases h

/-- A word does not begin with a separator. -/
theorem spells_head? (h : Spells word cs) (hlower : IsLowerWord word) :
    ∀ c ∈ cs.head?, isGap c = false := by
  obtain ⟨c, tail, rfl, -, hletter⟩ := h.exists_cons hlower
  intro d hd
  obtain rfl := Option.some.inj hd
  exact isGap_of_isAlphanum (isAlphanum_of_isAlpha hletter)

theorem spells_append_head? (h : Spells word cs) (hlower : IsLowerWord word) :
    ∀ c ∈ (cs ++ rest).head?, isGap c = false := by
  obtain ⟨c, tail, rfl, -⟩ := h.exists_cons hlower
  exact fun d hd => spells_head? h hlower d hd

/-- What separates words is no part of a word or a number. -/
theorem IsGaps.head? {gaps : List Char} (h : IsGaps gaps) :
    ∀ c ∈ (gaps ++ rest).head?, c.isAlphanum = false := by
  obtain ⟨c, gaps, rfl⟩ := List.exists_cons_of_ne_nil h.1
  intro d hd
  obtain rfl := Option.some.inj hd
  refine Bool.eq_false_iff.mpr fun halnum => ?_
  have hgap := h.2 c List.mem_cons_self
  rw [isGap_of_isAlphanum halnum] at hgap
  cases hgap

theorem gap?_append {gaps : List Char} (h : IsGaps gaps)
    (hrest : ∀ c ∈ rest.head?, isGap c = false) : gap? (gaps ++ rest) = some rest := by
  obtain ⟨c, gaps, rfl⟩ := List.exists_cons_of_ne_nil h.1
  obtain ⟨hc, hgaps⟩ := List.forall_mem_cons.mp h.2
  have hstop : rest.dropWhile isGap = rest := by
    cases rest with
    | nil => rfl
    | cons d rest => simp [hrest d rfl]
  rw [List.cons_append, gap?, if_pos hc, List.dropWhile_append_of_pos hgaps, hstop]

theorem gap?_eq_none {c : Char} (h : isGap c = false) : gap? (c :: cs) = none := by
  rw [gap?, h]
  rfl

/-! ## Amounts and units -/

theorem digits?_append {ds : List Char} (hne : ds ≠ []) (hds : ∀ c ∈ ds, c.isDigit = true)
    (hrest : ∀ c ∈ rest.head?, c.isDigit = false) : digits? (ds ++ rest) = some (ds, rest) := by
  obtain ⟨htake, hdrop⟩ := takeWhile_digits hds hrest
  rw [digits?, htake, hdrop]
  simp [hne]

theorem digits?_eq_none {c : Char} (h : c.isDigit = false) : digits? (c :: cs) = none := by
  simp [digits?, h]

/-- An amount of 32 bits in digits, or the article for one. -/
inductive WritesAmount : Nat → List Char → Prop
  | digits {amount : Nat} {ds : List Char} (nonempty : ds ≠ [])
    (digits : ∀ c ∈ ds, c.isDigit = true) (value : natOfDigits 0 ds = amount)
    (small : amount < 0x100000000) : WritesAmount amount ds
  | article {word : String} {cs : List Char} (known : word = "a" ∨ word = "an")
    (spells : Spells word cs) : WritesAmount 1 cs

/-- The spellings of a unit. -/
def spellings : TimeUnit → List String
  | .second => ["second", "seconds", "sec", "secs", "s"]
  | .minute => ["minute", "minutes", "min", "mins", "m"]
  | .hour => ["hour", "hours", "h"]
  | .day => ["day", "days", "d"]
  | .week => ["week", "weeks", "w"]
  | .month => ["month", "months"]
  | .year => ["year", "years", "y"]

/-- A spelling of a unit in any letter case. -/
def WritesUnit (unit : TimeUnit) (cs : List Char) : Prop := ∃ word ∈ spellings unit, Spells word cs

/-- A way back by an amount of some unit: `last`, amount and unit; `last` and unit for one; amount,
unit and `ago`. -/
inductive GoesBack : Nat → TimeUnit → List Char → Prop
  | last {amount : Nat} {unit : TimeUnit} {last gaps counted gaps' counting : List Char}
    (word : Spells "last" last) (gap : IsGaps gaps) (many : WritesAmount amount counted)
    (gap' : IsGaps gaps') (what : WritesUnit unit counting) :
    GoesBack amount unit (last ++ (gaps ++ (counted ++ (gaps' ++ counting))))
  | lastOne {unit : TimeUnit} {last gaps counting : List Char}
    (word : Spells "last" last) (gap : IsGaps gaps) (what : WritesUnit unit counting) :
    GoesBack 1 unit (last ++ (gaps ++ counting))
  | ago {amount : Nat} {unit : TimeUnit} {counted gaps counting gaps' ago : List Char}
    (many : WritesAmount amount counted) (gap : IsGaps gaps) (what : WritesUnit unit counting)
    (gap' : IsGaps gaps') (word : Spells "ago" ago) :
    GoesBack amount unit (counted ++ (gaps ++ (counting ++ (gaps' ++ ago))))

theorem distinguishes_unitWords : Distinguishes unitWords := ⟨by decide, by decide⟩

theorem distinguishes_articles : Distinguishes [("an", 1), ("a", 1)] := ⟨by decide, by decide⟩

theorem mem_unitWords {unit : TimeUnit} (h : word ∈ spellings unit) : (word, unit) ∈ unitWords := by
  have hall : ∀ word ∈ spellings unit, (word, unit) ∈ unitWords := by
    cases unit <;> decide
  exact hall word h

/-- **Every spelling of a unit is found**, if no letter follows it. -/
theorem WritesUnit.unit? {unit : TimeUnit} (h : WritesUnit unit cs)
    (hrest : ∀ c ∈ rest.head?, c.isAlpha = false) : unit? (cs ++ rest) = some (unit, rest) := by
  obtain ⟨word, hword, hcs⟩ := h
  exact firstWord?_append distinguishes_unitWords (mem_unitWords hword) hcs hrest

/-- A unit begins with a letter, and not with an article. -/
theorem WritesUnit.exists_cons {unit : TimeUnit} (h : WritesUnit unit cs) :
    ∃ c tail, cs = c :: tail ∧ c.isAlpha = true ∧ c.toLower ≠ 'a' := by
  obtain ⟨word, hword, hcs⟩ := h
  have hlower := distinguishes_unitWords.1 _ (mem_unitWords hword)
  have hfront : ∀ entry ∈ unitWords, entry.1.toList.head? ≠ some 'a' := by decide
  obtain ⟨c, tail, rfl, hhead, hletter⟩ := hcs.exists_cons hlower
  refine ⟨c, tail, rfl, hletter, fun hc => ?_⟩
  rw [hc] at hhead
  exact hfront _ (mem_unitWords hword) hhead

theorem isAlpha_of_isDigit {c : Char} (h : c.isDigit = true) : c.isAlpha = false := by
  simp only [Char.isDigit, Bool.and_eq_true, decide_eq_true_eq, UInt32.le_iff_toNat_le,
    ge_iff_le] at h
  simp only [Char.isAlpha, Char.isUpper, Char.isLower, Bool.or_eq_false_iff, Bool.and_eq_false_iff,
    decide_eq_false_iff_not, UInt32.le_iff_toNat_le, ge_iff_le]
  have hzero : ('0'.val).toNat = 48 := rfl
  have hnine : ('9'.val).toNat = 57 := rfl
  have hA : ('A'.val).toNat = 65 := rfl
  have ha : ('a'.val).toNat = 97 := rfl
  omega

theorem toLower_ne_of_isDigit {c d : Char} (h : c.isDigit = true) (hd : d.isAlpha = true) :
    c.toLower ≠ d := by
  rintro rfl
  rw [Char.isAlpha_toLower_eq_isAlpha, isAlpha_of_isDigit h] at hd
  cases hd

theorem isDigit_of_isAlpha {c : Char} (h : c.isAlpha = true) : c.isDigit = false :=
  Bool.eq_false_iff.mpr fun hdigit => by
    rw [isAlpha_of_isDigit hdigit] at h
    cases h

theorem mem_articles (h : word = "a" ∨ word = "an") : (word, 1) ∈ [("an", 1), ("a", 1)] := by
  rcases h with rfl | rfl <;> simp

/-- **Every amount is found**, if it is followed by neither a letter nor a digit. -/
theorem WritesAmount.amount? {amount : Nat} (h : WritesAmount amount cs)
    (hrest : ∀ c ∈ rest.head?, c.isAlphanum = false) :
    amount? (cs ++ rest) = some (amount, rest) := by
  cases h with
  | digits nonempty digits value small =>
    have hstop : ∀ c ∈ rest.head?, c.isDigit = false := fun c hc =>
      (Bool.or_eq_false_iff.mp (hrest c hc)).2
    simp [Keyword.amount?, digits?_append nonempty digits hstop, value, small]
  | article known spells =>
    have hstop : ∀ c ∈ rest.head?, c.isAlpha = false := fun c hc =>
      (Bool.or_eq_false_iff.mp (hrest c hc)).1
    have hfound := firstWord?_append distinguishes_articles (mem_articles known) spells hstop
    obtain ⟨c, tail, rfl, -, hletter⟩ :=
      spells.exists_cons (distinguishes_articles.1 _ (mem_articles known))
    rw [List.cons_append] at hfound ⊢
    rw [Keyword.amount?, digits?_eq_none (isDigit_of_isAlpha hletter)]
    exact hfound

/-- An amount begins with a digit or with the letter of an article. -/
theorem WritesAmount.exists_cons {amount : Nat} (h : WritesAmount amount cs) :
    ∃ c tail, cs = c :: tail ∧ c.isAlphanum = true ∧ (c.isDigit = true ∨ c.toLower = 'a') := by
  cases h with
  | digits nonempty digits value small =>
    obtain ⟨c, tail, rfl⟩ := List.exists_cons_of_ne_nil nonempty
    have hdigit := digits c List.mem_cons_self
    exact ⟨c, tail, rfl, by rw [Char.isAlphanum, hdigit, Bool.or_true], .inl hdigit⟩
  | article known spells =>
    obtain ⟨c, tail, rfl, hhead, hletter⟩ :=
      spells.exists_cons (distinguishes_articles.1 _ (mem_articles known))
    have hfront : ∀ entry ∈ [("an", 1), ("a", 1)], entry.1.toList.head? = some 'a' := by decide
    rw [hfront _ (mem_articles known)] at hhead
    exact ⟨c, tail, rfl, isAlphanum_of_isAlpha hletter,
      .inr (Option.some.inj hhead).symm⟩

/-- A unit is no amount. -/
theorem WritesUnit.amount?_eq_none {unit : TimeUnit} (h : WritesUnit unit cs) :
    Keyword.amount? cs = none := by
  obtain ⟨c, tail, rfl, hletter, ha⟩ := h.exists_cons
  have hfront : ∀ entry ∈ [("an", 1), ("a", 1)], entry.1.toList.head? ≠ some c.toLower := by
    intro entry hentry heq
    have ha' : ∀ entry ∈ [("an", 1), ("a", 1)], entry.1.toList.head? = some 'a' := by decide
    exact ha (Option.some.inj (heq.symm.trans (ha' entry hentry)))
  rw [Keyword.amount?, digits?_eq_none (isDigit_of_isAlpha hletter)]
  exact firstWord?_eq_none distinguishes_articles hfront

/-! ## Ways back -/

/-- A word of an expression begins with another letter than a text. -/
theorem between?_eq_none {c : Char} (h : c.toLower ≠ 'f') : between? (c :: cs) = none := by
  have hstrip : stripWord? "from".toList (c :: cs) = none :=
    stripWord?_eq_none (by decide) fun heq => h (Option.some.inj heq).symm
  rw [between?, hstrip]
  rfl

theorem last?_eq_none {c : Char} (h : c.toLower ≠ 'l') : last? (c :: cs) = none := by
  have hstrip : stripWord? "last".toList (c :: cs) = none :=
    stripWord?_eq_none (by decide) fun heq => h (Option.some.inj heq).symm
  rw [last?, hstrip]
  rfl

theorem WritesUnit.head? {unit : TimeUnit} (h : WritesUnit unit cs) :
    ∀ c ∈ cs.head?, isGap c = false := by
  obtain ⟨word, hword, hspells⟩ := h
  exact spells_head? hspells (distinguishes_unitWords.1 _ (mem_unitWords hword))

theorem WritesAmount.head? {amount : Nat} (h : WritesAmount amount cs) :
    ∀ c ∈ (cs ++ rest).head?, isGap c = false := by
  obtain ⟨c, tail, rfl, halnum, -⟩ := h.exists_cons
  intro d hd
  obtain rfl := Option.some.inj hd
  exact isGap_of_isAlphanum halnum

/-- A unit at the end of a text is found. -/
theorem WritesUnit.unit?_self {unit : TimeUnit} (h : WritesUnit unit cs) :
    Keyword.unit? cs = some (unit, []) := by
  have hunit : Keyword.unit? (cs ++ []) = some (unit, []) := h.unit? (by simp)
  rwa [List.append_nil] at hunit

/-- A recognised form at the front of a text is tried before those behind it. -/
theorem read?_of_last? {found : Keyword × List Char} (word : Spells "last" cs)
    (h : last? (cs ++ rest) = some found) : Keyword.read? (cs ++ rest) = some found := by
  obtain ⟨c, tail, rfl, hc, -⟩ := word.exists_cons (by decide)
  have hf : c.toLower ≠ 'f' := fun heq => by
    rw [heq] at hc
    exact absurd hc (by decide)
  rw [Keyword.read?, h, List.cons_append, between?_eq_none hf]
  rfl

theorem read?_of_ago? {amount : Nat} {found : Keyword × List Char} (many : WritesAmount amount cs)
    (h : ago? (cs ++ rest) = some found) : Keyword.read? (cs ++ rest) = some found := by
  obtain ⟨c, tail, rfl, -, hc⟩ := many.exists_cons
  -- an amount begins neither of the forms that are tried before
  have hother : ∀ d : Char, d.isAlpha = true → d ≠ 'a' → c.toLower ≠ d := by
    intro d hd ha
    rcases hc with hdigit | hletter
    · exact toLower_ne_of_isDigit hdigit hd
    · exact fun heq => ha (heq.symm.trans hletter)
  rw [Keyword.read?, h, List.cons_append, between?_eq_none (hother 'f' (by decide) (by decide)),
    last?_eq_none (hother 'l' (by decide) (by decide))]
  rfl

/-- **Both forms are recognised**, whatever the letter case, the separators and the spelling. -/
theorem GoesBack.read? {amount : Nat} {unit : TimeUnit} (h : GoesBack amount unit cs) :
    Keyword.read? cs = some (.back amount unit, []) := by
  cases h with
  | last word gap many gap' what =>
    refine read?_of_last? word ?_
    rw [last?, word.stripWord? (by decide)]
    simp only [Option.bind_eq_bind, Option.bind_some, gap?_append gap many.head?,
      many.amount? gap'.head?, gap?_append gap' what.head?, Option.pure_def, Option.getD_some,
      what.unit?_self]
  | lastOne word gap what =>
    refine read?_of_last? word ?_
    rw [last?, word.stripWord? (by decide)]
    simp only [Option.bind_eq_bind, Option.bind_some, gap?_append gap what.head?,
      what.amount?_eq_none, Option.bind_none, Option.pure_def, Option.getD_none, what.unit?_self]
  | @ago _ _ counted gaps counting gaps' ago many gap what gap' word =>
    have hunit : ∀ c ∈ (counting ++ (gaps' ++ ago)).head?, isGap c = false := by
      obtain ⟨c, tail, rfl, -⟩ := what.exists_cons
      exact what.head?
    have hletter : ∀ c ∈ (gaps' ++ ago).head?, c.isAlpha = false := fun c hc =>
      (Bool.or_eq_false_iff.mp (gap'.head? c hc)).1
    have hstop : ∀ c ∈ ago.head?, isGap c = false := spells_head? word (by decide)
    have hword : stripWord? "ago".toList ago = some [] :=
      stripWord?_eq_some_iff.mpr ⟨ago, (List.append_nil ago).symm, word.trans (by decide)⟩
    refine read?_of_ago? many ?_
    rw [ago?, many.amount? gap.head?]
    simp only [Option.bind_eq_bind, Option.bind_some, gap?_append gap hunit, what.unit? hletter,
      gap?_append gap' hstop, hword, Option.pure_def]

/-! ## Whole texts -/

theorem isBlank_of_isAlphanum {c : Char} (h : c.isAlphanum = true) : isBlank c = false := by
  rcases Bool.or_eq_true_iff.mp h with hletter | hdigit
  · simp only [Char.isAlpha, Char.isUpper, Char.isLower, Bool.or_eq_true, Bool.and_eq_true,
      decide_eq_true_eq, UInt32.le_iff_toNat_le, ge_iff_le] at hletter
    simp only [isBlank, Char.toNat, Bool.or_eq_false_iff, Bool.and_eq_false_iff,
      decide_eq_false_iff_not, beq_eq_false_iff_ne]
    have hA : ('A'.val).toNat = 65 := rfl
    have hZ : ('Z'.val).toNat = 90 := rfl
    have ha : ('a'.val).toNat = 97 := rfl
    have hz : ('z'.val).toNat = 122 := rfl
    omega
  · exact isBlank_of_isDigit hdigit

/-- A text that is not empty and has no blank at either end. -/
structure IsTrimmed (cs : List Char) : Prop where
  front : ∃ c tail, cs = c :: tail ∧ isBlank c = false
  back : ∃ init c, cs = init ++ [c] ∧ isBlank c = false

theorem IsTrimmed.head? (h : IsTrimmed cs) : ∀ c ∈ cs.head?, isBlank c = false := by
  obtain ⟨c, tail, rfl, hc⟩ := h.front
  rintro d ⟨⟩
  exact hc

theorem IsTrimmed.getLast? (h : IsTrimmed cs) : ∀ c ∈ cs.getLast?, isBlank c = false := by
  obtain ⟨init, c, rfl, hc⟩ := h.back
  rw [List.getLast?_concat]
  rintro d ⟨⟩
  exact hc

theorem IsTrimmed.trim_eq (h : IsTrimmed cs) : trim cs = cs :=
  Query.trim_eq_self h.head? h.getLast?

/-- The last of some characters that all have a property has it. -/
theorem exists_concat {p : Char → Bool} (hne : cs ≠ []) (h : ∀ c ∈ cs, p c = true) :
    ∃ init c, cs = init ++ [c] ∧ p c = true :=
  ⟨_, _, (List.dropLast_append_getLast hne).symm, h _ (List.getLast_mem hne)⟩

theorem exists_concat_of_spells (h : Spells word cs) (hlower : IsLowerWord word) :
    ∃ init c, cs = init ++ [c] ∧ c.isAlpha = true := by
  obtain ⟨c, tail, hcs, -⟩ := h.exists_cons hlower
  exact exists_concat (by rw [hcs]; exact List.cons_ne_nil _ _) (h.isAlpha hlower)

theorem WritesUnit.exists_concat {unit : TimeUnit} (h : WritesUnit unit cs) :
    ∃ init c, cs = init ++ [c] ∧ c.isAlpha = true := by
  obtain ⟨word, hword, hspells⟩ := h
  exact exists_concat_of_spells hspells (distinguishes_unitWords.1 _ (mem_unitWords hword))

/-- A way back begins with a letter or a digit and ends with a word. -/
theorem GoesBack.isTrimmed {amount : Nat} {unit : TimeUnit} (h : GoesBack amount unit cs) :
    IsTrimmed cs := by
  have hletter : ∀ {c : Char}, c.isAlpha = true → isBlank c = false := fun hc =>
    isBlank_of_isAlphanum (isAlphanum_of_isAlpha hc)
  cases h with
  | @last _ _ last gaps counted gaps' counting word gap many gap' what =>
    obtain ⟨c, tail, rfl, -, hc⟩ := word.exists_cons (by decide)
    obtain ⟨init, d, rfl, hd⟩ := what.exists_concat
    exact ⟨⟨c, _, rfl, hletter hc⟩,
      ⟨c :: tail ++ gaps ++ counted ++ gaps' ++ init, d, by simp, hletter hd⟩⟩
  | @lastOne _ last gaps counting word gap what =>
    obtain ⟨c, tail, rfl, -, hc⟩ := word.exists_cons (by decide)
    obtain ⟨init, d, rfl, hd⟩ := what.exists_concat
    exact ⟨⟨c, _, rfl, hletter hc⟩, ⟨c :: tail ++ gaps ++ init, d, by simp, hletter hd⟩⟩
  | @ago _ _ counted gaps counting gaps' ago many gap what gap' word =>
    obtain ⟨c, tail, rfl, hc, -⟩ := many.exists_cons
    obtain ⟨init, d, rfl, hd⟩ := exists_concat_of_spells word (by decide)
    exact ⟨⟨c, _, rfl, isBlank_of_isAlphanum hc⟩,
      ⟨c :: tail ++ gaps ++ counting ++ gaps' ++ init, d, by simp, hletter hd⟩⟩

theorem GoesBack.amount_lt {amount : Nat} {unit : TimeUnit} (h : GoesBack amount unit cs) :
    amount < 0x100000000 := by
  have hmany : ∀ {counted : List Char}, WritesAmount amount counted → amount < 0x100000000 := by
    intro counted many
    cases many with
    | digits _ _ _ small => exact small
    | article => decide
  cases h with
  | last _ _ many => exact hmany many
  | lastOne => decide
  | ago many => exact hmany many

end Keyword

/-! ## Windows -/

/-- **A way back has the window from so many units before the present instant until then**, or is out
of range if the calendar has no such instant. Units of a fixed length go as far back as a relative
range does that ends not before the epoch. -/
theorem readKeyword_goesBack {text : String} {amount : Nat} {unit : TimeUnit} {now : Instant}
    (h : Keyword.GoesBack amount unit text.toList) :
    (∀ w, readKeyword text now = .ok w ↔ w.stop = now ∧ unit.IsBefore amount now w.start)
    ∧ ((∀ start, ¬unit.IsBefore amount now start) → readKeyword text now
        = .error (.invalidKeyword ("'" ++ text ++ "' is out of range")))
    ∧ ∀ length start, unit.seconds? = some length → 1 ≤ amount → .epoch ≤ start →
        unit.IsBefore amount now start → readKeyword text now
          = (TimeRange.relative (.ofNat (amount * length))).resolve readKeyword now := by
  have hread : readKeyword text now = ((Keyword.back amount unit).window now).getD
      (.error (.invalidKeyword ("'" ++ text ++ "' is out of range"))) := by
    rw [readKeyword, h.isTrimmed.trim_eq, h.read?]
    rfl
  have hfound : ∀ start, unit.IsBefore amount now start → readKeyword text now = .ok ⟨start, now⟩ :=
    fun start hstart => by rw [hread, Keyword.window_back hstart, Option.getD_some]
  have hnone : (∀ start, ¬unit.IsBefore amount now start) → readKeyword text now
      = .error (.invalidKeyword ("'" ++ text ++ "' is out of range")) :=
    fun hno => by rw [hread, Keyword.window_back_eq_none hno, Option.getD_none]
  refine ⟨fun w => ⟨fun hw => ?_, ?_⟩, hnone, ?_⟩
  · by_cases hex : ∃ start, unit.IsBefore amount now start
    · obtain ⟨start, hstart⟩ := hex
      rw [hfound start hstart] at hw
      obtain rfl := Except.ok.inj hw
      exact ⟨rfl, hstart⟩
    · rw [hnone (not_exists.mp hex)] at hw
      cases hw
  · rintro ⟨rfl, hstart⟩
    exact hfound w.start hstart
  · intro length start hlength hpos hepoch hstart
    rw [hfound start hstart, TimeRange.resolve_relative_of_isBefore hlength hpos h.amount_lt hstart
      hepoch]

/-- A month before the last of March ends on the last of February, and two hours are 7200 seconds. -/
theorem readKeyword_goesBack_month :
    let start : Instant := ⟨16494, 43200, 0, by decide, by decide, by decide, by decide, by decide⟩
    let now : Instant := ⟨16525, 43200, 0, by decide, by decide, by decide, by decide, by decide⟩
    Keyword.GoesBack 1 .month "Last a\tMONTH".toList
      ∧ readKeyword "Last a\tMONTH" now = .ok ⟨start, now⟩
      ∧ Keyword.GoesBack 2 .hour "2 h  AGO".toList
      ∧ readKeyword "2 h  AGO" now
        = (TimeRange.relative (.ofNat (2 * 3600))).resolve readKeyword now := by
  intro start now
  have hmonth : Keyword.GoesBack 1 .month
      ("Last".toList ++ ([' '] ++ (['a'] ++ (['\t'] ++ "MONTH".toList)))) :=
    .last (by decide) ⟨by simp, by simp [isGap]⟩ (.article (.inl rfl) (by decide))
      ⟨by simp, by simp [isGap]⟩ ⟨"month", by decide, by decide⟩
  have hhours : Keyword.GoesBack 2 .hour
      (['2'] ++ ([' '] ++ (['h'] ++ ([' ', ' '] ++ "AGO".toList)))) :=
    .ago (.digits (by simp) (by simp) rfl (by decide)) ⟨by simp, by simp [isGap]⟩
      ⟨"h", by decide, by decide⟩ ⟨by simp, by simp [isGap]⟩ (by decide)
  have hstart : TimeUnit.month.IsBefore 1 now start :=
    { month := by decide, day := by decide, second := rfl, nano := rfl }
  let stop : Instant := ⟨16525, 36000, 0, by decide, by decide, by decide, by decide, by decide⟩
  have hstop : TimeUnit.hour.IsBefore 2 now stop := { nanos := by decide, leap := by decide }
  exact ⟨hmonth, ((readKeyword_goesBack hmonth).1 ⟨start, now⟩).mpr ⟨rfl, hstart⟩, hhours,
    (readKeyword_goesBack hhours).2.2 3600 stop rfl (by decide) (by decide) hstop⟩

end LogSearch
