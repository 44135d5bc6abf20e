import LogSearch.Query.Grammar

/-!
# What the readers of words take

Each reader of `LogSearch.Query.Grammar` takes an initial part of a text. This module says which
part (`run_eq_some`, `word_eq_some`, `phrase_eq_some`) and, the other way round, that a part of the
right form is taken whatever follows it (`run_append`, `word_append`, `phrase_append`). Separators
are handled the same way: a `gap` takes separating characters only.
-/

namespace LogSearch.Query

variable {cs rest : List Char}

/-! ## Fixed texts -/

theorem stripFront?_eq_some {start : List Char} :
    stripFront? start cs = some rest ↔ cs = start ++ rest := by
  induction start generalizing cs with
  | nil => simp [stripFront?]
  | cons p ps ih =>
    cases cs with
    | nil => simp [stripFront?]
    | cons c cs =>
      by_cases h : p = c
      · subst h; simp [stripFront?, ih]
      · simp [stripFront?, h, Ne.symm h]

/-! ## Blanks -/

/-- A text with a character that is not blank at each end loses nothing. -/
theorem trim_eq_self (hfront : ∀ c ∈ cs.head?, isBlank c = false)
    (hback : ∀ c ∈ cs.getLast?, isBlank c = false) : trim cs = cs := by
  have hdrop : ∀ ds : List Char, (∀ c ∈ ds.head?, isBlank c = false) →
      ds.dropWhile isBlank = ds := by
    intro ds hds
    cases ds with
    | nil => rfl
    | cons d ds => simp [hds d rfl]
  rw [trim, trimFront, hdrop cs hfront, trimBack, hdrop, List.reverse_reverse]
  intro c hc
  rw [List.head?_reverse] at hc
  exact hback c hc

/-! ## Gaps -/

/-- A text with no gap at its front loses nothing. -/
theorem skipGaps_eq_self (h : ∀ c ∈ cs.head?, isGap c = false) : skipGaps cs = cs := by
  cases cs with
  | nil => rfl
  | cons c cs => simp [skipGaps, h c rfl]

theorem length_skipGaps_le (cs : List Char) : (skipGaps cs).length ≤ cs.length :=
  (List.dropWhile_sublist isGap).length_le

theorem gap_length (h : gap cs = some rest) : rest.length < cs.length := by
  cases cs with
  | nil => simp [gap] at h
  | cons c cs =>
    rw [gap] at h
    split at h
    · rw [← Option.some.inj h]
      exact Nat.lt_succ_of_le (length_skipGaps_le cs)
    · cases h

/-- No gap stands before a character that is not blank. -/
theorem gap_eq_none {c : Char} (h : isBlank c = false) : gap (c :: cs) = none := by
  have hc : isGap c = false := by
    cases hg : isGap c with
    | false => rfl
    | true => rw [isBlank_of_isGap hg] at h; cases h
  simp [gap, hc]

theorem joint_length {name sign : String} (h : joint name sign cs = some rest) :
    rest.length < cs.length := by
  unfold joint at h
  split at h
  · cases h
  · next r hr =>
    have hlt : r.length < cs.length := gap_length hr
    split at h
    · next after ha =>
      have hle : after.length ≤ r.length := stripFront?_length ha
      have := gap_length h
      omega
    · obtain ⟨after, ha, hg⟩ := Option.bind_eq_some_iff.mp h
      have hle : after.length ≤ r.length := stripFront?_length ha
      have := gap_length hg
      omega

theorem andJoint_length (h : andJoint cs = some rest) : rest.length < cs.length := joint_length h

theorem orJoint_length (h : orJoint cs = some rest) : rest.length < cs.length := by
  unfold orJoint at h
  split at h
  · next hj => rw [← Option.some.inj h]; exact joint_length hj
  · exact gap_length h

theorem negation_length (h : negation cs = some rest) : rest.length < cs.length := by
  unfold negation at h
  split at h
  · next hn =>
    obtain ⟨after, ha, hg⟩ := Option.bind_eq_some_iff.mp hn
    have hle : after.length ≤ cs.length := stripFront?_length ha
    have := gap_length hg
    rw [← Option.some.inj h]
    omega
  · split at h
    · rw [← Option.some.inj h]; simp
    · rw [← Option.some.inj h]; simp
    · cases h

/-! ## Words and values -/

/-- A run is a part at the front that is not empty, all of it of the right characters. -/
theorem run_eq_some {p : Char → Bool} {w : String} (h : run p cs = some (w, rest)) :
    cs = w.toList ++ rest ∧ w.toList ≠ [] ∧ ∀ c ∈ w.toList, p c = true := by
  unfold run at h
  simp only at h
  split at h
  · cases h
  · next hne =>
    simp only [Option.some.injEq, Prod.mk.injEq] at h
    obtain ⟨rfl, rfl⟩ := h
    refine ⟨by simp, by simpa using hne, ?_⟩
    intro c hc
    rw [String.toList_ofList] at hc
    exact List.all_eq_true.mp List.all_takeWhile c hc

theorem run_append {p : Char → Bool} {w : String} (hne : w.toList ≠ [])
    (hw : ∀ c ∈ w.toList, p c = true) (hrest : ∀ c ∈ rest.head?, p c = false) :
    run p (w.toList ++ rest) = some (w, rest) := by
  have htake : rest.takeWhile p = [] := by
    cases rest with
    | nil => rfl
    | cons c rest => simp [hrest c rfl]
  have hdrop : rest.dropWhile p = rest := by
    cases rest with
    | nil => rfl
    | cons c rest => simp [hrest c rfl]
  unfold run
  simp only [List.takeWhile_append_of_pos hw, List.dropWhile_append_of_pos hw, htake, hdrop,
    List.append_nil]
  simp [hne]

theorem word_eq_some {w : String} (h : word cs = some (w, rest)) :
    run isWordChar cs = some (w, rest) ∧ w ∉ operators := by
  unfold word at h
  split at h
  · next hr =>
    split at h
    · cases h
    · next hop =>
      simp only [Option.some.injEq, Prod.mk.injEq] at h
      obtain ⟨rfl, rfl⟩ := h
      exact ⟨hr, by simpa using hop⟩
  · cases h

theorem word_append {w : String} (hne : w.toList ≠ []) (hw : ∀ c ∈ w.toList, isWordChar c = true)
    (hop : w ∉ operators) (hrest : ∀ c ∈ rest.head?, isWordChar c = false) :
    word (w.toList ++ rest) = some (w, rest) := by
  rw [word, run_append hne hw hrest]
  simp [hop]

/-- An operator is no word. -/
theorem word_operator {w : String} (hne : w.toList ≠ []) (hw : ∀ c ∈ w.toList, isWordChar c = true)
    (hop : w ∈ operators) (hrest : ∀ c ∈ rest.head?, isWordChar c = false) :
    word (w.toList ++ rest) = none := by
  rw [word, run_append hne hw hrest]
  simp [hop]

/-- No word stands before a character that no word has. -/
theorem word_eq_none {c : Char} (h : isWordChar c = false) : word (c :: cs) = none := by
  simp [word, run, h]

theorem isWordChar_iff {c : Char} : isWordChar c = true ↔
    isBlank c = false ∧ c ≠ '(' ∧ c ≠ ')' ∧ c ≠ '"' ∧ c ≠ ':' := by
  simp [isWordChar, isValueChar, and_assoc]

theorem ne_quote_of_isValueChar {c : Char} (h : isValueChar c = true) : c ≠ '"' := by
  simp only [isValueChar, Bool.not_eq_true', Bool.or_eq_false_iff, beq_eq_false_iff_ne] at h
  exact h.2

/-! ## Phrases -/

theorem phrase_eq_some {s : String} (h : phrase cs = some (s, rest)) :
    cs = '"' :: (s.toList ++ '"' :: rest) ∧ '"' ∉ s.toList := by
  unfold phrase at h
  split at h
  · next inner =>
    split at h
    · next c after hd =>
      simp only [Option.some.injEq, Prod.mk.injEq] at h
      obtain ⟨rfl, rfl⟩ := h
      rw [String.toList_ofList]
      have hc : c = '"' := by
        have := List.head?_dropWhile_not (· != '"') inner
        simpa [hd] using this
      subst hc
      refine ⟨?_, ?_⟩
      · rw [← hd, List.takeWhile_append_dropWhile]
      · intro hmem
        have := List.all_eq_true.mp List.all_takeWhile _ hmem
        simp at this
    · cases h
  · cases h

theorem phrase_append {s : String} (hs : '"' ∉ s.toList) :
    phrase ('"' :: (s.toList ++ '"' :: rest)) = some (s, rest) := by
  have hall : ∀ c ∈ s.toList, (c != '"') = true := by
    intro c hc
    simp only [bne_iff_ne, ne_eq]
    rintro rfl
    exact hs hc
  rw [phrase, List.dropWhile_append_of_pos hall, List.takeWhile_append_of_pos hall]
  simp

/-- No phrase stands before a character that is no quote. -/
theorem phrase_eq_none {c : Char} (h : c ≠ '"') : phrase (c :: cs) = none := by
  unfold phrase
  split
  · next heq => exact absurd (List.cons.inj heq).1 h
  · rfl

end LogSearch.Query
