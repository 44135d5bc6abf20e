import LogSearch.Index.Stream
import LogSearch.Proofs.Query.Reading

/-!
# Where markers are found

A filter has a marker behind a text if `streams:` and hexadecimal digits stand there (`HasMarker`).
The rule in words lets a marker stand at the start, and behind every character that is no ASCII
letter or digit (`Admits`). The scan asks for more: something has to stand before that character, all
of it on one line (`Reached`).

Main statements: the marker that is found is the last of those that the scan reaches
(`markedStream?_eq_some_iff`). So an id is always that of a marker where the rule lets one stand, and
a filter with such a marker has an id exactly if the scan reaches one of them
(`markedStream?_admitted_iff`).
-/

namespace LogSearch

variable {cs before id rest : List Char}

/-- Behind `before` stand `streams:` and the id, and no hexadecimal digit goes on with the id. -/
def HasMarker (cs before id : List Char) : Prop :=
  ∃ after, cs = before ++ ("streams:".toList ++ (id ++ after)) ∧ id ≠ []
    ∧ (∀ c ∈ id, isHexDigit c = true) ∧ ∀ c ∈ after.head?, isHexDigit c = false

/-- A marker may stand behind the text: it is empty, or ends in a character that is no ASCII letter
or digit. -/
def Admits (before : List Char) : Prop := ∀ c ∈ before.getLast?, c.isAlphanum = false

/-- A part of a line, and a character that is no ASCII letter or digit. -/
inductive LineUpTo : List Char → Prop where
  | last {c : Char} : c.isAlphanum = false → LineUpTo [c]
  | cons {c : Char} {before : List Char} : c ≠ '\n' → LineUpTo before → LineUpTo (c :: before)

/-- The scan comes to a marker behind the text: it is empty, or a part of a line that is not empty
and a character that is no ASCII letter or digit. -/
inductive Reached : List Char → Prop where
  | start : Reached []
  | behind {c : Char} {before : List Char} : c ≠ '\n' → LineUpTo before → Reached (c :: before)

/-- The id of the marker behind the longest of certain texts. -/
def IsLastMarker (stands : List Char → Prop) (cs id : List Char) : Prop :=
  ∃ before, stands before ∧ HasMarker cs before id
    ∧ ∀ other otherId, stands other → HasMarker cs other otherId → other.length ≤ before.length

theorem lineUpTo_iff : LineUpTo before
    ↔ ∃ line c, before = line ++ [c] ∧ '\n' ∉ line ∧ c.isAlphanum = false := by
  constructor
  · intro h
    induction h with
    | @last c hc => exact ⟨[], c, rfl, by simp, hc⟩
    | @cons d before hd _ ih =>
      obtain ⟨line, c, rfl, hline, hc⟩ := ih
      exact ⟨d :: line, c, rfl, by simp [Ne.symm hd, hline], hc⟩
  · rintro ⟨line, c, rfl, hline, hc⟩
    induction line with
    | nil => exact .last hc
    | cons d line ih =>
      rw [List.mem_cons, not_or] at hline
      exact .cons (Ne.symm hline.1) (ih hline.2)

theorem Reached.admits (h : Reached before) : Admits before := by
  cases h with
  | start => exact fun c hc => by cases hc
  | behind _ hline =>
    obtain ⟨line, c, rfl, _, hc⟩ := lineUpTo_iff.mp hline
    intro d hd
    rw [← List.cons_append, List.getLast?_concat] at hd
    rw [← Option.some.inj hd]
    exact hc

/-! ## One marker -/

theorem markerAt?_eq_some_iff : markerAt? cs = some id ↔ HasMarker cs [] id := by
  constructor
  · intro h
    rw [markerAt?] at h
    split at h
    · cases h
    · next rest hrest =>
      rw [Query.stripFront?_eq_some] at hrest
      simp only at h
      split at h
      · cases h
      · next hne =>
        obtain rfl := Option.some.inj h
        refine ⟨rest.dropWhile isHexDigit, ?_, by simpa using hne, ?_, ?_⟩
        · rw [List.takeWhile_append_dropWhile]
          exact hrest
        · exact List.all_eq_true.mp List.all_takeWhile
        · intro c hc
          have hstop := List.head?_dropWhile_not isHexDigit rest
          rw [hc] at hstop
          simpa using hstop
  · rintro ⟨after, rfl, hne, hid, hafter⟩
    have hstrip : stripFront? "streams:".toList ("streams:".toList ++ (id ++ after))
        = some (id ++ after) := Query.stripFront?_eq_some.mpr rfl
    have htake : (id ++ after).takeWhile isHexDigit = id := by
      rw [List.takeWhile_append_of_pos hid]
      cases after with
      | nil => simp
      | cons c after => simp [hafter c rfl]
    rw [List.nil_append, markerAt?, hstrip]
    simp only [htake]
    rw [if_neg (by simpa using hne)]

theorem hasMarker_append : HasMarker (before ++ rest) before id ↔ HasMarker rest [] id := by
  simp [HasMarker]

theorem hasMarker_cons_cons {c d : Char} :
    HasMarker (d :: cs) (c :: before) id ↔ d = c ∧ HasMarker cs before id := by
  simp only [HasMarker, List.cons_append, List.cons.injEq, and_assoc, exists_and_left]

theorem HasMarker.exists_rest (h : HasMarker cs before id) : ∃ rest, cs = before ++ rest := by
  obtain ⟨after, rfl, _⟩ := h
  exact ⟨_, rfl⟩

/-- Behind one text stands one marker. -/
theorem HasMarker.unique {other : List Char} (h : HasMarker cs before id)
    (h' : HasMarker cs before other) : id = other := by
  obtain ⟨rest, rfl⟩ := h.exists_rest
  rw [hasMarker_append, ← markerAt?_eq_some_iff] at h h'
  exact Option.some.inj (h.symm.trans h')

theorem IsLastMarker.unique {stands : List Char → Prop} {other : List Char}
    (h : IsLastMarker stands cs id) (h' : IsLastMarker stands cs other) : id = other := by
  obtain ⟨before, hstands, hmarker, hlast⟩ := h
  obtain ⟨before', hstands', hmarker', hlast'⟩ := h'
  have hlength := Nat.le_antisymm (hlast' _ _ hstands hmarker) (hlast _ _ hstands' hmarker')
  obtain ⟨rest, hrest⟩ := hmarker.exists_rest
  obtain ⟨rest', hrest'⟩ := hmarker'.exists_rest
  -- two beginnings of one text that are as long as each other are the same
  obtain ⟨rfl, -⟩ := List.append_inj (hrest.symm.trans hrest') hlength
  exact hmarker.unique hmarker'

/-! ## The last marker of a line -/

/-- The step of the scan: a marker later on the line comes first. -/
theorem markerAfter?_cons (c : Char) (cs : List Char) : markerAfter? (c :: cs)
    = (if c = '\n' then none else markerAfter? cs).or
        (if c.isAlphanum then none else markerAt? cs) := by
  rw [markerAfter?, Option.orElse_eq_orElse, Option.orElse_eq_or]

theorem markerAfter?_eq_none (h : markerAfter? cs = none) (hline : LineUpTo before) :
    ¬HasMarker cs before id := by
  intro hmarker
  induction hline generalizing cs with
  | @last c hc =>
    obtain ⟨rest, rfl⟩ := hmarker.exists_rest
    rw [hasMarker_append, ← markerAt?_eq_some_iff] at hmarker
    rw [List.singleton_append, markerAfter?_cons, Option.or_eq_none_iff, hmarker, hc] at h
    cases h.2
  | @cons c before hc _ ih =>
    cases cs with
    | nil =>
      obtain ⟨rest, hrest⟩ := hmarker.exists_rest
      cases hrest
    | cons d cs =>
      obtain ⟨rfl, hlater⟩ := hasMarker_cons_cons.mp hmarker
      rw [markerAfter?_cons, Option.or_eq_none_iff, if_neg hc] at h
      exact ih h.1 hlater

theorem markerAfter?_eq_some (h : markerAfter? cs = some id) : IsLastMarker LineUpTo cs id := by
  induction cs with
  | nil => cases h
  | cons d cs ih =>
    rw [markerAfter?_cons, Option.or_eq_some_iff] at h
    rcases h with hlater | ⟨hnone, hhere⟩
    · split at hlater
      · cases hlater
      · next hd =>
        obtain ⟨before, hline, hmarker, hlast⟩ := ih hlater
        refine ⟨d :: before, .cons hd hline, hasMarker_cons_cons.mpr ⟨rfl, hmarker⟩, ?_⟩
        intro other otherId hother hmarker'
        cases hother with
        | last => simp
        | cons _ hother =>
          have hle := hlast _ _ hother (hasMarker_cons_cons.mp hmarker').2
          simpa using hle
    · split at hhere
      · cases hhere
      · next hd =>
        refine ⟨[d], .last (by simpa using hd), ?_, ?_⟩
        · exact hasMarker_cons_cons.mpr ⟨rfl, markerAt?_eq_some_iff.mp hhere⟩
        · intro other otherId hother hmarker'
          cases hother with
          | last => simp
          | cons hne hother =>
            obtain ⟨rfl, hlater⟩ := hasMarker_cons_cons.mp hmarker'
            rw [if_neg hne] at hnone
            exact absurd hlater (markerAfter?_eq_none hnone hother)

/-! ## The marker of a filter -/

/-- What the scan finds in the characters of a filter. -/
theorem markedStream?_cons {filter : String} {c : Char} (h : filter.toList = c :: cs) :
    markedStream? filter = ((if c = '\n' then none else markerAfter? cs).or
      (markerAt? (c :: cs))).map String.ofList := by
  rw [markedStream?, h, Option.orElse_eq_orElse, Option.orElse_eq_or]

theorem markedStream?_eq_none {filter : String} (h : markedStream? filter = none)
    (hreached : Reached before) : ¬HasMarker filter.toList before id := by
  intro hmarker
  cases hcs : filter.toList with
  | nil =>
    rw [hcs] at hmarker
    obtain ⟨after, hafter, -⟩ := hmarker
    simp at hafter
  | cons c cs =>
    rw [hcs] at hmarker
    rw [markedStream?_cons hcs, Option.map_eq_none_iff, Option.or_eq_none_iff] at h
    cases hreached with
    | start =>
      rw [← markerAt?_eq_some_iff, h.2] at hmarker
      cases hmarker
    | behind hne hline =>
      obtain ⟨rfl, hlater⟩ := hasMarker_cons_cons.mp hmarker
      rw [if_neg hne] at h
      exact markerAfter?_eq_none h.1 hline hlater

theorem isLastMarker_of_markedStream? {filter id : String} (h : markedStream? filter = some id) :
    IsLastMarker Reached filter.toList id.toList := by
  cases hcs : filter.toList with
  | nil =>
    rw [markedStream?, hcs] at h
    cases h
  | cons c cs =>
    rw [markedStream?_cons hcs, Option.map_eq_some_iff] at h
    obtain ⟨id, hid, rfl⟩ := h
    rw [String.toList_ofList]
    rcases Option.or_eq_some_iff.mp hid with hlater | ⟨hnone, hhere⟩
    · split at hlater
      · cases hlater
      · next hne =>
        obtain ⟨before, hline, hmarker, hlast⟩ := markerAfter?_eq_some hlater
        refine ⟨c :: before, .behind hne hline, hasMarker_cons_cons.mpr ⟨rfl, hmarker⟩, ?_⟩
        intro other otherId hother hmarker'
        cases hother with
        | start => simp
        | behind _ hother =>
          have hle := hlast _ _ hother (hasMarker_cons_cons.mp hmarker').2
          simpa using hle
    · refine ⟨[], .start, markerAt?_eq_some_iff.mp hhere, ?_⟩
      intro other otherId hother hmarker'
      cases hother with
      | start => simp
      | behind hne hother =>
        obtain ⟨rfl, hlater⟩ := hasMarker_cons_cons.mp hmarker'
        rw [if_neg hne] at hnone
        exact absurd hlater (markerAfter?_eq_none hnone hother)

/-- **The id that a filter names is that of the last marker that the scan reaches.** -/
theorem markedStream?_eq_some_iff {filter id : String} :
    markedStream? filter = some id ↔ IsLastMarker Reached filter.toList id.toList := by
  refine ⟨isLastMarker_of_markedStream?, fun h => ?_⟩
  cases hfound : markedStream? filter with
  | none =>
    obtain ⟨before, hreached, hmarker, -⟩ := h
    exact absurd hmarker (markedStream?_eq_none hfound hreached)
  | some other =>
    have hsame := (isLastMarker_of_markedStream? hfound).unique h
    rw [String.toList_inj.mp hsame]

theorem isSome_markedStream?_iff {filter : String} : (markedStream? filter).isSome
    ↔ ∃ before id, HasMarker filter.toList before id ∧ Reached before := by
  constructor
  · intro h
    obtain ⟨id, hid⟩ := Option.isSome_iff_exists.mp h
    obtain ⟨before, hreached, hmarker, -⟩ := isLastMarker_of_markedStream? hid
    exact ⟨before, id.toList, hmarker, hreached⟩
  · rintro ⟨before, id, hmarker, hreached⟩
    rw [Option.isSome_iff_ne_none]
    exact fun hnone => markedStream?_eq_none hnone hreached hmarker

/-- **An id is that of a marker where the rule lets one stand, and when there is one.** A filter with
such a marker has an id exactly if the scan reaches one of them; it does not if all of them stand
behind the first character, or on a later line than the first and not at its start. -/
theorem markedStream?_admitted_iff (filter : String) :
    (∀ id, markedStream? filter = some id →
      ∃ before, HasMarker filter.toList before id.toList ∧ Admits before)
    ∧ (((markedStream? filter).isSome
        ↔ ∃ before id, HasMarker filter.toList before id ∧ Admits before)
      ↔ ((∃ before id, HasMarker filter.toList before id ∧ Admits before) →
        ∃ before id, HasMarker filter.toList before id ∧ Reached before)) := by
  refine ⟨fun id hid => ?_, ?_⟩
  · obtain ⟨before, hreached, hmarker, -⟩ := isLastMarker_of_markedStream? hid
    exact ⟨before, hmarker, hreached.admits⟩
  · rw [isSome_markedStream?_iff]
    constructor
    · exact fun hiff => hiff.mpr
    · intro hreached
      refine ⟨?_, hreached⟩
      rintro ⟨before, id, hmarker, hbefore⟩
      exact ⟨before, id, hmarker, hbefore.admits⟩

/-- Of two markers the last, in brackets. -/
theorem markedStream?_admitted_iff_brackets :
    markedStream? "streams:ab OR (streams:00ff)" = some "00ff"
      ∧ ∃ before, HasMarker "streams:ab OR (streams:00ff)".toList before "00ff".toList
        ∧ Admits before := by
  have hid : markedStream? "streams:ab OR (streams:00ff)" = some "00ff" := by decide
  exact ⟨hid, (markedStream?_admitted_iff _).1 _ hid⟩

/-- Behind a bracket that the filter starts with, and at the end of a second line, the rule lets a
marker stand and none is found. -/
theorem markedStream?_admitted_fails :
    HasMarker "(streams:ab12)".toList ['('] "ab12".toList ∧ Admits ['(']
      ∧ markedStream? "(streams:ab12)" = none
      ∧ HasMarker "a\nb streams:ab12".toList ['a', '\n', 'b', ' '] "ab12".toList
      ∧ Admits ['a', '\n', 'b', ' ']
      ∧ markedStream? "a\nb streams:ab12" = none := by
  have hid : ∀ c ∈ "ab12".toList, isHexDigit c = true := List.all_eq_true.mp (by decide)
  refine ⟨⟨[')'], by decide, by decide, hid, by simp [isHexDigit]⟩, by simp [Admits], by decide,
    ⟨[], by decide, by decide, hid, by simp⟩, by simp [Admits], by decide⟩

end LogSearch
