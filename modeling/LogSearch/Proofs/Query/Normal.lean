import LogSearch.Proofs.Query.Reading

/-!
# Queries in normal form

A query is *normal* if lists have at least two items, nothing holds a quote, and the name of a
field is one that a reader would take for it. Main statement: whatever `parse` reads is normal
(`normal_of_parse`).

The condition on names that start with a sign of negation is what makes this delicate. A sign is
only part of a word when nothing can be read behind it (`term_eq_none_of_unary`), which is the case
when an operator or the end of the word follows (`eq_nil_or_operator_of_term`).
-/

namespace LogSearch

/-! ## Normal form -/

/-- The text can stand in quotes. -/
def Quotable (text : String) : Prop := '"' ∉ text.toList

/-- What can stand before a colon and is read as the name of a field. -/
structure FieldName (name : String) : Prop where
  nonempty : name ≠ ""
  chars : ∀ c ∈ name.toList, isBlank c = false ∧ c ≠ '(' ∧ c ≠ ')' ∧ c ≠ '"' ∧ c ≠ ':'
  ordinary : name ∉ Query.operators
  /-- This name asks whether a field has a value. -/
  ne_exists : name ≠ "_exists_"
  /-- A sign of negation at the front has nothing to negate. -/
  sign : ∀ c tail, name.toList = c :: tail → c = '-' ∨ c = '!' →
    tail = [] ∨ String.ofList tail ∈ Query.operators

/-- A condition in normal form. -/
def Term.Normal : Term → Prop
  | .all => True
  | .present name => Quotable name
  | .field name text => FieldName name ∧ Quotable text ∧ text ≠ "*"
  | .bare text => Quotable text

mutual

/-- A query in normal form. -/
def Clause.Normal : Clause → Prop
  | .or clauses => 2 ≤ clauses.length ∧ Clause.AllNormal clauses
  | .and clauses => 2 ≤ clauses.length ∧ Clause.AllNormal clauses
  | .not clause => clause.Normal
  | .term t => t.Normal

/-- Queries in normal form. -/
def Clause.AllNormal : List Clause → Prop
  | [] => True
  | clause :: rest => clause.Normal ∧ Clause.AllNormal rest

end

theorem Clause.allNormal_iff {clauses : List Clause} :
    AllNormal clauses ↔ ∀ clause ∈ clauses, clause.Normal := by
  induction clauses with
  | nil => simp [AllNormal]
  | cons clause rest ih => simp [AllNormal, ih]

namespace Query

variable {cs rest : List Char} {n depth : Nat}

/-- A reader whose result is changed leaves what it left. -/
theorem of_map_eq_some {α β : Type} {f : α → β} {read : Option (α × List Char)} {b : β}
    (h : (read.map fun (a, after) => (f a, after)) = some (b, rest)) :
    ∃ a, read = some (a, rest) ∧ f a = b := by
  obtain ⟨⟨a, after⟩, hread, heq⟩ := Option.map_eq_some_iff.mp h
  simp only [Prod.mk.injEq] at heq
  obtain ⟨rfl, rfl⟩ := heq
  exact ⟨a, hread, rfl⟩

/-! ## Terms -/

theorem quotable_of_run {p : Char → Bool} {w : String} (hp : ∀ c, p c = true → c ≠ '"')
    (h : run p cs = some (w, rest)) : Quotable w :=
  fun hq => hp _ ((run_eq_some h).2.2 _ hq) rfl

theorem quotable_of_word {w : String} (h : word cs = some (w, rest)) : Quotable w :=
  quotable_of_run (fun _ hc => (isWordChar_iff.mp hc).2.2.2.1) (word_eq_some h).1

theorem length_of_run {p : Char → Bool} {w : String} (h : run p cs = some (w, rest)) :
    rest.length < cs.length := by
  obtain ⟨rfl, hne, _⟩ := run_eq_some h
  have := List.length_pos_iff.mpr hne
  rw [List.length_append]
  omega

theorem length_of_phrase {s : String} (h : phrase cs = some (s, rest)) :
    rest.length < cs.length := by
  obtain ⟨rfl, _⟩ := phrase_eq_some h
  simp only [List.length_cons, List.length_append]
  omega

/-- A field and its text: the name stands before a colon, and the text can be quoted. -/
theorem fieldValue_eq_some {name text : String} (h : fieldValue cs = some ((name, text), rest)) :
    ∃ after, word cs = some (name, ':' :: after) ∧ Quotable text
      ∧ rest.length < after.length := by
  unfold fieldValue at h
  split at h
  · next w after hw =>
    split at h
    · next s r hp =>
      simp only [Option.some.injEq, Prod.mk.injEq] at h
      obtain ⟨⟨rfl, rfl⟩, rfl⟩ := h
      exact ⟨after, hw, (phrase_eq_some hp).2, length_of_phrase hp⟩
    · obtain ⟨s, hv, heq⟩ := of_map_eq_some h
      obtain ⟨rfl, rfl⟩ := Prod.mk.inj heq
      exact ⟨after, hw, quotable_of_run (fun _ => ne_quote_of_isValueChar) hv, length_of_run hv⟩
  · cases h

/-- Something can be read where a word stands. -/
theorem term_ne_none_of_word {w : String} (h : word cs = some (w, rest)) : term cs ≠ none := by
  unfold term
  split
  · simp
  · split
    · simp
    · simp [h]

/-- Where nothing can be read, no word stands before a colon, or it is an operator. -/
theorem eq_nil_or_operator_of_term {tail after : List Char}
    (hw : ∀ c ∈ tail, isWordChar c = true) (h : term (tail ++ ':' :: after) = none) :
    tail = [] ∨ String.ofList tail ∈ operators := by
  by_cases hne : tail = []
  · exact Or.inl hne
  · by_cases hop : String.ofList tail ∈ operators
    · exact Or.inr hop
    · have hword : word ((String.ofList tail).toList ++ ':' :: after)
          = some (String.ofList tail, ':' :: after) :=
        word_append (by simpa using hne) (by simpa using hw) hop (by simp [isWordChar])
      rw [String.toList_ofList] at hword
      exact absurd h (term_ne_none_of_word hword)

/-- What stands before a colon is the name of a field, if a sign at its front negates nothing. -/
theorem fieldName_of_word {name : String} {after : List Char}
    (h : word cs = some (name, ':' :: after)) (hname : name ≠ "_exists_")
    (hsign : ∀ c tail, cs = c :: tail → c = '-' ∨ c = '!' → term tail = none) :
    FieldName name := by
  obtain ⟨hrun, hop⟩ := word_eq_some h
  obtain ⟨hcs, hne, hchars⟩ := run_eq_some hrun
  refine ⟨by simpa using hne, fun c hc => isWordChar_iff.mp (hchars c hc), hop, hname, ?_⟩
  intro c tail hct hc
  rw [hct] at hcs hchars
  exact eq_nil_or_operator_of_term (fun d hd => hchars d (List.mem_cons_of_mem _ hd))
    (hsign c _ hcs hc)

theorem fieldTerm_normal {name text : String} (hname : name ≠ "_exists_" → FieldName name)
    (hn : Quotable name) (ht : Quotable text) : (fieldTerm name text).Normal := by
  unfold fieldTerm
  split
  · exact ht
  · next hne =>
    split
    · exact hn
    · next hstar => exact ⟨hname hne, ht, hstar⟩

theorem term_normal {t : Term} (h : term cs = some (t, rest))
    (hsign : ∀ c tail, cs = c :: tail → c = '-' ∨ c = '!' → term tail = none) :
    t.Normal ∧ rest.length < cs.length := by
  unfold term at h
  split at h
  · next name text r hf =>
    simp only [Option.some.injEq, Prod.mk.injEq] at h
    obtain ⟨rfl, rfl⟩ := h
    obtain ⟨after, hw, ht, hlen⟩ := fieldValue_eq_some hf
    refine ⟨fieldTerm_normal (fun hne => fieldName_of_word hw hne hsign) (quotable_of_word hw) ht,
      ?_⟩
    have := length_of_run (word_eq_some hw).1
    simp only [List.length_cons] at this
    omega
  · split at h
    · next text r hp =>
      simp only [Option.some.injEq, Prod.mk.injEq] at h
      obtain ⟨rfl, rfl⟩ := h
      exact ⟨(phrase_eq_some hp).2, length_of_phrase hp⟩
    · obtain ⟨text, hw, rfl⟩ :=
        of_map_eq_some (f := fun text => if text = "*" then Term.all else .bare text) h
      refine ⟨?_, length_of_run (word_eq_some hw).1⟩
      split
      · trivial
      · exact quotable_of_word hw

/-! ## Lists of clauses -/

/-- On texts up to a length, a reader gives only what satisfies a condition, and takes something. -/
def Yields {α : Type} (n : Nat) (item : Reader α) (P : α → Prop) : Prop :=
  ∀ cs a rest, cs.length ≤ n → item cs = some (a, rest) → P a ∧ rest.length < cs.length

variable {α : Type} {P : α → Prop} {item : Reader α} {joint : List Char → Option (List Char)}

theorem more_yields (hj : ∀ cs rest, joint cs = some rest → rest.length < cs.length)
    (hi : Yields n item P) : ∀ (count : Nat) (cs : List Char), cs.length ≤ n →
    (∀ a ∈ (more joint item count cs).1, P a) ∧ (more joint item count cs).2.length ≤ cs.length := by
  intro count
  induction count with
  | zero => intro cs _; simp [more]
  | succ count ih =>
    intro cs hn
    rw [more]
    split
    · simp
    · next r hr =>
      have hlt := hj cs r hr
      split
      · simp
      · next a after ha =>
        obtain ⟨hP, hafter⟩ := hi r a after (by omega) ha
        obtain ⟨hall, hlen⟩ := ih after (by omega)
        refine ⟨?_, by simp only; omega⟩
        intro b hb
        rcases List.mem_cons.mp hb with rfl | hb
        · exact hP
        · exact hall b hb

theorem separated_yields (hj : ∀ cs rest, joint cs = some rest → rest.length < cs.length)
    (hi : Yields n item P) :
    Yields n (separated joint item) fun as => as ≠ [] ∧ ∀ a ∈ as, P a := by
  intro cs as rest hn h
  unfold separated at h
  split at h
  · cases h
  · next a r ha =>
    obtain ⟨hP, hlen⟩ := hi cs a r hn ha
    obtain ⟨hall, hle⟩ := more_yields hj hi r.length r (by omega)
    simp only [Option.some.injEq, Prod.mk.injEq] at h
    obtain ⟨rfl, rfl⟩ := h
    refine ⟨⟨by simp, ?_⟩, by omega⟩
    intro b hb
    rcases List.mem_cons.mp hb with rfl | hb
    · exact hP
    · exact hall b hb

/-- A list that is put together has at least two items. -/
theorem collapse_normal {join : List Clause → Clause} {clauses : List Clause}
    (hjoin : ∀ clauses : List Clause, 2 ≤ clauses.length → Clause.AllNormal clauses →
      (join clauses).Normal)
    (hne : clauses ≠ []) (h : ∀ clause ∈ clauses, clause.Normal) :
    (collapse join clauses).Normal := by
  match clauses, hne with
  | [clause], _ => exact h clause List.mem_cons_self
  | first :: second :: rest, _ =>
    exact hjoin _ (by simp only [List.length_cons]; omega) (Clause.allNormal_iff.mpr h)

variable {reader : Reader Clause}

/-- One or several clauses between joints. -/
theorem joined_yields {join : List Clause → Clause}
    (hj : ∀ cs rest, joint cs = some rest → rest.length < cs.length)
    (hjoin : ∀ clauses : List Clause, 2 ≤ clauses.length → Clause.AllNormal clauses →
      (join clauses).Normal)
    (h : Yields n reader Clause.Normal) :
    Yields n (fun cs => (separated joint reader cs).map fun (clauses, rest) =>
      (collapse join clauses, rest)) Clause.Normal := by
  intro cs c rest hn hc
  obtain ⟨clauses, hs, rfl⟩ := of_map_eq_some hc
  obtain ⟨⟨hne, hall⟩, hlen⟩ := separated_yields hj h cs clauses rest hn hs
  exact ⟨collapse_normal hjoin hne hall, hlen⟩

theorem conjunction_yields (h : Yields n reader Clause.Normal) :
    Yields n (conjunction reader) Clause.Normal :=
  joined_yields (fun _ _ => andJoint_length) (fun _ htwo hall => ⟨htwo, hall⟩) h

theorem disjunction_yields (h : Yields n reader Clause.Normal) :
    Yields n (disjunction reader) Clause.Normal :=
  joined_yields (fun _ _ => orJoint_length) (fun _ htwo hall => ⟨htwo, hall⟩)
    (conjunction_yields h)

/-- Brackets take one character more than what is in them. -/
theorem group_yields (h : Yields n reader Clause.Normal) :
    Yields (n + 1) (group reader) Clause.Normal := by
  intro cs c rest hn hc
  unfold group at hc
  split at hc
  · next inner =>
    have hskip := length_skipGaps_le inner
    simp only [List.length_cons] at hn
    split at hc
    · cases hc
    · next clause after hd =>
      -- the bracket itself pays for the level that is lost
      obtain ⟨hP, hlen⟩ := disjunction_yields h _ clause after (by omega) hd
      split at hc
      · next last hl =>
        simp only [Option.some.injEq, Prod.mk.injEq] at hc
        obtain ⟨rfl, rfl⟩ := hc
        have hle := length_skipGaps_le after
        rw [hl, List.length_cons] at hle
        exact ⟨hP, by simp only [List.length_cons]; omega⟩
      · cases hc
  · cases hc

/-! ## Clauses -/

/-- The three ways to read a clause, in the order in which they are tried. -/
theorem unary_succ (depth : Nat) (cs : List Char) : unary (depth + 1) cs =
    ((negation cs).bind fun rest =>
        (unary depth rest).map fun (clause, after) => (Clause.not clause, after)).or
      ((group (unary depth) cs).or ((term cs).map fun (t, rest) => (.term t, rest))) := by
  rw [unary]
  simp only [Option.orElse_eq_orElse, Option.orElse_eq_or]

/-- A reader that is deep enough for a text reads the term at its front, if there is one. -/
theorem term_eq_none_of_unary (hlen : cs.length ≤ depth) (h : unary depth cs = none) :
    term cs = none := by
  cases depth with
  | zero =>
    have hcs : cs = [] := List.length_eq_zero_iff.mp (Nat.le_zero.mp hlen)
    subst hcs
    rfl
  | succ depth =>
    rw [unary_succ, Option.or_eq_none_iff, Option.or_eq_none_iff] at h
    simpa using h.2.2

/-- **What a reader of clauses gives is normal.** By induction on the depth: a negation and a
bracket both leave less to read, and a term that starts with a sign was tried as a negation
before. -/
theorem unary_yields (depth : Nat) : Yields depth (unary depth) Clause.Normal := by
  induction depth with
  | zero => intro cs c rest _ h; cases h
  | succ depth ih =>
    intro cs c rest hn h
    rw [unary_succ, Option.or_eq_some_iff, Option.or_eq_some_iff] at h
    rcases h with h | ⟨hneg, h | ⟨_, h⟩⟩
    · obtain ⟨r, hr, hu⟩ := Option.bind_eq_some_iff.mp h
      obtain ⟨clause, hread, rfl⟩ := of_map_eq_some hu
      have hlt := negation_length hr
      obtain ⟨hP, hlen⟩ := ih r clause rest (by omega) hread
      exact ⟨hP, by omega⟩
    · exact group_yields ih cs c rest hn h
    · obtain ⟨t, ht, rfl⟩ := of_map_eq_some h
      refine term_normal ht ?_
      rintro c tail rfl hc
      -- a sign at the front was tried as a negation first, and nothing could be read behind it
      have hsigned : negation (c :: tail) = some tail := by rcases hc with rfl | rfl <;> rfl
      have hnone : unary depth tail = none := by
        rw [hsigned] at hneg
        simpa using hneg
      refine term_eq_none_of_unary ?_ hnone
      simp only [List.length_cons] at hn
      omega

theorem normal_of_parseTrimmed {c : Clause} (h : parseTrimmed cs = .ok c) : c.Normal := by
  unfold parseTrimmed at h
  split at h
  · simp only [Except.ok.injEq] at h
    subst h
    trivial
  · split at h
    · cases h
    · next clause r hd =>
      simp only at h
      split at h
      · simp only [Except.ok.injEq] at h
        subst h
        exact (disjunction_yields (unary_yields _) _ _ _ (Nat.le_refl _) hd).1
      · cases h

/-- **Whatever is read is normal.** -/
theorem normal_of_parse {text : String} {c : Clause} (h : parse text = .ok c) : c.Normal :=
  normal_of_parseTrimmed h

end Query

end LogSearch
