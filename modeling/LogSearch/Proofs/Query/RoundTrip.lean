import Mathlib
import LogSearch.Proofs.Query.Written

/-!
# Queries read back

Main statement: the normal queries are those that texts are read as, and every written form of one
is read as it (`parse_normal_and_written`).

The proof goes by the depth of the reader. `Reads reader n place follows` says that, on texts up to
a length, a reader takes exactly a written form of a clause at a place, if what comes behind it
satisfies a condition. From this for operands (`unary depth`) it follows for disjuncts
(`conjunction`), from that for whole clauses (`disjunction`), and, as brackets take two characters,
for the operands of the next depth (`unary_reads`).
-/

namespace LogSearch.Query

variable {cs rest : List Char} {n depth : Nat}

/-! ## What may follow -/

/-- Behind an operand: nothing, a blank, or the end of the brackets. -/
def Closed (rest : List Char) : Prop := ∀ c ∈ rest.head?, c = ' ' ∨ c = ')'

/-- Behind a disjunct: what may follow an operand, but no further conjunct. -/
def Between (rest : List Char) : Prop := Closed rest ∧ andJoint rest = none

/-- Behind a whole clause: nothing, or the end of the brackets. -/
def Ended (rest : List Char) : Prop := ∀ c ∈ rest.head?, c = ')'

theorem Closed.not_wordChar (h : Closed rest) : ∀ c ∈ rest.head?, isWordChar c = false := by
  intro c hc
  rcases h c hc with rfl | rfl <;> decide

theorem Ended.gap_eq_none (h : Ended rest) : gap rest = none := by
  cases rest with
  | nil => rfl
  | cons c rest => rw [h c rfl]; exact Query.gap_eq_none (by decide)

theorem Ended.between (h : Ended rest) : Between rest :=
  ⟨fun c hc => Or.inr (h c hc), by simp [andJoint, joint, h.gap_eq_none]⟩

theorem Ended.orJoint_eq_none (h : Ended rest) : orJoint rest = none := by
  simp [orJoint, joint, h.gap_eq_none]

theorem ended_bracket (rest : List Char) : Ended (')' :: rest) := by
  intro c hc
  simpa using hc.symm

/-! ## Joints -/

theorem gap_blank (h : Starts cs) : gap (' ' :: cs) = some cs := by
  simp [gap, isGap, skipGaps_eq_self h.gapless]

/-- A single blank is no joint with a name, where a clause starts behind it. -/
theorem joint_blank {name sign : String} (h : Starts cs) (hname : name ∈ connectives)
    (hsign : sign ∈ connectives) : joint name sign (' ' :: cs) = none := by
  have hn := h.connective name hname
  rw [joint, gap_blank h]
  simp only
  split
  · next after ha => rw [ha] at hn; simpa using hn
  · exact h.connective sign hsign

theorem joint_named {name sign : String} (h : Starts cs)
    (hname : ∀ c ∈ name.toList.head?, isGap c = false) (hne : name.toList ≠ []) :
    joint name sign (' ' :: (name.toList ++ ' ' :: cs)) = some cs := by
  have hskip : skipGaps (name.toList ++ ' ' :: cs) = name.toList ++ ' ' :: cs := by
    refine skipGaps_eq_self fun c hc => hname c ?_
    obtain ⟨d, tail, hd⟩ := List.exists_cons_of_ne_nil hne
    rw [hd] at hc ⊢
    exact hc
  have hstrip : stripFront? name.toList (name.toList ++ ' ' :: cs) = some (' ' :: cs) :=
    stripFront?_eq_some.mpr rfl
  simp [joint, gap, isGap, hskip, hstrip, skipGaps_eq_self h.gapless]

/-- A conjunct is found behind its joint. -/
theorem andJoint_and (h : Starts cs) : andJoint (" AND ".toList ++ cs) = some cs :=
  joint_named h (by simp [isGap]) (by decide)

theorem closed_and (cs : List Char) : Closed (" AND ".toList ++ cs) := by
  intro c hc
  exact Or.inl (by simpa using hc.symm)

/-- A disjunct is found behind either joint. -/
theorem orJoint_or (h : Starts cs) : ∀ j ∈ [" OR ", " "], orJoint (j.toList ++ cs) = some cs := by
  intro j hj
  simp only [List.mem_cons, List.not_mem_nil, or_false] at hj
  rcases hj with rfl | rfl
  · have hjoint : joint "OR" "||" (" OR ".toList ++ cs) = some cs :=
      joint_named h (by simp [isGap]) (by decide)
    rw [orJoint, hjoint]
  · show orJoint (' ' :: cs) = some cs
    rw [orJoint, joint_blank h (by decide) (by decide), gap_blank h]

/-- Neither joint of disjuncts is one of conjuncts. -/
theorem between_or (h : Starts cs) : ∀ j ∈ [" OR ", " "], Between (j.toList ++ cs) := by
  intro j hj
  simp only [List.mem_cons, List.not_mem_nil, or_false] at hj
  rcases hj with rfl | rfl
  · exact ⟨fun c hc => Or.inl (by simpa using hc.symm), rfl⟩
  · exact ⟨fun c hc => Or.inl (by simpa using hc.symm), joint_blank h (by decide) (by decide)⟩

/-! ## Terms -/

theorem phrase_inQuotes {text : String} (h : Quotable text) :
    phrase (inQuotes text ++ rest) = some (text, rest) := by
  rw [inQuotes, List.cons_append, List.append_assoc]
  exact phrase_append h

/-- A name before a colon and a text in quotes are read as such. -/
theorem fieldValue_inQuotes {name text : String} (hne : name.toList ≠ [])
    (hchars : ∀ c ∈ name.toList, isWordChar c = true) (hop : name ∉ operators)
    (htext : Quotable text) :
    fieldValue (name.toList ++ ':' :: (inQuotes text ++ rest)) = some ((name, text), rest) := by
  have hword : word (name.toList ++ ':' :: (inQuotes text ++ rest))
      = some (name, ':' :: (inQuotes text ++ rest)) :=
    word_append hne hchars hop (by simp [isWordChar])
  rw [fieldValue, hword]
  simp [phrase_inQuotes htext]

theorem fieldValue_eq_none {w : String} (hw : word cs = some (w, rest))
    (hrest : ':' ∉ rest.head?) : fieldValue cs = none := by
  unfold fieldValue
  split
  · next name after heq =>
    rw [hw] at heq
    obtain ⟨_, rfl⟩ := Prod.mk.inj (Option.some.inj heq)
    exact absurd rfl hrest
  · rfl

theorem fieldValue_eq_none_of_word (hw : word cs = none) : fieldValue cs = none := by
  rw [fieldValue, hw]

theorem term_eq_none (hw : word cs = none) (hp : phrase cs = none) : term cs = none := by
  simp [term, fieldValue_eq_none_of_word hw, hw, hp]

theorem term_text {t : Term} (h : t.Normal) (hrest : Closed rest) :
    term (t.text ++ rest) = some (t, rest) := by
  cases t with
  | all =>
    have hword : word ('*' :: rest) = some ("*", rest) := by
      have hstar : "*".toList = ['*'] := by decide
      have := @word_append rest "*" (by decide) (List.all_eq_true.mp (by decide)) (by decide)
        hrest.not_wordChar
      rwa [hstar] at this
    have hcolon : ':' ∉ rest.head? := by
      intro hc
      have := hrest ':' hc
      simp at this
    show term ('*' :: rest) = _
    simp [term, fieldValue_eq_none hword hcolon, phrase_eq_none, hword]
  | present name =>
    have hfield : fieldValue (existsName ++ ':' :: (inQuotes name ++ rest))
        = some (("_exists_", name), rest) := by
      rw [show existsName = "_exists_".toList by decide]
      exact fieldValue_inQuotes (by decide) (List.all_eq_true.mp (by decide)) (by decide) h
    rw [Term.text, List.append_assoc, List.cons_append, term, hfield]
    rfl
  | field name text =>
    obtain ⟨hname, htext, hstar⟩ := h
    have hfield : fieldValue (name.toList ++ ':' :: (inQuotes text ++ rest))
        = some ((name, text), rest) := by
      obtain ⟨c, tail, hc⟩ := front_of_name hname
      exact fieldValue_inQuotes (by simp [hc]) (fun c hc => isWordChar_iff.mpr (hname.chars c hc))
        hname.ordinary htext
    rw [Term.text, List.append_assoc, List.cons_append, term, hfield]
    simp [fieldTerm, hname.ne_exists, hstar]
  | bare text =>
    have hfield : fieldValue (inQuotes text ++ rest) = none :=
      fieldValue_eq_none_of_word (word_eq_none (by decide))
    rw [Term.text, term, hfield]
    simp [phrase_inQuotes h]

/-! ## Signs that negate nothing -/

/-- No clause starts with a colon. -/
theorem unary_colon (depth : Nat) (cs : List Char) : unary depth (':' :: cs) = none := by
  cases depth with
  | zero => rfl
  | succ depth =>
    have hterm : term (':' :: cs) = none :=
      term_eq_none (word_eq_none (by decide)) (phrase_eq_none (by decide))
    rw [unary_succ, hterm]
    rfl

/-- No clause starts with an operator that a colon follows. -/
theorem unary_operator (depth : Nat) (cs : List Char) :
    ∀ op ∈ operators, unary depth (op.toList ++ ':' :: cs) = none := by
  intro op hop
  cases depth with
  | zero => rfl
  | succ depth =>
    have hterm : term (op.toList ++ ':' :: cs) = none := by
      refine term_eq_none ?_ ?_
      · have hwords : ∀ op ∈ operators, op.toList ≠ [] ∧ op.toList.all isWordChar = true := by decide
        exact word_operator (hwords op hop).1 (List.all_eq_true.mp (hwords op hop).2) hop (by simp [isWordChar])
      · simp only [operators, List.mem_cons, List.not_mem_nil, or_false] at hop
        rcases hop with rfl | rfl | rfl | rfl | rfl <;> exact phrase_eq_none (by decide)
    rw [unary_succ, hterm]
    simp only [operators, List.mem_cons, List.not_mem_nil, or_false] at hop
    rcases hop with rfl | rfl | rfl | rfl | rfl <;> rfl

theorem negation_of_front_ne {c : Char} (hnot : (stripFront? "NOT".toList (c :: cs)).bind gap = none)
    (hminus : c ≠ '-') (hbang : c ≠ '!') : negation (c :: cs) = none := by
  unfold negation
  rw [hnot]
  simp only
  split
  · next heq => exact absurd (List.cons.inj heq).1 hminus
  · next heq => exact absurd (List.cons.inj heq).1 hbang
  · rfl

/-- The name of a field is not read as a negation. -/
theorem negated_name {name : String} (h : FieldName name) (depth : Nat) :
    ((negation (name.toList ++ ':' :: cs)).bind fun rest =>
      (unary depth rest).map fun (clause, after) => (Clause.not clause, after)) = none := by
  have hnot := @operator_front_name cs name h "NOT" (by decide)
  obtain ⟨c, tail, hc⟩ := front_of_name h
  rw [hc, List.cons_append] at hnot ⊢
  by_cases hsign : c = '-' ∨ c = '!'
  · have hneg : negation (c :: (tail ++ ':' :: cs)) = some (tail ++ ':' :: cs) := by
      rcases hsign with rfl | rfl <;> rfl
    have hunary : unary depth (tail ++ ':' :: cs) = none := by
      rcases h.sign c tail hc hsign with rfl | hop
      · exact unary_colon depth cs
      · have := unary_operator depth cs _ hop
        rwa [String.toList_ofList] at this
    rw [hneg, Option.bind_some, hunary]
    rfl
  · obtain ⟨hminus, hbang⟩ := not_or.mp hsign
    rw [negation_of_front_ne hnot hminus hbang]
    rfl

theorem group_eq_none {reader : Reader Clause} {c : Char} (h : c ≠ '(') :
    group reader (c :: cs) = none := by
  unfold group
  split
  · next heq => exact absurd (List.cons.inj heq).1 h
  · rfl

theorem unary_term {t : Term} (h : t.Normal) (hrest : Closed rest) (depth : Nat) :
    unary (depth + 1) (t.text ++ rest) = some (.term t, rest) := by
  rw [unary_succ, term_text h hrest]
  cases t with
  | all => rfl
  | present name => rfl
  | field name text =>
    rw [Term.text, List.append_assoc, List.cons_append, negated_name h.1]
    obtain ⟨c, tail, hc⟩ := front_of_name h.1
    rw [hc, List.cons_append, group_eq_none (h.1.chars c (by rw [hc]; simp)).2.1]
    rfl
  | bare text => rfl

/-! ## Lists -/

/-- A reader takes exactly a written form, on texts up to a length. -/
def Reads (reader : Reader Clause) (n : Nat) (place : Place) (follows : List Char → Prop) : Prop :=
  ∀ c s rest, Written place c s → c.Normal → (s ++ rest).length ≤ n → follows rest →
    reader (s ++ rest) = some (c, rest)

section

variable {reader : Reader Clause} {place : Place} {follows : List Char → Prop}
  {joint : List Char → Option (List Char)} {joints : List String}

theorem more_stop {α : Type} {item : Reader α} (h : joint cs = none) (count : Nat) :
    more joint item count cs = ([], cs) := by
  cases count with
  | zero => rfl
  | succ count => rw [more, h]

/-- The items behind a joint. By induction on their list: every item takes a character, so the
length of the text is a bound on the items that are left. -/
theorem more_written (hread : Reads reader n place follows)
    (hjoint : ∀ cs, Starts cs → ∀ j ∈ joints, joint (j.toList ++ cs) = some cs)
    (hfollows : ∀ cs, Starts cs → ∀ j ∈ joints, follows (j.toList ++ cs)) {rest : List Char}
    (hrest : follows rest) (hstop : joint rest = none) (clauses : List Clause) :
    ∀ (s : List Char) (j : String) (count : Nat), j ∈ joints →
      WrittenList place joints clauses s → Clause.AllNormal clauses →
      (s ++ rest).length ≤ n → (s ++ rest).length ≤ count →
      more joint reader count (j.toList ++ (s ++ rest)) = (clauses, rest) := by
  induction clauses with
  | nil => intro s j count _ h; cases h
  | cons c clauses ih =>
    intro s j count hj h hn hlen hcount
    -- there is an item to read, so the count is not used up
    have hpos : 0 < (s ++ rest).length := by
      rw [List.length_append]
      exact Nat.add_pos_left h.ends.length_pos _
    obtain ⟨count, rfl⟩ :=
      Nat.exists_eq_succ_of_ne_zero (Nat.ne_of_gt (Nat.lt_of_lt_of_le hpos hcount))
    rw [more, hjoint _ (h.starts hn rest) j hj]
    cases h with
    | last h => simp only [hread c s rest h hn.1 hlen hrest, more_stop hstop]
    | @cons _ _ _ _ j' s t h hj' ht =>
      have hs := h.ends.length_pos
      simp only [List.append_assoc] at hlen hcount ⊢
      rw [hread c s _ h hn.1 hlen (hfollows _ (ht.starts hn.2 rest) j' hj')]
      simp only [List.length_append] at hlen hcount
      simp only
      rw [ih t j' count hj' ht hn.2 (by rw [List.length_append]; omega)
        (by rw [List.length_append]; omega)]

/-- Clauses with joints between them are read one by one. -/
theorem separated_written (hread : Reads reader n place follows)
    (hjoint : ∀ cs, Starts cs → ∀ j ∈ joints, joint (j.toList ++ cs) = some cs)
    (hfollows : ∀ cs, Starts cs → ∀ j ∈ joints, follows (j.toList ++ cs)) {rest : List Char}
    (hrest : follows rest) (hstop : joint rest = none) {clauses : List Clause} {s : List Char}
    (h : WrittenList place joints clauses s) (hn : Clause.AllNormal clauses)
    (hlen : (s ++ rest).length ≤ n) :
    separated joint reader (s ++ rest) = some (clauses, rest) := by
  cases h with
  | last h => simp [separated, hread _ s rest h hn.1 hlen hrest, more_stop hstop]
  | @cons _ _ c clauses j s t h hj ht =>
    simp only [List.append_assoc] at hlen ⊢
    rw [separated, hread c s _ h hn.1 hlen (hfollows _ (ht.starts hn.2 rest) j hj)]
    simp only [List.length_append] at hlen
    simp only
    rw [more_written hread hjoint hfollows hrest hstop clauses t j _ hj ht hn.2
      (by rw [List.length_append]; omega) (by simp only [List.length_append]; omega)]

end

/-! ## Clauses -/

/-- Several clauses are joined. -/
theorem collapse_of_two_le {join : List Clause → Clause} {clauses : List Clause}
    (h : 2 ≤ clauses.length) : collapse join clauses = join clauses := by
  match clauses, h with
  | _ :: _ :: _, _ => rfl

/-- What is no list of conjuncts is written alike as a disjunct and as an operand. -/
theorem Written.operand_of_disjunct {c : Clause} {s : List Char} (h : Written .disjunct c s)
    (hand : ∀ clauses, c ≠ .and clauses) : Written .operand c s := by
  cases h with
  | term t => exact .term t
  | not h => exact .not h
  | and hp h => exact absurd rfl (hand _)
  | orInBrackets hp h => exact .orInBrackets (by decide) h

/-- What is no list of disjuncts is written alike by itself and as a disjunct. -/
theorem Written.disjunct_of_whole {c : Clause} {s : List Char} (h : Written .whole c s)
    (hor : ∀ clauses, c ≠ .or clauses) : Written .disjunct c s := by
  cases h with
  | term t => exact .term t
  | not h => exact .not h
  | and hp h => exact .and (by decide) h
  | or h => exact absurd rfl (hor _)
  | orInBrackets hp h => exact absurd rfl hp

variable {reader : Reader Clause}

theorem conjunction_reads (h : Reads reader n .operand Closed) :
    Reads (conjunction reader) n .disjunct Between := by
  intro c s rest hw hn hlen ⟨hclosed, hstop⟩
  have hlist : ∀ {clauses : List Clause}, WrittenList .operand [" AND "] clauses s →
      Clause.AllNormal clauses → separated andJoint reader (s ++ rest) = some (clauses, rest) := by
    intro clauses hl hall
    refine separated_written h ?_ ?_ hclosed hstop hl hall hlen
    · intro cs hcs j hj
      rw [List.mem_singleton.mp hj]
      exact andJoint_and hcs
    · intro cs _ j hj
      rw [List.mem_singleton.mp hj]
      exact closed_and cs
  by_cases hand : ∃ clauses, c = .and clauses
  · obtain ⟨clauses, rfl⟩ := hand
    cases hw with
    | and _ hl =>
      rw [conjunction, hlist hl hn.2, Option.map_some]
      simp only [collapse_of_two_le hn.1]
  · have hop := hw.operand_of_disjunct fun clauses he => hand ⟨clauses, he⟩
    rw [conjunction, hlist (.last hop) ⟨hn, trivial⟩]
    rfl

theorem disjunction_reads (h : Reads reader n .operand Closed) :
    Reads (disjunction reader) n .whole Ended := by
  intro c s rest hw hn hlen hended
  have hlist : ∀ {clauses : List Clause}, WrittenList .disjunct [" OR ", " "] clauses s →
      Clause.AllNormal clauses →
      separated orJoint (conjunction reader) (s ++ rest) = some (clauses, rest) := by
    intro clauses hl hall
    exact separated_written (conjunction_reads h) (fun cs hcs => orJoint_or hcs)
      (fun cs hcs => between_or hcs) hended.between hended.orJoint_eq_none hl hall hlen
  by_cases hor : ∃ clauses, c = .or clauses
  · obtain ⟨clauses, rfl⟩ := hor
    cases hw with
    | or hl =>
      rw [disjunction, hlist hl hn.2, Option.map_some]
      simp only [collapse_of_two_le hn.1]
    | orInBrackets hp _ => exact absurd rfl hp
  · have hdis := hw.disjunct_of_whole fun clauses he => hor ⟨clauses, he⟩
    rw [disjunction, hlist (.last hdis) ⟨hn, trivial⟩]
    rfl

/-- Brackets are read as what stands in them. -/
theorem group_inBrackets (h : Reads reader n .operand Closed) {c : Clause} {s rest : List Char}
    (hw : Written .whole c s) (hn : c.Normal) (hlen : (inBrackets s ++ rest).length ≤ n + 1) :
    group reader (inBrackets s ++ rest) = some (c, rest) := by
  rw [inBrackets, List.cons_append, List.append_assoc] at hlen ⊢
  rw [List.length_cons] at hlen
  have hread := disjunction_reads h c s (')' :: rest) hw hn (by simpa using hlen)
    (ended_bracket rest)
  have hskip := skipGaps_eq_self (hw.starts hn (')' :: rest)).gapless
  show group reader ('(' :: (s ++ ')' :: rest)) = _
  rw [group, hskip, hread]
  rfl

/-- A bracket starts no negation. -/
theorem negation_inBrackets (s rest : List Char) : negation (inBrackets s ++ rest) = none := rfl

/-- A clause behind `NOT` and a blank is negated. -/
theorem negation_not (h : Starts cs) : negation ("NOT ".toList ++ cs) = some cs := by
  have hstrip : stripFront? "NOT".toList ("NOT ".toList ++ cs) = some (' ' :: cs) := rfl
  unfold negation
  rw [hstrip, Option.bind_some, gap_blank h]

/-- **An operand is read as it was written.** By induction on the depth: what stands behind a
negation or in brackets is read by the reader one level deeper, and is shorter. -/
theorem unary_reads (depth : Nat) : Reads (unary depth) depth .operand Closed := by
  induction depth with
  | zero =>
    intro c s rest hw _ hlen _
    have := hw.ends.length_pos
    rw [List.length_append] at hlen
    omega
  | succ depth ih =>
    intro c s rest hw hn hlen hclosed
    cases hw with
    | term t => exact unary_term hn hclosed depth
    | @not _ c s h =>
      rw [List.append_assoc] at hlen ⊢
      have hn : c.Normal := hn
      have hfour : "NOT ".toList.length = 4 := rfl
      rw [List.length_append, hfour] at hlen
      have hread := ih c s rest h hn (by omega) hclosed
      rw [unary_succ, negation_not (h.starts hn rest), Option.bind_some, hread]
      rfl
    -- conjuncts that are an operand stand in brackets
    | and hp _ => exact absurd rfl hp
    | andInBrackets h =>
      rw [unary_succ, negation_inBrackets, group_inBrackets ih (.and (by decide) h) hn hlen]
      rfl
    | orInBrackets _ h =>
      rw [unary_succ, negation_inBrackets, group_inBrackets ih (.or h) hn hlen]
      rfl

/-! ## Texts -/

theorem Written.trim_eq {c : Clause} {s : List Char} (hw : Written .whole c s) (hn : c.Normal) :
    trim s = s := by
  refine trim_eq_self ?_ ?_
  · obtain ⟨d, tail, hs, hd⟩ := (hw.starts hn []).front
    rw [List.append_nil] at hs
    rw [hs]
    intro c hc
    obtain rfl : d = c := by simpa using hc
    exact hd
  · obtain ⟨d, hlast, hd⟩ := hw.ends
    rw [Option.mem_def.mp hlast]
    intro c hc
    obtain rfl : d = c := by simpa using hc
    exact hd

/-- **A written form is read as what it was written for.** -/
theorem parse_written {c : Clause} {text : String} (hn : c.Normal)
    (hw : Written .whole c text.toList) : parse text = .ok c := by
  have hread := disjunction_reads (unary_reads text.toList.length) c text.toList [] hw hn
    (by simp) (by simp [Ended])
  rw [List.append_nil] at hread
  rw [parse, hw.trim_eq hn]
  obtain ⟨d, tail, hs⟩ := List.exists_cons_of_length_pos hw.ends.length_pos
  rw [hs] at hread ⊢
  simp only [parseTrimmed, hread]
  rfl

/-- **The normal queries are what texts are read as, and each written form of a normal query is
read as that query.** -/
theorem parse_normal_and_written :
    (∀ (text : String) (c : Clause), parse text = .ok c → c.Normal)
      ∧ ∀ (c : Clause) (text : String), c.Normal → Written .whole c text.toList →
        parse text = .ok c :=
  ⟨fun _ _ h => normal_of_parse h, fun _ _ hn hw => parse_written hn hw⟩

/-- Conjuncts in brackets, a name that starts with a sign, and both joints of disjuncts. -/
theorem parse_nested_written :
    parse "NOT (a:\"1\" AND -NOT:\"x\") OR _exists_:\"b\" *" = .ok (.or
      [.not (.and [.term (.field "a" "1"), .term (.field "-NOT" "x")]), .term (.present "b"),
        .term .all])
    ∧ Clause.Normal (.not (.term (.bare "a"))) := by
  have hwritten : Written .whole
      (.or [.not (.and [.term (.field "a" "1"), .term (.field "-NOT" "x")]), .term (.present "b"),
        .term .all])
      ("NOT ".toList ++ inBrackets ((Term.field "a" "1").text
        ++ (" AND ".toList ++ (Term.field "-NOT" "x").text))
        ++ (" OR ".toList ++ ((Term.present "b").text ++ (" ".toList ++ Term.all.text)))) :=
    .or (.cons (.not (.andInBrackets (.cons (.term _) (by simp) (.last (.term _))))) (by simp)
      (.cons (.term _) (by simp) (.last (.term _))))
  have htext : "NOT (a:\"1\" AND -NOT:\"x\") OR _exists_:\"b\" *".toList
      = "NOT ".toList ++ inBrackets ((Term.field "a" "1").text
        ++ (" AND ".toList ++ (Term.field "-NOT" "x").text))
        ++ (" OR ".toList ++ ((Term.present "b").text ++ (" ".toList ++ Term.all.text))) := by
    simp [Term.text, inBrackets, inQuotes, existsName]
  have hname : ∀ name ∈ ["a", "-NOT"], FieldName name := by
    intro name h
    simp only [List.mem_cons, List.not_mem_nil, or_false] at h
    rcases h with rfl | rfl
    · exact ⟨by decide, by simp [isBlank], by decide, by decide, by simp⟩
    · refine ⟨by decide, by simp [isBlank], by decide, by decide, ?_⟩
      intro c tail h _
      obtain ⟨_, rfl⟩ := List.cons.inj (show '-' :: ['N', 'O', 'T'] = c :: tail from h)
      exact Or.inr (by decide)
  refine ⟨parse_normal_and_written.2 _ "NOT (a:\"1\" AND -NOT:\"x\") OR _exists_:\"b\" *" ?_ ?_,
    parse_normal_and_written.1 "-a" _ ?_⟩
  · simp [Clause.Normal, Clause.AllNormal, Term.Normal, Quotable, hname]
  · rw [htext]; exact hwritten
  · cbv

end LogSearch.Query
