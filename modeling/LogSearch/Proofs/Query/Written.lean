import LogSearch.Proofs.Query.Normal

/-!
# Written queries

`Written place clause text` says that a text is a written form of a query. Conjuncts stand with
`AND` between them, disjuncts with `OR` or a single blank, each joint chosen freely; `NOT` stands
before what it negates. Brackets stand around disjuncts that are part of anything and around
conjuncts that are themselves a conjunct or negated, and nowhere else: the `Place` of a clause says
which of these it is.

Main statements: a written form starts with a character that is not blank and with no operator
(`Written.starts`), and ends with a character that is not blank (`Written.ends`). The reader relies
on the first at every joint and on both at the ends of the text.
-/

namespace LogSearch

/-! ## The form -/

/-- A text in quotes. -/
def inQuotes (text : String) : List Char := '"' :: (text.toList ++ ['"'])

/-- A text in brackets. -/
def inBrackets (text : List Char) : List Char := '(' :: (text ++ [')'])

/-- The name that asks whether a field has a value. -/
def existsName : List Char := ['_', 'e', 'x', 'i', 's', 't', 's', '_']

/-- The written form of a condition. -/
def Term.text : Term → List Char
  | .all => ['*']
  | .present name => existsName ++ ':' :: inQuotes name
  | .field name text => name.toList ++ ':' :: inQuotes text
  | .bare text => inQuotes text

namespace Query

/-- Where a clause stands. -/
inductive Place where
  /-- By itself, or in brackets. -/
  | whole
  /-- Among several of which one has to hold. -/
  | disjunct
  /-- Among several that all have to hold, or behind a negation. -/
  | operand
  deriving DecidableEq

mutual

/-- A text is a written form of a clause at a place. -/
inductive Written : Place → Clause → List Char → Prop
  | term {place : Place} (t : Term) : Written place (.term t) t.text
  | not {place : Place} {c : Clause} {s : List Char} (h : Written .operand c s) :
      Written place (.not c) ("NOT ".toList ++ s)
  | and {place : Place} {cs : List Clause} {s : List Char} (hp : place ≠ .operand)
      (h : WrittenList .operand [" AND "] cs s) : Written place (.and cs) s
  | andInBrackets {cs : List Clause} {s : List Char} (h : WrittenList .operand [" AND "] cs s) :
      Written .operand (.and cs) (inBrackets s)
  | or {cs : List Clause} {s : List Char} (h : WrittenList .disjunct [" OR ", " "] cs s) :
      Written .whole (.or cs) s
  | orInBrackets {place : Place} {cs : List Clause} {s : List Char} (hp : place ≠ .whole)
      (h : WrittenList .disjunct [" OR ", " "] cs s) : Written place (.or cs) (inBrackets s)

/-- A text is a written form of several clauses with joints between them. -/
inductive WrittenList : Place → List String → List Clause → List Char → Prop
  | last {place : Place} {joints : List String} {c : Clause} {s : List Char}
      (h : Written place c s) : WrittenList place joints [c] s
  | cons {place : Place} {joints : List String} {c : Clause} {cs : List Clause} {j : String}
      {s t : List Char} (h : Written place c s) (hj : j ∈ joints)
      (ht : WrittenList place joints cs t) :
      WrittenList place joints (c :: cs) (s ++ (j.toList ++ t))

end

/-! ## Operators at the front -/

variable {cs : List Char}

/-- No operator stands at the front of a text that starts with another character. -/
theorem operator_front_ne {c : Char} (hc : c ∉ ['A', 'O', 'N', '&', '|']) :
    ∀ op ∈ operators, (stripFront? op.toList (c :: cs)).bind gap = none := by
  simp only [List.mem_cons, List.not_mem_nil, or_false, not_or] at hc
  obtain ⟨hA, hO, hN, hand, hor⟩ := hc
  intro op hop
  simp only [operators, List.mem_cons, List.not_mem_nil, or_false] at hop
  rcases hop with rfl | rfl | rfl | rfl | rfl <;>
    simp [stripFront?, Ne.symm hA, Ne.symm hO, Ne.symm hN, Ne.symm hand, Ne.symm hor]

/-- The name of a field is no operator, and where it only starts like one no gap follows. -/
theorem operator_front_name {name : String} (h : FieldName name) :
    ∀ op ∈ operators, (stripFront? op.toList (name.toList ++ ':' :: cs)).bind gap = none := by
  intro op hop
  cases hs : stripFront? op.toList (name.toList ++ ':' :: cs) with
  | none => rfl
  | some after =>
    have heq := stripFront?_eq_some.mp hs
    have hne : name ≠ op := by rintro rfl; exact h.ordinary hop
    have hcolon : ':' ∉ op.toList := by
      simp only [operators, List.mem_cons, List.not_mem_nil, or_false] at hop
      rcases hop with rfl | rfl | rfl | rfl | rfl <;> decide
    rw [Option.bind_some]
    rcases List.append_eq_append_iff.mp heq with ⟨more, hop', hafter⟩ | ⟨more, hname, hafter⟩
    · -- the name is shorter than the operator, which then holds a colon
      cases more with
      | nil => exact absurd (String.toList_inj.mp (by simpa using hop'.symm)) hne
      | cons c more =>
        obtain ⟨rfl, _⟩ := List.cons.inj hafter
        exact absurd (by rw [hop']; simp) hcolon
    · cases more with
      | nil => exact absurd (String.toList_inj.mp (by simpa using hname)) hne
      | cons c more =>
        rw [hafter, List.cons_append]
        exact gap_eq_none (h.chars c (by rw [hname]; simp)).1

/-! ## Both ends -/

/-- The operators that stand between clauses. -/
def connectives : List String := ["AND", "OR", "&&", "||"]

theorem operators_of_connectives {op : String} (h : op ∈ connectives) : op ∈ operators := by
  simp only [connectives, operators, List.mem_cons, List.not_mem_nil, or_false] at *
  rcases h with h | h | h | h <;> simp [h]

/-- What a reader finds where a clause starts: no blank, and no operator between gaps. -/
structure Starts (cs : List Char) : Prop where
  front : ∃ c tail, cs = c :: tail ∧ isBlank c = false
  connective : ∀ op ∈ connectives, (stripFront? op.toList cs).bind gap = none

/-- The last character is not blank. -/
def Ends (cs : List Char) : Prop := ∃ c ∈ cs.getLast?, isBlank c = false

theorem Starts.gapless (h : Starts cs) : ∀ c ∈ cs.head?, isGap c = false := by
  obtain ⟨d, tail, rfl, hd⟩ := h.front
  intro c hc
  obtain rfl : d = c := by simpa using hc
  cases hg : isGap d with
  | false => rfl
  | true => rw [isBlank_of_isGap hg] at hd; cases hd

theorem Starts.of_front_ne {c : Char} (hb : isBlank c = false)
    (hc : c ∉ ['A', 'O', 'N', '&', '|']) : Starts (c :: cs) :=
  ⟨⟨c, cs, rfl, hb⟩, fun op hop => operator_front_ne hc op (operators_of_connectives hop)⟩

theorem front_of_name {name : String} (h : FieldName name) :
    ∃ c tail, name.toList = c :: tail := by
  refine List.exists_cons_of_ne_nil fun he => h.nonempty ?_
  rw [← String.toList_inj, he]
  rfl

theorem Starts.of_name {name : String} (h : FieldName name) :
    Starts (name.toList ++ ':' :: cs) := by
  refine ⟨?_, fun op hop => operator_front_name h op (operators_of_connectives hop)⟩
  obtain ⟨c, tail, hc⟩ := front_of_name h
  exact ⟨c, tail ++ ':' :: cs, by rw [hc]; rfl, (h.chars c (by rw [hc]; simp)).1⟩

/-- Where a condition is written, nothing but it can be read. -/
theorem starts_term {t : Term} (h : t.Normal) (rest : List Char) : Starts (t.text ++ rest) := by
  cases t with
  | all => exact .of_front_ne (by decide) (by decide)
  | present name => exact .of_front_ne (by decide) (by decide)
  | field name text =>
    rw [Term.text, List.append_assoc]
    exact .of_name h.1
  | bare text => exact .of_front_ne (by decide) (by decide)

theorem starts_not (rest : List Char) : Starts ("NOT ".toList ++ rest) := by
  refine ⟨⟨'N', 'O' :: 'T' :: ' ' :: rest, rfl, by decide⟩, ?_⟩
  intro op hop
  simp only [connectives, List.mem_cons, List.not_mem_nil, or_false] at hop
  rcases hop with rfl | rfl | rfl | rfl <;> rfl

theorem starts_inBrackets (s rest : List Char) : Starts (inBrackets s ++ rest) :=
  .of_front_ne (by decide) (by decide)

mutual

/-- **A clause is written with an ordinary character first.** -/
theorem Written.starts {place : Place} {c : Clause} {s : List Char} (hn : c.Normal)
    (rest : List Char) : Written place c s → Starts (s ++ rest)
  | .term t => starts_term hn rest
  | .not _ => by rw [List.append_assoc]; exact starts_not _
  | .and _ h => h.starts hn.2 rest
  | .andInBrackets _ => starts_inBrackets _ rest
  | .or h => h.starts hn.2 rest
  | .orInBrackets _ _ => starts_inBrackets _ rest

theorem WrittenList.starts {place : Place} {joints : List String} {clauses : List Clause}
    {s : List Char} (hn : Clause.AllNormal clauses) (rest : List Char) :
    WrittenList place joints clauses s → Starts (s ++ rest)
  | .last h => h.starts hn.1 rest
  | .cons h _ _ => by rw [List.append_assoc]; exact h.starts hn.1 _

end

theorem Ends.append {s t : List Char} (h : Ends t) : Ends (s ++ t) := by
  obtain ⟨c, hc, hb⟩ := h
  refine ⟨c, ?_, hb⟩
  rw [List.getLast?_append, Option.mem_def.mp hc]
  rfl

theorem Ends.length_pos (h : Ends cs) : 0 < cs.length := by
  obtain ⟨c, hc, _⟩ := h
  exact List.length_pos_iff.mpr (List.ne_nil_of_mem (List.mem_of_getLast? hc))

theorem ends_inQuotes (text : String) : Ends (inQuotes text) := by
  show Ends (('"' :: text.toList) ++ ['"'])
  exact Ends.append ⟨'"', rfl, by decide⟩

theorem ends_inBrackets (s : List Char) : Ends (inBrackets s) := by
  show Ends (('(' :: s) ++ [')'])
  exact Ends.append ⟨')', rfl, by decide⟩

theorem ends_term : ∀ t : Term, Ends t.text
  | .all => ⟨'*', rfl, by decide⟩
  | .present name => by
    rw [Term.text, List.append_cons]
    exact (ends_inQuotes name).append
  | .field name text => by
    rw [Term.text, List.append_cons]
    exact (ends_inQuotes text).append
  | .bare text => ends_inQuotes text

mutual

/-- **A clause is written with no blank at the end.** -/
theorem Written.ends {place : Place} {c : Clause} {s : List Char} : Written place c s → Ends s
  | .term t => ends_term t
  | .not h => h.ends.append
  | .and _ h => h.ends
  | .andInBrackets _ => ends_inBrackets _
  | .or h => h.ends
  | .orInBrackets _ _ => ends_inBrackets _

theorem WrittenList.ends {place : Place} {joints : List String} {clauses : List Clause}
    {s : List Char} : WrittenList place joints clauses s → Ends s
  | .last h => h.ends
  | .cons _ _ h => h.ends.append.append

end

end Query

end LogSearch
