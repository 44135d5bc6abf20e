import LogSearch.Query.Clause
import LogSearch.Text.Blank

/-!
# The grammar of queries

```text
or    ::= and ((gap ("OR" | "||") gap | gap) and)*
and   ::= unary (gap ("AND" | "&&") gap unary)*
unary ::= ("NOT" gap | "-" | "!") unary | "(" or ")" | term
term  ::= word ":" (phrase | value) | phrase | word
```

The alternatives of a line are tried in order and the first that fits is taken. A `word` stops at a
blank, a bracket, a quote or a colon and is no operator; a `value` may hold colons and be one. A
list ends before a separator that nothing fits behind.

## Termination

Every negation and every bracket takes a character, so a text is nested at most as deep as it is
long, and a list in it has at most as many items. `unary` and `more` count down from there.
-/

namespace LogSearch.Query

/-- Reads something at the front of a text. -/
abbrev Reader (α : Type) := List Char → Option (α × List Char)

/-! ## Words -/

/-- Characters of a value. -/
def isValueChar (c : Char) : Bool := !(isBlank c || c == '(' || c == ')' || c == '"')

/-- Characters of a word. -/
def isWordChar (c : Char) : Bool := isValueChar c && c != ':'

/-- The words that join clauses. -/
def operators : List String := ["AND", "OR", "NOT", "&&", "||"]

/-- The characters at the front that satisfy a condition, at least one. -/
def run (p : Char → Bool) : Reader String := fun cs =>
  let taken := cs.takeWhile p
  if taken.isEmpty then none else some (String.ofList taken, cs.dropWhile p)

/-- A word. -/
def word : Reader String := fun cs =>
  match run isWordChar cs with
  | some (w, rest) => if operators.contains w then none else some (w, rest)
  | none => none

/-- The value of a field. -/
def value : Reader String := run isValueChar

/-- A text in quotes. -/
def phrase : Reader String
  | '"' :: rest =>
    match rest.dropWhile (· != '"') with
    | _ :: after => some (String.ofList (rest.takeWhile (· != '"')), after)
    | [] => none
  | _ => none

/-- A field name, a colon, and a phrase or value. -/
def fieldValue : Reader (String × String) := fun cs =>
  match word cs with
  | some (name, ':' :: rest) =>
    match phrase rest with
    | some (text, after) => some ((name, text), after)
    | none => (value rest).map fun (text, after) => ((name, text), after)
  | _ => none

/-- The condition on a field: a star, or the name `_exists_`, asks only for a value. -/
def fieldTerm (name text : String) : Term :=
  if name = "_exists_" then .present text
  else if text = "*" then .present name
  else .field name text

/-- A condition without parts. -/
def term : Reader Term := fun cs =>
  match fieldValue cs with
  | some ((name, text), rest) => some (fieldTerm name text, rest)
  | none =>
    match phrase cs with
    | some (text, rest) => some (.bare text, rest)
    | none => (word cs).map fun (text, rest) => (if text = "*" then .all else .bare text, rest)

/-! ## Separators -/

/-- A text without the gaps at its front. -/
def skipGaps (cs : List Char) : List Char := cs.dropWhile isGap

/-- What follows at least one gap. -/
def gap : List Char → Option (List Char)
  | c :: rest => if isGap c then some (skipGaps rest) else none
  | [] => none

/-- What follows a name between gaps, or its sign. -/
def joint (name sign : String) (cs : List Char) : Option (List Char) :=
  match gap cs with
  | none => none
  | some rest =>
    match stripFront? name.toList rest with
    | some after => gap after
    | none => (stripFront? sign.toList rest).bind gap

/-- The separator of conjuncts. -/
def andJoint (cs : List Char) : Option (List Char) := joint "AND" "&&" cs

/-- The separator of disjuncts: gaps alone are one. -/
def orJoint (cs : List Char) : Option (List Char) :=
  match joint "OR" "||" cs with
  | some rest => some rest
  | none => gap cs

/-- The mark of a negation. -/
def negation (cs : List Char) : Option (List Char) :=
  match (stripFront? "NOT".toList cs).bind gap with
  | some rest => some rest
  | none =>
    match cs with
    | '-' :: rest => some rest
    | '!' :: rest => some rest
    | _ => none

/-! ## Clauses -/

/-- At most `count` items, each after a separator. -/
def more {α : Type} (joint : List Char → Option (List Char)) (item : Reader α) :
    (count : Nat) → List Char → List α × List Char
  | 0, cs => ([], cs)
  | count + 1, cs =>
    match joint cs with
    | none => ([], cs)
    | some rest =>
      match item rest with
      | none => ([], cs)
      | some (a, after) =>
        let (as, last) := more joint item count after
        (a :: as, last)

/-- Items with separators between them, at least one. -/
def separated {α : Type} (joint : List Char → Option (List Char)) (item : Reader α) :
    Reader (List α) := fun cs =>
  match item cs with
  | none => none
  | some (a, rest) =>
    let (as, last) := more joint item rest.length rest
    some (a :: as, last)

/-- One clause stands for itself, several are joined. -/
def collapse (join : List Clause → Clause) : List Clause → Clause
  | [clause] => clause
  | clauses => join clauses

/-- Conjuncts, given how one is read. -/
def conjunction (unary : Reader Clause) : Reader Clause := fun cs =>
  (separated andJoint unary cs).map fun (clauses, rest) => (collapse .and clauses, rest)

/-- Disjuncts, given how what they are made of is read. -/
def disjunction (unary : Reader Clause) : Reader Clause := fun cs =>
  (separated orJoint (conjunction unary) cs).map fun (clauses, rest) =>
    (collapse .or clauses, rest)

/-- A clause in brackets, given how what it is made of is read. -/
def group (unary : Reader Clause) : Reader Clause
  | '(' :: rest =>
    match disjunction unary (skipGaps rest) with
    | none => none
    | some (clause, after) =>
      match skipGaps after with
      | ')' :: last => some (clause, last)
      | _ => none
  | _ => none

/-- A negation, a group or a term, nested at most `depth` deep. -/
def unary : (depth : Nat) → Reader Clause
  | 0 => fun _ => none
  | depth + 1 => fun cs =>
    let negated := (negation cs).bind fun rest =>
      (unary depth rest).map fun (clause, after) => (Clause.not clause, after)
    negated <|> group (unary depth) cs <|> (term cs).map fun (t, rest) => (.term t, rest)

/-- The query that a text without blanks around it is. -/
def parseTrimmed (cs : List Char) : Except QueryError Clause :=
  match cs with
  | [] => .ok (.term .all)
  | c :: _ =>
    match disjunction (unary cs.length) cs with
    | none => .error (.unreadable (String.ofList cs) (isWordChar c))
    | some (clause, rest) =>
      let rest := trim rest
      if rest.isEmpty then .ok clause
      else .error (.leftover (String.ofList rest) (String.ofList cs))

/-- The query that a text is; a blank text selects everything. -/
def parse (text : String) : Except QueryError Clause := parseTrimmed (trim text.toList)

end LogSearch.Query
