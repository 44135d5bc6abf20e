import LogSearch.Text.Quoted

/-!
# The query language

A query is a text such as `level:ERROR AND (message:time* OR NOT user:"no one")`. A `Clause` is what
it means; `LogSearch.Query.Grammar` reads one from a text, and `LogSearch.Store.Match` says which
documents it selects.
-/

namespace LogSearch

/-- A condition without parts. -/
inductive Term where
  /-- Every document. -/
  | all
  /-- The field has a value. -/
  | present (field : String)
  /-- A value of the field matches. -/
  | field (name value : String)
  /-- A value of any field matches. -/
  | bare (value : String)
  deriving DecidableEq, Repr

/-- A query. -/
inductive Clause where
  | or (clauses : List Clause)
  | and (clauses : List Clause)
  | not (clause : Clause)
  | term (term : Term)
  deriving Repr

/-- Why a text is no query. Both know the text without the blanks around it. -/
inductive QueryError where
  /-- Something is left after a query. -/
  | leftover (rest query : String)
  /-- No query stands at the start; `operator` tells whether an operator does instead. -/
  | unreadable (query : String) (operator : Bool)
  deriving DecidableEq, Repr

/-- The text of the error. -/
def QueryError.message : QueryError → String
  | .leftover rest query => "unexpected input '" ++ rest ++ "' in query string '" ++ query ++ "'"
  | .unreadable query operator =>
    "invalid query string '" ++ query ++ "': Error(Error \x7b input: " ++ quoted query
      ++ ", code: " ++ (if operator then "Verify" else "TakeWhile1") ++ " \x7d)"

end LogSearch
