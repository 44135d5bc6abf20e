/-!
# Failures of a search backend

What can go wrong between a search and the place its documents are kept. `message` is the only
place where the wording is.
-/

namespace LogSearch

/-- Why a backend gives no answer. -/
inductive BackendError where
  /-- Nobody answers. -/
  | unavailable
  /-- The request cannot be sent. -/
  | request (detail : String)
  /-- The cluster refuses the request. -/
  | api (status : Nat) (detail : String)
  /-- The answer does not come in time. -/
  | timeout
  /-- A request or a response is not understood. -/
  | malformed (detail : String)
  /-- The computation left the calendar and cannot go on. -/
  | calendarEnd
  /-- Buckets that have no order were to be sorted, and this did not come to an end. -/
  | unsorted
  deriving DecidableEq, Repr, Inhabited

/-- The text of the error. -/
def BackendError.message : BackendError → String
  | .unavailable => "Search backend unavailable"
  | .request detail => "Request failed: " ++ detail
  | .api status detail => "API error " ++ toString status ++ ": " ++ detail
  | .timeout => "Request timeout"
  | .malformed detail => "Malformed response: " ++ detail
  | .calendarEnd => "The calendar ends"
  | .unsorted => "The buckets have no order"

end LogSearch
