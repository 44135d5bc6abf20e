/-!
# Keyed lists

A list of pairs in ascending order of their keys, each key once. `Keyed.insert` keeps this form;
`Keyed.get?` needs only that the first pair with a key counts, so it also serves lists in another
order.
-/

namespace LogSearch.Keyed

variable {κ : Type} {α : Type} [Ord κ]

/-- The value of the first pair with a key. -/
def get? (key : κ) : List (κ × α) → Option α
  | [] => none
  | (k, v) :: rest => if compare key k = .eq then some v else get? key rest

/-- Puts a pair at its place, instead of one with the same key. -/
def insert (key : κ) (value : α) : List (κ × α) → List (κ × α)
  | [] => [(key, value)]
  | (k, v) :: rest =>
    match compare key k with
    | .lt => (key, value) :: (k, v) :: rest
    | .eq => (key, value) :: rest
    | .gt => (k, v) :: insert key value rest

/-- A list without the pairs of a key. -/
def erase (key : κ) (pairs : List (κ × α)) : List (κ × α) :=
  pairs.filter fun pair => compare key pair.1 != .eq

/-- All of some pairs put into a list, one after the other. -/
def insertAll (pairs : List (κ × α)) (into : List (κ × α)) : List (κ × α) :=
  pairs.foldl (fun sorted (k, v) => insert k v sorted) into

/-- Pairs in ascending order of their keys, the last of several equal keys winning. -/
def ofList (pairs : List (κ × α)) : List (κ × α) := insertAll pairs []

/-- Puts the value under a key that a function makes of the one there, or of a default. -/
def update (key : κ) (default : α) (f : α → α) (pairs : List (κ × α)) : List (κ × α) :=
  insert key (f ((get? key pairs).getD default)) pairs

end LogSearch.Keyed
