import LogSearch.Json.Printer
import LogSearch.Store.Document
import LogSearch.Text.Lowercase

/-!
# Grouping by value

Documents are grouped by the values of a field. Two values belong to one group when they have the
same *identity*, a text: a text is its own identity, a number that of its digits, a truth value its
name; objects and lists have none. A document counts once in each of its groups. Groups stand in
the order in which their first document comes.

A group with its results is a `TermBucket`. Buckets are ordered by a list of `TermsOrder`s, and
those that are equal in all of them by their keys: numbers by size, and by identity where one of the
two is no number. A bucket without a value for a metric comes after those that have one.

Keys of different kinds need not have one order: 2 is before 10, 10 before the text `1x`, and that
before 2. What becomes of such buckets is left to the sort that is used, a `Sorter`.
-/

namespace LogSearch

/-! ## Groups -/

/-- The identity and the key of a value. -/
def termKey? : Json → Option (String × Json)
  | .str text => some (text, .str text)
  | .num n =>
    match n.toInt64? with
    | some i => some (toString i, .int i)
    | none => some (DecimalLayout.plain.render n.toBinary64, .float n.toBinary64)
  | .bool flag => let name := if flag then "true" else "false"; some (name, .str name)
  | _ => none

/-- Documents that share the identity of a value; the key is that of the first value. -/
structure TermGroup where
  identity : String
  key : Json
  members : List Document

/-- Identities and keys without those whose identity came before. -/
def distinctTerms (seen : List String) : List (String × Json) → List (String × Json)
  | [] => []
  | (identity, key) :: rest =>
    if seen.contains identity then distinctTerms seen rest
    else (identity, key) :: distinctTerms (identity :: seen) rest

/-- The identities of a document's values, each once, with their keys. -/
def Document.terms (document : Document) (field : String) : List (String × Json) :=
  distinctTerms [] ((document.values field).filterMap termKey?)

namespace TermGroup

/-- Puts a document into the group of an identity, which may be new. -/
def put (document : Document) (identity : String) (key : Json) : List TermGroup → List TermGroup
  | [] => [⟨identity, key, [document]⟩]
  | group :: rest =>
    if group.identity = identity then
      { group with members := group.members ++ [document] } :: rest
    else group :: put document identity key rest

/-- Puts a document into the groups of all its values. -/
def putAll (field : String) (groups : List TermGroup) (document : Document) : List TermGroup :=
  (document.terms field).foldl (fun groups (identity, key) => put document identity key groups)
    groups

/-- The groups of documents by the values of a field. -/
def ofDocuments (field : String) (documents : List Document) : List TermGroup :=
  documents.foldl (putAll field) []

end TermGroup

/-! ## Orders -/

/-- What buckets are compared by. -/
inductive OrderTarget where
  | count
  | key
  /-- A number in the result of an inner aggregation. -/
  | metric (aggregation name : String)
  deriving DecidableEq, Repr

/-- One criterion of an order. -/
structure TermsOrder where
  target : OrderTarget
  ascending : Bool
  deriving DecidableEq, Repr

namespace OrderTarget

/-- The characters before the first point, and those after it if there is one. -/
def splitPoint (cs : List Char) : List Char × Option (List Char) :=
  match cs.dropWhile (· != '.') with
  | _ :: rest => (cs.takeWhile (· != '.'), some rest)
  | [] => (cs, none)

/-- The target that a path names; a metric without a name is the value itself. -/
def ofPath (path : String) : OrderTarget :=
  if path = "_count" then .count
  else if path = "_key" || path = "_term" then .key
  else
    match splitPoint path.toList with
    | (aggregation, some name) => .metric (String.ofList aggregation) (String.ofList name)
    | (aggregation, none) => .metric (String.ofList aggregation) "value"

end OrderTarget

namespace TermsOrder

/-- The most frequent first. -/
def default : List TermsOrder := [⟨.count, false⟩]

/-- A criterion from an entry of an order. -/
def ofEntry (path : String) (direction : Json) : Except String TermsOrder :=
  let isWord (word : String) : Bool := match direction with
    | .str text => sameLetters text.toList word.toList
    | _ => false
  if isWord "asc" then .ok ⟨.ofPath path, true⟩
  else if isWord "desc" then .ok ⟨.ofPath path, false⟩
  else .error ("invalid order direction " ++ direction.render)

/-- The criteria of an order: entries of an object, or of the objects of a list. -/
def ofJson : Json → Except String (List TermsOrder)
  | .obj fields => fields.mapM fun (path, direction) => ofEntry path direction
  | .arr items =>
    (items.flatMap fun item => item.fields?.getD []).mapM fun (path, direction) =>
      ofEntry path direction
  | other => .error ("invalid terms order " ++ other.render)

/-- The criteria of an order that may be missing. -/
def ofJson? : Option Json → Except String (List TermsOrder)
  | none => .ok default
  | some json => ofJson json

end TermsOrder

/-! ## Buckets -/

/-- A group with its results. -/
structure TermBucket where
  identity : String
  key : Json
  count : Nat
  body : List (String × Json)

namespace TermBucket

/-- By key: numbers by size, anything else by identity. -/
def compareKeys (a b : TermBucket) : Ordering :=
  match a.key.toBinary64?, b.key.toBinary64? with
  | some x, some y => (x.compare? y).getD .eq
  | _, _ => compare a.identity b.identity

/-- The number that a metric of an inner aggregation has. -/
def metric? (aggregation name : String) (bucket : TermBucket) : Option Binary64 :=
  ((Keyed.get? aggregation bucket.body).bind fun result => result.get? name).bind
    Json.toBinary64?

/-- By one criterion. -/
def compareBy (order : TermsOrder) (a b : TermBucket) : Ordering :=
  let directed (o : Ordering) : Ordering := if order.ascending then o else o.swap
  match order.target with
  | .count => directed (compare a.count b.count)
  | .key => directed (compareKeys a b)
  | .metric aggregation name =>
    match a.metric? aggregation name, b.metric? aggregation name with
    | some x, some y => directed ((x.compare? y).getD .eq)
    | some _, none => .lt
    | none, some _ => .gt
    | none, none => .eq

/-- By all criteria in turn, and by key in the end. -/
def cmp (orders : List TermsOrder) (a b : TermBucket) : Ordering :=
  match orders with
  | [] => compareKeys a b
  | order :: rest => (compareBy order a b).then (cmp rest a b)

/-- Puts a bucket among others, which stand in reverse order: it goes behind the last one that it
does not come before. -/
def insert (orders : List TermsOrder) (bucket : TermBucket) : List TermBucket → List TermBucket
  | [] => [bucket]
  | last :: others =>
    if cmp orders bucket last = .lt then last :: insert orders bucket others
    else bucket :: last :: others

/-- Buckets in order, put in one by one; those that compare equal stay as they stood. -/
def sort (orders : List TermsOrder) (buckets : List TermBucket) : List TermBucket :=
  (buckets.foldl (fun placed bucket => insert orders bucket placed) []).reverse

/-- A bucket is put in once. -/
theorem insert_perm (orders : List TermsOrder) (bucket : TermBucket) (placed : List TermBucket) :
    (insert orders bucket placed).Perm (bucket :: placed) := by
  induction placed with
  | nil => exact .refl _
  | cons last others ih =>
    unfold insert
    split
    · exact (ih.cons last).trans (.swap ..)
    · exact .refl _

/-- Putting buckets in one by one loses none. -/
theorem foldl_insert_perm (orders : List TermsOrder) (buckets placed : List TermBucket) :
    (buckets.foldl (fun placed bucket => insert orders bucket placed) placed).Perm
      (placed ++ buckets) := by
  induction buckets generalizing placed with
  | nil => simp
  | cons bucket rest ih =>
    exact (ih _).trans <| ((insert_perm orders bucket placed).append_right rest).trans
      List.perm_middle.symm

/-- Sorting loses no bucket. -/
theorem sort_perm (orders : List TermsOrder) (buckets : List TermBucket) :
    (sort orders buckets).Perm buckets := by
  unfold sort
  exact (List.reverse_perm _).trans (by simpa using foldl_insert_perm orders buckets [])

/-- A comparison is transitive among some buckets. -/
def TransOn (buckets : List TermBucket) (f : TermBucket → TermBucket → Ordering) : Prop :=
  ∀ a ∈ buckets, ∀ b ∈ buckets, ∀ c ∈ buckets, (f a b).isLE → (f b c).isLE → (f a c).isLE

/-- Whether a comparison is transitive among some buckets. -/
def isTransOn (buckets : List TermBucket) (f : TermBucket → TermBucket → Ordering) : Bool :=
  buckets.all fun a => buckets.all fun b => !(f a b).isLE
    || buckets.all fun c => !(f b c).isLE || (f a c).isLE

theorem isTransOn_iff {buckets : List TermBucket} {f : TermBucket → TermBucket → Ordering} :
    isTransOn buckets f = true ↔ TransOn buckets f := by
  simp only [isTransOn, TransOn, List.all_eq_true, Bool.or_eq_true, Bool.not_eq_true']
  constructor
  · intro h a ha b hb c hc hab hbc
    rcases h a ha b hb with hnot | h
    · rw [hab] at hnot
      cases hnot
    · rcases h c hc with hnot | hac
      · rw [hbc] at hnot
        cases hnot
      · exact hac
  · intro h a ha b hb
    cases hab : (f a b).isLE with
    | false => exact .inl rfl
    | true =>
      refine .inr fun c hc => ?_
      cases hbc : (f b c).isLE with
      | false => exact .inl rfl
      | true => exact .inr (h a ha b hb c hc hab hbc)

end TermBucket

/-! ## Sorting -/

/-- A stable sort of buckets, with what is promised of it. Where the comparison by an order is
transitive it sorts. Where it is not nothing is promised but that no bucket is lost: they may come
in any order, or there may be no end to it. -/
structure Sorter where
  /-- The buckets sorted by an order, if this comes to an end. -/
  sort? : List TermsOrder → List TermBucket → Option (List TermBucket)
  perm : ∀ {orders buckets sorted}, sort? orders buckets = some sorted → sorted.Perm buckets
  sorts : ∀ {orders buckets}, TermBucket.TransOn buckets (TermBucket.cmp orders) →
    sort? orders buckets = some (TermBucket.sort orders buckets)

namespace Sorter

/-- Puts in one by one whatever can be sorted, and no more than `limit` buckets that cannot. -/
def insertion (limit : Nat) : Sorter where
  sort? orders buckets :=
    if buckets.length ≤ limit || TermBucket.isTransOn buckets (TermBucket.cmp orders) then
      some (TermBucket.sort orders buckets)
    else none
  perm h := by
    obtain ⟨-, h⟩ := Option.ite_none_right_eq_some.mp h
    rw [← Option.some.inj h]
    exact TermBucket.sort_perm _ _
  sorts h := if_pos (by rw [TermBucket.isTransOn_iff.mpr h, Bool.or_true])

end Sorter

end LogSearch
