import LogSearch.Proofs.Number.Order
import LogSearch.Store.Match

/-!
# Which numbers a range clause sees

A range clause names a field and lists bounds. A number lies on the side of a bound by the places of
both (`Side.Admits`), and it is within the bounds if it lies on the side of each (`NumericBound.Within`).

The evaluation asks the first number of the field, for one bound after the other, so a clause with
bounds on numbers says whether the first number is within them all (`holds_range_numbers`). A field
with several numbers is therefore found by one within the bounds exactly if the first is such a one
too, which a second number can break (`range_overlooks_second_number`).
-/

namespace LogSearch

/-! ## Sides -/

namespace Side

/-- On which side of a limit a place lies. -/
def Allows : Side → (limit place : WithBot (WithTop ℚ)) → Prop
  | .atLeast, limit, place => limit ≤ place
  | .above, limit, place => limit < place
  | .atMost, limit, place => place ≤ limit
  | .below, limit, place => place < limit

/-- Whether a number lies on the side of a limit. What is not a number has no place, so it lies on no
side. -/
def Admits (side : Side) (limit x : Binary64) : Prop :=
  ∃ a b, x.place? = some a ∧ limit.place? = some b ∧ side.Allows b a

theorem accepts_compare_iff (side : Side) (a b : WithBot (WithTop ℚ)) :
    side.accepts (compare a b) = true ↔ side.Allows b a := by
  cases side with
  | atLeast => exact bne_iff_ne.trans compare_ge_iff_ge
  | above => exact beq_iff_eq.trans compare_gt_iff_gt
  | atMost => exact bne_iff_ne.trans compare_le_iff_le
  | below => exact beq_iff_eq.trans compare_lt_iff_lt

/-- The comparison of two numbers tells on which side one lies. -/
theorem admits_iff {side : Side} {limit x : Binary64} :
    side.Admits limit x ↔ ∃ o, x.compare? limit = some o ∧ side.accepts o = true := by
  unfold Admits
  constructor
  · rintro ⟨a, b, hx, hlimit, hside⟩
    exact ⟨compare a b, Binary64.compare?_of_place? hx hlimit,
      (side.accepts_compare_iff a b).mpr hside⟩
  · rintro ⟨o, ho, haccepts⟩
    cases hx : x.place? with
    | none =>
      rw [Binary64.place?_eq_none_iff.mp hx, Binary64.compare?] at ho
      cases ho
    | some a =>
      cases hlimit : limit.place? with
      | none =>
        rw [Binary64.place?_eq_none_iff.mp hlimit] at ho
        cases x <;> cases ho
      | some b =>
        rw [Binary64.compare?_of_place? hx hlimit] at ho
        obtain rfl := Option.some.inj ho
        exact ⟨a, b, rfl, rfl, (side.accepts_compare_iff a b).mp haccepts⟩

/-- Among integers of up to 53 bits the side is the one by their own order. -/
theorem admits_ofInt (side : Side) {limit n : Int} (hn : n.natAbs ≤ 2 ^ 53)
    (hlimit : limit.natAbs ≤ 2 ^ 53) :
    side.Admits (.ofInt limit) (.ofInt n) ↔ side.accepts (compare n limit) = true := by
  rw [admits_iff, Binary64.compare?_ofInt hn hlimit]
  simp

end Side

/-! ## Clauses with bounds on numbers -/

/-- An entry of a range clause that bounds numbers. -/
structure NumericBound where
  operator : String
  side : Side
  limit : JsonNumber
  named : Side.ofOperator? operator = some side

namespace NumericBound

/-- The entry as it stands in a clause. -/
def entry (bound : NumericBound) : String × Json := (bound.operator, .num bound.limit)

/-- What the entry asks of a field. -/
def toBound (bound : NumericBound) : Bound := .number bound.side bound.limit.toBinary64

/-- Entries that state some bounds on numbers. Others may stand between them that state nothing: a
side without a limit, and the entries that say how a clause is read. -/
inductive Listed : List (String × Json) → List NumericBound → Prop
  | nil : Listed [] []
  | bound {entries bounds} (bound : NumericBound) (rest : Listed entries bounds) :
    Listed (bound.entry :: entries) (bound :: bounds)
  | unlimited {entries bounds operator side} (named : Side.ofOperator? operator = some side)
    (rest : Listed entries bounds) : Listed ((operator, .null) :: entries) bounds
  | ignored {entries bounds operator} (value : Json) (ignored : operator ∈ Bound.ignored)
    (rest : Listed entries bounds) : Listed ((operator, value) :: entries) bounds

/-- Whether a number lies on the side of every bound. -/
def Within (bounds : List NumericBound) (number : JsonNumber) : Prop :=
  ∀ bound ∈ bounds, bound.side.Admits bound.limit.toBinary64 number.toBinary64

theorem ofEntry?_entry (bound : NumericBound) :
    Bound.ofEntry? bound.entry.1 bound.entry.2 = some bound.toBound := by
  unfold Bound.ofEntry? entry
  simp only [bound.named]
  rfl

theorem ofEntry?_unlimited {operator : String} {side : Side}
    (h : Side.ofOperator? operator = some side) : Bound.ofEntry? operator .null = none := by
  simp only [Bound.ofEntry?, h]

theorem ofEntry?_ignored {operator : String} (h : operator ∈ Bound.ignored) (value : Json) :
    Bound.ofEntry? operator value = none := by
  have hside : Side.ofOperator? operator = none := by
    fin_cases h <;> rfl
  simp [Bound.ofEntry?, hside, h]

/-- What is read from the entries of a clause is what they state. -/
theorem Listed.filterMap_ofEntry? {entries : List (String × Json)} {bounds : List NumericBound}
    (h : Listed entries bounds) :
    entries.filterMap (fun e => Bound.ofEntry? e.1 e.2) = bounds.map toBound := by
  induction h with
  | nil => rfl
  | bound bound rest ih =>
    simp only [List.filterMap_cons, bound.ofEntry?_entry, ih, List.map_cons]
  | unlimited named rest ih =>
    simp only [List.filterMap_cons, ofEntry?_unlimited named, ih]
  | ignored value hignored rest ih =>
    simp only [List.filterMap_cons, ofEntry?_ignored hignored value, ih]

theorem Listed.of_bounds (bounds : List NumericBound) : Listed (bounds.map entry) bounds := by
  induction bounds with
  | nil => exact .nil
  | cons bound rest ih => exact .bound bound ih

end NumericBound

/-! ## Evaluation -/

theorem Document.numbers_of_values {document : Document} {field : String}
    {numbers : List JsonNumber} (h : document.values field = numbers.map Json.num) :
    document.numbers field = numbers.map JsonNumber.toBinary64 := by
  rw [Document.numbers, h, List.filterMap_map, ← List.filterMap_eq_map]
  rfl

section Evaluation

variable (document : Document) (field : String)

/-- A bound on numbers asks the first one only. -/
theorem Bound.holds_number (side : Side) (limit : Binary64) :
    ∃ verdict, (Bound.number side limit).holds document field = .ok verdict
      ∧ (verdict = true ↔ ∃ x ∈ (document.numbers field).head?, side.Admits limit x) := by
  refine ⟨_, rfl, ?_⟩
  cases (document.numbers field).head? with
  | none => simp
  | some x =>
    have hfirst : (∃ y ∈ some x, side.Admits limit y) ↔ side.Admits limit x := by simp
    rw [hfirst, Side.admits_iff, Option.bind_some]
    cases hcompare : x.compare? limit with
    | none => simp
    | some o => simp

/-- Several bounds on numbers are asked in turn, all of the same first number. -/
theorem Bound.allHold_numbers (bounds : List NumericBound) :
    ∃ verdict, Bound.allHold document field (bounds.map NumericBound.toBound) = .ok verdict
      ∧ (verdict = true ↔ ∀ bound ∈ bounds, ∃ x ∈ (document.numbers field).head?,
          bound.side.Admits bound.limit.toBinary64 x) := by
  induction bounds with
  | nil => exact ⟨true, rfl, by simp⟩
  | cons bound rest ih =>
    obtain ⟨first, hfirst, hfirst_iff⟩ :=
      Bound.holds_number document field bound.side bound.limit.toBinary64
    obtain ⟨others, hothers, hothers_iff⟩ := ih
    refine ⟨first && others, ?_, ?_⟩
    · rw [List.map_cons, Bound.allHold, NumericBound.toBound, hfirst]
      cases first with
      | false => rfl
      | true => exact hothers
    · rw [Bool.and_eq_true, hfirst_iff, hothers_iff, List.forall_mem_cons]

end Evaluation

/-- **A range clause says whether the first number of a field is within its bounds.** It finds a
field with several numbers by one of them exactly if the first one is within the bounds whenever
another is. -/
theorem holds_range_numbers {document : Document} {field : String} {numbers : List JsonNumber}
    (hvalues : document.values field = numbers.map Json.num) {bounds : List NumericBound}
    (hbounds : bounds ≠ []) {entries : List (String × Json)}
    (hentries : NumericBound.Listed entries bounds) :
    ∃ verdict, (Condition.ofJson (.obj [("range", .obj [(field, .obj entries)])])).holds document
        = .ok verdict
      ∧ (verdict = true ↔ ∃ first ∈ numbers.head?, NumericBound.Within bounds first)
      ∧ ((verdict = true ↔ ∃ number ∈ numbers, NumericBound.Within bounds number)
        ↔ ((∃ number ∈ numbers, NumericBound.Within bounds number)
          → ∃ first ∈ numbers.head?, NumericBound.Within bounds first)) := by
  obtain ⟨verdict, hverdict, hasked⟩ := Bound.allHold_numbers document field bounds
  rw [Document.numbers_of_values hvalues, List.head?_map] at hasked
  have hread : Condition.ofJson (.obj [("range", .obj [(field, .obj entries)])])
      = .range field (bounds.map NumericBound.toBound) := by
    rw [← hentries.filterMap_ofEntry?, Condition.ofJson]
    rfl
  have hfirst : verdict = true ↔ ∃ first ∈ numbers.head?, NumericBound.Within bounds first := by
    rw [hasked]
    cases numbers with
    | nil => simpa using List.exists_mem_of_ne_nil bounds hbounds
    | cons first rest => simp [NumericBound.Within]
  have hmem : (∃ first ∈ numbers.head?, NumericBound.Within bounds first)
      → ∃ number ∈ numbers, NumericBound.Within bounds number := by
    rintro ⟨first, hhead, hwithin⟩
    exact ⟨first, List.mem_of_head? hhead, hwithin⟩
  refine ⟨verdict, ?_, hfirst, ?_⟩
  · rw [hread, Condition.holds]
    exact hverdict
  · rw [hfirst]
    exact ⟨fun h => h.mpr, fun h => ⟨hmem, h⟩⟩

/-- A document with the numbers one and five in a list. -/
def Document.oneAndFive : Document where
  timestamp := .epoch
  source :=
    [("n", .arr [.num (.int 1), .num (.int 5)]), ("timestamp", .str "1970-01-01 00:00:00.000")]

/-- The bound from below by an integer. -/
def NumericBound.atLeast (limit : Int) : NumericBound := ⟨"gte", .atLeast, .int limit, rfl⟩

theorem NumericBound.within_atLeast_iff {limit n : Int} (hn : n.natAbs ≤ 2 ^ 53)
    (hlimit : limit.natAbs ≤ 2 ^ 53) : Within [.atLeast limit] (.int n) ↔ limit ≤ n := by
  have hside : Side.atLeast.accepts (compare n limit) = true ↔ limit ≤ n :=
    bne_iff_ne.trans compare_ge_iff_ge
  rw [← hside, ← Side.admits_ofInt .atLeast hn hlimit]
  exact List.forall_mem_singleton

theorem holds_range_numbers_oneAndFive :
    (Condition.ofJson (.obj [("range", .obj [("n", .obj [("gte", .num (.int 1))])])])).holds
      .oneAndFive = .ok true := by
  have hvalues : Document.oneAndFive.values "n" = [JsonNumber.int 1, .int 5].map Json.num := rfl
  have hwithin : NumericBound.Within [.atLeast 1] (.int 1) :=
    (NumericBound.within_atLeast_iff (by decide) (by decide)).mpr le_rfl
  obtain ⟨verdict, hverdict, hfirst, -⟩ :=
    holds_range_numbers hvalues (List.cons_ne_nil (.atLeast 1) []) (.of_bounds [.atLeast 1])
  rw [hfirst.mpr ⟨.int 1, rfl, hwithin⟩] at hverdict
  exact hverdict

/-- Five is at least three, but it stands behind one. -/
theorem range_overlooks_second_number :
    Document.oneAndFive.values "n" = [JsonNumber.int 1, .int 5].map Json.num
      ∧ NumericBound.Within [.atLeast 3] (.int 5)
      ∧ (Condition.ofJson (.obj [("range", .obj [("n", .obj [("gte", .num (.int 3))])])])).holds
        .oneAndFive = .ok false := by
  refine ⟨rfl, (NumericBound.within_atLeast_iff (by decide) (by decide)).mpr (by decide), ?_⟩
  have hread : Condition.ofJson
      (.obj [("range", .obj [("n", .obj [("gte", .num (.int 3))])])])
        = .range "n" [.number .atLeast (.ofInt 3)] := by
    rw [Condition.ofJson]
    rfl
  rw [hread]
  rfl

end LogSearch
