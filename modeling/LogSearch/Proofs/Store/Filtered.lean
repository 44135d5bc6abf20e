import LogSearch.Proofs.Store.Select
import LogSearch.Proofs.Time.Millis

/-!
# What the query of a body asks of a document

The query of a body has three parts: the user's query, a filter and a window, of which the last two
may be missing. The first two are texts, and one that selects everything is not written into the
body. The bounds of the window are stamps, which keep whole milliseconds.

Main statements:

* the body asks for all of its parts and for nothing else (`Condition.holds_filtered_conjunction`);
* the clause for a window asks for a time within the window cut to milliseconds, both ends
  included; where this differs from the window itself, the time lies in the cut-off part of a
  millisecond, before the start or before the stop (`Condition.holds_rangeClause_iff`).
-/

namespace LogSearch

namespace Condition

/-! ## The conjunction -/

/-- **A body asks for all of its parts.** It has no faults if its texts are queries, and none of its
parts changes what another means; a text that is left out would have let every document pass. -/
theorem holds_filtered_conjunction {query : String} {filter : Option String} {q : Clause}
    {f : Option Clause} (hq : Query.parse query = .ok q)
    (hf : filter.map Query.parse = f.map .ok) (window : Option Window) (leadingWildcard : Bool)
    (document : Document) :
    (∃ matched,
      (ofJson (Query.filtered query filter window leadingWildcard)).holds document = .ok matched
        ∧ (matched = true ↔ q.matches document = true
          ∧ (∀ clause ∈ f, clause.matches document = true)
          ∧ ∀ w ∈ window, (ofJson (Query.rangeClause w)).holds document = .ok true))
    ∧ (∀ w ∈ window, ∃ covered, (ofJson (Query.rangeClause w)).holds document = .ok covered)
    ∧ ∀ text, Query.isMatchAll text = true →
      ∃ clause, Query.parse text = .ok clause ∧ clause.matches document = true := by
  have hparsed : Query.parse (filter.getD "*") = .ok (f.getD (.term .all)) := by
    cases filter with
    | none =>
      obtain rfl : f = none := by simpa using hf.symm
      rfl
    | some text =>
      obtain ⟨clause, rfl, htext⟩ := Option.map_eq_some_iff.mp hf.symm
      exact htext.symm
  have hfilter : (f.getD (.term .all)).matches document = true
      ↔ ∀ clause ∈ f, clause.matches document = true := by
    cases f with
    | none => exact ⟨nofun, fun _ => rfl⟩
    | some clause => simp
  have hwindow : (window.all fun w => w.wholeMillis.covers document.timestamp) = true
      ↔ ∀ w ∈ window, (ofJson (Query.rangeClause w)).holds document = .ok true := by
    simp [Option.all_eq_true, holds_rangeClause]
  refine ⟨⟨_, holds_filtered_of_parse hq hparsed window leadingWildcard document, ?_⟩,
    fun w _ => ⟨_, holds_rangeClause w document⟩, fun text h => ⟨_, parse_of_isMatchAll h, rfl⟩⟩
  rw [Bool.and_eq_true, Bool.and_eq_true, hfilter, hwindow]
  exact and_congr_right fun _ => and_comm

/-- A star among blanks, which is left out, and a filter, which is not. -/
theorem holds_filtered_conjunction_blanks :
    let query := "\u3000*\u00a0"
    let filter := "NOT level:x"
    let document : Document := ⟨.epoch, [("level", .str "y")]⟩
    Query.parse query = .ok (.term .all)
      ∧ Query.parse filter = .ok (.not (.term (.field "level" "x")))
      ∧ (ofJson (Query.filtered query (some filter) (some ⟨.epoch, .epoch⟩) false)).holds document
        = .ok true := by
  intro query filter document
  have hquery : Query.parse query = .ok (.term .all) := by cbv
  have hfilter : Query.parse filter = .ok (.not (.term (.field "level" "x"))) := by cbv
  have hparsed : (some filter).map Query.parse
      = (some (Clause.not (.term (.field "level" "x")))).map .ok := congrArg some hfilter
  obtain ⟨⟨matched, hholds, hiff⟩, -⟩ :=
    holds_filtered_conjunction hquery hparsed (some ⟨.epoch, .epoch⟩) false document
  have hmatched : matched = true := by
    refine hiff.mpr ⟨rfl, ?_, ?_⟩
    · intro clause hclause
      obtain rfl := Option.some.inj hclause
      cbv
    · intro w hw
      obtain rfl := Option.some.inj hw
      rw [holds_rangeClause]
      rfl
  exact ⟨hquery, hfilter, hmatched ▸ hholds⟩

/-! ## Windows -/

/-- **How exact the clause for a window is.** It asks for a time from the millisecond of the start to
that of the stop. So it also finds what lies in the millisecond of the start but before the start,
and does not find what lies in that of the stop after its first instant; with bounds that are whole
milliseconds there is neither. -/
theorem holds_rangeClause_iff (w : Window) (document : Document) :
    let time := document.timestamp
    ∃ matched, (ofJson (Query.rangeClause w)).holds document = .ok matched
      ∧ (matched = true ↔ w.start.wholeMillis ≤ time ∧ time ≤ w.stop.wholeMillis)
      ∧ (matched = true ∧ ¬(w.start ≤ time ∧ time ≤ w.stop)
        ↔ w.start.wholeMillis ≤ time ∧ time < w.start ∧ time ≤ w.stop.wholeMillis)
      ∧ (matched = false ∧ (w.start ≤ time ∧ time ≤ w.stop)
        ↔ w.start ≤ time ∧ w.stop.wholeMillis < time ∧ time ≤ w.stop)
      ∧ (w.IsWhole → (matched = true ↔ w.start ≤ time ∧ time ≤ w.stop)) := by
  intro time
  have hstart := Instant.le_iff_rank.mp w.start.wholeMillis_le
  have hstop := Instant.le_iff_rank.mp w.stop.wholeMillis_le
  have hcovers : w.wholeMillis.covers time = true
      ↔ w.start.wholeMillis ≤ time ∧ time ≤ w.stop.wholeMillis := Window.covers_iff
  refine ⟨_, holds_rangeClause w document, hcovers, ?_, ?_, fun hwhole => ?_⟩
  · rw [hcovers]
    simp only [Instant.le_iff_rank, Instant.lt_iff_rank]
    omega
  · rw [← Bool.not_eq_true, hcovers]
    simp only [Instant.le_iff_rank, Instant.lt_iff_rank]
    omega
  · rw [hwhole.wholeMillis_eq]
    exact Window.covers_iff

/-- The last millisecond of a window that lies in a leap second. -/
theorem holds_rangeClause_iff_leapSecond :
    let start : Instant :=
      ⟨17166, 86399, 1000000000, by decide, by decide, by decide, by decide, by decide⟩
    let stop : Instant :=
      ⟨17166, 86399, 1250000000, by decide, by decide, by decide, by decide, by decide⟩
    (⟨start, stop⟩ : Window).IsWhole
      ∧ (ofJson (Query.rangeClause ⟨start, stop⟩)).holds ⟨stop, []⟩ = .ok true := by
  intro start stop
  have hwhole : (⟨start, stop⟩ : Window).IsWhole := ⟨by decide, by decide⟩
  obtain ⟨matched, hholds, -, -, -, hexact⟩ := holds_rangeClause_iff ⟨start, stop⟩ ⟨stop, []⟩
  have hmatched : matched = true := (hexact hwhole).mpr ⟨by decide, by decide⟩
  exact ⟨hwhole, hmatched ▸ hholds⟩

/-- A time within the last millisecond of a window is not found, and one before the start of the
first is. -/
theorem holds_rangeClause_inexact :
    let fine : Instant := ⟨0, 0, 500, by decide, by decide, by decide, by decide, by decide⟩
    ((.epoch ≤ fine ∧ fine ≤ fine)
      ∧ (ofJson (Query.rangeClause ⟨.epoch, fine⟩)).holds ⟨fine, []⟩ = .ok false)
    ∧ (¬(fine ≤ .epoch ∧ .epoch ≤ fine)
      ∧ (ofJson (Query.rangeClause ⟨fine, fine⟩)).holds ⟨.epoch, []⟩ = .ok true) := by
  intro fine
  rw [holds_rangeClause, holds_rangeClause]
  exact ⟨⟨by decide, by decide⟩, by decide, by decide⟩

end Condition

end LogSearch
