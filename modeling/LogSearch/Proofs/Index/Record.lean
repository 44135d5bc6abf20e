import LogSearch.Command.Run
import LogSearch.Proofs.Index.Order
import LogSearch.Proofs.Json.Printing
import LogSearch.Proofs.Store.Buckets
import LogSearch.Proofs.Time.Record

/-!
# Index ranges through their records

A record has no kind of span, so a range with bounds that are both the epoch has the record of an
index that is still being written to (`IndexRange.LooksLatest`), and is loaded as one
(`IndexRange.reloaded`). Every other range is loaded as it was. What a record holds is not lost when
a table of records is printed and read.

Main statement: a record is loaded as its range, unless that looks like the latest index, and what the
command for index ranges prints loads as the ranges it is made of (`records_reload`).
-/

namespace LogSearch

/-! ## Records of ranges -/

namespace IndexRange

/-- A range with bounds whose record is that of an index that is still being written to. -/
def LooksLatest (range : IndexRange) : Prop :=
  range.isLatest = false ∧ range.start = .epoch ∧ range.stop = .epoch

instance (range : IndexRange) : Decidable range.LooksLatest :=
  inferInstanceAs (Decidable (_ ∧ _ ∧ _))

/-- What the record of a range is loaded as. -/
def reloaded (range : IndexRange) : IndexRange :=
  if range.LooksLatest then { range with span := .latest } else range

theorem reloaded_of_not_looksLatest {range : IndexRange} (h : ¬range.LooksLatest) :
    range.reloaded = range := if_neg h

/-- **A record is loaded as the range that it was made from**, unless that looks like one of an index
that is still being written to. -/
theorem toRange_ofRange (range : IndexRange) :
    (IndexRecord.ofRange range).toRange = .ok range.reloaded := by
  obtain ⟨name, span, calculatedAt, millis, ids⟩ := range
  cases span with
  | latest => rfl
  | bounded start stop ordered =>
    by_cases hepoch : start = .epoch ∧ stop = .epoch
    · have hlooks : LooksLatest ⟨name, .bounded start stop ordered, calculatedAt, millis, ids⟩ :=
        ⟨rfl, hepoch.1, hepoch.2⟩
      rw [reloaded, if_pos hlooks, IndexRecord.toRange]
      exact if_pos hepoch
    · have hlooks : ¬LooksLatest ⟨name, .bounded start stop ordered, calculatedAt, millis, ids⟩ :=
        fun h => hepoch h.2
      rw [reloaded_of_not_looksLatest hlooks, IndexRecord.toRange]
      refine (if_neg hepoch).trans ?_
      change (bounded name start stop calculatedAt millis).map _ = _
      rw [bounded, dif_pos ordered]
      rfl

theorem reloaded_eq_self_iff {range : IndexRange} : range.reloaded = range ↔ ¬range.LooksLatest := by
  refine ⟨fun h hlooks => ?_, reloaded_of_not_looksLatest⟩
  have hlatest : range.reloaded.isLatest = true := by
    rw [reloaded, if_pos hlooks]
    rfl
  rw [h, hlooks.1] at hlatest
  cases hlatest

/-- **A range that a record was loaded as has that record**, and it does not look like something
else. -/
theorem ofRange_of_toRange {record : IndexRecord} {range : IndexRange}
    (h : record.toRange = .ok range) : IndexRecord.ofRange range = record ∧ ¬range.LooksLatest := by
  obtain ⟨name, start, stop, calculatedAt, millis, ids⟩ := record
  rw [IndexRecord.toRange] at h
  split at h
  · next hepoch =>
    obtain ⟨rfl, rfl⟩ := hepoch
    obtain rfl := Except.ok.inj h
    exact ⟨rfl, fun hlooks => by cases hlooks.1⟩
  · next hepoch =>
    by_cases hordered : start ≤ stop
    · rw [bounded, dif_pos hordered] at h
      obtain rfl := Except.ok.inj h
      exact ⟨rfl, fun hlooks => hepoch hlooks.2⟩
    · rw [bounded, dif_neg hordered] at h
      cases h

/-- Whatever a range may contain, it still may when it was loaded again. -/
theorem mayContain_reloaded {range : IndexRange} {w : Window} (h : range.mayContain w = true) :
    range.reloaded.mayContain w = true := by
  rw [reloaded]
  split
  · rfl
  · exact h

end IndexRange

/-! ## Records as structured data -/

/-- A list is read back if each of its members is. -/
theorem Json.toList?_map {α β : Type} {read : Json → Option β} {write : α → Json} {value : α → β}
    {items : List α} (h : ∀ item ∈ items, read (write item) = some (value item)) :
    toList? read (.arr (items.map write)) = some (items.map value) := by
  rw [toList?]
  induction items with
  | nil => rfl
  | cons item items ih =>
    obtain ⟨hitem, hitems⟩ := List.forall_mem_cons.mp h
    simp [hitem, ih hitems]

theorem Json.exists_of_toList? {β : Type} {read : Json → Option β} {json : Json} {values : List β}
    (h : toList? read json = some values) : ∀ value ∈ values, ∃ item, read item = some value := by
  cases json with
  | arr items =>
    change items.mapM read = some values at h
    induction items generalizing values with
    | nil =>
      obtain rfl := Option.some.inj h
      exact fun _ hmem => absurd hmem List.not_mem_nil
    | cons item items ih =>
      rw [List.mapM_cons] at h
      obtain ⟨value, hvalue, h⟩ := Option.bind_eq_some_iff.mp h
      obtain ⟨others, hothers, h⟩ := Option.bind_eq_some_iff.mp h
      obtain rfl := Option.some.inj h
      exact List.forall_mem_cons.mpr ⟨⟨item, hvalue⟩, ih hothers⟩
  | _ => cases h

namespace IndexRecord

/-- The time that a calculation took has 32 bits. -/
def Fits (record : IndexRecord) : Prop :=
  -0x80000000 ≤ record.calculationMillis ∧ record.calculationMillis < 0x80000000

variable {record : IndexRecord}

theorem slots_toJson (record : IndexRecord) : record.toJson.slots fieldNames = some
    [.given (.str record.name), .given (.str record.start.render), .given (.str record.stop.render),
      .given (.str record.calculatedAt.render), .given (.int record.calculationMillis),
      .given (Json.ofOption (fun ids => .arr (ids.map .str)) record.streamIds)] := by
  simp [Json.slots, toJson, Json.namedSlots, fieldNames, Json.single?]

theorem toInstant?_render (t : Instant) : Json.toInstant? (.str t.render) = some t :=
  Instant.read?_render t

/-- Streams are read back, also when they are not known. -/
theorem nullable_streamIds (ids : Option (List String)) :
    Slot.nullable (Json.toList? Json.toText?) (Json.ofOption (fun ids => .arr (ids.map .str)) ids)
      = some ids := by
  cases ids with
  | none => rfl
  | some ids =>
    have hread : Json.toList? Json.toText? (.arr (ids.map .str)) = some (ids.map id) :=
      Json.toList?_map fun _ _ => rfl
    change (Json.toList? Json.toText? (.arr (ids.map .str))).map some = _
    rw [hread, List.map_id, Option.map_some]

/-- **A record is read back from structured data.** -/
theorem ofJson?_toJson (h : record.Fits) : ofJson? record.toJson = some record := by
  have hmillis : Json.toInt32? (.int record.calculationMillis) = some record.calculationMillis :=
    if_pos h
  rw [ofJson?, slots_toJson]
  simp [Slot.required, Slot.orElse, Json.toText?, toInstant?_render, nullable_streamIds, hmillis]

theorem plain_toJson (h : record.Fits) (depth : Nat) : Json.Plain (depth + 2) record.toJson := by
  refine .obj fun field hfield => ?_
  simp only [List.mem_cons, List.not_mem_nil, or_false] at hfield
  rcases hfield with rfl | rfl | rfl | rfl | rfl | rfl
  · exact .str _
  · exact .str _
  · exact .str _
  · exact .str _
  · obtain ⟨hlow, hhigh⟩ := h
    exact .int (by omega) (by omega)
  · cases record.streamIds with
    | none => exact .null
    | some ids =>
      refine .arr fun item hitem => ?_
      obtain ⟨id, -, rfl⟩ := List.mem_map.mp hitem
      exact .str id

theorem bounds_of_orElse {slot : Slot} {n : Int} (h : slot.orElse 0 Json.toInt32? = some n) :
    -0x80000000 ≤ n ∧ n < 0x80000000 := by
  cases slot with
  | given value =>
    change Json.toInt32? value = some n at h
    unfold Json.toInt32? at h
    split at h
    · split at h
      · next hbounds =>
        obtain rfl := Option.some.inj h
        exact hbounds
      · cases h
    · cases h
  | absent | cut =>
    obtain rfl := Option.some.inj h
    decide

theorem fits_of_ofJson? {json : Json} (h : ofJson? json = some record) : record.Fits := by
  obtain ⟨slots, -, h⟩ := Option.bind_eq_some_iff.mp h
  split at h
  · obtain ⟨name, -, h⟩ := Option.bind_eq_some_iff.mp h
    obtain ⟨start, -, h⟩ := Option.bind_eq_some_iff.mp h
    obtain ⟨stop, -, h⟩ := Option.bind_eq_some_iff.mp h
    obtain ⟨calculatedAt, -, h⟩ := Option.bind_eq_some_iff.mp h
    obtain ⟨millis, hmillis, h⟩ := Option.bind_eq_some_iff.mp h
    obtain ⟨ids, -, h⟩ := Option.bind_eq_some_iff.mp h
    obtain rfl := Option.some.inj h
    exact bounds_of_orElse hmillis
  · cases h

/-- A table wants all of what a record holds. -/
theorem covers_toJson (record : IndexRecord) : shape.Covers record.toJson := by
  have hnames : ∀ field ∈ record.toJson.fields?.getD [],
      (fieldNames.map fun name => (name, Shape.whole)).lookup field.1 = some .whole := by
    intro field hfield
    have hmem : field.1 ∈ (record.toJson.fields?.getD []).map Prod.fst := List.mem_map_of_mem hfield
    exact List.lookup_graph (fun _ => Shape.whole) hmem
  refine .record (fun field hfield => ?_) fun field hfield shape hshape => ?_
  · rw [hnames field hfield]
    rfl
  · obtain rfl := Option.some.inj ((hnames field hfield).symm.trans hshape)
    exact .whole field.2

end IndexRecord

/-! ## Tables -/

namespace RangeTable

/-- What is printed of some ranges: the list of their records. -/
def printed (ranges : List IndexRange) : String :=
  (Json.arr (ranges.map fun range => (IndexRecord.ofRange range).toJson)).pretty ++ "\n"

/-- **What is printed loads as the ranges that the records stand for.** -/
theorem ofText_printed {ranges : List IndexRange}
    (h : ∀ range ∈ ranges, (IndexRecord.ofRange range).Fits) :
    ofText (printed ranges) = .ok ⟨ranges.map IndexRange.reloaded⟩ := by
  have hplain : Json.Plain Json.nestingLimit
      (.arr (ranges.map fun range => (IndexRecord.ofRange range).toJson)) := by
    refine .arr fun item hitem => ?_
    obtain ⟨range, hrange, rfl⟩ := List.mem_map.mp hitem
    exact IndexRecord.plain_toJson (h range hrange) 124
  have hcovers : shape.Covers (.arr (ranges.map fun range => (IndexRecord.ofRange range).toJson)) := by
    refine .items fun item hitem => ?_
    obtain ⟨range, -, rfl⟩ := List.mem_map.mp hitem
    exact IndexRecord.covers_toJson _
  have hrecords : Json.toList? IndexRecord.ofJson?
      (.arr (ranges.map fun range => (IndexRecord.ofRange range).toJson))
        = some (ranges.map IndexRecord.ofRange) :=
    Json.toList?_map fun range hrange => IndexRecord.ofJson?_toJson (h range hrange)
  have hspace : ∀ c ∈ "\n".toList, JsonSyntax.isSpace c = true := by simp [JsonSyntax.isSpace]
  have hload : IndexRecord.toRange ∘ IndexRecord.ofRange
      = fun range => (pure range.reloaded : Except IndexRangeError IndexRange) :=
    funext IndexRange.toRange_ofRange
  rw [ofText, printed, Json.parseAs?_pretty hplain hcovers hspace, Option.bind_some, hrecords]
  dsimp only
  rw [ofRecords, List.mapM_map, hload, List.mapM_pure]
  rfl

/-- **The ranges of a table that was loaded** are those that a record is loaded as. -/
theorem exists_record_of_ofText {text : String} {table : RangeTable} (h : ofText text = .ok table) :
    ∀ range ∈ table.ranges, ∃ record : IndexRecord, record.Fits ∧ record.toRange = .ok range := by
  rw [ofText] at h
  split at h
  · next records hrecords =>
    obtain ⟨_, -, hread⟩ := Option.bind_eq_some_iff.mp hrecords
    have hfits : ∀ record ∈ records, record.Fits := fun record hrecord => by
      obtain ⟨_, hjson⟩ := Json.exists_of_toList? hread record hrecord
      exact IndexRecord.fits_of_ofJson? hjson
    obtain ⟨ranges, hranges, rfl⟩ : ∃ ranges, records.mapM IndexRecord.toRange = .ok ranges
        ∧ RangeTable.mk ranges = table := by
      rw [ofRecords] at h
      cases hranges : records.mapM IndexRecord.toRange with
      | error e =>
        rw [hranges] at h
        cases h
      | ok ranges =>
        rw [hranges] at h
        exact ⟨ranges, rfl, Except.ok.inj h⟩
    have hloaded := TermGroup.forall₂_of_mapM_eq_ok hranges
    clear hranges h hread hrecords
    induction hloaded with
    | nil => exact fun _ hmem => absurd hmem List.not_mem_nil
    | cons hload _ ih =>
      obtain ⟨hfirst, hrest⟩ := List.forall_mem_cons.mp hfits
      exact List.forall_mem_cons.mpr ⟨⟨_, hfirst, hload⟩, ih hrest⟩
  · cases h

/-- Ranges that come from a table that was loaded load as themselves. -/
theorem ofText_printed_of_ofText {text : String} {table : RangeTable} (h : ofText text = .ok table)
    {ranges : List IndexRange} (hsub : ranges ⊆ table.ranges) :
    ofText (printed ranges) = .ok ⟨ranges⟩ := by
  have hrecord : ∀ range ∈ ranges, (IndexRecord.ofRange range).Fits ∧ range.reloaded = range := by
    intro range hrange
    obtain ⟨record, hfits, hload⟩ := exists_record_of_ofText h range (hsub hrange)
    obtain ⟨rfl, hlooks⟩ := IndexRange.ofRange_of_toRange hload
    exact ⟨hfits, IndexRange.reloaded_of_not_looksLatest hlooks⟩
  rw [ofText_printed fun range hrange => (hrecord range hrange).1]
  have hsame : ranges.map IndexRange.reloaded = ranges.map id :=
    List.map_congr_left fun range hrange => (hrecord range hrange).2
  rw [hsame, List.map_id]

end RangeTable

/-! ## Commands -/

namespace Searcher

variable {searcher : Searcher} {table : RangeTable}

/-- The ranges that a search touches are ranges of its table. -/
theorem affectedRanges_subset (htable : searcher.resolver.ranges = table.lookup) {now : Instant}
    {timeRange : TimeRange} {filter : Option String} {ranges : List IndexRange}
    (h : searcher.affectedRanges now timeRange filter = .ok ranges) : ranges ⊆ table.ranges := by
  rw [affectedRanges, Resolver.resolve] at h
  split at h
  · cases h
  · next w _ =>
    rw [Resolver.rangesOf, htable] at h
    simp only [RangeTable.lookup] at h
    intro range hrange
    have hfind : range ∈ table.find w := by
      split at h
      · obtain rfl := Except.ok.inj h
        exact mem_of_mem_orderRanges hrange
      · split at h
        · cases h
        · obtain rfl := Except.ok.inj h
          exact (List.mem_filter.mp (mem_of_mem_orderRanges hrange)).1
    exact (List.mem_filter.mp hfind).1

end Searcher

namespace Machine

/-- What comes after a step that may fail came after its success. -/
theorem exists_of_bind_eq_ok {ε α β : Type} {x : ExceptT ε Id α} {f : α → ExceptT ε Id β} {b : β}
    (h : (x >>= f).run = .ok b) : ∃ a, x.run = .ok a ∧ (f a).run = .ok b := by
  cases hx : x.run with
  | error e =>
    rw [ExceptT.run_bind, hx] at h
    cases h
  | ok a =>
    rw [ExceptT.run_bind, hx] at h
    exact ⟨a, rfl, h⟩

theorem eq_ok_of_expect {ε α : Type} {wrap : ε → CommandError} {x : Except ε α} {a : α}
    (h : (expect wrap x : ExceptT CommandError Id α).run = .ok a) : x = .ok a := by
  cases x with
  | error e => cases h
  | ok b => exact congrArg Except.ok (Except.ok.inj h)

/-- The known index ranges are those of the machine's file. -/
theorem exists_of_rangeTable {machine : Machine Id} {settings : Settings} {table : RangeTable}
    (h : (machine.rangeTable settings).run = .ok table) :
    ∃ content, machine.fileText (settings.rangesPath machine.environment) = some content
      ∧ RangeTable.ofText content = .ok table := by
  obtain ⟨_, hcontent, h⟩ := exists_of_bind_eq_ok h
  obtain rfl := Except.ok.inj hcontent
  split at h
  · next loaded hloaded =>
    obtain rfl := Except.ok.inj h
    exact Option.map_eq_some_iff.mp hloaded
  · cases h

/-- **What the command for index ranges prints** are ranges of the table in the machine's file. -/
theorem exists_of_execute_indices {machine : Machine Id} {options : SharedOptions} {text : String}
    (h : (machine.execute ⟨.search .indices, options⟩).run = .ok text) :
    ∃ (settings : Settings) (content : String) (table : RangeTable) (ranges : List IndexRange),
      (machine.settings options.settingsFile).run = .ok settings
        ∧ machine.fileText (settings.rangesPath machine.environment) = some content
        ∧ RangeTable.ofText content = .ok table ∧ ranges ⊆ table.ranges
        ∧ text = RangeTable.printed ranges
          ++ if options.metrics then Metrics.empty.render else "" := by
  obtain ⟨settings, hsettings, h⟩ := exists_of_bind_eq_ok h
  obtain ⟨-, -, h⟩ := exists_of_bind_eq_ok h
  obtain ⟨session, hsession, h⟩ := exists_of_bind_eq_ok h
  obtain ⟨⟨found, metrics⟩, hfound, h⟩ := exists_of_bind_eq_ok h
  -- the table is the one in the file, and the session searches with it
  obtain ⟨table, htable, hsession⟩ := exists_of_bind_eq_ok hsession
  obtain rfl := Except.ok.inj hsession
  obtain ⟨content, hcontent, hload⟩ := exists_of_rangeTable htable
  obtain ⟨now, -, hfound⟩ := exists_of_bind_eq_ok hfound
  obtain ⟨ranges, hranges, hfound⟩ := exists_of_bind_eq_ok hfound
  obtain ⟨rfl, rfl⟩ := Prod.mk.inj (Except.ok.inj hfound)
  exact ⟨settings, content, table, ranges, hsettings, hcontent, hload,
    Searcher.affectedRanges_subset rfl (eq_ok_of_expect hranges), (Except.ok.inj h).symm⟩

/-- A machine that has nothing but a file with index ranges. -/
def ofTable (text : String) : Machine Id where
  environment := fun _ => none
  now := .epoch
  fileText := fun path => if path = "./ranges.json" then some text else none
  saveFile := fun _ _ => false
  openLog := fun _ => false
  transport := fun _ => .error .noConnection

theorem run_bind_of_ok {ε α β : Type} {x : ExceptT ε Id α} {f : α → ExceptT ε Id β} {a : α}
    (h : x.run = .ok a) : (x >>= f).run = (f a).run := by
  rw [ExceptT.run_bind, h]
  rfl

/-- Such a machine prints the ranges of its table that may hold documents of the epoch. -/
theorem execute_ofTable {text : String} {table : RangeTable}
    (h : RangeTable.ofText text = .ok table) :
    ((ofTable text).execute
        ⟨.search .indices, ⟨none, "*", none, none, none, none, none, none, false⟩⟩).run
      = .ok (RangeTable.printed (orderRanges (table.find ⟨.epoch, .epoch⟩)) ++ "") := by
  have hsettings : ((ofTable text).settings none).run
      = .ok (Settings.ofEnvironment fun _ => none) := rfl
  have htable : ((ofTable text).rangeTable (Settings.ofEnvironment fun _ => none)).run
      = .ok table := by
    refine (run_bind_of_ok (a := some text) rfl).trans ?_
    rw [Option.map_some, h]
    rfl
  obtain ⟨session, hsession, hranges⟩ : ∃ session : Session,
      ((ofTable text).session (Settings.ofEnvironment fun _ => none)
        ⟨none, "*", none, none, none, none, none, none, false⟩).run = .ok session
      ∧ session.searcher.affectedRanges .epoch session.scope.range session.scope.filter
        = .ok (orderRanges (table.find ⟨.epoch, .epoch⟩)) :=
    ⟨_, (run_bind_of_ok htable).trans rfl, rfl⟩
  refine (run_bind_of_ok hsettings).trans ?_
  refine (run_bind_of_ok (a := ()) rfl).trans ?_
  refine (run_bind_of_ok hsession).trans ?_
  refine (run_bind_of_ok (a := (_, Metrics.empty)) ?_).trans rfl
  refine (run_bind_of_ok (a := Instant.epoch) rfl).trans ?_
  refine (run_bind_of_ok (a := orderRanges (table.find ⟨.epoch, .epoch⟩)) ?_).trans rfl
  rw [hranges]
  rfl

end Machine

/-! ## Reloading -/

/-- **Ranges survive their records**, unless they have bounds that are both the epoch: those are
loaded as if their index was still being written to. No such range is ever loaded, so the records
that the command for index ranges prints load as the ranges that it found in the machine's file. -/
theorem records_reload :
    (∀ range : IndexRange, (IndexRecord.ofRange range).toRange = .ok range.reloaded
      ∧ (range.reloaded = range ↔ ¬range.LooksLatest))
    ∧ ∀ (machine : Machine Id) (options : SharedOptions) (text : String),
      (machine.execute ⟨.search .indices, options⟩).run = .ok text →
      ∃ (settings : Settings) (content : String) (table : RangeTable) (ranges : List IndexRange),
        (machine.settings options.settingsFile).run = .ok settings
          ∧ machine.fileText (settings.rangesPath machine.environment) = some content
          ∧ RangeTable.ofText content = .ok table ∧ ranges ⊆ table.ranges
          ∧ text = RangeTable.printed ranges
            ++ (if options.metrics then Metrics.empty.render else "")
          ∧ RangeTable.ofText (RangeTable.printed ranges) = .ok ⟨ranges⟩ := by
  refine ⟨fun range => ⟨range.toRange_ofRange, IndexRange.reloaded_eq_self_iff⟩,
    fun machine options text h => ?_⟩
  obtain ⟨settings, content, table, ranges, hsettings, hcontent, hload, hsub, htext⟩ :=
    Machine.exists_of_execute_indices h
  exact ⟨settings, content, table, ranges, hsettings, hcontent, hload, hsub, htext,
    RangeTable.ofText_printed_of_ofText hload hsub⟩

/-- The printed table of an index that is still being written to and of one with bounds and streams,
found in a machine's file, is printed again and loads. -/
theorem records_reload_latest :
    let early : Instant := ⟨-1, 0, 0, by decide, by decide, by decide, by decide, by decide⟩
    let ranges : List IndexRange :=
      [⟨"b_0", .bounded early .epoch (by decide), .epoch, 7, some ["ab", "c\"d"]⟩,
        .latest "a_0" .epoch]
    let machine := Machine.ofTable (RangeTable.printed ranges)
    let options : SharedOptions := ⟨none, "*", none, none, none, none, none, none, false⟩
    (machine.execute ⟨.search .indices, options⟩).run = .ok (RangeTable.printed ranges ++ "")
      ∧ RangeTable.ofText (RangeTable.printed ranges) = .ok ⟨ranges⟩ := by
  intro early ranges machine options
  have hfits : ∀ range ∈ ranges, (IndexRecord.ofRange range).Fits := by
    intro range hrange
    simp only [ranges, List.mem_cons, List.not_mem_nil, or_false] at hrange
    rcases hrange with rfl | rfl <;> exact ⟨by decide, by decide⟩
  have hfound : orderRanges ((⟨ranges⟩ : RangeTable).find ⟨.epoch, .epoch⟩) = ranges := by cbv
  have hsame : ranges.map IndexRange.reloaded = ranges := by cbv
  have hknown := RangeTable.ofText_printed hfits
  rw [hsame] at hknown
  have hrun := Machine.execute_ofTable hknown
  rw [hfound] at hrun
  obtain ⟨_, _, _, found, -, -, -, -, htext, hload⟩ := records_reload.2 machine options _ hrun
  -- what was found prints like the table, so it is the table
  have hprinted : RangeTable.printed ranges = RangeTable.printed found := by
    simpa [options] using htext
  have hfirst : RangeTable.ofText (RangeTable.printed found) = .ok ⟨ranges⟩ := hprinted ▸ hknown
  obtain rfl : found = ranges :=
    congrArg RangeTable.ranges (Except.ok.inj (hload.symm.trans hfirst))
  exact ⟨hrun, hload⟩

/-- A range from the epoch to the epoch is not loaded as it was. -/
theorem records_reload_fails : ∃ range, IndexRange.bounded "a_0" .epoch .epoch .epoch 0 = .ok range
    ∧ (IndexRecord.ofRange range).toRange ≠ .ok range := by
  refine ⟨⟨"a_0", .bounded .epoch .epoch (by decide), .epoch, 0, none⟩, rfl, fun h => ?_⟩
  have hspan : Span.latest = .bounded .epoch .epoch (by decide) :=
    congrArg IndexRange.span (Except.ok.inj h)
  cases hspan

end LogSearch
