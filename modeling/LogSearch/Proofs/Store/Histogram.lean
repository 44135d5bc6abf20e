import LogSearch.Proofs.Keyed
import LogSearch.Proofs.Time.Order
import LogSearch.Store.Aggregation

/-!
# What a grouping by time says

Documents are put into groups one by one. `Grouped` says of groups that they ascend and that the
group at a start holds the documents whose time lies in that bucket, in their order; putting one
document more keeps this (`put_grouped`), so it holds at the end (`groups_grouped`).

Main statements: how many documents each group has does not depend on the order of the documents
(`tally_groups_perm`), and the result of the grouping says that of each group, together with what
the aggregations inside give for it (`run_histogram`).
-/

namespace LogSearch

/-! ## Steps without faults -/

theorem ok_bind {α β ε : Type} (a : α) (next : α → Except ε β) :
    (Except.ok a >>= next) = next a := rfl

/-- Results that are there are put together. -/
theorem mapM_eq_pure {m : Type → Type} [Monad m] [LawfulMonad m] {α β : Type} {f : α → m β}
    {g : α → β} {items : List α} (h : ∀ a ∈ items, f a = pure (g a)) :
    items.mapM f = pure (items.map g) := by
  induction items with
  | nil => rfl
  | cons a items ih =>
    rw [List.mapM_cons, h a List.mem_cons_self, ih fun b hb => h b (List.mem_cons_of_mem _ hb)]
    simp only [pure_bind, List.map_cons]

theorem mapM_eq_ok {α β ε : Type} {f : α → Except ε β} {g : α → β} {items : List α}
    (h : ∀ a ∈ items, f a = .ok (g a)) : items.mapM f = .ok (items.map g) :=
  mapM_eq_pure h

namespace Histogram

variable {field : String} {interval : Interval} {documents others : List Document}
  {document : Document} {found : Groups}

/-! ## Groups -/

/-- The start of the bucket that a document lies in. -/
def startOf (field : String) (interval : Interval) (document : Document) : Option Instant :=
  (document.time? field).bind interval.truncate?

/-- The time of the document, if it has one, lies in a bucket. -/
def Placed (field : String) (interval : Interval) (document : Document) : Prop :=
  ∀ t ∈ document.time? field, (interval.truncate? t).isSome

/-- The documents of a bucket. -/
def members (field : String) (interval : Interval) (documents : List Document) (start : Instant) :
    List Document :=
  documents.filter fun document => startOf field interval document = some start

/-- Groups that hold what they should. -/
structure Grouped (field : String) (interval : Interval) (documents : List Document)
    (found : Groups) : Prop where
  sorted : Keyed.Sorted found
  get? : ∀ start, (Keyed.get? start found).getD [] = members field interval documents start
  nonempty : ∀ start group, Keyed.get? start found = some group → group ≠ []

/-- The time of a document has a bucket unless it lies before all of them. -/
theorem placed_timestamp (h : (interval.truncate? document.timestamp).isSome) :
    Placed "timestamp" interval document := by
  intro t ht
  have htime : document.time? "timestamp" = some document.timestamp := if_pos rfl
  rw [htime] at ht
  obtain rfl := Option.some.inj ht
  exact h

theorem members_concat (start : Instant) :
    members field interval (documents ++ [document]) start
      = if startOf field interval document = some start
        then members field interval documents start ++ [document]
        else members field interval documents start := by
  rw [members, List.filter_append]
  by_cases h : startOf field interval document = some start <;> simp [h, members]

theorem put_of_none (h : Placed field interval document)
    (hs : startOf field interval document = none) (found : Groups) :
    put field interval found document = .ok found := by
  rw [startOf, Option.bind_eq_none_iff] at hs
  rw [put]
  cases ht : document.time? field with
  | none => rfl
  | some t =>
    have hsome := h t ht
    rw [hs t ht] at hsome
    cases hsome

/-- A document with a place is put there. -/
theorem put_of_some {start : Instant} (hs : startOf field interval document = some start)
    (found : Groups) :
    put field interval found document = .ok (Keyed.update start [] (· ++ [document]) found) := by
  obtain ⟨t, ht, hstart⟩ := Option.bind_eq_some_iff.mp hs
  rw [put, ht]
  simp only [hstart]

/-- **One document more keeps the groups what they should be.** -/
theorem put_grouped (h : Placed field interval document)
    (hg : Grouped field interval documents found) :
    ∃ next, put field interval found document = .ok next
      ∧ Grouped field interval (documents ++ [document]) next := by
  cases hs : startOf field interval document with
  | none =>
    refine ⟨found, put_of_none h hs found, hg.sorted, fun start => ?_, hg.nonempty⟩
    rw [members_concat, hs, if_neg (by simp)]
    exact hg.get? start
  -- only the group of the document grows
  | some own =>
    refine ⟨_, put_of_some hs found, hg.sorted.insert _ _, fun start => ?_, ?_⟩
    · rw [members_concat, hs]
      by_cases he : start = own
      · subst he
        rw [if_pos rfl, Keyed.get?_update_self, Option.getD_some, hg.get?]
      · rw [if_neg (by simpa using Ne.symm he), Keyed.get?_update_of_ne he]
        exact hg.get? start
    · intro start group hget
      by_cases he : start = own
      · subst he
        rw [Keyed.get?_update_self] at hget
        rw [← Option.some.inj hget]
        simp
      · rw [Keyed.get?_update_of_ne he] at hget
        exact hg.nonempty start group hget

theorem grouped_nil : Grouped field interval [] [] :=
  ⟨List.Pairwise.nil, fun _ => rfl, fun _ _ h => by cases h⟩

/-- **Documents with places are grouped.** By induction on those that are left. -/
theorem groups_grouped (h : ∀ document ∈ documents, Placed field interval document) :
    ∃ found, groups field interval documents = .ok found
      ∧ Grouped field interval documents found := by
  -- what carries the induction is that those before are grouped
  have hrun : ∀ (rest before : List Document) (found : Groups),
      (∀ document ∈ rest, Placed field interval document) →
      Grouped field interval before found →
      ∃ next, rest.foldlM (put field interval) found = .ok next
        ∧ Grouped field interval (before ++ rest) next := by
    intro rest
    induction rest with
    | nil => intro before found _ hg; exact ⟨found, rfl, by rwa [List.append_nil]⟩
    | cons document rest ih =>
      intro before found hplaced hg
      obtain ⟨next, hput, hnext⟩ := put_grouped (hplaced _ List.mem_cons_self) hg
      obtain ⟨last, hlast, hgrouped⟩ := ih _ next
        (fun d hd => hplaced d (List.mem_cons_of_mem _ hd)) hnext
      rw [List.append_assoc] at hgrouped
      refine ⟨last, ?_, hgrouped⟩
      rw [List.foldlM_cons, hput]
      exact hlast
  exact hrun documents [] [] h grouped_nil

/-- A document without a place spoils the grouping. -/
theorem groups_eq_error (h : ∃ document ∈ documents, ¬ Placed field interval document) :
    groups field interval documents = .error .calendarEnd := by
  have hrun : ∀ (rest : List Document) (found : Groups),
      (∃ document ∈ rest, ¬ Placed field interval document) →
      rest.foldlM (put field interval) found = .error .calendarEnd := by
    intro rest
    induction rest with
    | nil => rintro _ ⟨_, hmem, _⟩; cases hmem
    | cons document rest ih =>
      intro found hex
      rw [List.foldlM_cons]
      by_cases hp : Placed field interval document
      · obtain ⟨next, hput⟩ : ∃ next, put field interval found document = .ok next := by
          cases hs : startOf field interval document with
          | none => exact ⟨_, put_of_none hp hs found⟩
          | some start => exact ⟨_, put_of_some hs found⟩
        rw [hput]
        -- this one has a place, so the fault is behind it
        refine ih next ?_
        obtain ⟨other, hmem, hother⟩ := hex
        rcases List.mem_cons.mp hmem with rfl | hmem
        · exact absurd hp hother
        · exact ⟨other, hmem, hother⟩
      · rw [Placed] at hp
        simp only [Classical.not_forall] at hp
        obtain ⟨t, ht, hnone⟩ := hp
        rw [put, Option.mem_def.mp ht]
        simp only [Option.not_isSome_iff_eq_none.mp hnone]
        rfl
  exact hrun documents [] h

/-- Whatever groups come out are what they should be. -/
theorem grouped_of_eq_ok (h : groups field interval documents = .ok found) :
    Grouped field interval documents found := by
  by_cases hp : ∀ document ∈ documents, Placed field interval document
  · obtain ⟨next, hnext, hg⟩ := groups_grouped hp
    rw [hnext] at h
    rwa [Except.ok.inj h] at hg
  · simp only [Classical.not_forall] at hp
    obtain ⟨document, hmem, hnot⟩ := hp
    rw [groups_eq_error ⟨document, hmem, hnot⟩] at h
    cases h

/-- The documents of a group are some of those that are grouped. -/
theorem Grouped.mem_of_mem (hg : Grouped field interval documents found)
    {entry : Instant × List Document} (h : entry ∈ found) (hdocument : document ∈ entry.2) :
    document ∈ documents := by
  have hmembers := hg.get? entry.1
  rw [hg.sorted.get?_of_mem h, Option.getD_some] at hmembers
  rw [hmembers] at hdocument
  exact (List.mem_filter.mp hdocument).1

/-! ## Counts -/

/-- How many documents each group has. -/
def tally (found : Groups) : List (Instant × Nat) :=
  found.map fun (start, group) => (start, group.length)

theorem Grouped.get?_tally (hg : Grouped field interval documents found) (start : Instant) :
    Keyed.get? start (tally found)
      = if (members field interval documents start).length = 0 then none
        else some (members field interval documents start).length := by
  rw [tally, Keyed.get?_map, ← hg.get? start]
  cases hget : Keyed.get? start found with
  | none => rfl
  | some group =>
    have hne := hg.nonempty start group hget
    rw [Option.getD_some, if_neg (by simpa using hne)]
    rfl

/-- **The counts do not depend on the order of the documents.** -/
theorem tally_groups_perm (h : documents.Perm others) (field : String) (interval : Interval) :
    (groups field interval documents).map tally = (groups field interval others).map tally := by
  by_cases hp : ∀ document ∈ documents, Placed field interval document
  · obtain ⟨found, hfound, hg⟩ := groups_grouped hp
    obtain ⟨found', hfound', hg'⟩ := groups_grouped fun d hd => hp d (h.mem_iff.mpr hd)
    rw [hfound, hfound', Except.map, Except.map]
    -- both are sorted, so it is enough that look-ups agree
    have hsame : tally found = tally found' := by
      refine (hg.sorted.map _).ext (hg'.sorted.map _) fun start => ?_
      have hlength : (members field interval documents start).length
          = (members field interval others start).length := (h.filter _).length_eq
      show Keyed.get? start (tally found) = Keyed.get? start (tally found')
      rw [hg.get?_tally, hg'.get?_tally, hlength]
    rw [hsame]
  · simp only [Classical.not_forall] at hp
    obtain ⟨document, hmem, hnot⟩ := hp
    rw [groups_eq_error ⟨document, hmem, hnot⟩, groups_eq_error ⟨document, h.mem_iff.mp hmem, hnot⟩]

/-- The groups of documents are not empty, so each counts at least one. -/
theorem Grouped.one_le_of_mem_tally (hg : Grouped field interval documents found)
    {entry : Instant × Nat} (h : entry ∈ tally found) : 1 ≤ entry.2 := by
  obtain ⟨⟨start, group⟩, hmem, rfl⟩ := List.mem_map.mp h
  exact List.length_pos_iff.mpr (hg.nonempty start group (hg.sorted.get?_of_mem hmem))

/-! ## Results -/

end Histogram

/-- What aggregations give for any documents; they have no faults. -/
def Aggregation.Gives (sorter : Sorter) (aggregations : List (String × Aggregation))
    (inner : List Document → List (String × Json)) : Prop :=
  ∀ fields members, runInto sorter fields members aggregations
    = .ok (Keyed.insertAll (inner members) fields)

namespace Histogram

/-- What a result says of a bucket, `inner` being computed from its documents. -/
def bucketJson (inner : List Document → List (String × Json)) (group : Instant × List Document) :
    Json :=
  .obj (Keyed.insertAll (inner group.2)
    [("doc_count", .nat group.2.length), ("key", .int group.1.epochMillis),
     ("key_as_string", .str group.1.renderMillis)])

/-- What a result says of groups. -/
def bucketsJson (inner : List Document → List (String × Json)) (found : Groups) : Json :=
  .obj [("buckets", .arr (found.map (bucketJson inner)))]

/-- **The result of a grouping that leaves out empty buckets says of each group how many documents
it has**, and what the aggregations inside give for them, if those have no faults. -/
theorem run_histogram {sorter : Sorter} {aggregations : List (String × Aggregation)}
    {inner : List Document → List (String × Json)} (h : Aggregation.Gives sorter aggregations inner)
    (documents : List Document) (field : String) (interval : Interval) :
    Aggregation.run sorter documents (.histogram field interval 1 aggregations)
      = (groups field interval documents).map (bucketsJson inner) := by
  rw [Aggregation.run]
  cases hgroups : groups field interval documents with
  | error e => rfl
  | ok found =>
    have hbuckets : found.mapM (fun entry => do
          let body ← Aggregation.runInto sorter
            [("doc_count", .nat entry.2.length), ("key", .int entry.1.epochMillis),
             ("key_as_string", .str entry.1.renderMillis)] entry.2 aggregations
          return Json.obj body)
        = .ok (found.map (bucketJson inner)) :=
      mapM_eq_ok fun entry _ => by rw [h _ _]; rfl
    -- a group has at least one document, so none is left out
    have hall : (found.filter fun entry => 1 ≤ entry.2.length) = found := by
      refine List.filter_eq_self.mpr fun entry hmem => ?_
      have := (grouped_of_eq_ok hgroups).one_le_of_mem_tally
        (List.mem_map_of_mem (f := fun entry => (entry.1, entry.2.length)) hmem)
      simpa using this
    have hif : ∀ left right : Groups, (if 1 = 0 then left else right) = right := fun _ _ => rfl
    simp only [ok_bind, hif, hbuckets, hall, bucketsJson, Except.map]
    rfl

end Histogram

end LogSearch
