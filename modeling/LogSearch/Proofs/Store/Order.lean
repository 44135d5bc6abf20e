import LogSearch.Proofs.Store.Buckets

/-!
# The order of buckets

Buckets are compared by the criteria of an order, one after the other, and by their keys in the end.
Whatever the criteria, two buckets compare the same from either side (`cmp_swap`), so a bucket is
equal to itself.

Whether the comparison is transitive depends on the keys alone: every other criterion is transitive
(`compareBy_trans`). Numbers stand in the order of their places and texts in that of their letters,
but a number and a text are compared by identity, and the identities of numbers do not have the
order of the numbers. So a text between the identities of two numbers may make a circle of the
three.

Main statements: the comparison is a total preorder of the buckets of a grouping, whatever the
order, exactly if there is no such text (`cmp_transitive_iff`), and then they are sorted
(`sort_pairwise`).
-/

namespace LogSearch.TermBucket

variable {orders : List TermsOrder} {order : TermsOrder} {buckets : List TermBucket}
  {a b c : TermBucket}

/-! ## From either side -/

theorem compareKeys_swap (a b : TermBucket) : compareKeys b a = (compareKeys a b).swap := by
  have hidentity : compare b.identity a.identity = (compare a.identity b.identity).swap :=
    Std.OrientedCmp.eq_swap
  unfold compareKeys
  cases a.key.toBinary64? with
  | none => cases b.key.toBinary64? <;> exact hidentity
  | some x =>
    cases b.key.toBinary64? with
    | none => exact hidentity
    | some y =>
      dsimp only
      rw [Binary64.compare?_swap x y]
      cases x.compare? y <;> rfl

theorem compareBy_swap (order : TermsOrder) (a b : TermBucket) :
    compareBy order b a = (compareBy order a b).swap := by
  obtain ⟨target, ascending⟩ := order
  cases target with
  | count =>
    have hcount : compare b.count a.count = (compare a.count b.count).swap :=
      Std.OrientedCmp.eq_swap
    cases ascending <;> simp [compareBy, hcount]
  | key => cases ascending <;> simp [compareBy, compareKeys_swap a b]
  | metric aggregation name =>
    simp only [compareBy]
    cases a.metric? aggregation name with
    | none => cases b.metric? aggregation name <;> rfl
    | some x =>
      cases b.metric? aggregation name with
      | none => rfl
      | some y =>
        dsimp only
        rw [Binary64.compare?_swap x y]
        cases x.compare? y <;> cases ascending <;> simp

theorem cmp_swap (orders : List TermsOrder) (a b : TermBucket) :
    cmp orders b a = (cmp orders a b).swap := by
  induction orders with
  | nil => exact compareKeys_swap a b
  | cons order orders ih =>
    rw [cmp, cmp, compareBy_swap order a b, ih, Ordering.swap_then]

instance : Std.OrientedCmp compareKeys where
  eq_swap := compareKeys_swap _ _

instance (orders : List TermsOrder) : Std.OrientedCmp (cmp orders) where
  eq_swap := cmp_swap orders _ _

/-! ## Transitive comparisons -/

section

variable {f g : TermBucket → TermBucket → Ordering}

theorem TransOn.transCmp (h : TransOn buckets f) (hswap : ∀ a b, f b a = (f a b).swap) :
    Std.TransCmp fun a b : { bucket // bucket ∈ buckets } => f a b where
  eq_swap := hswap _ _
  isLE_trans {a b c} := h a a.2 b b.2 c c.2

theorem TransOn.lt_trans (h : TransOn buckets f) (hswap : ∀ a b, f b a = (f a b).swap)
    (ha : a ∈ buckets) (hb : b ∈ buckets) (hc : c ∈ buckets) (hab : f a b = .lt)
    (hbc : f b c = .lt) : f a c = .lt :=
  @Std.TransCmp.lt_trans _ _ (h.transCmp hswap) ⟨a, ha⟩ ⟨b, hb⟩ ⟨c, hc⟩ hab hbc

/-- One comparison after another is transitive if both are. -/
theorem TransOn.then (hf : TransOn buckets f) (hfswap : ∀ a b, f b a = (f a b).swap)
    (hg : TransOn buckets g) (hgswap : ∀ a b, g b a = (g a b).swap) :
    TransOn buckets fun a b => (f a b).then (g a b) := by
  have := hf.transCmp hfswap
  have := hg.transCmp hgswap
  have hlex : Std.TransCmp (compareLex (fun a b : { bucket // bucket ∈ buckets } => f a b)
      fun a b => g a b) := inferInstance
  intro a ha b hb c hc hab hbc
  exact hlex.isLE_trans (a := ⟨a, ha⟩) (b := ⟨b, hb⟩) (c := ⟨c, hc⟩) hab hbc

/-- The opposite of a transitive comparison is transitive. -/
theorem TransOn.directed (hf : TransOn buckets f) (hswap : ∀ a b, f b a = (f a b).swap)
    (ascending : Bool) : TransOn buckets fun a b => if ascending then f a b else (f a b).swap := by
  cases ascending with
  | true => exact hf
  | false =>
    intro a ha b hb c hc hab hbc
    simp only [Bool.false_eq_true, if_false, ← hswap] at hab hbc ⊢
    exact hf c hc b hb a ha hbc hab

end

/-- Numbers in a bucket are compared by their places, and a bucket without comes last. -/
theorem compareBy_metric_trans (hplaced : ∀ bucket ∈ buckets, bucket.Placed)
    (aggregation name : String) (ascending : Bool) :
    TransOn buckets (compareBy ⟨.metric aggregation name, ascending⟩) := by
  intro a ha b hb c hc hab hbc
  have hplace : ∀ bucket ∈ buckets, ∀ x, bucket.metric? aggregation name = some x →
      ∃ p, x.place? = some p := by
    intro bucket hbucket x hx
    have hne := (hplaced bucket hbucket).metric aggregation name
    rw [hx, ne_eq, Option.some.injEq, ← Binary64.place?_eq_none_iff] at hne
    exact Option.ne_none_iff_exists'.mp hne
  simp only [compareBy] at hab hbc ⊢
  cases hx : a.metric? aggregation name with
  | none =>
    cases hy : b.metric? aggregation name with
    | some y => simp [hx, hy] at hab
    | none =>
      cases hz : c.metric? aggregation name with
      | some z => simp [hy, hz] at hbc
      | none => rfl
  | some x =>
    cases hz : c.metric? aggregation name with
    | none => rfl
    | some z =>
      cases hy : b.metric? aggregation name with
      | none => simp [hy, hz] at hbc
      | some y =>
        obtain ⟨p, hp⟩ := hplace a ha x hx
        obtain ⟨q, hq⟩ := hplace b hb y hy
        obtain ⟨r, hr⟩ := hplace c hc z hz
        simp only [hx, hy, hz, Binary64.compare?_of_place? hp hq,
          Binary64.compare?_of_place? hq hr, Binary64.compare?_of_place? hp hr,
          Option.getD_some] at hab hbc ⊢
        cases ascending with
        | true =>
          simp only [if_true] at hab hbc ⊢
          exact Std.TransCmp.isLE_trans hab hbc
        | false =>
          simp only [Bool.false_eq_true, if_false, ← Std.OrientedCmp.eq_swap] at hab hbc ⊢
          exact Std.TransCmp.isLE_trans hbc hab

/-- **Every criterion is transitive if the keys are.** -/
theorem compareBy_trans (hplaced : ∀ bucket ∈ buckets, bucket.Placed)
    (hkeys : TransOn buckets compareKeys) (order : TermsOrder) :
    TransOn buckets (compareBy order) := by
  obtain ⟨target, ascending⟩ := order
  cases target with
  | count =>
    have hcount : TransOn buckets fun a b => compare a.count b.count :=
      fun _ _ _ _ _ _ => Std.TransCmp.isLE_trans
    exact hcount.directed (fun _ _ => Std.OrientedCmp.eq_swap) ascending
  | key => exact hkeys.directed compareKeys_swap ascending
  | metric aggregation name => exact compareBy_metric_trans hplaced aggregation name ascending

/-- **The order is transitive if the keys are.** -/
theorem cmp_trans (hplaced : ∀ bucket ∈ buckets, bucket.Placed)
    (hkeys : TransOn buckets compareKeys) (orders : List TermsOrder) :
    TransOn buckets (cmp orders) := by
  induction orders with
  | nil => exact hkeys
  | cons order orders ih =>
    exact (compareBy_trans hplaced hkeys order).then (compareBy_swap order) ih (cmp_swap orders)

/-! ## Keys -/

/-- Whether the key of a bucket is a number. -/
def isNumber (bucket : TermBucket) : Bool := bucket.key.toBinary64?.isSome

theorem compareKeys_of_text (h : a.isNumber = false ∨ b.isNumber = false) :
    compareKeys a b = compare a.identity b.identity := by
  unfold compareKeys
  unfold isNumber at h
  cases ha : a.key.toBinary64? with
  | none => rfl
  | some x =>
    cases hb : b.key.toBinary64? with
    | none => rfl
    | some y => simp [ha, hb] at h

theorem isLE_of_text (h : a.isNumber = false ∨ b.isNumber = false) :
    (compareKeys a b).isLE ↔ a.identity ≤ b.identity := by
  rw [compareKeys_of_text h, ← Ordering.ne_gt_iff_isLE]
  exact compare_le_iff_le

/-- Where the key of a bucket stands, if it is a number. -/
def place? (bucket : TermBucket) : Option (WithBot (WithTop ℚ)) :=
  bucket.key.toBinary64?.bind Binary64.place?

theorem compareKeys_of_place? {p q : WithBot (WithTop ℚ)} (ha : a.place? = some p)
    (hb : b.place? = some q) : compareKeys a b = compare p q := by
  obtain ⟨x, hx, hp⟩ := Option.bind_eq_some_iff.mp ha
  obtain ⟨y, hy, hq⟩ := Option.bind_eq_some_iff.mp hb
  rw [compareKeys, hx, hy]
  dsimp only
  rw [Binary64.compare?_of_place? hp hq, Option.getD_some]

theorem Placed.exists_place? (h : a.Placed) (hnumber : a.isNumber = true) :
    ∃ p, a.place? = some p := by
  obtain ⟨x, hx⟩ := Option.isSome_iff_exists.mp hnumber
  have hne := h.key
  rw [Json.Placed, hx, ne_eq, Option.some.injEq, ← Binary64.place?_eq_none_iff] at hne
  rw [place?, hx]
  exact Option.ne_none_iff_exists'.mp hne

theorem compareKeys_trans_of_numbers (ha : a.Placed ∧ a.isNumber) (hb : b.Placed ∧ b.isNumber)
    (hc : c.Placed ∧ c.isNumber) (hab : (compareKeys a b).isLE) (hbc : (compareKeys b c).isLE) :
    (compareKeys a c).isLE := by
  obtain ⟨p, hp⟩ := ha.1.exists_place? ha.2
  obtain ⟨q, hq⟩ := hb.1.exists_place? hb.2
  obtain ⟨r, hr⟩ := hc.1.exists_place? hc.2
  rw [compareKeys_of_place? hp hq] at hab
  rw [compareKeys_of_place? hq hr] at hbc
  rw [compareKeys_of_place? hp hr]
  exact Std.TransCmp.isLE_trans hab hbc

/-- A text whose identity lies between those of two numbers lies between the numbers. -/
def Agree (buckets : List TermBucket) : Prop :=
  ∀ a ∈ buckets, ∀ b ∈ buckets, ∀ text ∈ buckets, a.isNumber → b.isNumber → text.isNumber = false →
    a.identity < text.identity → text.identity < b.identity → compareKeys a b = .lt

/-- Keys of one kind agree. -/
theorem agree_of_uniform (h : (∀ bucket ∈ buckets, bucket.isNumber = true)
    ∨ ∀ bucket ∈ buckets, bucket.isNumber = false) : Agree buckets := by
  intro a ha b _ text htext hnumber _ hnone
  rcases h with h | h
  · rw [h text htext] at hnone
    cases hnone
  · rw [h a ha] at hnumber
    cases hnumber

/-- Keys that are transitive agree: a text between the identities of two numbers is between them. -/
theorem agree_of_trans (htrans : TransOn buckets compareKeys) : Agree buckets := by
  intro a ha b hb text htext _ _ hnone hlow hhigh
  refine htrans.lt_trans compareKeys_swap ha htext hb ?_ ?_
  · rw [compareKeys_of_text (.inr hnone)]
    exact compare_lt_iff_lt.mpr hlow
  · rw [compareKeys_of_text (.inl hnone)]
    exact compare_lt_iff_lt.mpr hhigh

/-- The identity of a number is none of a text. -/
theorem identity_ne_of_text (hnodup : (buckets.map TermBucket.identity).Nodup) (ha : a ∈ buckets)
    (hb : b ∈ buckets) (hna : a.isNumber = true) (hnb : b.isNumber = false) :
    a.identity ≠ b.identity := by
  intro heq
  rw [List.inj_on_of_nodup_map hnodup ha hb heq, hnb] at hna
  cases hna

/-- Keys that agree are transitive. -/
theorem Agree.trans (hagree : Agree buckets) (hplaced : ∀ bucket ∈ buckets, bucket.Placed)
    (hnodup : (buckets.map TermBucket.identity).Nodup) : TransOn buckets compareKeys := by
  have hne : ∀ {a b : TermBucket}, a ∈ buckets → b ∈ buckets → a.isNumber = true →
      b.isNumber = false → a.identity ≠ b.identity := identity_ne_of_text hnodup
  intro a ha b hb c hc hab hbc
  -- only two numbers and a text are not all compared in one way
  cases hna : a.isNumber with
  | false =>
    rw [isLE_of_text (.inl hna)] at hab ⊢
    cases hnb : b.isNumber with
    | false =>
      rw [isLE_of_text (.inl hnb)] at hbc
      exact le_trans hab hbc
    | true =>
      cases hnc : c.isNumber with
      | false =>
        rw [isLE_of_text (.inr hnc)] at hbc
        exact le_trans hab hbc
      | true =>
        by_contra hca
        have hlt := lt_of_le_of_ne hab (hne hb ha hnb hna).symm
        have hback := hagree c hc b hb a ha hnc hnb hna (not_le.mp hca) hlt
        exact Std.OrientedCmp.not_lt_of_isLE hbc hback
  | true =>
    cases hnb : b.isNumber with
    | false =>
      rw [isLE_of_text (.inr hnb)] at hab
      rw [isLE_of_text (.inl hnb)] at hbc
      cases hnc : c.isNumber with
      | false =>
        rw [isLE_of_text (.inr hnc)]
        exact le_trans hab hbc
      | true =>
        have hlow := lt_of_le_of_ne hab (hne ha hb hna hnb)
        have hhigh := lt_of_le_of_ne hbc (hne hc hb hnc hnb).symm
        rw [hagree a ha c hc b hb hna hnc hnb hlow hhigh]
        rfl
    | true =>
      cases hnc : c.isNumber with
      | false =>
        rw [isLE_of_text (.inr hnc)] at hbc ⊢
        by_contra hca
        have hlt := lt_of_le_of_ne hbc (hne hb hc hnb hnc)
        have hback := hagree b hb a ha c hc hnb hna hnc hlt (not_le.mp hca)
        exact Std.OrientedCmp.not_lt_of_isLE hab hback
      | true =>
        exact compareKeys_trans_of_numbers ⟨hplaced a ha, hna⟩ ⟨hplaced b hb, hnb⟩
          ⟨hplaced c hc, hnc⟩ hab hbc

/-! ## Sorting -/

/-- Putting a bucket in keeps the reverse order. -/
theorem pairwise_insert (htrans : TransOn buckets (cmp orders)) {bucket : TermBucket}
    {placed : List TermBucket} (hbucket : bucket ∈ buckets) (hplaced : ∀ b ∈ placed, b ∈ buckets)
    (h : placed.Pairwise fun a b => (cmp orders b a).isLE) :
    (insert orders bucket placed).Pairwise fun a b => (cmp orders b a).isLE := by
  induction placed with
  | nil => exact List.pairwise_singleton _ _
  | cons last others ih =>
    obtain ⟨hlast, hothers⟩ := List.pairwise_cons.mp h
    have hmem := hplaced last List.mem_cons_self
    have hmems := fun b hb => hplaced b (List.mem_cons_of_mem _ hb)
    unfold insert
    split
    · next hlt =>
      refine List.pairwise_cons.mpr ⟨fun b hb => ?_, ih hmems hothers⟩
      rcases List.mem_cons.mp ((insert_perm orders bucket others).mem_iff.mp hb) with rfl | hb
      · rw [hlt]
        rfl
      · exact hlast b hb
    · next hge =>
      have hle : (cmp orders last bucket).isLE := by
        by_contra hnot
        exact hge (Std.OrientedCmp.lt_of_not_isLE hnot)
      refine List.pairwise_cons.mpr ⟨fun b hb => ?_, h⟩
      rcases List.mem_cons.mp hb with rfl | hb
      · exact hle
      · exact htrans b (hmems b hb) last hmem bucket hbucket (hlast b hb) hle

/-- **Buckets are sorted if their order is transitive.** -/
theorem sort_pairwise (htrans : TransOn buckets (cmp orders)) :
    (sort orders buckets).Pairwise fun a b => (cmp orders a b).isLE := by
  -- what is put in stays among the buckets and in reverse order
  have hrun : ∀ rest placed : List TermBucket, (∀ b ∈ rest, b ∈ buckets) →
      (∀ b ∈ placed, b ∈ buckets) → (placed.Pairwise fun a b => (cmp orders b a).isLE) →
      (rest.foldl (fun placed bucket => insert orders bucket placed) placed).Pairwise
        fun a b => (cmp orders b a).isLE := by
    intro rest
    induction rest with
    | nil => exact fun _ _ _ h => h
    | cons bucket rest ih =>
      intro placed hrest hplaced h
      obtain ⟨hbucket, hrest⟩ := List.forall_mem_cons.mp hrest
      refine ih _ hrest (fun b hb => ?_) (pairwise_insert htrans hbucket hplaced h)
      rcases List.mem_cons.mp ((insert_perm orders bucket placed).mem_iff.mp hb) with rfl | hb
      · exact hbucket
      · exact hplaced b hb
  rw [sort, List.pairwise_reverse]
  exact hrun buckets [] (fun _ h => h) (fun _ h => absurd h List.not_mem_nil) .nil

/-! ## What comes before -/

/-- By count, and by key if the counts are equal. -/
theorem isLE_cmp_count {ascending : Bool} :
    (cmp [⟨.count, ascending⟩, ⟨.key, true⟩] a b).isLE
      ↔ (if ascending then a.count < b.count else b.count < a.count)
        ∨ a.count = b.count ∧ (compareKeys a b).isLE := by
  have hcount : compareBy ⟨.count, ascending⟩ a b
      = if ascending then compare a.count b.count else (compare a.count b.count).swap := rfl
  have hkey : cmp [⟨.key, true⟩] a b = compareKeys a b := Ordering.then_self
  rw [cmp, hkey, Ordering.isLE_then_iff_or, hcount]
  cases ascending <;> simp [Nat.compare_eq_lt, Nat.compare_eq_gt]

/-- By key only. -/
theorem isLE_cmp_key {ascending : Bool} :
    (cmp [⟨.key, ascending⟩] a b).isLE
      ↔ (if ascending then compareKeys a b else compareKeys b a).isLE := by
  have hkey : compareBy ⟨.key, ascending⟩ a b
      = if ascending then compareKeys a b else (compareKeys a b).swap := rfl
  rw [cmp, cmp, hkey, compareKeys_swap a b]
  cases ascending <;> cases compareKeys a b <;> decide

/-- A bucket without the number that buckets are ordered by has none with it behind. -/
theorem metric?_eq_none_of_isLE {aggregation name : String} {ascending : Bool}
    (h : (cmp (⟨.metric aggregation name, ascending⟩ :: orders) a b).isLE)
    (ha : a.metric? aggregation name = none) : b.metric? aggregation name = none := by
  cases hb : b.metric? aggregation name with
  | none => rfl
  | some y => simp [cmp, compareBy, ha, hb] at h

/-! ## Total preorders -/

/-- **When buckets have one order.** For every order the comparison of the buckets of a grouping is
reflexive and the same from either side; it is transitive for all of them exactly if the keys agree,
which they do if all are numbers or none is. -/
theorem cmp_transitive_iff {sorter : Sorter} {aggregations : List (String × Aggregation)}
    {field : String} {documents : List Document}
    (h : TermGroup.buckets? sorter aggregations field documents = .ok buckets) :
    (∀ orders, ∀ a ∈ buckets, ∀ b ∈ buckets,
        cmp orders a a = .eq ∧ cmp orders a b = (cmp orders b a).swap)
      ∧ ((∀ orders, ∀ a ∈ buckets, ∀ b ∈ buckets, ∀ c ∈ buckets,
          (cmp orders a b).isLE → (cmp orders b c).isLE → (cmp orders a c).isLE) ↔ Agree buckets)
      ∧ ((∀ bucket ∈ buckets, bucket.isNumber = true)
          ∨ (∀ bucket ∈ buckets, bucket.isNumber = false) → Agree buckets) := by
  have hplaced : ∀ bucket ∈ buckets, bucket.Placed :=
    fun _ hbucket => TermGroup.placed_of_mem_buckets? h hbucket
  have hkeys : TransOn buckets compareKeys ↔ Agree buckets :=
    ⟨agree_of_trans, fun hagree => hagree.trans hplaced (TermGroup.nodup_buckets? h)⟩
  refine ⟨fun orders a _ b _ => ⟨Std.ReflCmp.compare_self, cmp_swap orders b a⟩, ⟨?_, ?_⟩,
    agree_of_uniform⟩
  · intro htrans
    exact hkeys.mp (htrans [])
  · intro hagree orders
    exact cmp_trans hplaced (hkeys.mpr hagree) orders

/-- A text behind all identities of numbers does no harm, with statistics in the buckets. -/
theorem cmp_transitive_iff_mixed :
    let sorter : Sorter := .insertion 20
    let document (n : Json) : Document := ⟨.epoch, [("n", n), ("v", n)]⟩
    let documents := [document (.int 2), document (.str "x"), document (.int 10)]
    let inner : List (String × Aggregation) := [("s", .metric .stats "v")]
    ∃ buckets, TermGroup.buckets? sorter inner "n" documents = .ok buckets ∧ buckets.length = 3
      ∧ ∀ orders, ∀ a ∈ buckets, ∀ b ∈ buckets, ∀ c ∈ buckets,
        (cmp orders a b).isLE → (cmp orders b c).isLE → (cmp orders a c).isLE := by
  intro sorter document documents inner
  have hbuckets : TermGroup.buckets? sorter inner "n" documents = .ok _ := rfl
  refine ⟨_, hbuckets, rfl, ?_⟩
  refine (cmp_transitive_iff hbuckets).2.1.mpr ?_
  unfold Agree
  decide +kernel

/-- Two is before ten and ten before the text `1x`, but that is before two. -/
theorem cmp_transitive_fails :
    let sorter : Sorter := .insertion 20
    let document (n : Json) : Document := ⟨.epoch, [("n", n)]⟩
    let documents := [document (.int 2), document (.int 10), document (.str "1x")]
    let two : TermBucket := ⟨"2", .int 2, 1, [("doc_count", .nat 1), ("key", .int 2)]⟩
    let ten : TermBucket := ⟨"10", .int 10, 1, [("doc_count", .nat 1), ("key", .int 10)]⟩
    let text : TermBucket := ⟨"1x", .str "1x", 1, [("doc_count", .nat 1), ("key", .str "1x")]⟩
    TermGroup.buckets? sorter [] "n" documents = .ok [two, ten, text]
      ∧ ∃ orders, TermsOrder.ofJson (.obj [("_key", .str "asc")]) = .ok orders
        ∧ cmp orders two ten = .lt ∧ cmp orders ten text = .lt ∧ cmp orders two text = .gt := by
  intro sorter document documents two ten text
  have hbuckets : TermGroup.buckets? sorter [] "n" documents = .ok [two, ten, text] := rfl
  refine ⟨hbuckets, [⟨.key, true⟩], rfl, ?_⟩
  decide +kernel

end LogSearch.TermBucket
