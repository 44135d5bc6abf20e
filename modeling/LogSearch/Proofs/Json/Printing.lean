import LogSearch.Json.Printer
import LogSearch.Proofs.Json.Reading

/-!
# What is printed is read back

The text that `Json.pretty` makes of a value is read as that value, if the value has no
floating-point numbers, its integers have at most 64 bits and it is not nested too deeply
(`Json.Plain`). Of a text this says that every escape stands for its character; of arrays and objects
it is proved along the value, item by item (`Json.Plain.prints`). A reader that wants only some parts
reads the same value if it wants all parts that the value has (`Shape.Covers`).

Main statements: `Json.parse?_pretty`, `Json.parseAs?_pretty`.
-/

namespace LogSearch

open JsonSyntax TextUnit

namespace Json

/-! ## Texts -/

/-- A character is escaped by a letter, by its number, or not at all. -/
theorem escapeChar_cases (c : Char) :
    (∃ d, escapeChar c = ['\\', d] ∧ d ≠ 'u' ∧ escaped? d = some c)
      ∨ (c.toNat < 0x20 ∧ escapeChar c
          = ['\\', 'u', '0', '0', hexDigit (c.toNat / 16), hexDigit (c.toNat % 16)])
      ∨ (escapeChar c = [c] ∧ c ≠ '"' ∧ c ≠ '\\' ∧ 0x20 ≤ c.toNat) := by
  rw [escapeChar]
  split_ifs with hquote hback hline hreturn htab hbackspace hfeed hcontrol
  · exact .inl ⟨_, rfl, by decide, by rw [hquote]; rfl⟩
  · exact .inl ⟨_, rfl, by decide, by rw [hback]; rfl⟩
  · exact .inl ⟨_, rfl, by decide, by rw [hline]; rfl⟩
  · exact .inl ⟨_, rfl, by decide, by rw [hreturn]; rfl⟩
  · exact .inl ⟨_, rfl, by decide, by rw [htab]; rfl⟩
  · exact .inl ⟨_, rfl, by decide, by rw [hbackspace]; rfl⟩
  · exact .inl ⟨_, rfl, by decide, by rw [hfeed]; rfl⟩
  · exact .inr (.inl ⟨hcontrol, rfl⟩)
  · exact .inr (.inr ⟨rfl, hquote, hback, Nat.not_lt.mp hcontrol⟩)

theorem hexUnit?_hexDigit {n : Nat} (h : n < 0x20) :
    hexUnit? '0' '0' (hexDigit (n / 16)) (hexDigit (n % 16)) = some n := by
  interval_cases n <;> rfl

/-- A character is written as one unit, which stands for it. -/
theorem readText_escapeChar (c : Char) :
    ∃ unit, (∀ done rest, readText done (escapeChar c ++ rest) = readText (unit :: done) rest)
      ∧ ∀ before more, decodeFrom before none (unit :: more) = decodeFrom (c :: before) none more := by
  have hplain : ∀ before more,
      decodeFrom before none (.char c :: more) = decodeFrom (c :: before) none more :=
    fun _ _ => rfl
  rcases escapeChar_cases c with ⟨d, hd, hne, hc⟩ | ⟨hlt, hcode⟩ | ⟨hc, hquote, hback, hge⟩
  · refine ⟨.char c, fun done rest => ?_, hplain⟩
    rw [hd, List.cons_append, List.singleton_append, readText, hc]
    intro _ _ _ _ _ heq
    exact absurd heq hne
  · refine ⟨.code c.toNat, fun done rest => ?_, fun before more => ?_⟩
    · rw [hcode]
      simp only [List.cons_append, List.nil_append]
      rw [readText, hexUnit?_hexDigit hlt]
    · have hjoin : joinUnit none c.toNat = some (.inl c) := by
        rw [joinUnit, if_pos (by simp; omega), Char.ofNat_toNat]
      rw [decodeFrom, hjoin]
  · refine ⟨.char c, fun done rest => ?_, hplain⟩
    rw [hc, List.singleton_append, readText, if_neg]
    · simp [hback]
      exact hge
    · exact hquote
    · intro _ _ _ _ _ heq
      exact absurd heq hback
    · intro _ _ heq
      exact absurd heq hback

/-- A text is written as units that stand for it. -/
theorem readText_flatMap (cs : List Char) :
    ∃ units, (∀ done rest, readText done (cs.flatMap escapeChar ++ '"' :: rest)
        = some (done.reverse ++ units, rest))
      ∧ ∀ before, decodeFrom before none units = some (before.reverse ++ cs) := by
  induction cs with
  | nil => exact ⟨[], fun done rest => by simp [readText], fun before => by simp [decodeFrom]⟩
  | cons c cs ih =>
    obtain ⟨unit, hread, hunit⟩ := readText_escapeChar c
    obtain ⟨units, hunits, hdecode⟩ := ih
    refine ⟨unit :: units, fun done rest => ?_, fun before => ?_⟩
    · rw [List.flatMap_cons, List.append_assoc, hread, hunits]
      simp
    · rw [hunit, hdecode]
      simp

theorem toList_renderText (s : String) (rest : List Char) : (renderText s).toList ++ rest
    = '"' :: (s.toList.flatMap escapeChar ++ '"' :: rest) := by
  simp [renderText]

/-- A text in quotes is read as units that stand for it. -/
theorem exists_readText (s : String) : ∃ units,
    (∀ rest, readText [] (s.toList.flatMap escapeChar ++ '"' :: rest) = some (units, rest))
      ∧ decode? units = some s := by
  obtain ⟨units, hunits, hdecode⟩ := readText_flatMap s.toList
  refine ⟨units, hunits [], ?_⟩
  rw [decode?, hdecode, Option.map_some, List.reverse_nil, List.nil_append, String.ofList_toList]

/-! ## Numbers -/

theorem toList_render_int (n : Int) : (JsonNumber.int n).render.toList
    = if 0 ≤ n then decimalDigits n.toNat else '-' :: decimalDigits (-n).toNat := by
  change (toString n).toList = _
  rw [Int.toString_eq_repr, Int.repr_eq_if]
  split
  · exact Nat.toList_repr
  · rw [String.toList_append, Nat.toList_repr]
    rfl

theorem value?_decimalDigits (negative : Bool) (n : Nat) :
    NumberSyntax.value? ⟨negative, decimalDigits n, [], none⟩ = NumberSyntax.whole? negative n := by
  rw [NumberSyntax.value?, List.append_nil, natOfDigits_eq, decimalDigits,
    Nat.ofDigitChars_ten_toDigits]
  rfl

/-! ## Values -/

/-- Whether a value can be written without loss: it has no floating-point numbers, its integers have
at most 64 bits, and at most `depth` arrays and objects are inside each other. -/
inductive Plain : Nat → Json → Prop
  | null {depth : Nat} : Plain depth .null
  | bool {depth : Nat} (flag : Bool) : Plain depth (.bool flag)
  | int {depth : Nat} {n : Int} (low : -0x8000000000000000 ≤ n) (high : n < 0x10000000000000000) :
    Plain depth (.int n)
  | str {depth : Nat} (text : String) : Plain depth (.str text)
  | arr {depth : Nat} {items : List Json} (h : ∀ item ∈ items, Plain depth item) :
    Plain (depth + 1) (.arr items)
  | obj {depth : Nat} {fields : List (String × Json)} (h : ∀ field ∈ fields, Plain depth field.2) :
    Plain (depth + 1) (.obj fields)

/-- A text is read as a written form of a value wherever it stands after space, if what follows does
not go on with a number. -/
structure WrittenAs (depth : Nat) (value : Json) (text : List Char) (written : JsonSyntax) : Prop where
  value : written.value? depth = some value
  front : ∃ c cs, text = c :: cs ∧ isSpace c = false ∧ c ≠ ']'
  reads : ∀ {cs rest : List Char}, EndsNumber rest → skipSpace cs = text ++ rest →
    ReadsValue cs written rest

/-- Some written form of a value is read from a text. -/
def Prints (depth : Nat) (value : Json) (text : List Char) : Prop :=
  ∃ written, WrittenAs depth value text written

variable {depth : Nat}

theorem WrittenAs.skipSpace {value : Json} {text : List Char} {written : JsonSyntax}
    (h : WrittenAs depth value text written) (rest : List Char) :
    skipSpace (text ++ rest) = text ++ rest := by
  obtain ⟨c, cs, rfl, hc, -⟩ := h.front
  exact skipSpace_cons hc

theorem endsNumber_comma (rest : List Char) : EndsNumber (',' :: rest) := by
  intro c hc
  obtain rfl := Option.some.inj hc
  decide

theorem endsNumber_newline (k : Nat) (rest : List Char) :
    EndsNumber ((newline k).toList ++ rest) := by
  intro c hc
  rw [newline, String.toList_ofList] at hc
  obtain rfl := Option.some.inj hc
  decide

theorem skipSpace_newline (k : Nat) (cs : List Char) :
    skipSpace ((newline k).toList ++ cs) = skipSpace cs := by
  refine skipSpace_append fun c hc => ?_
  rw [newline, String.toList_ofList] at hc
  rcases List.mem_cons.mp hc with rfl | hc
  · rfl
  · rw [(List.mem_replicate.mp hc).2]
    rfl

theorem prints_null (k : Nat) : Prints depth .null (prettyAt k .null).toList := by
  have htext : (prettyAt k .null).toList = ['n', 'u', 'l', 'l'] := by simp [prettyAt, renderLeaf]
  rw [htext]
  exact ⟨.null, rfl, ⟨_, _, rfl, by decide, by decide⟩, fun _ h => readsValue_null h⟩

theorem prints_bool (flag : Bool) (k : Nat) :
    Prints depth (.bool flag) (prettyAt k (.bool flag)).toList := by
  cases flag with
  | false =>
    have htext : (prettyAt k (.bool false)).toList = ['f', 'a', 'l', 's', 'e'] := by
      simp [prettyAt, renderLeaf]
    rw [htext]
    exact ⟨.bool false, rfl, ⟨_, _, rfl, by decide, by decide⟩, fun _ h => readsValue_false h⟩
  | true =>
    have htext : (prettyAt k (.bool true)).toList = ['t', 'r', 'u', 'e'] := by
      simp [prettyAt, renderLeaf]
    rw [htext]
    exact ⟨.bool true, rfl, ⟨_, _, rfl, by decide, by decide⟩, fun _ h => readsValue_true h⟩

theorem isSpace_of_isDigit {c : Char} (h : c.isDigit = true) : isSpace c = false := by
  refine Bool.eq_false_iff.mpr fun hspace => ?_
  simp only [isSpace, Bool.or_eq_true, beq_iff_eq] at hspace
  obtain ((rfl | rfl) | rfl) | rfl := hspace <;> cases h

theorem prints_int {n : Int} (low : -0x8000000000000000 ≤ n) (high : n < 0x10000000000000000) :
    Prints depth (.int n) (JsonNumber.int n).render.toList := by
  rw [toList_render_int]
  split
  · next hn =>
    obtain ⟨c, cs, hcs, hdigit⟩ : ∃ c cs, decimalDigits n.toNat = c :: cs ∧ c.isDigit = true := by
      obtain ⟨c, cs, hcs⟩ := List.exists_cons_of_ne_nil (Nat.toDigits_ne_nil (n := n.toNat) (b := 10))
      exact ⟨c, cs, hcs, Nat.isDigit_of_mem_toDigits (by decide) (by decide)
        (hcs ▸ List.mem_cons_self)⟩
    refine ⟨.number ⟨false, decimalDigits n.toNat, [], none⟩, ?_, ⟨c, cs, hcs, ?_, ?_⟩, ?_⟩
    · rw [JsonSyntax.value?, value?_decimalDigits, NumberSyntax.whole?, if_neg (by simp),
        if_pos (by omega), Int.toNat_of_nonneg hn]
      rfl
    · exact isSpace_of_isDigit hdigit
    · rintro rfl
      cases hdigit
    · intro text rest hrest h
      rw [hcs, List.cons_append] at h
      refine readsValue_digit h hdigit ?_
      rw [← List.cons_append, ← hcs]
      exact readUnsigned_decimalDigits false n.toNat hrest
  · next hn =>
    refine ⟨.number ⟨true, decimalDigits (-n).toNat, [], none⟩, ?_,
      ⟨'-', _, rfl, by decide, by decide⟩, ?_⟩
    · rw [JsonSyntax.value?, value?_decimalDigits, NumberSyntax.whole?, if_pos rfl,
        if_pos (by omega), Int.toNat_of_nonneg (by omega), neg_neg]
      rfl
    · intro text rest hrest h
      exact readsValue_negative h (readUnsigned_decimalDigits true (-n).toNat hrest)

theorem prints_str (text : String) : Prints depth (.str text) (renderText text).toList := by
  obtain ⟨units, hunits, hdecode⟩ := exists_readText text
  refine ⟨.text units, ?_, ⟨'"', _, String.toList_ofList, by decide, by decide⟩, fun _ h => ?_⟩
  · rw [JsonSyntax.value?, hdecode]
    rfl
  · rw [toList_renderText] at h
    exact readsValue_text h (hunits _)

theorem toList_intercalate_cons (first next : String) (others : List String) :
    (",".intercalate (first :: next :: others)).toList
      = first.toList ++ ',' :: (",".intercalate (next :: others)).toList := by
  rw [String.intercalate_cons_cons, String.toList_append, String.toList_append, List.append_assoc]
  rfl

/-- Items that can each be printed can be printed one after the other. -/
theorem readsItems_prettyItems {items : List Json} (k j : Nat)
    (h : ∀ item ∈ items, Prints depth item (prettyAt k item).toList) (hne : items ≠ []) :
    ∃ written, values? depth written = some items ∧ ∀ rest,
      ReadsItems ((",".intercalate (prettyItems k items)).toList ++ ((newline j).toList ++ ']' :: rest))
        written rest := by
  induction items with
  | nil => exact absurd rfl hne
  | cons item others ih =>
    obtain ⟨⟨written, hw⟩, hothers⟩ := List.forall_mem_cons.mp h
    cases others with
    | nil =>
      refine ⟨[written], by simp [values?, hw.value], fun rest => ?_⟩
      rw [prettyItems, prettyItems, String.intercalate_singleton, String.toList_append,
        List.append_assoc]
      refine readsItems_last (hw.reads (endsNumber_newline j (']' :: rest)) ?_) ?_
      · rw [skipSpace_newline, hw.skipSpace]
      · rw [skipSpace_newline]
        rfl
    | cons next others =>
      obtain ⟨writtens, hvalues, hreads⟩ := ih hothers (List.cons_ne_nil _ _)
      refine ⟨written :: writtens, by simp [values?, hw.value, hvalues], fun rest => ?_⟩
      rw [prettyItems, prettyItems, toList_intercalate_cons, String.toList_append, List.append_assoc,
        List.append_assoc, List.cons_append]
      refine readsItems_cons (hw.reads (endsNumber_comma _) ?_) rfl (hreads rest)
      rw [skipSpace_newline, hw.skipSpace]
      rfl

/-- Fields whose values can be printed can be printed one after the other. -/
theorem readsFields_prettyFields {fields : List (String × Json)} (k j : Nat)
    (h : ∀ field ∈ fields, Prints depth field.2 (prettyAt k field.2).toList) (hne : fields ≠ []) :
    ∃ written, fieldValues? depth written = some fields ∧ ∀ rest,
      ReadsFields
        ((",".intercalate (prettyFields k fields)).toList ++ ((newline j).toList ++ '\x7d' :: rest))
        written rest := by
  induction fields with
  | nil => exact absurd rfl hne
  | cons field others ih =>
    obtain ⟨key, value⟩ := field
    obtain ⟨⟨written, hw⟩, hothers⟩ := List.forall_mem_cons.mp h
    obtain ⟨units, hunits, hdecode⟩ := exists_readText key
    -- the key, the colon and the value in front of anything
    have hfront : ∀ rest, skipSpace ((newline k ++ renderText key ++ ": "
        ++ prettyAt k value).toList ++ rest) = '"' :: (key.toList.flatMap escapeChar
          ++ '"' :: ':' :: ' ' :: ((prettyAt k value).toList ++ rest)) := by
      intro rest
      rw [String.toList_append, String.toList_append, String.toList_append, List.append_assoc,
        List.append_assoc, List.append_assoc, skipSpace_newline, toList_renderText]
      rfl
    have hspace : ∀ rest, skipSpace (' ' :: ((prettyAt k value).toList ++ rest))
        = (prettyAt k value).toList ++ rest := fun rest => hw.skipSpace rest
    cases others with
    | nil =>
      refine ⟨[(units, written)], by simp [fieldValues?, hw.value, hdecode], fun rest => ?_⟩
      rw [prettyFields, prettyFields, String.intercalate_singleton]
      refine readsFields_last (hfront _) (hunits _) rfl
        (hw.reads (endsNumber_newline j ('\x7d' :: rest)) (hspace _)) ?_
      rw [skipSpace_newline]
      rfl
    | cons next others =>
      obtain ⟨writtens, hvalues, hreads⟩ := ih hothers (List.cons_ne_nil _ _)
      refine ⟨(units, written) :: writtens, by simp [fieldValues?, hw.value, hdecode, hvalues],
        fun rest => ?_⟩
      rw [prettyFields, prettyFields, toList_intercalate_cons, List.append_assoc, List.cons_append]
      exact readsFields_cons (hfront _) (hunits _) rfl
        (hw.reads (endsNumber_comma _) (hspace _)) rfl (hreads rest)

theorem toList_prettyAt_arr (k : Nat) (item : Json) (others : List Json) (rest : List Char) :
    (prettyAt k (.arr (item :: others))).toList ++ rest
      = '[' :: ((",".intercalate (prettyItems (k + 1) (item :: others))).toList
        ++ ((newline k).toList ++ ']' :: rest)) := by
  rw [prettyAt]
  simp

theorem toList_prettyAt_obj (k : Nat) (field : String × Json) (others : List (String × Json))
    (rest : List Char) :
    (prettyAt k (.obj (field :: others))).toList ++ rest
      = '\x7b' :: ((",".intercalate (prettyFields (k + 1) (field :: others))).toList
        ++ ((newline k).toList ++ '\x7d' :: rest)) := by
  rw [prettyAt]
  simp

/-- What is printed of items begins with the first of them. -/
theorem exists_intercalate_cons (first : String) (others : List String) :
    ∃ tail, (",".intercalate (first :: others)).toList = first.toList ++ tail := by
  cases others with
  | nil => exact ⟨[], by rw [String.intercalate_singleton, List.append_nil]⟩
  | cons next others => exact ⟨_, toList_intercalate_cons first next others⟩

theorem prints_arr {items : List Json} (k : Nat)
    (hitems : ∀ item ∈ items, Prints depth item (prettyAt (k + 1) item).toList) :
    Prints (depth + 1) (.arr items) (prettyAt k (.arr items)).toList := by
  cases items with
  | nil =>
    have htext : (prettyAt k (.arr [])).toList = ['[', ']'] := by simp [prettyAt, renderLeaf]
    rw [htext]
    exact ⟨.array [], rfl, ⟨_, _, rfl, by decide, by decide⟩, fun _ h => readsValue_emptyArray h rfl⟩
  | cons item others =>
    obtain ⟨written, hvalues, hreads⟩ :=
      readsItems_prettyItems (k + 1) k hitems (List.cons_ne_nil item others)
    have htext := toList_prettyAt_arr k item others
    refine ⟨.array written, by simp [value?, hvalues],
      ⟨'[', _, (List.append_nil _).symm.trans (htext []), by decide, by decide⟩,
      fun {_ rest} _ h => ?_⟩
    rw [htext] at h
    refine readsValue_array h (fun r hr => ?_) (hreads rest)
    -- the first item does not begin with a closing bracket
    obtain ⟨tail, htail⟩ := exists_intercalate_cons (newline (k + 1) ++ prettyAt (k + 1) item)
      (prettyItems (k + 1) others)
    obtain ⟨_, hw⟩ := hitems item List.mem_cons_self
    obtain ⟨c, cs, hfront, -, hc⟩ := hw.front
    rw [prettyItems, htail, String.toList_append, List.append_assoc, List.append_assoc,
      skipSpace_newline, hw.skipSpace, hfront] at hr
    exact hc (List.cons.inj hr).1

theorem prints_obj {fields : List (String × Json)} (k : Nat)
    (hfields : ∀ field ∈ fields, Prints depth field.2 (prettyAt (k + 1) field.2).toList) :
    Prints (depth + 1) (.obj fields) (prettyAt k (.obj fields)).toList := by
  cases fields with
  | nil =>
    have htext : (prettyAt k (.obj [])).toList = ['\x7b', '\x7d'] := by simp [prettyAt, renderLeaf]
    rw [htext]
    exact ⟨.object [], rfl, ⟨_, _, rfl, by decide, by decide⟩,
      fun _ h => readsValue_emptyObject h rfl⟩
  | cons field others =>
    obtain ⟨written, hvalues, hreads⟩ :=
      readsFields_prettyFields (k + 1) k hfields (List.cons_ne_nil field others)
    have htext := toList_prettyAt_obj k field others
    refine ⟨.object written, by simp [value?, hvalues],
      ⟨'\x7b', _, (List.append_nil _).symm.trans (htext []), by decide, by decide⟩,
      fun {_ rest} _ h => ?_⟩
    rw [htext] at h
    refine readsValue_object h (fun r hr => ?_) (hreads rest)
    -- the first field begins with a quote
    obtain ⟨tail, htail⟩ := exists_intercalate_cons
      (newline (k + 1) ++ renderText field.1 ++ ": " ++ prettyAt (k + 1) field.2)
      (prettyFields (k + 1) others)
    rw [prettyFields, htail] at hr
    simp only [String.toList_append, List.append_assoc, skipSpace_newline, toList_renderText] at hr
    cases hr

/-- **A plain value is read back**, at whatever depth it is printed. -/
theorem Plain.prints {value : Json} (h : Plain depth value) :
    ∀ k, Prints depth value (prettyAt k value).toList := by
  induction h with
  | null => exact prints_null
  | bool flag => exact prints_bool flag
  | int low high => exact fun _ => prints_int low high
  | str text => exact fun _ => prints_str text
  | arr _ ih => exact fun k => prints_arr k fun item hitem => ih item hitem (k + 1)
  | obj _ ih => exact fun k => prints_obj k fun field hfield => ih field hfield (k + 1)

/-! ## Whole texts -/

/-- **What is printed is read as one written form of the value**, with space behind it. -/
theorem Plain.exists_parse? {value : Json} (h : Plain depth value) {space : String}
    (hspace : ∀ c ∈ space.toList, isSpace c = true) :
    ∃ written, JsonSyntax.parse? (value.pretty ++ space) = some written
      ∧ written.value? depth = some value := by
  obtain ⟨written, hw⟩ := h.prints 0
  have hends : EndsNumber space.toList := by
    intro c hc
    have hmem : isSpace c = true := hspace c (List.mem_of_mem_head? hc)
    simp only [isSpace, Bool.or_eq_true, beq_iff_eq] at hmem
    obtain ((rfl | rfl) | rfl) | rfl := hmem <;> decide
  have hall : skipSpace space.toList = [] := List.dropWhile_eq_nil_iff.mpr hspace
  have hread := hw.reads hends (hw.skipSpace space.toList)
  rw [← String.toList_append] at hread
  obtain ⟨r, hread, hr⟩ := hread
  refine ⟨written, ?_, hw.value⟩
  rw [JsonSyntax.parse?, pretty, hread]
  simp [hr, hall]

theorem parse?_pretty {value : Json} (h : Plain nestingLimit value) {space : String}
    (hspace : ∀ c ∈ space.toList, isSpace c = true) :
    parse? (value.pretty ++ space) = some value := by
  obtain ⟨written, hread, hvalue⟩ := h.exists_parse? hspace
  rw [parse?, hread]
  exact hvalue

end Json

/-! ## Wanted parts -/

/-- A shape covers a value if it wants every part that the value has. -/
inductive Shape.Covers : Shape → Json → Prop
  | whole (value : Json) : Covers .whole value
  | items {shape : Shape} {items : List Json} (inner : ∀ item ∈ items, Covers shape item) :
    Covers (.items shape) (.arr items)
  | record {names : List (String × Shape)} {fields : List (String × Json)}
    (known : ∀ field ∈ fields, (names.lookup field.1).isSome = true)
    (inner : ∀ field ∈ fields, ∀ shape, names.lookup field.1 = some shape → Covers shape field.2) :
    Covers (.record names) (.obj fields)

namespace JsonSyntax

variable {depth : Nat} {shape : Shape}

theorem pick?_whole (depth : Nat) (written : JsonSyntax) :
    written.pick? .whole depth = written.value? depth := by
  cases written <;> simp only [pick?]

/-- Only an array is written for an array. -/
theorem eq_array_of_value? {written : JsonSyntax} {items : List Json}
    (h : written.value? depth = some (.arr items)) : ∃ inner writtens,
      depth = inner + 1 ∧ written = .array writtens ∧ values? inner writtens = some items := by
  cases written with
  | array writtens =>
    cases depth with
    | zero => cases h
    | succ inner =>
      obtain ⟨_, hvalues, heq⟩ := Option.map_eq_some_iff.mp h
      cases heq
      exact ⟨inner, writtens, rfl, rfl, hvalues⟩
  | object _ =>
    cases depth with
    | zero => cases h
    | succ inner =>
      obtain ⟨_, -, heq⟩ := Option.map_eq_some_iff.mp h
      cases heq
  | number _ | text _ =>
    obtain ⟨_, -, heq⟩ := Option.map_eq_some_iff.mp h
    cases heq
  | null | bool _ => cases h

/-- Only an object is written for an object. -/
theorem eq_object_of_value? {written : JsonSyntax} {fields : List (String × Json)}
    (h : written.value? depth = some (.obj fields)) : ∃ inner writtens,
      depth = inner + 1 ∧ written = .object writtens
        ∧ fieldValues? inner writtens = some fields := by
  cases written with
  | object writtens =>
    cases depth with
    | zero => cases h
    | succ inner =>
      obtain ⟨_, hvalues, heq⟩ := Option.map_eq_some_iff.mp h
      cases heq
      exact ⟨inner, writtens, rfl, rfl, hvalues⟩
  | array _ =>
    cases depth with
    | zero => cases h
    | succ inner =>
      obtain ⟨_, -, heq⟩ := Option.map_eq_some_iff.mp h
      cases heq
  | number _ | text _ =>
    obtain ⟨_, -, heq⟩ := Option.map_eq_some_iff.mp h
    cases heq
  | null | bool _ => cases h

theorem pickItems?_covers {items : List Json}
    (h : ∀ item ∈ items, ∀ {written : JsonSyntax}, written.value? depth = some item →
      written.pick? shape depth = some item) {writtens : List JsonSyntax} {place : Nat}
    (hvalues : values? depth writtens = some items) :
    pickItems? (fun _ => shape) place depth writtens = some items := by
  induction writtens generalizing items place with
  | nil => exact hvalues
  | cons written writtens ih =>
    obtain ⟨item, hitem, hvalues⟩ := Option.bind_eq_some_iff.mp hvalues
    obtain ⟨others, hothers, hvalues⟩ := Option.bind_eq_some_iff.mp hvalues
    obtain rfl := Option.some.inj hvalues
    obtain ⟨hfirst, hrest⟩ := List.forall_mem_cons.mp h
    simp [pickItems?, hfirst hitem, ih hrest hothers]

theorem pickFields?_covers {names : List (String × Shape)} {fields : List (String × Json)}
    (h : ∀ field ∈ fields, ∃ shape, names.lookup field.1 = some shape ∧
      ∀ {written : JsonSyntax}, written.value? depth = some field.2 →
        written.pick? shape depth = some field.2)
    {writtens : List (List TextUnit × JsonSyntax)}
    (hvalues : fieldValues? depth writtens = some fields) :
    pickFields? names depth writtens = some fields := by
  induction writtens generalizing fields with
  | nil => exact hvalues
  | cons written writtens ih =>
    obtain ⟨key, hkey, hvalues⟩ := Option.bind_eq_some_iff.mp hvalues
    obtain ⟨value, hvalue, hvalues⟩ := Option.bind_eq_some_iff.mp hvalues
    obtain ⟨others, hothers, hvalues⟩ := Option.bind_eq_some_iff.mp hvalues
    obtain rfl := Option.some.inj hvalues
    obtain ⟨⟨shape, hshape, hfirst⟩, hrest⟩ := List.forall_mem_cons.mp h
    simp [pickFields?, hkey, hshape, hfirst hvalue, ih hrest hothers]

/-- **Nothing is lost** of a value that a shape covers. -/
theorem pick?_covers {value : Json} (h : shape.Covers value) :
    ∀ {depth : Nat} {written : JsonSyntax}, written.value? depth = some value →
      written.pick? shape depth = some value := by
  induction h with
  | whole value => exact fun h => (pick?_whole _ _).trans h
  | items _ ih =>
    intro depth written hvalue
    obtain ⟨inner, writtens, rfl, rfl, hvalues⟩ := eq_array_of_value? hvalue
    rw [pick?, pickItems?_covers (fun item hitem => ih item hitem) hvalues]
    rfl
  | record known _ ih =>
    intro depth written hvalue
    obtain ⟨inner, writtens, rfl, rfl, hvalues⟩ := eq_object_of_value? hvalue
    rw [pick?, pickFields?_covers (fun field hfield => ?_) hvalues]
    · rfl
    · obtain ⟨shape, hshape⟩ := Option.isSome_iff_exists.mp (known field hfield)
      exact ⟨shape, hshape, ih field hfield shape hshape⟩

end JsonSyntax

namespace Json

theorem parseAs?_pretty {value : Json} (h : Plain nestingLimit value) {shape : Shape}
    (hcovers : shape.Covers value) {space : String}
    (hspace : ∀ c ∈ space.toList, isSpace c = true) :
    parseAs? shape (value.pretty ++ space) = some value := by
  obtain ⟨written, hread, hvalue⟩ := h.exists_parse? hspace
  rw [parseAs?, hread]
  exact pick?_covers hcovers hvalue

end Json

end LogSearch
