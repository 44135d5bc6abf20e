import LogSearch.Json.Parser
import LogSearch.Proofs.Store.Buckets
import LogSearch.Proofs.Store.Command
import LogSearch.Proofs.Store.Target

/-!
# Numbers of structured data

A number is an integer of 64 bits, signed or unsigned, or a finite one (`JsonNumber.Fits`). The
reader makes no others (`Json.fits_of_parse?`), canonical form and the fields of an object keep them
(`Json.Fits.canonical`, `Document.Fits.values`), and a store only has the documents that it began
with, so the numbers of its documents are finite at any time (`Store.fits_after_of_texts`).
-/

namespace LogSearch

/-! ## Sizes -/

namespace Binary64

theorem isFinite_normalize (negative : Bool) (m : Nat) {q : Int} (h : q < maxExponent) :
    (normalize negative m q).isFinite = true := by
  by_cases hm : m = Nat.pow 2 53
  · have hnext : ¬maxExponent < q + 1 := by omega
    simp only [normalize, if_pos hm, if_neg hnext, isFinite]
  · have hsame : ¬maxExponent < q := by omega
    simp only [normalize, if_neg hm, if_neg hsame, isFinite]

/-- **An integer of 64 bits is far from the end of the format.** -/
theorem isFinite_ofInt {n : Int} (h : n.natAbs < 2 ^ 64) : (ofInt n).isFinite = true := by
  have hlog : n.natAbs.log2 < 64 := by
    by_cases hzero : n.natAbs = 0
    · rw [hzero]
      decide
    · exact (Nat.log2_lt hzero).mpr h
  have hchosen : chooseExponent n.natAbs 1 < maxExponent := by
    have hone : Nat.log2 1 = 0 := rfl
    simp only [chooseExponent, hone, minExponent, maxExponent]
    split <;> omega
  rw [ofInt, round]
  split
  · rfl
  · exact isFinite_normalize _ _ hchosen

end Binary64

/-- An integer of 64 bits, or a finite number. -/
def JsonNumber.Fits : JsonNumber → Prop
  | .int n => -0x8000000000000000 ≤ n ∧ n < 0x10000000000000000
  | .float x => x.isFinite = true

theorem JsonNumber.Fits.isFinite {n : JsonNumber} (h : n.Fits) : n.toBinary64.isFinite = true := by
  cases n with
  | int n =>
    obtain ⟨hlow, hhigh⟩ := h
    exact Binary64.isFinite_ofInt (by omega)
  | float x => exact h

namespace Json

/-- All numbers inside fit. -/
inductive Fits : Json → Prop
  | null : Fits .null
  | bool (flag : Bool) : Fits (.bool flag)
  | num {n : JsonNumber} (h : n.Fits) : Fits (.num n)
  | str (text : String) : Fits (.str text)
  | arr {items : List Json} (h : ∀ item ∈ items, Fits item) : Fits (.arr items)
  | obj {fields : List (String × Json)} (h : ∀ field ∈ fields, Fits field.2) : Fits (.obj fields)

end Json

/-! ## Reading -/

namespace NumberSyntax

theorem fits_floating? {negative : Bool} {n : Nat} {e : Int} {number : JsonNumber}
    (h : floating? negative n e = some number) : number.Fits := by
  rw [floating?] at h
  split at h
  · next hfinite =>
    obtain rfl := Option.some.inj h
    exact hfinite
  · cases h

theorem fits_whole? {negative : Bool} {n : Nat} {number : JsonNumber}
    (h : whole? negative n = some number) : number.Fits := by
  rw [whole?] at h
  split at h
  · split at h
    · obtain rfl := Option.some.inj h
      exact ⟨by omega, by omega⟩
    · exact fits_floating? h
  · split at h
    · obtain rfl := Option.some.inj h
      exact ⟨by omega, by omega⟩
    · exact fits_floating? h

theorem fits_value? {written : NumberSyntax} {number : JsonNumber}
    (h : written.value? = some number) : number.Fits := by
  rw [value?] at h
  split at h
  · exact fits_whole? h
  · exact fits_floating? h

end NumberSyntax

namespace JsonSyntax

mutual

/-- The numbers of what is written fit. -/
theorem fits_value? {depth : Nat} {json : Json} :
    ∀ {written : JsonSyntax}, value? depth written = some json → json.Fits
  | .null, h => Option.some.inj h ▸ .null
  | .bool flag, h => Option.some.inj h ▸ .bool flag
  | .number written, h => by
    obtain ⟨n, hn, rfl⟩ := Option.map_eq_some_iff.mp h
    exact .num (NumberSyntax.fits_value? hn)
  | .text units, h => by
    obtain ⟨text, -, rfl⟩ := Option.map_eq_some_iff.mp h
    exact .str text
  | .array items, h => by
    cases depth with
    | zero => cases h
    | succ depth =>
      obtain ⟨values, hvalues, rfl⟩ := Option.map_eq_some_iff.mp h
      exact .arr (fits_values? hvalues)
  | .object fields, h => by
    cases depth with
    | zero => cases h
    | succ depth =>
      obtain ⟨values, hvalues, rfl⟩ := Option.map_eq_some_iff.mp h
      exact .obj (fits_fieldValues? hvalues)

theorem fits_values? {depth : Nat} {values : List Json} :
    ∀ {items : List JsonSyntax}, values? depth items = some values → ∀ value ∈ values, value.Fits
  | [], h => by
    obtain rfl := Option.some.inj h
    exact fun _ hmem => absurd hmem List.not_mem_nil
  | item :: items, h => by
    obtain ⟨value, hvalue, h⟩ := Option.bind_eq_some_iff.mp h
    obtain ⟨rest, hrest, h⟩ := Option.bind_eq_some_iff.mp h
    obtain rfl := Option.some.inj h
    intro other hmem
    rcases List.mem_cons.mp hmem with rfl | hmem
    · exact fits_value? hvalue
    · exact fits_values? hrest other hmem

theorem fits_fieldValues? {depth : Nat} {values : List (String × Json)} :
    ∀ {fields : List (List TextUnit × JsonSyntax)}, fieldValues? depth fields = some values →
      ∀ field ∈ values, field.2.Fits
  | [], h => by
    obtain rfl := Option.some.inj h
    exact fun _ hmem => absurd hmem List.not_mem_nil
  | (units, content) :: fields, h => by
    obtain ⟨key, -, h⟩ := Option.bind_eq_some_iff.mp h
    obtain ⟨value, hvalue, h⟩ := Option.bind_eq_some_iff.mp h
    obtain ⟨rest, hrest, h⟩ := Option.bind_eq_some_iff.mp h
    obtain rfl := Option.some.inj h
    intro other hmem
    rcases List.mem_cons.mp hmem with rfl | hmem
    · exact fits_value? hvalue
    · exact fits_fieldValues? hrest other hmem

end

end JsonSyntax

namespace Json

/-- **The numbers of a text that is read fit.** -/
theorem fits_of_parse? {text : String} {json : Json} (h : parse? text = some json) : json.Fits := by
  obtain ⟨_, -, hvalue⟩ := Option.bind_eq_some_iff.mp h
  exact JsonSyntax.fits_value? hvalue

/-! ## Parts -/

namespace Fits

variable {json : Json} {fields : List (String × Json)} {items : List Json}

theorem of_mem_obj (h : (Json.obj fields).Fits) {field : String × Json} (hmem : field ∈ fields) :
    field.2.Fits := by
  cases h with
  | obj h => exact h field hmem

theorem of_mem_arr (h : (Json.arr items).Fits) {item : Json} (hmem : item ∈ items) :
    item.Fits := by
  cases h with
  | arr h => exact h item hmem

theorem get? (h : json.Fits) {key : String} {value : Json} (hget : json.get? key = some value) :
    value.Fits := by
  cases h with
  | obj h => exact h _ (Keyed.mem_of_get? hget)
  | _ => cases hget

mutual

/-- **Canonical form keeps the numbers.** -/
theorem canonical : ∀ {json : Json}, json.Fits → json.canonical.Fits
  | .null, h => h
  | .bool _, h => h
  | .num _, h => h
  | .str _, h => h
  | .arr _, h => .arr (canonicalItems fun _ hmem => h.of_mem_arr hmem)
  | .obj _, h => .obj fun field hmem =>
    canonicalFields (fun _ hmem => h.of_mem_obj hmem) field (Keyed.mem_of_mem_ofList hmem)

theorem canonicalItems : ∀ {items : List Json}, (∀ item ∈ items, item.Fits) →
    ∀ item ∈ Json.canonicalItems items, item.Fits
  | [], _ => fun _ hmem => absurd hmem List.not_mem_nil
  | item :: items, h => by
    intro other hmem
    rcases List.mem_cons.mp hmem with rfl | hmem
    · exact canonical (h item List.mem_cons_self)
    · exact canonicalItems (fun item hitem => h item (List.mem_cons_of_mem _ hitem)) other hmem

theorem canonicalFields : ∀ {fields : List (String × Json)}, (∀ field ∈ fields, field.2.Fits) →
    ∀ field ∈ Json.canonicalFields fields, field.2.Fits
  | [], _ => fun _ hmem => absurd hmem List.not_mem_nil
  | (key, value) :: fields, h => by
    intro other hmem
    rcases List.mem_cons.mp hmem with rfl | hmem
    · exact canonical (h (key, value) List.mem_cons_self)
    · exact canonicalFields (fun field hfield => h field (List.mem_cons_of_mem _ hfield)) other hmem

end

end Fits

end Json

/-! ## Documents -/

namespace Document

variable {document : Document} {field : String}

/-- The numbers in a document fit. -/
def Fits (document : Document) : Prop := (Json.obj document.source).Fits

theorem fits_ofSource {source : Json} (hfits : source.Fits)
    (h : ofSource source = .ok document) : document.Fits := by
  cases source with
  | obj fields =>
    simp only [ofSource] at h
    split at h
    · obtain rfl := Except.ok.inj h
      exact hfits
    · cases h
  | _ => cases h

theorem fits_of_mapM {sources : List Json} {documents : List Document}
    (hsources : ∀ source ∈ sources, source.Fits) (h : sources.mapM ofSource = .ok documents) :
    ∀ document ∈ documents, document.Fits := by
  have hread := TermGroup.forall₂_of_mapM_eq_ok h
  clear h
  induction hread with
  | nil => exact fun _ hmem => absurd hmem List.not_mem_nil
  | cons hfirst _ ih =>
    obtain ⟨hsource, hsources⟩ := List.forall_mem_cons.mp hsources
    exact List.forall_mem_cons.mpr ⟨fits_ofSource hsource hfirst, ih hsources⟩

theorem fits_descend {path : List String} {json value : Json} (h : json.Fits)
    (hdescend : descend path json = some value) : value.Fits := by
  induction path generalizing json with
  | nil => exact Option.some.inj hdescend ▸ h
  | cons name path ih =>
    obtain ⟨inner, hinner, hdescend⟩ := Option.bind_eq_some_iff.mp hdescend
    exact ih (h.get? hinner) hdescend

theorem Fits.find? (h : document.Fits) {value : Json}
    (hfind : Document.find? document.source field = some value) : value.Fits := by
  rw [Document.find?] at hfind
  split at hfind
  · next own hown =>
    obtain rfl := Option.some.inj hfind
    exact h.of_mem_obj (Keyed.mem_of_get? hown)
  · exact fits_descend h hfind

/-- The values of a field fit. -/
theorem Fits.values (h : document.Fits) : ∀ value ∈ document.values field, value.Fits := by
  intro value hmem
  rw [Document.values] at hmem
  cases hfind : Document.find? document.source field with
  | none =>
    rw [hfind] at hmem
    cases hmem
  | some own =>
    have hown := h.find? hfind
    rw [hfind] at hmem
    cases own with
    | null => cases hmem
    | arr items => exact hown.of_mem_arr (List.mem_filter.mp hmem).1
    | _ => exact List.mem_singleton.mp hmem ▸ hown

/-- **The numbers of a field are finite.** -/
theorem Fits.isFinite (h : document.Fits) : ∀ x ∈ document.numbers field, x.isFinite = true := by
  intro x hx
  obtain ⟨value, hvalue, hnumber⟩ := List.mem_filterMap.mp hx
  have hfits := h.values value hvalue
  cases hfits with
  | num hn => exact Option.some.inj hnumber ▸ hn.isFinite
  | _ => cases hnumber

end Document

namespace Store

/-- The numbers in all documents fit. -/
def Fits (store : Store) : Prop := ∀ index, ∀ document ∈ store.documents index, document.Fits

/-- What is loaded fits if its sources do. -/
theorem fits_ofDocuments {sorter : Sorter} {index : String} {sources : List Json} {store : Store}
    (hsources : ∀ source ∈ sources, source.Fits) (h : ofDocuments sorter index sources = .ok store) :
    store.Fits := by
  rw [ofDocuments] at h
  cases hread : sources.mapM Document.ofSource with
  | error e =>
    rw [hread] at h
    cases h
  | ok documents =>
    rw [hread] at h
    obtain rfl := Except.ok.inj h
    intro other document hdocument
    exact Document.fits_of_mapM hsources hread document (mem_of_mem_documents_single hdocument)

/-- **The numbers in documents fit through any run**, if they did when they were loaded. -/
theorem fits_after {store : Store} (h : store.Fits) (commands : List StoreCommand) :
    (store.after commands).Fits := by
  intro index document hdocument
  rw [(after_extends store commands).documents] at hdocument
  exact h index document hdocument

/-- **What was read from texts fits**, whatever is done with the store. -/
theorem fits_after_of_texts {sorter : Sorter} {index : String} {sources : List Json} {store : Store}
    (htexts : ∀ source ∈ sources, ∃ text written, Json.parse? text = some written
      ∧ source = written.canonical)
    (h : ofDocuments sorter index sources = .ok store) (commands : List StoreCommand) :
    (store.after commands).Fits := by
  refine fits_after (fits_ofDocuments (fun source hsource => ?_) h) commands
  obtain ⟨text, written, hread, rfl⟩ := htexts source hsource
  exact (Json.fits_of_parse? hread).canonical

end Store

end LogSearch
