import LogSearch.Json.Parser
import LogSearch.Proofs.Time.Stamp

/-!
# What the readers of written values take

`ReadsValue`, `ReadsItems` and `ReadsFields` say what a reader takes from the front of a text and
what it leaves. There is one lemma for each form of a value: it says what is read once the first
character that is no space is known.
-/

namespace LogSearch

/-! ## Decimal digits -/

/-- Only zero is written with a zero at the front. -/
theorem decimalDigits_front {n : Nat} (h : 0 < n) :
    ∃ c ds, decimalDigits n = c :: ds ∧ c.isDigit = true ∧ c ≠ '0' := by
  rw [decimalDigits]
  induction n using Nat.strongRecOn with
  | ind n ih =>
    rw [Nat.toDigits_eq_if (by decide)]
    split
    · next hlt => interval_cases n <;> exact ⟨_, [], rfl, by decide, by decide⟩
    · next hge =>
      obtain ⟨c, ds, hds, hdigit, hc⟩ := ih (n / 10) (by omega) (by omega)
      exact ⟨c, ds ++ [Nat.digitChar (n % 10)], by rw [hds]; rfl, hdigit, hc⟩

namespace JsonSyntax

variable {cs rest after : List Char}

/-! ## Space -/

theorem skipSpace_append {space : List Char} (h : ∀ c ∈ space, isSpace c = true) :
    skipSpace (space ++ cs) = skipSpace cs := List.dropWhile_append_of_pos h

theorem skipSpace_cons {c : Char} (h : isSpace c = false) : skipSpace (c :: cs) = c :: cs := by
  simp [skipSpace, h]

/-! ## Numbers -/

/-- A digit would go on with a number, and so would a point and the letter of a power. -/
def EndsNumber (rest : List Char) : Prop :=
  ∀ c ∈ rest.head?, c.isDigit = false ∧ c ≠ '.' ∧ c ≠ 'e' ∧ c ≠ 'E'

theorem readWhole_decimalDigits (n : Nat) (hrest : ∀ c ∈ rest.head?, c.isDigit = false) :
    readWhole (decimalDigits n ++ rest) = some (decimalDigits n, rest) := by
  have hdigits : ∀ c ∈ decimalDigits n, c.isDigit = true := fun c hc =>
    Nat.isDigit_of_mem_toDigits (by decide) (by decide) hc
  have hread : readDigits? (decimalDigits n ++ rest) = some (decimalDigits n, rest) := by
    obtain ⟨c, ds, hds⟩ := List.exists_cons_of_ne_nil (Nat.toDigits_ne_nil (n := n) (b := 10))
    change decimalDigits n = c :: ds at hds
    rw [hds] at hdigits ⊢
    obtain ⟨htake, hdrop⟩ := takeWhile_digits
      (fun d hd => hdigits d (List.mem_cons_of_mem c hd)) hrest
    rw [List.cons_append, readDigits?, if_pos (hdigits c List.mem_cons_self), htake, hdrop]
  rw [readWhole, hread]
  split
  · next heq =>
    -- a zero in front of other digits is never written
    rcases Nat.eq_zero_or_pos n with rfl | hpos
    · cases heq
    · obtain ⟨c, ds, hds, _, hc⟩ := decimalDigits_front hpos
      rw [hds] at heq
      exact absurd (List.cons.inj (Prod.mk.inj (Option.some.inj heq)).1).1 hc
  · rfl

theorem readUnsigned_decimalDigits (negative : Bool) (n : Nat) (hrest : EndsNumber rest) :
    readUnsigned negative (decimalDigits n ++ rest)
      = some (⟨negative, decimalDigits n, [], none⟩, rest) := by
  have hfraction : readFraction rest = some ([], rest) := by
    cases rest with
    | nil => rfl
    | cons c rest =>
      rw [readFraction]
      intro r hr
      exact (hrest c rfl).2.1 (List.cons.inj hr).1
  have hpower : readPower rest = some (none, rest) := by
    cases rest with
    | nil => rfl
    | cons c rest =>
      obtain ⟨-, -, hlower, hupper⟩ := hrest c rfl
      simp [readPower, hlower, hupper]
  rw [readUnsigned, readWhole_decimalDigits n fun c hc => (hrest c hc).1]
  simp only [hfraction, hpower]

/-! ## Values -/

/-- The value at the front of a text, and what is left. -/
def ReadsValue (cs : List Char) (value : JsonSyntax) (rest : List Char) : Prop :=
  ∃ r : Shorter cs, readValue cs = some (value, r) ∧ r.1 = rest

/-- The items at the front of a text up to a closing bracket, and what is left. -/
def ReadsItems (cs : List Char) (items : List JsonSyntax) (rest : List Char) : Prop :=
  ∃ r : Shorter cs, readItems cs = some (items, r) ∧ r.1 = rest

/-- The fields at the front of a text up to a closing brace, and what is left. -/
def ReadsFields (cs : List Char) (fields : List (List TextUnit × JsonSyntax)) (rest : List Char) :
    Prop :=
  ∃ r : Shorter cs, readFields cs = some (fields, r) ∧ r.1 = rest

theorem readsValue_text {units : List TextUnit} (h : skipSpace cs = '"' :: rest)
    (htext : readText [] rest = some (units, after)) : ReadsValue cs (.text units) after := by
  rw [ReadsValue, readValue]
  split
  · next heq => cases h.symm.trans heq
  · next heq =>
    obtain ⟨rfl, rfl⟩ := List.cons.inj (h.symm.trans heq)
    rw [if_pos rfl]
    split
    · next hnone => cases htext.symm.trans hnone
    · next hsome =>
      obtain ⟨rfl, rfl⟩ := Prod.mk.inj (Option.some.inj (htext.symm.trans hsome))
      exact ⟨_, rfl, rfl⟩

theorem readsValue_emptyArray (h : skipSpace cs = '[' :: rest) (hend : skipSpace rest = ']' :: after) :
    ReadsValue cs (.array []) after := by
  rw [ReadsValue, readValue]
  split
  · next heq => cases h.symm.trans heq
  · next heq =>
    obtain ⟨rfl, rfl⟩ := List.cons.inj (h.symm.trans heq)
    rw [if_neg (by decide), if_pos rfl]
    split
    · next heq =>
      obtain ⟨-, rfl⟩ := List.cons.inj (hend.symm.trans heq)
      exact ⟨_, rfl, rfl⟩
    · next hno => exact absurd hend (hno _)

theorem readsValue_array {items : List JsonSyntax} (h : skipSpace cs = '[' :: rest)
    (hfirst : ∀ r, skipSpace rest ≠ ']' :: r) (hitems : ReadsItems rest items after) :
    ReadsValue cs (.array items) after := by
  obtain ⟨r, hr, rfl⟩ := hitems
  rw [ReadsValue, readValue]
  split
  · next heq => cases h.symm.trans heq
  · next heq =>
    obtain ⟨rfl, rfl⟩ := List.cons.inj (h.symm.trans heq)
    rw [if_neg (by decide), if_pos rfl]
    split
    · next heq => exact absurd heq (hfirst _)
    · rw [hr]
      exact ⟨_, rfl, rfl⟩

theorem readsValue_emptyObject (h : skipSpace cs = '\x7b' :: rest)
    (hend : skipSpace rest = '\x7d' :: after) : ReadsValue cs (.object []) after := by
  rw [ReadsValue, readValue]
  split
  · next heq => cases h.symm.trans heq
  · next heq =>
    obtain ⟨rfl, rfl⟩ := List.cons.inj (h.symm.trans heq)
    rw [if_neg (by decide), if_neg (by decide), if_pos rfl]
    split
    · next heq =>
      obtain ⟨-, rfl⟩ := List.cons.inj (hend.symm.trans heq)
      exact ⟨_, rfl, rfl⟩
    · next hno => exact absurd hend (hno _)

theorem readsValue_object {fields : List (List TextUnit × JsonSyntax)}
    (h : skipSpace cs = '\x7b' :: rest) (hfirst : ∀ r, skipSpace rest ≠ '\x7d' :: r)
    (hfields : ReadsFields rest fields after) : ReadsValue cs (.object fields) after := by
  obtain ⟨r, hr, rfl⟩ := hfields
  rw [ReadsValue, readValue]
  split
  · next heq => cases h.symm.trans heq
  · next heq =>
    obtain ⟨rfl, rfl⟩ := List.cons.inj (h.symm.trans heq)
    rw [if_neg (by decide), if_neg (by decide), if_pos rfl]
    split
    · next heq => exact absurd heq (hfirst _)
    · rw [hr]
      exact ⟨_, rfl, rfl⟩

theorem readsValue_negative {number : NumberSyntax} (h : skipSpace cs = '-' :: rest)
    (hnumber : readUnsigned true rest = some (number, after)) :
    ReadsValue cs (.number number) after := by
  rw [ReadsValue, readValue]
  split
  · next heq => cases h.symm.trans heq
  · next heq =>
    obtain ⟨rfl, rfl⟩ := List.cons.inj (h.symm.trans heq)
    rw [if_neg (by decide), if_neg (by decide), if_neg (by decide), if_pos rfl]
    split
    · next hnone => cases hnumber.symm.trans hnone
    · next hsome =>
      obtain ⟨rfl, rfl⟩ := Prod.mk.inj (Option.some.inj (hnumber.symm.trans hsome))
      exact ⟨_, rfl, rfl⟩

theorem readsValue_digit {number : NumberSyntax} {c : Char} (h : skipSpace cs = c :: rest)
    (hc : c.isDigit = true) (hnumber : readUnsigned false (c :: rest) = some (number, after)) :
    ReadsValue cs (.number number) after := by
  rw [ReadsValue, readValue]
  split
  · next heq => cases h.symm.trans heq
  · next heq =>
    obtain ⟨rfl, rfl⟩ := List.cons.inj (h.symm.trans heq)
    have hne : ∀ d : Char, d.isDigit = false → c ≠ d := by
      rintro d hd rfl
      rw [hc] at hd
      cases hd
    rw [if_neg (hne _ (by decide)), if_neg (hne _ (by decide)), if_neg (hne _ (by decide)),
      if_neg (hne _ (by decide)), if_pos hc]
    split
    · next hnone => cases hnumber.symm.trans hnone
    · next hsome =>
      obtain ⟨rfl, rfl⟩ := Prod.mk.inj (Option.some.inj (hnumber.symm.trans hsome))
      exact ⟨_, rfl, rfl⟩

theorem readsValue_null (h : skipSpace cs = 'n' :: 'u' :: 'l' :: 'l' :: rest) :
    ReadsValue cs .null rest := by
  rw [ReadsValue, readValue]
  split
  · next heq => cases h.symm.trans heq
  · next heq =>
    obtain ⟨rfl, rfl⟩ := List.cons.inj (h.symm.trans heq)
    exact ⟨_, rfl, rfl⟩

theorem readsValue_true (h : skipSpace cs = 't' :: 'r' :: 'u' :: 'e' :: rest) :
    ReadsValue cs (.bool true) rest := by
  rw [ReadsValue, readValue]
  split
  · next heq => cases h.symm.trans heq
  · next heq =>
    obtain ⟨rfl, rfl⟩ := List.cons.inj (h.symm.trans heq)
    exact ⟨_, rfl, rfl⟩

theorem readsValue_false (h : skipSpace cs = 'f' :: 'a' :: 'l' :: 's' :: 'e' :: rest) :
    ReadsValue cs (.bool false) rest := by
  rw [ReadsValue, readValue]
  split
  · next heq => cases h.symm.trans heq
  · next heq =>
    obtain ⟨rfl, rfl⟩ := List.cons.inj (h.symm.trans heq)
    exact ⟨_, rfl, rfl⟩

/-! ## Items and fields -/

theorem readsItems_last {item : JsonSyntax} (hitem : ReadsValue cs item rest)
    (hend : skipSpace rest = ']' :: after) : ReadsItems cs [item] after := by
  obtain ⟨r, hr, rfl⟩ := hitem
  rw [ReadsItems, readItems, hr]
  dsimp only
  split
  · next heq => cases hend.symm.trans heq
  · next heq =>
    obtain ⟨-, rfl⟩ := List.cons.inj (hend.symm.trans heq)
    exact ⟨_, rfl, rfl⟩
  · next hno => exact absurd hend (hno _)

theorem readsItems_cons {item : JsonSyntax} {items : List JsonSyntax} {more : List Char}
    (hitem : ReadsValue cs item rest) (hnext : skipSpace rest = ',' :: more)
    (hitems : ReadsItems more items after) : ReadsItems cs (item :: items) after := by
  obtain ⟨r, hr, rfl⟩ := hitem
  obtain ⟨s, hs, rfl⟩ := hitems
  rw [ReadsItems, readItems, hr]
  dsimp only
  split
  · next heq =>
    obtain ⟨-, rfl⟩ := List.cons.inj (hnext.symm.trans heq)
    rw [hs]
    exact ⟨_, rfl, rfl⟩
  · next heq => cases hnext.symm.trans heq
  · next hno _ => exact absurd hnext (hno _)

variable {key : List TextUnit} {value : JsonSyntax} {inside beside more : List Char}

theorem readsFields_last (h : skipSpace cs = '"' :: inside)
    (hkey : readText [] inside = some (key, beside)) (hcolon : skipSpace beside = ':' :: more)
    (hvalue : ReadsValue more value rest) (hend : skipSpace rest = '\x7d' :: after) :
    ReadsFields cs [(key, value)] after := by
  obtain ⟨r, hr, rfl⟩ := hvalue
  rw [ReadsFields, readFields]
  split
  · next heq =>
    obtain ⟨-, rfl⟩ := List.cons.inj (h.symm.trans heq)
    split
    · next hnone => cases hkey.symm.trans hnone
    · next hsome =>
      obtain ⟨rfl, rfl⟩ := Prod.mk.inj (Option.some.inj (hkey.symm.trans hsome))
      split
      · next heq =>
        obtain ⟨-, rfl⟩ := List.cons.inj (hcolon.symm.trans heq)
        rw [hr]
        dsimp only
        split
        · next heq => cases hend.symm.trans heq
        · next heq =>
          obtain ⟨-, rfl⟩ := List.cons.inj (hend.symm.trans heq)
          exact ⟨_, rfl, rfl⟩
        · next hno => exact absurd hend (hno _)
      · next hno => exact absurd hcolon (hno _)
  · next hno => exact absurd h (hno _)

theorem readsFields_cons {fields : List (List TextUnit × JsonSyntax)} {others : List Char}
    (h : skipSpace cs = '"' :: inside) (hkey : readText [] inside = some (key, beside))
    (hcolon : skipSpace beside = ':' :: more) (hvalue : ReadsValue more value rest)
    (hnext : skipSpace rest = ',' :: others) (hfields : ReadsFields others fields after) :
    ReadsFields cs ((key, value) :: fields) after := by
  obtain ⟨r, hr, rfl⟩ := hvalue
  obtain ⟨s, hs, rfl⟩ := hfields
  rw [ReadsFields, readFields]
  split
  · next heq =>
    obtain ⟨-, rfl⟩ := List.cons.inj (h.symm.trans heq)
    split
    · next hnone => cases hkey.symm.trans hnone
    · next hsome =>
      obtain ⟨rfl, rfl⟩ := Prod.mk.inj (Option.some.inj (hkey.symm.trans hsome))
      split
      · next heq =>
        obtain ⟨-, rfl⟩ := List.cons.inj (hcolon.symm.trans heq)
        rw [hr]
        dsimp only
        split
        · next heq =>
          obtain ⟨-, rfl⟩ := List.cons.inj (hnext.symm.trans heq)
          rw [hs]
          exact ⟨_, rfl, rfl⟩
        · next heq => cases hnext.symm.trans heq
        · next hno _ => exact absurd hnext (hno _)
      · next hno => exact absurd hcolon (hno _)
  · next hno => exact absurd h (hno _)

end JsonSyntax

end LogSearch
