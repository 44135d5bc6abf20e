import LogSearch.Number.Decimal
import LogSearch.Text.Blank
import LogSearch.Text.Hexadecimal

/-!
# Written structured data

A `JsonSyntax` is a value as a text writes it: nothing is said yet about what its numbers and
escapes stand for, nor about how deep it is nested. `JsonSyntax.parse?` reads one value and nothing
else.

## Termination

Every reader returns a rest shorter than its text. The lemmas `*_length` say so for the parts of a
value, and the readers of a whole value return the bound with the rest. The measure is twice the
length of the text, and one more for the readers of items and fields, which hand all of theirs to the
reader of a value.
-/

namespace LogSearch

/-- A piece of a written text. -/
inductive TextUnit where
  | char (c : Char)
  /-- A unit of sixteen bits, written in hexadecimal digits. -/
  | code (unit : Nat)
  deriving DecidableEq, Repr

/-- A number as it is written: digits, decimals after a point, a power of ten. -/
structure NumberSyntax where
  negative : Bool
  whole : List Char
  fraction : List Char
  power : Option Int
  deriving DecidableEq, Repr

/-- A value as it is written. -/
inductive JsonSyntax where
  | null
  | bool (value : Bool)
  | number (value : NumberSyntax)
  | text (units : List TextUnit)
  | array (items : List JsonSyntax)
  | object (fields : List (List TextUnit × JsonSyntax))
  deriving Repr

namespace JsonSyntax

/-- Characters allowed between the parts of a value. -/
def isSpace (c : Char) : Bool := c == ' ' || c == '\n' || c == '\t' || c == '\r'

/-- A text without the space at its front. -/
def skipSpace (cs : List Char) : List Char := cs.dropWhile isSpace

theorem length_dropWhile_le {α : Type} (p : α → Bool) (l : List α) :
    (l.dropWhile p).length ≤ l.length := by
  induction l with
  | nil => simp
  | cons a l ih =>
    simp only [List.dropWhile_cons]
    split
    · simp; omega
    · simp

theorem skipSpace_length (cs : List Char) : (skipSpace cs).length ≤ cs.length :=
  length_dropWhile_le _ _

/-! ## Texts -/

/-- The character of a single-letter escape. -/
def escaped? : Char → Option Char
  | '"' => some '"'
  | '\\' => some '\\'
  | '/' => some '/'
  | 'b' => some '\x08'
  | 'f' => some '\x0c'
  | 'n' => some '\n'
  | 'r' => some '\r'
  | 't' => some '\t'
  | _ => none

/-- The text up to the closing quote. `done` holds what was read, last unit first. -/
def readText (done : List TextUnit) : List Char → Option (List TextUnit × List Char)
  | [] => none
  | '"' :: rest => some (done.reverse, rest)
  | '\\' :: 'u' :: a :: b :: c :: d :: rest =>
    match hexUnit? a b c d with
    | none => none
    | some unit => readText (.code unit :: done) rest
  | '\\' :: c :: rest =>
    match escaped? c with
    | none => none
    | some ch => readText (.char ch :: done) rest
  | c :: rest =>
    if c.toNat < 0x20 || c == '\\' then none else readText (.char c :: done) rest

theorem readText_length {done units : List TextUnit} {cs r : List Char}
    (h : readText done cs = some (units, r)) : r.length < cs.length := by
  fun_induction readText done cs <;> simp_all <;> omega

/-! ## Numbers -/

/-- The digits at the front, at least one, and what follows. -/
def readDigits? (cs : List Char) : Option (List Char × List Char) :=
  match cs with
  | c :: rest =>
    if c.isDigit then some (c :: rest.takeWhile Char.isDigit, rest.dropWhile Char.isDigit)
    else none
  | [] => none

theorem readDigits?_length {cs ds r : List Char} (h : readDigits? cs = some (ds, r)) :
    r.length < cs.length := by
  unfold readDigits? at h
  split at h
  · split at h
    · simp only [Option.some.injEq, Prod.mk.injEq] at h
      have := length_dropWhile_le Char.isDigit (by assumption : List Char)
      rename_i c rest _
      have := length_dropWhile_le Char.isDigit rest
      simp [← h.2]; omega
    · simp at h
  · simp at h

/-- The decimals after a point, if there is a point. -/
def readFraction (cs : List Char) : Option (List Char × List Char) :=
  match cs with
  | '.' :: rest => readDigits? rest
  | _ => some ([], cs)

theorem readFraction_length {cs ds r : List Char} (h : readFraction cs = some (ds, r)) :
    r.length ≤ cs.length := by
  unfold readFraction at h
  split at h
  · have := readDigits?_length h
    simp; omega
  · simp at h; simp [h.2]

/-- The power of ten after `e`, if there is one, and what follows. -/
def readPower (cs : List Char) : Option (Option Int × List Char) :=
  match cs with
  | c :: rest =>
    if c = 'e' || c = 'E' then
      match rest with
      | '+' :: more => (readDigits? more).map fun (ds, r) => (some (natOfDigits 0 ds : Int), r)
      | '-' :: more => (readDigits? more).map fun (ds, r) => (some (-(natOfDigits 0 ds : Int)), r)
      | more => (readDigits? more).map fun (ds, r) => (some (natOfDigits 0 ds : Int), r)
    else some (none, cs)
  | [] => some (none, [])

theorem readPower_length {cs r : List Char} {e : Option Int} (h : readPower cs = some (e, r)) :
    r.length ≤ cs.length := by
  unfold readPower at h
  split at h
  · split at h
    · split at h <;> simp only [Option.map_eq_some_iff, Prod.mk.injEq] at h <;>
        obtain ⟨⟨ds, r'⟩, hd, _, rfl⟩ := h <;>
        have := readDigits?_length hd <;> simp_all <;> omega
    · simp at h; simp [← h.2]
  · simp at h; simp [← h.2]

/-- The digits before the point: a zero stands alone. -/
def readWhole (cs : List Char) : Option (List Char × List Char) :=
  match readDigits? cs with
  | some ('0' :: _ :: _, _) => none
  | result => result

theorem readWhole_length {cs ds r : List Char} (h : readWhole cs = some (ds, r)) :
    r.length < cs.length := by
  unfold readWhole at h
  split at h
  · simp at h
  · exact readDigits?_length h

/-- A number without its sign. -/
def readUnsigned (negative : Bool) (cs : List Char) : Option (NumberSyntax × List Char) :=
  match readWhole cs with
  | none => none
  | some (whole, rest) =>
    match readFraction rest with
    | none => none
    | some (fraction, rest) =>
      match readPower rest with
      | none => none
      | some (power, rest) => some (⟨negative, whole, fraction, power⟩, rest)

theorem readUnsigned_length {negative : Bool} {cs r : List Char} {x : NumberSyntax}
    (h : readUnsigned negative cs = some (x, r)) : r.length < cs.length := by
  unfold readUnsigned at h
  split at h
  · simp at h
  · rename_i hw
    split at h
    · simp at h
    · rename_i hf
      split at h
      · simp at h
      · rename_i hp
        simp only [Option.some.injEq, Prod.mk.injEq] at h
        obtain ⟨_, rfl⟩ := h
        have := readWhole_length hw
        have := readFraction_length hf
        have := readPower_length hp
        omega

/-! ## Values -/

/-- A rest that is shorter than a text. -/
abbrev Shorter (cs : List Char) := { r : List Char // r.length < cs.length }

mutual

/-- One value, after space. -/
def readValue (cs : List Char) : Option (JsonSyntax × Shorter cs) :=
  match h : skipSpace cs with
  | [] => none
  | c :: rest =>
    have hlt : rest.length < cs.length := by
      have := skipSpace_length cs
      simp [h] at this; omega
    if c = '"' then
      match ht : readText [] rest with
      | none => none
      | some (s, r) =>
        some (.text s, ⟨r, by have := readText_length ht; omega⟩)
    else if c = '[' then
      match hs : skipSpace rest with
      | ']' :: r =>
        some (.array [], ⟨r, by have := skipSpace_length rest; simp [hs] at this; omega⟩)
      | _ =>
        match readItems rest with
        | none => none
        | some (items, r) => some (.array items, ⟨r.1, by have := r.2; omega⟩)
    else if c = '\x7b' then
      match hs : skipSpace rest with
      | '\x7d' :: r =>
        some (.object [], ⟨r, by have := skipSpace_length rest; simp [hs] at this; omega⟩)
      | _ =>
        match readFields rest with
        | none => none
        | some (fields, r) => some (.object fields, ⟨r.1, by have := r.2; omega⟩)
    else if c = '-' then
      match hn : readUnsigned true rest with
      | none => none
      | some (x, r) => some (.number x, ⟨r, by have := readUnsigned_length hn; omega⟩)
    else if c.isDigit then
      match hn : readUnsigned false (c :: rest) with
      | none => none
      | some (x, r) =>
        some (.number x, ⟨r, by have := readUnsigned_length hn; simp at this; omega⟩)
    else if c = 'n' then
      match hn : stripFront? ['u', 'l', 'l'] rest with
      | none => none
      | some r => some (.null, ⟨r, by have := stripFront?_length hn; omega⟩)
    else if c = 't' then
      match hn : stripFront? ['r', 'u', 'e'] rest with
      | none => none
      | some r => some (.bool true, ⟨r, by have := stripFront?_length hn; omega⟩)
    else if c = 'f' then
      match hn : stripFront? ['a', 'l', 's', 'e'] rest with
      | none => none
      | some r => some (.bool false, ⟨r, by have := stripFront?_length hn; omega⟩)
    else none
termination_by 2 * cs.length

/-- The items of an array, at least one, up to the closing bracket. -/
def readItems (cs : List Char) : Option (List JsonSyntax × Shorter cs) :=
  match readValue cs with
  | none => none
  | some (item, after) =>
    match hs : skipSpace after.1 with
    | ',' :: rest =>
      have hlt : rest.length < cs.length := by
        have := skipSpace_length after.1
        have := after.2
        simp_all; omega
      match readItems rest with
      | none => none
      | some (items, r) => some (item :: items, ⟨r.1, by have := r.2; omega⟩)
    | ']' :: rest =>
      some ([item], ⟨rest, by
        have := skipSpace_length after.1
        have := after.2
        simp_all; omega⟩)
    | _ => none
termination_by 2 * cs.length + 1

/-- The fields of an object, at least one, up to the closing brace. -/
def readFields (cs : List Char) :
    Option (List (List TextUnit × JsonSyntax) × Shorter cs) :=
  match hk : skipSpace cs with
  | '"' :: rest =>
    have hlt : rest.length < cs.length := by
      have := skipSpace_length cs
      simp [hk] at this; omega
    match ht : readText [] rest with
    | none => none
    | some (key, rest₁) =>
      match hc : skipSpace rest₁ with
      | ':' :: rest₂ =>
        have hlt₂ : rest₂.length < cs.length := by
          have := readText_length ht
          have := skipSpace_length rest₁
          simp [hc] at this; omega
        match readValue rest₂ with
        | none => none
        | some (value, after) =>
          match hs : skipSpace after.1 with
          | ',' :: rest₃ =>
            have hlt₃ : rest₃.length < cs.length := by
              have := skipSpace_length after.1
              have := after.2
              simp_all; omega
            match readFields rest₃ with
            | none => none
            | some (fields, r) =>
              some ((key, value) :: fields, ⟨r.1, by have := r.2; omega⟩)
          | '\x7d' :: rest₃ =>
            some ([(key, value)], ⟨rest₃, by
              have := skipSpace_length after.1
              have := after.2
              simp_all; omega⟩)
          | _ => none
      | _ => none
  | _ => none
termination_by 2 * cs.length + 1

end

/-- The only value of a text. -/
def parse? (text : String) : Option JsonSyntax :=
  match readValue text.toList with
  | none => none
  | some (value, rest) => if (skipSpace rest.1).isEmpty then some value else none

end JsonSyntax

end LogSearch
