import LogSearch.Text.Lowercase
import LogSearch.Text.Table.Composition
import LogSearch.Text.Table.Visibility

/-!
# Composed text

A letter with a mark can often be written in two ways: as one character, or as a letter with the
mark after it. `composed` writes every such pair as one character, and marks that do not touch each
other in one order, so that texts that look the same are the same.
-/

namespace LogSearch

/-! ## Marks -/

/-- Whether a character is a mark. -/
def isMark (c : Char) : Bool :=
  inRanges Visibility.combining c.toNat || inRanges Composition.spacing c.toNat

/-- The class of a mark; zero for what marks are put on. -/
def markClass (c : Char) : Nat :=
  ((Composition.classes.find? fun (_, ranges) => inRanges ranges c.toNat).map Prod.fst).getD 0

/-! ## Korean syllables -/

/-- The syllable of an initial and a vowel, or of a syllable without a final and a final. -/
def joinSyllable? (first second : Char) : Option Char :=
  let a := first.toNat
  let b := second.toNat
  if 0x1100 ≤ a && a ≤ 0x1112 && 0x1161 ≤ b && b ≤ 0x1175 then
    some (Char.ofNat (0xAC00 + ((a - 0x1100) * 21 + (b - 0x1161)) * 28))
  else if 0xAC00 ≤ a && a ≤ 0xD7A3 && (a - 0xAC00) % 28 == 0 && 0x11A8 ≤ b && b ≤ 0x11C2 then
    some (Char.ofNat (a + (b - 0x11A7)))
  else none

/-- The two parts that a syllable is joined from. -/
def splitSyllable? (c : Char) : Option (Char × Char) :=
  let n := c.toNat - 0xAC00
  if c.toNat < 0xAC00 || 0xD7A3 < c.toNat then none
  else if n % 28 = 0 then
    some (Char.ofNat (0x1100 + n / 28 / 21), Char.ofNat (0x1161 + n / 28 % 21))
  else some (Char.ofNat (c.toNat - n % 28), Char.ofNat (0x11A7 + n % 28))

/-! ## Pairs -/

/-- The characters of a list, two by two. -/
def twoByTwo : List Char → List (Char × Char)
  | a :: b :: rest => (a, b) :: twoByTwo rest
  | _ => []

/-- The character for two that stand next to each other. -/
def join? (first second : Char) : Option Char :=
  match joinSyllable? first second with
  | some c => some c
  | none =>
    (Composition.pairs.filter fun entry => entry.1 == second.toNat).findSome? fun entry =>
      List.lookup first (twoByTwo entry.2.toList)

/-- The two characters that one is written for; no character before the accented letters is. -/
def split? (c : Char) : Option (Char × Char) :=
  if c.toNat < 0xC0 then none
  else match splitSyllable? c with
    | some parts => some parts
    | none =>
      Composition.pairs.findSome? fun entry =>
        ((twoByTwo entry.2.toList).find? fun pair => pair.2 == c).map fun pair =>
          (pair.1, Char.ofNat entry.1)

/-- The parts of a character, split up at most `steps` times. -/
def parts : (steps : Nat) → Char → List Char
  | 0, c => [c]
  | steps + 1, c =>
    match split? c with
    | none => [c]
    | some (first, second) => parts steps first ++ [second]

/-! ## Texts -/

/-- Puts a character behind others, the last of which stands first. A mark goes before those of
greater classes. -/
def putBehind (c : Char) : List Char → List Char
  | [] => [c]
  | last :: others =>
    if 0 < markClass c && markClass c < markClass last then last :: putBehind c others
    else c :: last :: others

/-- The parts of all characters, with the marks in order. No character has more than four parts. -/
def decomposed (text : List Char) : List Char :=
  ((text.flatMap (parts 3)).foldl (fun placed c => putBehind c placed) []).reverse

/-- Whether a character can reach the one that marks are put on: no mark since then has its class or
a greater one. The last mark stands first. -/
def reaches (c : Char) : (marks : List Char) → Bool
  | [] => true
  | last :: _ => markClass last < markClass c

/-- Joins the parts of a text, given what marks are being put on and the marks since then that were
not joined to it, the last one first. -/
def joinParts : (base : Option Char) → (marks : List Char) → List Char → List Char
  | base, marks, [] => base.toList ++ marks.reverse
  | base, marks, c :: rest =>
    match if reaches c marks then base.bind fun b => join? b c else none with
    | some joined => joinParts (some joined) marks rest
    | none =>
      if markClass c = 0 then base.toList ++ marks.reverse ++ joinParts (some c) [] rest
      else joinParts base (c :: marks) rest

/-- A text with as few characters as possible. -/
def composed (text : List Char) : List Char := joinParts none [] (decomposed text)

end LogSearch
