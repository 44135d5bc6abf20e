import LogSearch.Text.Table.Casing

/-!
# Lower case

`lowercase` maps a whole text, over all of the character set. Two characters need more than a
table: the capital I with a dot becomes two characters, and a capital sigma takes its final form
at the end of a word, which depends on the characters around it.

`sameLetters` compares ASCII letters without their case and all other characters exactly.
-/

namespace LogSearch

/-- Whether a code point lies in one of the ranges. -/
def inRanges (ranges : List (Nat × Nat)) (n : Nat) : Bool :=
  ranges.any fun (first, last) => first ≤ n && n ≤ last

/-- The code point of the lower-case form, for characters that have one of one character. -/
def lowerCode (n : Nat) : Nat :=
  match Casing.lowerSteps.find? fun (first, last, step, _) =>
      first ≤ n && n ≤ last && (n - first) % step == 0 with
  | some (_, _, _, shift) => (n + shift).toNat
  | none => n

/-- The lower-case form of a character by itself. -/
def lowerChar (c : Char) : List Char :=
  if c.toNat < 0x80 then [c.toLower]
  else if c = 'İ' then ['i', '\u0307']
  else [Char.ofNat (lowerCode c.toNat)]

/-- Whether the first character that is not passed over has a case. -/
def startsCased (cs : List Char) : Bool :=
  match cs.dropWhile fun c => inRanges Casing.ignorable c.toNat with
  | c :: _ => inRanges Casing.cased c.toNat
  | [] => false

/-- Lower case of the rest of a text; `before` holds what was read, last character first. -/
def lowerFrom (before : List Char) : List Char → List Char
  | [] => []
  | c :: cs =>
    let lower :=
      if c = 'Σ' then if startsCased before && !startsCased cs then ['ς'] else ['σ']
      else lowerChar c
    lower ++ lowerFrom (c :: before) cs

/-- A text in lower case. -/
def lowercase (cs : List Char) : List Char := lowerFrom [] cs

/-- A text in lower case. -/
def lowerText (s : String) : String := String.ofList (lowercase s.toList)

/-- Equality of texts up to the case of ASCII letters. -/
def sameLetters (a b : List Char) : Bool := a.map Char.toLower == b.map Char.toLower

/-- What follows a word at the front of a text, whatever the case of its ASCII letters. Other
characters have no case here. A comparison of the Unicode lower case of each character, after which
the text is split behind as many bytes as the word has, would also take the Kelvin sign for a `k`, and
could not go on where the split falls within the sign, as for `week` and `wee` with this sign behind.
Here such a text does not begin with the word. -/
def stripWord? : (word : List Char) → List Char → Option (List Char)
  | [], cs => some cs
  | _ :: _, [] => none
  | w :: ws, c :: cs => if w.toLower = c.toLower then stripWord? ws cs else none

end LogSearch
