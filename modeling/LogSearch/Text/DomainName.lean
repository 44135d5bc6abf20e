import LogSearch.Text.Blank
import LogSearch.Text.Composed
import LogSearch.Text.Punycode
import LogSearch.Text.Table.Direction
import LogSearch.Text.Table.DomainSpelling

/-!
# Domain names

A domain name can be written in many ways: in capitals, in wide letters, with accents apart from
their letters. `domainName?` spells a name in the one way in which names are compared, and finds
names that cannot be used.

A name is a row of labels between dots. A label that starts with `xn--` stands for the text that its
Punycode tells; that text must be one that could have been written itself. Letters that are written
from right to left need care: what a label looks like depends on the labels around it unless each
keeps to one direction, so then every label must (`keepsDirection`).
-/

namespace LogSearch

/-! ## Spelling -/

/-- What a character is replaced by, if another spelling takes its place. -/
def respelling? (c : Char) : Option (List Char) :=
  let n := c.toNat
  let shifted? := DomainSpelling.shifts.findSome? fun (first, last, step, shift) =>
    if first ≤ n && n ≤ last && (n - first) % step == 0 then
      some [Char.ofNat (n + shift).toNat]
    else none
  let letter? := DomainSpelling.letters.findSome? fun (first, targets) =>
    if first ≤ n then targets.toList[n - first]?.map ([·]) else none
  let text? := DomainSpelling.texts.findSome? fun (first, targets) =>
    if first ≤ n then targets[n - first]?.map String.toList else none
  shifted?.or (letter?.or text?)

/-- Marks without a shape that join or part the letters around them. -/
def isJoiner (c : Char) : Bool := c == '\u200C' || c == '\u200D'

/-- Characters that no name holds, however it is spelled. -/
def isRefused (c : Char) : Bool :=
  (inRanges Visibility.unprintable c.toNat && !isJoiner c)
    || inRanges DomainSpelling.refused c.toNat

/-- How a character is spelled; `none` if no name holds it. -/
def spelling? (c : Char) : Option (List Char) :=
  match respelling? c with
  | some text => some text
  | none =>
    if inRanges DomainSpelling.dropped c.toNat then some []
    else if isRefused c then none
    else some [c]

/-- Whether a character is spelled as itself. -/
def isSpelledAsItself (c : Char) : Bool := spelling? c == some [c]

/-- Characters that mean something in a URL, or cannot stand in one. -/
def isReserved (c : Char) : Bool :=
  c.toNat ≤ 0x20 || c.toNat == 0x7F || "\"#%/:<>?@[\\]^`\x7b|\x7d".toList.contains c

/-! ## Labels -/

/-- What a label starts with that stands for another text. -/
def punycodeMark : List Char := "xn--".toList

/-- The text that a label stands for. A text written in Punycode has a character that is not ASCII,
is spelled as names are, and does not itself stand for another. -/
def labelText? (label : List Char) : Option (List Char) :=
  match stripFront? punycodeMark label with
  | none => some label
  | some encoded =>
    if encoded.any (0x80 ≤ ·.toNat) then none
    else (Punycode.decode? encoded).filter fun text =>
      text.any (0x80 ≤ ·.toNat) && text.all isSpelledAsItself && composed text == text
        && (stripFront? punycodeMark text).isNone

/-! ### Joiners -/

/-- Marks that take no place of their own; joiners are none. -/
def isNonspacing (c : Char) : Bool :=
  inRanges Visibility.combining c.toNat && !inRanges Composition.spacing c.toNat && !isJoiner c

/-- Whether letters are joined across a character. -/
def isJoinedAcross (c : Char) : Bool := isNonspacing c || inRanges Joining.across c.toNat

/-- Whether the last of the characters, which stands first, takes the vowel from its letter: its
mark has the class nine. -/
def endsVowelless (before : List Char) : Bool :=
  match before with
  | last :: _ => markClass last == 9
  | [] => false

/-- Whether the letter before, seen across marks, is joined to a letter after it. The last character
stands first. -/
def joinsOnward (before : List Char) : Bool :=
  match before.dropWhile isJoinedAcross with
  | c :: _ => inRanges Joining.both c.toNat || inRanges Joining.after c.toNat
  | [] => false

/-- Whether the letter that follows, seen across marks, is joined to a letter before it. -/
def joinsBack (rest : List Char) : Bool :=
  match rest.dropWhile isJoinedAcross with
  | c :: _ => inRanges Joining.both c.toNat || inRanges Joining.before c.toNat
  | [] => false

/-- Whether every joiner changes how its neighbors look. Of the characters before, the last stands
first. -/
def joinersFit : (before : List Char) → List Char → Bool
  | _, [] => true
  | before, c :: rest =>
    let fits :=
      if c == '\u200D' then endsVowelless before
      else if c == '\u200C' then endsVowelless before || (joinsOnward before && joinsBack rest)
      else true
    fits && joinersFit (c :: before) rest

/-- Whether a label starts with no mark and holds no joiner in vain. -/
def isWellFormed (text : List Char) : Bool :=
  !(text.head?.any isMark) && joinersFit [] text

/-! ### Direction -/

/-- The part that a character has in the direction of a line. -/
inductive LinePart where
  | leftToRight
  | rightToLeft
  | arabicDigit
  | europeanDigit
  /-- It goes with its neighbors. -/
  | neutral
  /-- It goes with the character before it. -/
  | attached
  deriving DecidableEq, Repr

/-- Whether a character goes with the one before it. -/
def isAttached (c : Char) : Bool :=
  (isNonspacing c && !inRanges Direction.standing c.toNat) || inRanges Direction.leaning c.toNat

/-- The part of a character. -/
def linePart (c : Char) : LinePart :=
  let n := c.toNat
  if inRanges Direction.rightward n then .rightToLeft
  else if inRanges Direction.arabicDigits n then .arabicDigit
  else if inRanges Direction.europeanDigits n then .europeanDigit
  else if inRanges Direction.neutral n then .neutral
  else if isAttached c then .attached
  else .leftToRight

/-- Whether a text has a part from right to left. -/
def runsLeft (text : List Char) : Bool :=
  text.any fun c => linePart c == .rightToLeft || linePart c == .arabicDigit

/-- Whether a label has one direction: the first character tells which, the others do not run
against it, and the end, marks aside, is a letter or digit of that direction. -/
def keepsDirection (text : List Char) : Bool :=
  let line := text.map linePart
  let last := line.reverse.dropWhile (· == .attached) |>.head?
  match line.head? with
  | none => true
  | some .leftToRight =>
    line.all (fun p => p != .rightToLeft && p != .arabicDigit)
      && (last == some .leftToRight || last == some .europeanDigit)
  | some .rightToLeft =>
    !line.contains .leftToRight && !(line.contains .europeanDigit && line.contains .arabicDigit)
      && last != some .neutral
  | some _ => false

/-! ## Names -/

/-- The labels of a name. -/
def labelsOf (name : List Char) : List (List Char) := splitAll '.' name

/-- A name as it is spelled; `none` if it cannot be used. -/
def domainName? (text : List Char) : Option (List Char) := do
  let name := composed (← text.mapM spelling?).flatten
  guard !(name.any isReserved)
  let texts ← (labelsOf name).mapM labelText?
  guard (texts.all isWellFormed)
  guard (!texts.any runsLeft || texts.all keepsDirection)
  return name

end LogSearch
