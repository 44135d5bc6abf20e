/-!
# Punycode

A text in the characters of domain names: first its ASCII characters and a hyphen, then a number for
each of the others. The numbers say where to put the next character, in ascending order of the
characters; they are written to the base 36, least digit first, each digit with a threshold that
tells whether it is the last. The thresholds follow the size of the numbers before.

Every number takes a character at least, so reading ends with the text (`readNumber_length`).
-/

namespace LogSearch.Punycode

/-- The value of a digit: letters, then digits. -/
def digit? (c : Char) : Option Nat :=
  if 'a' ≤ c ∧ c ≤ 'z' then some (c.toNat - 'a'.toNat)
  else if 'A' ≤ c ∧ c ≤ 'Z' then some (c.toNat - 'A'.toNat)
  else if '0' ≤ c ∧ c ≤ '9' then some (c.toNat - '0'.toNat + 26)
  else none

/-- The threshold of the digit at a position that goes up by 36: between 1 and 26. -/
def threshold (bias position : Nat) : Nat := max 1 (min 26 (position - bias))

/-- The number at the front, added to `sum`, and what follows. -/
def readNumber (bias : Nat) : (position weight sum : Nat) → List Char → Option (Nat × List Char)
  | _, _, _, [] => none
  | position, weight, sum, c :: rest =>
    match digit? c with
    | none => none
    | some d =>
      let t := threshold bias position
      if d < t then some (sum + d * weight, rest)
      else readNumber bias (position + 36) (weight * (36 - t)) (sum + d * weight) rest

theorem readNumber_length {bias position weight sum n : Nat} {cs r : List Char}
    (h : readNumber bias position weight sum cs = some (n, r)) : r.length < cs.length := by
  fun_induction readNumber bias position weight sum cs with
  | case1 => simp at h
  | case2 => simp at h
  | case3 => simp_all
  | case4 position weight sum c rest d hd t ht ih =>
    have := ih h
    simp
    omega

/-- Divides by 35 down to 455, and counts positions on the way. -/
def shrink (n positions : Nat) : Nat × Nat :=
  if 455 < n then shrink (n / 35) (positions + 36) else (n, positions)
termination_by n

/-- The bias after a number, when the text has some length. -/
def adapt (number length : Nat) (isFirst : Bool) : Nat :=
  let scaled := if isFirst then number / 700 else number / 2
  let (rest, positions) := shrink (scaled + scaled / length) 0
  positions + 36 * rest / (rest + 38)

/-- Puts characters into a text. `next` is the least character that can follow, `place` where the
last one went, and one further. -/
def insertAll (bias next place : Nat) (done : List Char) (cs : List Char) : Option (List Char) :=
  match cs with
  | [] => some done
  | c :: rest =>
    match _h : readNumber bias 36 1 place (c :: rest) with
    | none => none
    | some (sum, after) =>
      let length := done.length + 1
      let code := next + sum / length
      if code < 0xD800 || (0xDFFF < code && code < 0x110000) then
        insertAll (adapt (sum - place) length (place == 0)) code (sum % length + 1)
          (done.insertIdx (sum % length) (Char.ofNat code)) after
      else none
termination_by cs.length
decreasing_by
  have := readNumber_length _h
  simpa using this

/-- The characters before the last hyphen, and what follows it. A hyphen at the front divides
nothing. -/
def splitHyphen (cs : List Char) : List Char × List Char :=
  match cs.reverse.dropWhile (· != '-') with
  | [] | [_] => ([], cs)
  | _ :: front => (front.reverse, (cs.reverse.takeWhile (· != '-')).reverse)

/-- The text that is written. -/
def decode? (cs : List Char) : Option (List Char) :=
  let (front, numbers) := splitHyphen cs
  insertAll 72 0x80 0 front numbers

end LogSearch.Punycode
