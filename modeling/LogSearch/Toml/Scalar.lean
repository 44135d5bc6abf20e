import LogSearch.Json.Basic
import LogSearch.Text.Blank
import LogSearch.Text.Hexadecimal
import LogSearch.Time.Date

/-!
# Scalars of a settings file

Texts, numbers, truth values and dates of the TOML format, as structured data. Texts come in four
forms: with or without escapes, on one line or on several. A number is a token of its own, and so is
a date; no field takes a date, so one only has to be well formed (`Toml.isDateTime`).
-/

namespace LogSearch.Toml

/-! ## Characters -/

/-- A blank within a line. -/
def isInline (c : Char) : Bool := c == ' ' || c == '\t'

/-- Characters that may stand in texts and comments. -/
def isPlain (c : Char) : Bool := c == '\t' || (0x20 ≤ c.toNat && c.toNat != 0x7F)

/-- A text without the inline blanks at its front. -/
def skipInline (cs : List Char) : List Char := cs.dropWhile isInline

/-- What follows a line break. -/
def lineBreak? : List Char → Option (List Char)
  | '\n' :: rest => some rest
  | '\r' :: '\n' :: rest => some rest
  | _ => none

/-! ## Texts -/

/-- The character with a code, unless it is half of a surrogate pair or too great. -/
def charOfCode? (n : Nat) : Option Char :=
  if n < 0xD800 || (0xDFFF < n && n < 0x110000) then some (Char.ofNat n) else none

/-- The character of an escape with four digits. -/
def shortCode? (a b c d : Char) : Option Char := (hexUnit? a b c d).bind charOfCode?

/-- The character of an escape with eight digits. -/
def longCode? (a b c d e f g h : Char) : Option Char := do
  let high ← hexUnit? a b c d
  let low ← hexUnit? e f g h
  charOfCode? (high * 0x10000 + low)

/-- The character of an escape with one letter. -/
def letterEscape? : Char → Option Char
  | 'b' => some '\x08'
  | 't' => some '\t'
  | 'n' => some '\n'
  | 'f' => some '\x0c'
  | 'r' => some '\r'
  | '"' => some '"'
  | '\\' => some '\\'
  | _ => none

/-- A text with escapes up to its quote; `done` holds what was read, last character first. -/
def basicText (done : List Char) : List Char → Option (List Char × List Char)
  | [] => none
  | '"' :: rest => some (done.reverse, rest)
  | '\\' :: 'u' :: a :: b :: c :: d :: rest =>
    match shortCode? a b c d with
    | some x => basicText (x :: done) rest
    | none => none
  | '\\' :: 'U' :: a :: b :: c :: d :: e :: f :: g :: h :: rest =>
    match longCode? a b c d e f g h with
    | some x => basicText (x :: done) rest
    | none => none
  | '\\' :: c :: rest =>
    match letterEscape? c with
    | some x => basicText (x :: done) rest
    | none => none
  | c :: rest => if isPlain c && c != '\\' then basicText (c :: done) rest else none

/-- Whether only blanks stand before the end of the line. -/
def endsLine (cs : List Char) : Bool := (lineBreak? (skipInline cs)).isSome

/-- A text with escapes over several lines, up to its three quotes, before which two more may
stand. After a backslash at the end of a line, `folding` skips blanks and line breaks. -/
def basicLines (done : List Char) (folding : Bool) : List Char → Option (List Char × List Char)
  | [] => none
  | '"' :: '"' :: '"' :: '"' :: '"' :: rest => some (('"' :: '"' :: done).reverse, rest)
  | '"' :: '"' :: '"' :: '"' :: rest => some (('"' :: done).reverse, rest)
  | '"' :: '"' :: '"' :: rest => some (done.reverse, rest)
  | '\r' :: '\n' :: rest =>
    if folding then basicLines done true rest else basicLines ('\n' :: done) false rest
  | '\\' :: 'u' :: a :: b :: c :: d :: rest =>
    match shortCode? a b c d with
    | some x => basicLines (x :: done) false rest
    | none => none
  | '\\' :: 'U' :: a :: b :: c :: d :: e :: f :: g :: h :: rest =>
    match longCode? a b c d e f g h with
    | some x => basicLines (x :: done) false rest
    | none => none
  | '\\' :: c :: rest =>
    match letterEscape? c with
    | some x => basicLines (x :: done) false rest
    | none => if endsLine (c :: rest) then basicLines done true (c :: rest) else none
  | c :: rest =>
    if folding && (isInline c || c == '\n') then basicLines done true rest
    else if c == '\n' || (isPlain c && c != '\\') then basicLines (c :: done) false rest
    else none

/-- A text without escapes up to its quote. -/
def literalText (done : List Char) : List Char → Option (List Char × List Char)
  | [] => none
  | '\'' :: rest => some (done.reverse, rest)
  | c :: rest => if isPlain c then literalText (c :: done) rest else none

/-- A text without escapes over several lines, up to its three quotes, before which two more may
stand. -/
def literalLines (done : List Char) : List Char → Option (List Char × List Char)
  | [] => none
  | '\'' :: '\'' :: '\'' :: '\'' :: '\'' :: rest => some (('\'' :: '\'' :: done).reverse, rest)
  | '\'' :: '\'' :: '\'' :: '\'' :: rest => some (('\'' :: done).reverse, rest)
  | '\'' :: '\'' :: '\'' :: rest => some (done.reverse, rest)
  | '\r' :: '\n' :: rest => literalLines ('\n' :: done) rest
  | c :: rest => if c == '\n' || isPlain c then literalLines (c :: done) rest else none

/-- What follows a line break, if one stands in front. -/
def dropBreak (cs : List Char) : List Char := (lineBreak? cs).getD cs

/-- A text in any of the four forms. -/
def text? : List Char → Option (List Char × List Char)
  | '"' :: '"' :: '"' :: rest => basicLines [] false (dropBreak rest)
  | '"' :: rest => basicText [] rest
  | '\'' :: '\'' :: '\'' :: rest => literalLines [] (dropBreak rest)
  | '\'' :: rest => literalText [] rest
  | _ => none

/-! ## Numbers -/

/-- Digits with single underscores between them; the underscores are left out. -/
def grouped? (isDigit : Char → Bool) : List Char → Option (List Char)
  | [] => none
  | [c] => if isDigit c then some [c] else none
  | c :: '_' :: rest => if isDigit c then (grouped? isDigit rest).map (c :: ·) else none
  | c :: rest => if isDigit c then (grouped? isDigit rest).map (c :: ·) else none

/-- A sign, if there is one, and what follows. -/
def splitSign : List Char → Bool × List Char
  | '-' :: rest => (true, rest)
  | '+' :: rest => (false, rest)
  | rest => (false, rest)

/-- The value of digits in a base. -/
def valueOf (base : Nat) (ds : List Char) : Nat :=
  ds.foldl (fun n d => base * n + (hexValue? d).getD 0) 0

/-- Digits of a decimal number: no zero in front of others. -/
def decimal? (cs : List Char) : Option (List Char) :=
  match grouped? Char.isDigit cs with
  | some ('0' :: _ :: _) => none
  | result => result

/-- An integer of 64 bits, in decimal with a sign or in another base without. -/
def integer? (cs : List Char) : Option Int := do
  let n : Int ← match cs with
    | '0' :: 'x' :: ds => (grouped? (isHexDigit) ds).map (valueOf 16 ·)
    | '0' :: 'o' :: ds => (grouped? (fun c => '0' ≤ c && c ≤ '7') ds).map (valueOf 8 ·)
    | '0' :: 'b' :: ds => (grouped? (fun c => c == '0' || c == '1') ds).map (valueOf 2 ·)
    | cs =>
      let (negative, ds) := splitSign cs
      (decimal? ds).map fun ds => if negative then -(valueOf 10 ds : Int) else valueOf 10 ds
  if -0x8000000000000000 ≤ n ∧ n < 0x8000000000000000 then some n else none

/-- The power of ten after the letter. -/
def power? (cs : List Char) : Option Int :=
  let (negative, ds) := splitSign cs
  (grouped? Char.isDigit ds).map fun ds =>
    if negative then -(valueOf 10 ds : Int) else valueOf 10 ds

/-- A number with decimals or a power of ten, or one of the names. One too great to be told from
infinity is none, but far below zero there is no such bound. -/
def float? (cs : List Char) : Option Binary64 :=
  let (negative, body) := splitSign cs
  if body = ['i', 'n', 'f'] then some (.infinity negative)
  else if body = ['n', 'a', 'n'] then some .nan
  else do
    let mantissa := body.takeWhile fun c => c != 'e' && c != 'E'
    let power ← match body.drop mantissa.length with
      | [] => some none
      | _ :: digits => (power? digits).map some
    let whole ← decimal? (mantissa.takeWhile (· != '.'))
    let fraction ← match mantissa.dropWhile (· != '.') with
      | [] => some none
      | _ :: digits => (grouped? Char.isDigit digits).map some
    if power.isNone && fraction.isNone then none
    else
      let digits := fraction.getD []
      let x := Binary64.ofDecimal negative (natOfDigits 0 (whole ++ digits))
        (power.getD 0 - digits.length)
      if x = .infinity false then none else some x

/-! ## Dates -/

/-- The value of two digits. -/
def pair? (a b : Char) : Option Nat :=
  if a.isDigit && b.isDigit then some (10 * digitValue a + digitValue b) else none

/-- Whether two digits are a number up to a limit. -/
def pairUpTo (limit : Nat) (a b : Char) : Bool :=
  match pair? a b with
  | some n => n ≤ limit
  | none => false

/-- Whether a text is a zone. -/
def isZone : List Char → Bool
  | ['Z'] => true
  | ['z'] => true
  | [sign, a, b, ':', c, d] => (sign == '+' || sign == '-') && pairUpTo 23 a b && pairUpTo 59 c d
  | _ => false

/-- What follows decimals after a point, if there is a point. -/
def afterFraction? : List Char → Option (List Char)
  | '.' :: c :: rest => if c.isDigit then some (rest.dropWhile Char.isDigit) else none
  | cs => some cs

/-- What follows a time of day. -/
def afterClock? : List Char → Option (List Char)
  | a :: b :: ':' :: c :: d :: ':' :: e :: f :: rest =>
    if pairUpTo 23 a b && pairUpTo 59 c d && pairUpTo 60 e f then afterFraction? rest else none
  | _ => none

/-- What follows a date. -/
def afterDate? : List Char → Option (List Char)
  | a :: b :: c :: d :: '-' :: e :: f :: '-' :: g :: h :: rest => do
    let century ← pair? a b
    let year ← pair? c d
    let month ← pair? e f
    let day ← pair? g h
    if 1 ≤ day && day ≤ monthLength (century * 100 + year : Nat) month then some rest else none
  | _ => none

/-- Whether a text is a date, a time of day, or a date with a time and perhaps a zone. -/
def isDateTime (cs : List Char) : Bool :=
  match afterDate? cs with
  | some [] => true
  | some (c :: rest) =>
    (c == 'T' || c == 't' || c == ' ')
      && match afterClock? rest with
        | some zone => zone.isEmpty || isZone zone
        | none => false
  | none => afterClock? cs == some []

/-! ## Tokens -/

/-- Characters of numbers, dates and names. -/
def isTokenChar (c : Char) : Bool :=
  c.isAlphanum || c == '_' || c == '+' || c == '-' || c == '.' || c == ':'

/-- The token at the front. A date takes in a time of day that follows after one blank. -/
def token (cs : List Char) : List Char × List Char :=
  let first := cs.takeWhile isTokenChar
  match cs.dropWhile isTokenChar with
  | ' ' :: rest =>
    let second := rest.takeWhile isTokenChar
    if afterDate? first == some [] && (afterClock? second).isSome then
      (first ++ ' ' :: second, rest.dropWhile isTokenChar)
    else (first, ' ' :: rest)
  | rest => (first, rest)

/-- What stands for a date in structured data: a record that no field knows. -/
def dateJson (cs : List Char) : Json :=
  .obj [("$__toml_private_datetime", .str (String.ofList cs))]

/-- The value of a token. -/
def tokenValue? (cs : List Char) : Option Json :=
  if cs = "true".toList then some (.bool true)
  else if cs = "false".toList then some (.bool false)
  else if isDateTime cs then some (dateJson cs)
  else
    match float? cs with
    | some x => some (.num (.float x))
    | none => (integer? cs).map Json.int

end LogSearch.Toml
