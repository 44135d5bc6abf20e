import LogSearch.Number.Binary64

/-!
# Decimal text of binary numbers

A finite number is written with the fewest significant digits that read back to it, and of those
with the nearest. Which digits these are is decided by exact comparison with the interval of reals
that round to the number (`Binary64.Interval`); how they are laid out is a `DecimalLayout`.

Reading is the inverse: a digit string with a power of ten is rounded once, from its exact value.
-/

namespace LogSearch

/-! ## Digits -/

/-- The decimal digits of a natural number, most significant first; at least one. -/
def decimalDigits (n : Nat) : List Char := Nat.toDigits 10 n

/-- The value of a decimal digit. -/
def digitValue (c : Char) : Nat := c.toNat - '0'.toNat

/-- The number that a digit string denotes, continuing from what was read before. -/
def natOfDigits (start : Nat) (digits : List Char) : Nat :=
  digits.foldl (fun n c => 10 * n + digitValue c) start

/-- A decimal number `0.d₁d₂… · 10^point`. -/
structure ShortDecimal where
  digits : List Char
  point : Int
  deriving Repr

namespace Binary64

/-- The reals that round to a positive number, as `[lo, hi] · 2^(exponent)`; the ends belong to it
when `closed`. -/
structure Interval where
  lo : Nat
  hi : Nat
  exponent : Int
  closed : Bool

/-- The rounding interval of `m · 2^q`. Below a power of two the spacing halves, so the lower end
is nearer there. -/
def interval (m : Nat) (q : Int) : Interval :=
  { lo := if m = Nat.pow 2 52 ∧ minExponent < q then 4 * m - 1 else 4 * m - 2
    hi := 4 * m + 2
    exponent := q - 2
    closed := m % 2 = 0 }

/-- Compares `a · 10^p` with `b · 2^q`. -/
def compareScaled (a : Nat) (p : Int) (b : Nat) (q : Int) : Ordering :=
  compare (a * Nat.pow 10 p.toNat * Nat.pow 2 (-q).toNat)
    (b * Nat.pow 2 q.toNat * Nat.pow 10 (-p).toNat)

/-- Whether `d · 10^p` rounds to the number the interval belongs to. -/
def Interval.contains (i : Interval) (d : Nat) (p : Int) : Bool :=
  let low := compareScaled d p i.lo i.exponent
  let high := compareScaled d p i.hi i.exponent
  if i.closed then low != .lt && high != .gt else low == .gt && high == .lt

/-- The greatest `d` with `d · 10^p ≤ m · 2^q`. -/
def floorScaled (m : Nat) (q p : Int) : Nat :=
  (m * Nat.pow 2 q.toNat * Nat.pow 10 (-p).toNat) / (Nat.pow 2 (-q).toNat * Nat.pow 10 p.toNat)

/-- Of the two neighbours of `m · 2^q` on the grid of `10^p`, one that rounds to it: the nearer if
both do. An exact tie goes to the upper one when `tieUp`, and else to the even one. -/
def gridPoint? (tieUp : Bool) (m : Nat) (q p : Int) : Option Nat :=
  let i := interval m q
  let d := floorScaled m q p
  match i.contains d p, i.contains (d + 1) p with
  | false, false => none
  | true, false => some d
  | false, true => some (d + 1)
  | true, true =>
    match compareScaled (2 * d + 1) p (2 * m) q with
    | .gt => some d
    | .lt => some (d + 1)
    | .eq => some (if tieUp || d % 2 = 1 then d + 1 else d)

/-- An integer at most one away from the decimal exponent of `m · 2^q`. -/
def decimalExponent (m : Nat) (q : Int) : Int :=
  if q < 0 then
    let d := floorScaled m q (-400)
    (decimalDigits d).length - 401
  else (decimalDigits (m * Nat.pow 2 q.toNat)).length - 1

/-- The first grid that has a point in the interval, from the coarsest given; `count` grids more
are tried. -/
def firstGrid (tieUp : Bool) (m : Nat) (q : Int) : (count : Nat) → (p : Int) → Nat × Int
  | 0, p => (floorScaled m q p, p)
  | count + 1, p =>
    match gridPoint? tieUp m q p with
    | some d => (d, p)
    | none => firstGrid tieUp m q count (p - 1)

/-- Digits without the zeros at the end. -/
def dropTrailingZeros (digits : List Char) : List Char :=
  (digits.reverse.dropWhile (· == '0')).reverse

/-- The shortest digits of `m · 2^q`, for `m` above zero. -/
def shortest (tieUp : Bool) (m : Nat) (q : Int) : ShortDecimal :=
  let (d, p) := firstGrid tieUp m q 18 (decimalExponent m q + 1)
  let digits := decimalDigits d
  { digits := dropTrailingZeros digits, point := digits.length + p }

end Binary64

/-! ## Layout -/

/-- How the digits of a number become text. -/
structure DecimalLayout where
  /-- Numbers `0.d… · 10^point` with `point` in this range are written without exponent. -/
  positional : Int → Bool
  /-- A whole number still gets one decimal. -/
  keepsPoint : Bool
  /-- An exact tie between two shortest texts goes to the upper one. -/
  tieUp : Bool
  /-- What is written for numbers that are not finite. -/
  nanText : String
  infinityText : String

namespace DecimalLayout

/-- Numbers of documents and requests: positional from `1e-5` up to `1e16`, with a decimal. -/
def document : DecimalLayout :=
  { positional := fun point => -4 ≤ point && point ≤ 16
    keepsPoint := true
    tieUp := false
    nanText := "null"
    infinityText := "null" }

/-- Numbers as plain text: always positional, whole numbers without a point. -/
def plain : DecimalLayout :=
  { positional := fun _ => true
    keepsPoint := false
    tieUp := true
    nanText := "NaN"
    infinityText := "inf" }

/-- Digits with the point put at its place. -/
def positionalText (layout : DecimalLayout) (s : ShortDecimal) : List Char :=
  let n := s.digits.length
  if s.point ≤ 0 then
    '0' :: '.' :: List.replicate (-s.point).toNat '0' ++ s.digits
  else if n ≤ s.point.toNat then
    s.digits ++ List.replicate (s.point.toNat - n) '0'
      ++ (if layout.keepsPoint then ['.', '0'] else [])
  else s.digits.take s.point.toNat ++ '.' :: s.digits.drop s.point.toNat

/-- One digit, the rest after a point, and a signed exponent. -/
def scientificText (s : ShortDecimal) : List Char :=
  let e := s.point - 1
  let sign := if e < 0 then '-' else '+'
  let mantissa := match s.digits with
    | [] => ['0']
    | [d] => [d]
    | d :: rest => d :: '.' :: rest
  mantissa ++ 'e' :: sign :: decimalDigits e.natAbs

/-- The text of a number. -/
def render (layout : DecimalLayout) (x : Binary64) : String :=
  match x with
  | .nan => layout.nanText
  | .infinity negative =>
    if negative && layout.infinityText != "null" then "-" ++ layout.infinityText
    else layout.infinityText
  | .finite negative m q =>
    let body :=
      if m = 0 then '0' :: (if layout.keepsPoint then ['.', '0'] else [])
      else
        let s := Binary64.shortest layout.tieUp m q
        if layout.positional s.point then layout.positionalText s else scientificText s
    String.ofList (if negative then '-' :: body else body)

end DecimalLayout

/-! ## Reading -/

namespace Binary64

/-- The number nearest to `± d · 10^e`. Numbers far outside the format are settled by their size
alone. -/
def ofDecimal (negative : Bool) (d : Nat) (e : Int) : Binary64 :=
  let size := (decimalDigits d).length + e
  if d = 0 || size < -330 then zero negative
  else if 310 < size then .infinity negative
  else if e < 0 then round negative d (Nat.pow 10 (-e).toNat)
  else round negative (d * Nat.pow 10 e.toNat) 1

/-- Digits at the front and what follows them. -/
def spanDigits (cs : List Char) : List Char × List Char := cs.span Char.isDigit

/-- An exponent of ten: `e` or `E`, a sign that may be missing, and digits. The empty text is the
exponent zero. -/
def readExponent : List Char → Option Int
  | [] => some 0
  | c :: rest =>
    if c = 'e' || c = 'E' then
      let (negative, ds) := match rest with
        | '+' :: ds => (false, ds)
        | '-' :: ds => (true, ds)
        | ds => (false, ds)
      if ds.isEmpty || !ds.all Char.isDigit then none
      else
        let n := natOfDigits 0 ds
        some (if negative then -n else n)
    else none

/-- A number written in digits, with a point and an exponent that may be missing; one digit before
or after the point is enough. -/
def readDigits (negative : Bool) (cs : List Char) : Option Binary64 :=
  let (whole, rest) := spanDigits cs
  let (fraction, rest) := match rest with
    | '.' :: rest => spanDigits rest
    | rest => ([], rest)
  if whole.isEmpty && fraction.isEmpty then none
  else
    (readExponent rest).map fun e =>
      ofDecimal negative (natOfDigits 0 (whole ++ fraction)) (e - fraction.length)

/-- Numbers as people write them: a sign that may be missing, then digits, `inf`, `infinity` or
`nan` in any letter case. -/
def read? (text : List Char) : Option Binary64 :=
  let (negative, body) := match text with
    | '-' :: rest => (true, rest)
    | '+' :: rest => (false, rest)
    | rest => (false, rest)
  let name := String.ofList (body.map Char.toLower)
  if name = "inf" || name = "infinity" then some (.infinity negative)
  else if name = "nan" then some .nan
  else readDigits negative body

end Binary64

end LogSearch
