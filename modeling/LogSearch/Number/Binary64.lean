/-!
# Binary floating point of 64 bits

A number is held decoded, as `± m · 2^q`, so that every operation is exact integer arithmetic
followed by one rounding. Nothing here depends on the hardware.

`Binary64.round` is the only producer of finite values: it takes a non-negative ratio and returns
the nearest member of the format, a tie going to the even mantissa. Its values are canonical:
either `2^52 ≤ m < 2^53`, or `m < 2^52` and `q` is the least exponent. Two finite canonical values
are therefore equal as data exactly when they are the same number with the same sign.
-/

namespace LogSearch

/-- A member of the format: not a number, an infinity, or `± m · 2^q`. -/
inductive Binary64 where
  | nan
  | infinity (negative : Bool)
  | finite (negative : Bool) (mantissa : Nat) (exponent : Int)
  deriving DecidableEq, Repr, Inhabited

namespace Binary64

/-! ## Rounding -/

/-- The least exponent of the format; numbers with it may have fewer than 53 bits. -/
def minExponent : Int := -1074

/-- The greatest exponent of a finite number. -/
def maxExponent : Int := 971

/-- The zero of a sign. -/
def zero (negative : Bool) : Binary64 := .finite negative 0 minExponent

/-- `num / den` counted in units of `2^q`, as a quotient of natural numbers. -/
def scaled (num den : Nat) (q : Int) : Nat × Nat :=
  if q < 0 then (num * Nat.pow 2 (-q).toNat, den) else (num, den * Nat.pow 2 q.toNat)

/-- The quotient of two natural numbers rounded to the nearest one, a tie to the even one. -/
def roundDivEven (num den : Nat) : Nat :=
  let floor := num / den
  let twice := 2 * (num % den)
  if twice < den then floor
  else if den < twice then floor + 1
  else if floor % 2 = 0 then floor else floor + 1

/-- An exponent at which `num / den` has at most 53 bits before the point, and at least that many
unless it is the least exponent. -/
def chooseExponent (num den : Nat) : Int :=
  let guess := max ((num.log2 : Int) - den.log2 - 53) minExponent
  let (n, d) := scaled num den guess
  if n / d < Nat.pow 2 53 then guess else guess + 1

/-- A mantissa that rounding carried up to 54 bits is halved. -/
def normalize (negative : Bool) (m : Nat) (q : Int) : Binary64 :=
  let (m, q) := if m = Nat.pow 2 53 then (Nat.pow 2 52, q + 1) else (m, q)
  if maxExponent < q then .infinity negative else .finite negative m q

/-- The number nearest to `± num / den`, for `den` not zero. -/
def round (negative : Bool) (num den : Nat) : Binary64 :=
  if num = 0 then zero negative
  else
    let q := chooseExponent num den
    let (n, d) := scaled num den q
    normalize negative (roundDivEven n d) q

/-- The number nearest to `± m · 2^q`. -/
def roundDyadic (negative : Bool) (m : Nat) (q : Int) : Binary64 :=
  if q < 0 then round negative m (Nat.pow 2 (-q).toNat)
  else round negative (m * Nat.pow 2 q.toNat) 1

/-- The number nearest to an integer. -/
def ofInt (n : Int) : Binary64 := round (n < 0) n.natAbs 1

/-- The number nearest to a natural number. -/
def ofNat (n : Nat) : Binary64 := round false n 1

/-! ## Order -/

/-- A signed mantissa counted in units of `2^base`, for `base ≤ q`. -/
def signedAt (negative : Bool) (m : Nat) (q base : Int) : Int :=
  let magnitude : Int := m * Nat.pow 2 (q - base).toNat
  if negative then -magnitude else magnitude

/-- Numeric comparison: both zeros are equal, and nothing compares with what is not a number. -/
def compare? : Binary64 → Binary64 → Option Ordering
  | .nan, _ => none
  | _, .nan => none
  | .infinity a, .infinity b => some (compare b a)
  | .infinity a, .finite .. => some (if a then .lt else .gt)
  | .finite .., .infinity b => some (if b then .gt else .lt)
  | .finite a m q, .finite b n r =>
    let base := min q r
    some (compare (signedAt a m q base) (signedAt b n r base))

/-- Numeric equality. -/
def numEq (x y : Binary64) : Bool := x.compare? y == some .eq

/-- Numeric strict order. -/
def numLt (x y : Binary64) : Bool := x.compare? y == some .lt

/-- The smaller number; of two equal ones the first, and never one that is not a number
beside one that is. -/
def least (x y : Binary64) : Binary64 :=
  match x, y with
  | .nan, y => y
  | x, .nan => x
  | x, y => if y.numLt x then y else x

/-- The greater number; of two equal ones the first, and never one that is not a number
beside one that is. -/
def greatest (x y : Binary64) : Binary64 :=
  match x, y with
  | .nan, y => y
  | x, .nan => x
  | x, y => if x.numLt y then y else x

/-- The number itself when it is above zero, and zero otherwise. -/
def clampPositive (x : Binary64) : Binary64 :=
  if (zero false).numLt x then x else zero false

/-! ## Arithmetic -/

/-- The opposite number. -/
def neg : Binary64 → Binary64
  | .nan => .nan
  | .infinity a => .infinity (!a)
  | .finite a m q => .finite (!a) m q

/-- Sum: exact, then rounded. A zero sum is negative only when both summands are. -/
def add : Binary64 → Binary64 → Binary64
  | .nan, _ => .nan
  | _, .nan => .nan
  | .infinity a, .infinity b => if a = b then .infinity a else .nan
  | .infinity a, .finite .. => .infinity a
  | .finite .., .infinity b => .infinity b
  | .finite a m q, .finite b n r =>
    let base := min q r
    let sum := signedAt a m q base + signedAt b n r base
    if sum = 0 then zero (a && b) else roundDyadic (sum < 0) sum.natAbs base

/-- Difference. -/
def sub (x y : Binary64) : Binary64 := x.add y.neg

/-- Product: exact, then rounded. -/
def mul : Binary64 → Binary64 → Binary64
  | .nan, _ => .nan
  | _, .nan => .nan
  | .infinity a, .infinity b => .infinity (a != b)
  | .infinity a, .finite b n _ => if n = 0 then .nan else .infinity (a != b)
  | .finite a m _, .infinity b => if m = 0 then .nan else .infinity (a != b)
  | .finite a m q, .finite b n r => roundDyadic (a != b) (m * n) (q + r)

/-- Quotient: exact, then rounded. -/
def div : Binary64 → Binary64 → Binary64
  | .nan, _ => .nan
  | _, .nan => .nan
  | .infinity _, .infinity _ => .nan
  | .infinity a, .finite b .. => .infinity (a != b)
  | .finite a .., .infinity b => zero (a != b)
  | .finite a m q, .finite b n r =>
    if n = 0 then if m = 0 then .nan else .infinity (a != b)
    else
      let (num, den) := scaled m n (r - q)
      round (a != b) num den

/-- The least natural number whose square is above `n`, less one; Newton's method from above. -/
def natSqrtFrom (n guess : Nat) : Nat :=
  let next := (guess + n / guess) / 2
  if next < guess then natSqrtFrom n next else guess
termination_by guess

/-- The integer square root. -/
def natSqrt (n : Nat) : Nat :=
  if n = 0 then 0 else natSqrtFrom n (Nat.pow 2 (n.log2 / 2 + 1))

/-- Square root. The integer root of a mantissa widened by 128 bits has more bits than the format
keeps; a remainder moves the root to the middle of two integers, which no rounding boundary is. -/
def sqrt : Binary64 → Binary64
  | .nan => .nan
  | .infinity negative => if negative then .nan else .infinity false
  | .finite negative m q =>
    if m = 0 then .finite negative m q
    else if negative then .nan
    else
      let (m, q) := if q % 2 = 0 then (m, q) else (2 * m, q - 1)
      let wide := m * Nat.pow 2 128
      let root := natSqrt wide
      let sticky := if root * root = wide then 0 else 1
      roundDyadic false (2 * root + sticky) (q / 2 - 64 - 1)

/-! ## Integer parts -/

/-- The integer part, toward zero; `none` when there is none. -/
def truncate? : Binary64 → Option Int
  | .finite negative m q =>
    let magnitude : Nat := if q < 0 then m / Nat.pow 2 (-q).toNat else m * Nat.pow 2 q.toNat
    some (if negative then -magnitude else magnitude)
  | _ => none

/-- The integer part kept within `[lo, hi]`; what is not a number counts as zero. -/
def clampTo (lo hi : Int) : Binary64 → Int
  | .nan => 0
  | .infinity negative => if negative then lo else hi
  | x@(.finite ..) => max lo (min hi (x.truncate?.getD 0))

/-- Whether the number has a sign and finitely many digits. -/
def isFinite : Binary64 → Bool
  | .finite .. => true
  | _ => false

end Binary64

end LogSearch
