/-!
# Percent-encoding

A name inside a URL. Letters and digits of ASCII and `-`, `_`, `.`, `~` stand for themselves; of
every other character the bytes of its UTF-8 form are written, each as `%` and two hexadecimal
digits in upper case. No delimiter of a URL is ever written, so encoded names can be joined by
commas and taken apart again. `percentDecode?` reads a name back.
-/

namespace LogSearch

/-! ## Bytes -/

/-- A hexadecimal digit in upper case. -/
def upperHex (n : Nat) : Char := Char.ofNat (if n < 10 then 0x30 + n else 0x37 + n)

/-- The value of a hexadecimal digit in upper case. -/
def upperHexValue? (c : Char) : Option Nat :=
  if '0' ≤ c && c ≤ '9' then some (c.toNat - 0x30)
  else if 'A' ≤ c && c ≤ 'F' then some (c.toNat - 0x37)
  else none

/-- A byte as it is written. -/
def percentByte (b : UInt8) : List Char :=
  ['%', upperHex (b.toNat / 16), upperHex (b.toNat % 16)]

/-! ## Names -/

/-- Characters that stand for themselves. -/
def isUnreserved (c : Char) : Bool :=
  c.isAlphanum || c == '-' || c == '_' || c == '.' || c == '~'

/-- A character as it is written. -/
def percentChar (c : Char) : List Char :=
  if isUnreserved c then [c] else (String.utf8EncodeChar c).flatMap percentByte

/-- A name as it is written. -/
def percentEncode (name : String) : List Char := name.toList.flatMap percentChar

/-! ## Reading -/

/-- The bytes that a written name stands for. -/
def percentBytes? : List Char → Option (List UInt8)
  | [] => some []
  | '%' :: high :: low :: rest => do
    let h ← upperHexValue? high
    let l ← upperHexValue? low
    return UInt8.ofNat (16 * h + l) :: (← percentBytes? rest)
  | c :: rest =>
    if isUnreserved c then (percentBytes? rest).map (UInt8.ofNat c.toNat :: ·) else none

/-- The name that is written. -/
def percentDecode? (cs : List Char) : Option String := do
  String.fromUTF8? ⟨(← percentBytes? cs).toArray⟩

end LogSearch
