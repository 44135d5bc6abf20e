import LogSearch.Number.Decimal
import LogSearch.Text.DomainName
import LogSearch.Text.Hexadecimal

/-!
# Hosts

The part of a URL that names the machine: an IPv6 address in brackets, an IPv4 address, or a domain
name. A name whose last part is a number has to be an IPv4 address. Such an address may be written
with fewer than four numbers, the last of which then fills the bytes that are left, and each number
may be hexadecimal or octal.

The bytes of a host may be written as `%` and two hexadecimal digits (`hostBytes`).
-/

namespace LogSearch

/-- What a URL names a machine by. -/
inductive Host where
  | domain (name : String)
  /-- The four bytes of the address as one number. -/
  | v4 (address : Nat)
  /-- The address in pieces of two bytes; where `gapAt` tells of a gap, zeros fill it up. -/
  | v6 (pieces : List Nat) (gapAt : Option Nat)
  deriving DecidableEq, Repr

/-- What is wrong with a host. -/
inductive HostError where
  | empty
  | badDomain
  | badV4
  | badV6
  deriving DecidableEq, Repr

/-- The text of the error. -/
def HostError.message : HostError → String
  | .empty => "empty host"
  | .badDomain => "invalid international domain name"
  | .badV4 => "invalid IPv4 address"
  | .badV6 => "invalid IPv6 address"

namespace Host

/-! ## IPv4 -/

/-- The number that digits denote, if all are digits of the base. -/
def numberInBase? (base : Nat) (digits : List Char) : Option Nat := do
  let values ← digits.mapM hexValue?
  if values.all (· < base) then some (values.foldl (fun n d => base * n + d) 0) else none

/-- A number of an IPv4 address: hexadecimal after `0x`, octal after another zero, and decimal
otherwise. -/
def v4Number? : List Char → Option Nat
  | [] => none
  | '0' :: 'x' :: digits => numberInBase? 16 digits
  | '0' :: d :: digits => numberInBase? 8 (d :: digits)
  | digits => numberInBase? 10 digits

/-- The parts of a name; a dot at the end does not count. -/
def partsOf (name : List Char) : List (List Char) :=
  let parts := splitAll '.' name
  if parts.length ≠ 1 ∧ parts.getLast? = some [] then parts.dropLast else parts

/-- Whether a name has to be an IPv4 address. -/
def endsInNumber (name : List Char) : Bool :=
  match (partsOf name).getLast? with
  | none => false
  | some last => (!last.isEmpty && last.all Char.isDigit) || (v4Number? last).isSome

/-- The IPv4 address that is written. -/
def v4? (name : List Char) : Option Nat := do
  let numbers ← (partsOf name).mapM v4Number?
  let last ← numbers.getLast?
  let bytes := numbers.dropLast
  guard (bytes.length < 4 ∧ bytes.all (· < 256) ∧ last < Nat.pow 256 (4 - bytes.length))
  return bytes.foldr (fun byte rest => byte * 0x1000000 + rest / 256) 0 + last

/-! ## IPv6 -/

/-- A piece of an IPv6 address: up to four hexadecimal digits. -/
def v6Piece? (digits : List Char) : Option Nat :=
  if digits.isEmpty || 4 < digits.length then none else numberInBase? 16 digits

/-- A byte of an IPv4 address inside of an IPv6 address; no zero stands before other digits. -/
def byte? (digits : List Char) : Option Nat :=
  if digits.isEmpty || (digits.head? == some '0' && digits.length ≠ 1) then none
  else (numberInBase? 10 digits).filter (· < 256)

/-- The last pieces of an IPv6 address: one, or two that are written as an IPv4 address. -/
def v6End? (digits : List Char) : Option (List Nat) :=
  match (splitAll '.' digits).mapM byte? with
  | some [a, b, c, d] => some [a * 256 + b, c * 256 + d]
  | _ => (v6Piece? digits).map ([·])

/-- Pieces between colons; none if there is no text. -/
def v6Pieces? (text : List Char) (end? : List Char → Option (List Nat)) : Option (List Nat) :=
  if text.isEmpty then some []
  else do
    let pieces := splitAll ':' text
    return (← pieces.dropLast.mapM v6Piece?) ++ (← end? (pieces.getLast?.getD []))

/-- The text on both sides of the first two colons that stand together. -/
def splitGap? : List Char → Option (List Char × List Char)
  | [] => none
  | ':' :: ':' :: rest => some ([], rest)
  | c :: rest => (splitGap? rest).map fun (front, back) => (c :: front, back)

/-- The IPv6 address that is written between brackets. A gap stands for one piece at least. -/
def v6? (text : List Char) : Option Host :=
  match splitGap? text with
  | none => (v6Pieces? text v6End?).bind fun pieces =>
    if pieces.length = 8 then some (.v6 pieces none) else none
  | some (front, back) => do
    let front ← v6Pieces? front fun digits => (v6Piece? digits).map ([·])
    let back ← v6Pieces? back v6End?
    if front.length + back.length < 8 then some (.v6 (front ++ back) (some front.length)) else none

/-! ## Reading -/

/-- The bytes of a host, where a byte may be written as `%` and two hexadecimal digits. -/
def hostBytes : List Char → List UInt8
  | '%' :: high :: low :: rest =>
    match hexValue? high, hexValue? low with
    | some h, some l => UInt8.ofNat (16 * h + l) :: hostBytes rest
    | _, _ => UInt8.ofNat '%'.toNat :: hostBytes (high :: low :: rest)
  | c :: rest => String.utf8EncodeChar c ++ hostBytes rest
  | [] => []

/-- The domain name that is written. -/
def spelledDomain? (text : List Char) : Option (List Char) := do
  domainName? (← String.fromUTF8? ⟨(hostBytes text).toArray⟩).toList

/-- The host that is written. -/
def parse (text : List Char) : Except HostError Host :=
  match text with
  | [] => .error .empty
  | '[' :: rest =>
    match if rest.getLast? = some ']' then v6? rest.dropLast else none with
    | some host => .ok host
    | none => .error .badV6
  | _ =>
    match spelledDomain? text with
    | none => .error .badDomain
    | some [] => .error .empty
    | some name =>
      if endsInNumber name then
        match v4? name with
        | some address => .ok (.v4 address)
        | none => .error .badV4
      else .ok (.domain (String.ofList name))

end Host

end LogSearch
