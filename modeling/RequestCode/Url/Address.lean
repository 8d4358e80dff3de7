import RequestCode.Text.Cut
import RequestCode.Text.Digits

/-!
# Numeric host addresses

IPv4 addresses in their historical spellings, with fewer than four numbers and in three bases, and
IPv6 addresses. They are written in one canonical form.
-/

namespace RequestCode.Url

open Text

/-- A number of an IPv4 address. A number with a leading zero is octal, one with `0x` hexadecimal;
the mark alone counts as zero. -/
def ipv4Number? : List Char → Option Nat
  | [] => none
  | '0' :: 'x' :: r => if r.isEmpty then some 0 else numeral? 16 r
  | '0' :: 'X' :: r => if r.isEmpty then some 0 else numeral? 16 r
  | ['0'] => some 0
  | '0' :: r => numeral? 8 r
  | s => numeral? 10 s

/-- The parts of a name, not counting an empty one at its end. -/
def nameParts (s : List Char) : List (List Char) :=
  let parts := pieces '.' s
  if parts.length > 1 && parts.getLast? = some [] then parts.dropLast else parts

/-- A name whose last part is a number has to be an IPv4 address. -/
def endsInNumber (s : List Char) : Bool :=
  match (nameParts s).getLast? with
  | none => false
  | some last => (!last.isEmpty && last.all isDecimal) || (ipv4Number? last).isSome

/-- The numbers but the last are single octets; the last fills the octets that are left. -/
def ipv4Value? (numbers : List Nat) : Option Nat :=
  match numbers.reverse with
  | [] => none
  | last :: rest =>
    if numbers.length > 4 || rest.any (255 < ·) || Nat.pow 256 (4 - rest.length) ≤ last then none
    else some (rest.reverse.foldl (fun n x => n * 256 + x) 0 * Nat.pow 256 (4 - rest.length) + last)

def ipv4? (s : List Char) : Option Nat := (nameParts s).mapM ipv4Number? >>= ipv4Value?

def ipv4Chars (n : Nat) : List Char :=
  joined '.' ([n / 0x1000000, n / 0x10000 % 256, n / 0x100 % 256, n % 256].map decimal)

/-- A number of an IPv4 address inside an IPv6 one: decimal, without leading zeros. -/
def strictOctet? (s : List Char) : Option Nat :=
  if s.all isDecimal && (s.length = 1 || s.head? ≠ some '0') then
    (numeral? 10 s).filter (· ≤ 255)
  else none

/-- Up to four hexadecimal digits. -/
def ipv6Piece? (s : List Char) : Option Nat := if s.length ≤ 4 then numeral? 16 s else none

/-- Pieces of 16 bits; the last part may be an IPv4 address, which makes two. -/
def ipv6Pieces? (mayEndInIpv4 : Bool) : List (List Char) → Option (List Nat)
  | [] => some []
  | [s] =>
    if mayEndInIpv4 && '.' ∈ s then
      match (pieces '.' s).mapM strictOctet? with
      | some [a, b, c, d] => some [a * 256 + b, c * 256 + d]
      | _ => none
    else (ipv6Piece? s).map ([·])
  | s :: r => do return (← ipv6Piece? s) :: (← ipv6Pieces? mayEndInIpv4 r)

/-- The parts around the first pair of colons. -/
def cutDoubleColon : List Char → Option (List Char × List Char)
  | [] => none
  | ':' :: ':' :: r => some ([], r)
  | c :: r => (cutDoubleColon r).map fun p => (c :: p.1, p.2)

def colonParts (s : List Char) : List (List Char) := if s.isEmpty then [] else pieces ':' s

/-- The eight pieces of an address; a pair of colons stands for one or more zeros. -/
def ipv6? (s : List Char) : Option (List Nat) :=
  match cutDoubleColon s with
  | some (a, b) => do
    let left ← ipv6Pieces? false (colonParts a)
    let right ← ipv6Pieces? true (colonParts b)
    let count := left.length + right.length
    if 7 < count then none
    return left ++ List.replicate (8 - count) 0 ++ right
  | none => (ipv6Pieces? true (pieces ':' s)).filter (·.length = 8)

/-- The lengths of the runs of zeros that start at each piece. -/
def zeroRuns : List Nat → List Nat
  | [] => []
  | n :: r =>
    let runs := zeroRuns r
    (if n = 0 then runs.headD 0 + 1 else 0) :: runs

/-- The first of the longest runs of two zeros or more: its place and length. -/
def longestRun? (pieces : List Nat) : Option (Nat × Nat) :=
  let runs := zeroRuns pieces
  let longest := runs.foldl max 0
  if longest < 2 then none else some (runs.idxOf longest, longest)

/-- The longest run of zeros is written as a pair of colons. -/
def ipv6Chars (ns : List Nat) : List Char :=
  let write := fun s => joined ':' (List.map lowerHex s)
  match longestRun? ns with
  | some (start, length) => write (ns.take start) ++ [':', ':'] ++ write (ns.drop (start + length))
  | none => write ns

end RequestCode.Url
