import RequestCode.Text.Digits
import RequestCode.Text.Utf8

/-!
# Percent encoding

A character that may not stand for itself is written as its UTF-8 octets, each as `%` and two
digits. Which characters may depends on the part of the URL.
-/

namespace RequestCode.Url

open Text

def percentOctet (b : Nat) : List Char :=
  ['%', upperHexDigit (b / 16), upperHexDigit (b % 16)]

def percentChar (c : Char) : List Char := (Utf8.encodeChar c).flatMap percentOctet

/-- Encode every character outside the class. -/
def percentEncode (keep : Char → Bool) (s : List Char) : List Char :=
  s.flatMap fun c => if keep c then [c] else percentChar c

/-- Replace escapes by the octets they stand for; what is no escape stays. -/
def percentDecode : List Nat → List Nat
  | [] => []
  | 37 :: a :: b :: r =>
    match hexValue? (Char.ofNat a), hexValue? (Char.ofNat b) with
    | some x, some y => (x * 16 + y) :: percentDecode r
    | _, _ => 37 :: percentDecode (a :: b :: r)
  | b :: r => b :: percentDecode r

/-- Printable ASCII. -/
def keepOpaque (c : Char) : Bool := 0x20 ≤ c.toNat && c.toNat ≤ 0x7E

def keepFragment (c : Char) : Bool :=
  keepOpaque c && c ≠ ' ' && c ≠ '"' && c ≠ '<' && c ≠ '>' && c ≠ (Char.ofNat 0x60)

def keepPath (c : Char) : Bool :=
  keepFragment c && c ≠ '#' && c ≠ '?' && c ≠ '\x7b' && c ≠ '\x7d'

def keepUserinfo (c : Char) : Bool :=
  keepPath c && c ≠ '/' && c ≠ ':' && c ≠ ';' && c ≠ '=' && c ≠ '@'
    && c ≠ '[' && c ≠ '\\' && c ≠ ']' && c ≠ '^' && c ≠ '|'

def keepQuery (c : Char) : Bool :=
  keepOpaque c && c ≠ ' ' && c ≠ '"' && c ≠ '#' && c ≠ '<' && c ≠ '>'

def keepSpecialQuery (c : Char) : Bool := keepQuery c && c ≠ '\''

end RequestCode.Url
