import RequestCode.Text.VisibleTable

/-!
# Showing a text unambiguously

A text is shown between double quotes. Characters that cannot be seen, or that attach to the one
before them, are shown by their number.
-/

namespace RequestCode.Text

def isVisible (c : Char) : Bool :=
  if c.toNat < 0x7F then 0x20 ≤ c.toNat
  else visibleSet.contains c && !graphemeExtendSet.contains c

def inspectChar (c : Char) : List Char :=
  match c with
  | '\x00' => ['\\', '0']
  | '\t' => ['\\', 't']
  | '\n' => ['\\', 'n']
  | '\r' => ['\\', 'r']
  | '"' => ['\\', '"']
  | '\\' => ['\\', '\\']
  | c => if isVisible c then [c] else ['\\', 'u', '\x7b'] ++ lowerHex c.toNat ++ ['\x7d']

def inspect (s : String) : String :=
  .ofList ('"' :: s.toList.flatMap inspectChar ++ ['"'])

end RequestCode.Text
