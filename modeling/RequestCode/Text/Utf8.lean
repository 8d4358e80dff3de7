/-!
# UTF-8

Octets are natural numbers below 256. Decoding never fails: every longest piece that starts a
sequence but does not finish one becomes a single replacement character. Main statement: decoding
gives back every encoded text.
-/

namespace RequestCode.Text.Utf8

def encodeChar (c : Char) : List Nat :=
  let n := c.toNat
  if n < 0x80 then [n]
  else if n < 0x800 then [0xC0 + n / 64, 0x80 + n % 64]
  else if n < 0x10000 then [0xE0 + n / 4096, 0x80 + n / 64 % 64, 0x80 + n % 64]
  else [0xF0 + n / 262144, 0x80 + n / 4096 % 64, 0x80 + n / 64 % 64, 0x80 + n % 64]

def encode (s : List Char) : List Nat := s.flatMap encodeChar

/-- Number of octets of the encoded text. -/
def size (s : List Char) : Nat := (encode s).length

def replacement : Char := '\uFFFD'

/-- What a first octet of a longer sequence announces: the bits it carries, the number of octets
that follow, and the bounds of the next one. -/
structure Lead where
  bits : Nat
  more : Nat
  low : Nat
  high : Nat

def lead? (b : Nat) : Option Lead :=
  if b < 0xC2 then none
  else if b < 0xE0 then some ⟨b - 0xC0, 1, 0x80, 0xBF⟩
  else if b = 0xE0 then some ⟨0, 2, 0xA0, 0xBF⟩
  else if b = 0xED then some ⟨13, 2, 0x80, 0x9F⟩
  else if b < 0xF0 then some ⟨b - 0xE0, 2, 0x80, 0xBF⟩
  else if b = 0xF0 then some ⟨0, 3, 0x90, 0xBF⟩
  else if b < 0xF4 then some ⟨b - 0xF0, 3, 0x80, 0xBF⟩
  else if b = 0xF4 then some ⟨4, 3, 0x80, 0x8F⟩
  else none

/-- Read the octets after the first one: the character, or the replacement at the first octet
that is out of bounds, and what is left. -/
def finish (bits low high : Nat) : Nat → List Nat → Char × List Nat
  | 0, r => (Char.ofNat bits, r)
  | _ + 1, [] => (replacement, [])
  | more + 1, b :: r =>
    if low ≤ b ∧ b ≤ high then finish (bits * 64 + (b - 0x80)) 0x80 0xBF more r
    else (replacement, b :: r)

theorem finish_length (bits low high more : Nat) (r : List Nat) :
    (finish bits low high more r).2.length ≤ r.length := by
  induction more generalizing bits low high r with
  | zero => simp [finish]
  | succ more ih =>
    cases r with
    | nil => simp [finish]
    | cons b r =>
      simp only [finish]
      split
      · exact Nat.le_succ_of_le (ih ..)
      · simp

/-- The first character of the decoded text and the octets after it. -/
def decodeStep (b : Nat) (r : List Nat) : Char × List Nat :=
  if b < 0x80 then (Char.ofNat b, r)
  else match lead? b with
    | none => (replacement, r)
    | some l => finish l.bits l.low l.high l.more r

theorem decodeStep_length (b : Nat) (r : List Nat) : (decodeStep b r).2.length ≤ r.length := by
  unfold decodeStep
  split
  · simp
  · split
    · simp
    · exact finish_length ..

def decode : List Nat → List Char
  | [] => []
  | b :: r => (decodeStep b r).1 :: decode (decodeStep b r).2
termination_by s => s.length
decreasing_by
  have := decodeStep_length b r
  simp only [List.length_cons]
  omega

theorem toNat_valid (c : Char) : c.toNat < 0xD800 ∨ (0xDFFF < c.toNat ∧ c.toNat < 0x110000) :=
  c.valid

theorem decode_encodeChar_append (c : Char) (r : List Nat) :
    decode (encodeChar c ++ r) = c :: decode r := by
  have hv := toNat_valid c
  have hc : Char.ofNat c.toNat = c := Char.ofNat_toNat c
  generalize hn : c.toNat = n at hv hc
  unfold encodeChar
  simp only [hn]
  split
  · rename_i h
    rw [List.cons_append, List.nil_append, decode]
    simp [decodeStep, h, hc]
  · split
    · rename_i h1 h2
      simp only [List.cons_append, List.nil_append]
      rw [decode]
      have a1 : ¬ (0xC0 + n / 64 < 0x80) := by omega
      have a2 : ¬ (0xC0 + n / 64 < 0xC2) := by omega
      have a3 : 0xC0 + n / 64 < 0xE0 := by omega
      have a4 : 0x80 ≤ 0x80 + n % 64 ∧ 0x80 + n % 64 ≤ 0xBF := by omega
      have a5 : (0xC0 + n / 64 - 0xC0) * 64 + (0x80 + n % 64 - 0x80) = n := by omega
      simp only [decodeStep, a1, if_false, lead?, a2, a3, if_true, finish, a4, and_self, a5, hc]
    · split
      · rename_i h1 h2 h3
        simp only [List.cons_append, List.nil_append]
        rw [decode]
        have a1 : ¬ (0xE0 + n / 4096 < 0x80) := by omega
        have a2 : ¬ (0xE0 + n / 4096 < 0xC2) := by omega
        have a3 : ¬ (0xE0 + n / 4096 < 0xE0) := by omega
        have a6 : 0xE0 + n / 4096 < 0xF0 := by omega
        have a4 : 0x80 ≤ 0x80 + n % 64 ∧ 0x80 + n % 64 ≤ 0xBF := by omega
        simp only [decodeStep, a1, if_false, lead?, a2, a3]
        by_cases e0 : 0xE0 + n / 4096 = 0xE0
        · have b1 : 0xA0 ≤ 0x80 + n / 64 % 64 ∧ 0x80 + n / 64 % 64 ≤ 0xBF := by omega
          have b2 : (0 * 64 + (0x80 + n / 64 % 64 - 0x80)) * 64 + (0x80 + n % 64 - 0x80) = n := by
            omega
          simp only [e0, if_true, finish, b1, and_self, a4, b2, hc]
        · by_cases ed : 0xE0 + n / 4096 = 0xED
          · have b1 : 0x80 ≤ 0x80 + n / 64 % 64 ∧ 0x80 + n / 64 % 64 ≤ 0x9F := by omega
            have b2 : (13 * 64 + (0x80 + n / 64 % 64 - 0x80)) * 64 + (0x80 + n % 64 - 0x80)
                = n := by omega
            rw [ed, if_neg (by decide), if_pos rfl]
            simp only [finish, b1, and_self, if_true, a4, b2, hc]
          · have b1 : 0x80 ≤ 0x80 + n / 64 % 64 ∧ 0x80 + n / 64 % 64 ≤ 0xBF := by omega
            have b2 : ((0xE0 + n / 4096 - 0xE0) * 64 + (0x80 + n / 64 % 64 - 0x80)) * 64
                + (0x80 + n % 64 - 0x80) = n := by omega
            simp only [e0, ed, a6, if_true, if_false, finish, b1, and_self, a4, b2, hc]
      · rename_i h1 h2 h3
        simp only [List.cons_append, List.nil_append]
        rw [decode]
        have a1 : ¬ (0xF0 + n / 262144 < 0x80) := by omega
        have a2 : ¬ (0xF0 + n / 262144 < 0xC2) := by omega
        have a3 : ¬ (0xF0 + n / 262144 < 0xE0) := by omega
        have a6 : ¬ (0xF0 + n / 262144 = 0xE0) := by omega
        have a7 : ¬ (0xF0 + n / 262144 = 0xED) := by omega
        have a8 : ¬ (0xF0 + n / 262144 < 0xF0) := by omega
        have a4 : 0x80 ≤ 0x80 + n % 64 ∧ 0x80 + n % 64 ≤ 0xBF := by omega
        have a5 : 0x80 ≤ 0x80 + n / 64 % 64 ∧ 0x80 + n / 64 % 64 ≤ 0xBF := by omega
        simp only [decodeStep, a1, if_false, lead?, a2, a3, a6, a7, a8]
        by_cases e0 : 0xF0 + n / 262144 = 0xF0
        · have b1 : 0x90 ≤ 0x80 + n / 4096 % 64 ∧ 0x80 + n / 4096 % 64 ≤ 0xBF := by omega
          have b2 : ((0 * 64 + (0x80 + n / 4096 % 64 - 0x80)) * 64
              + (0x80 + n / 64 % 64 - 0x80)) * 64 + (0x80 + n % 64 - 0x80) = n := by omega
          simp only [e0, if_true, finish, b1, and_self, a4, a5, b2, hc]
        · by_cases lt : 0xF0 + n / 262144 < 0xF4
          · have b1 : 0x80 ≤ 0x80 + n / 4096 % 64 ∧ 0x80 + n / 4096 % 64 ≤ 0xBF := by omega
            have b2 : (((0xF0 + n / 262144 - 0xF0) * 64 + (0x80 + n / 4096 % 64 - 0x80)) * 64
                + (0x80 + n / 64 % 64 - 0x80)) * 64 + (0x80 + n % 64 - 0x80) = n := by omega
            simp only [e0, lt, if_true, if_false, finish, b1, and_self, a4, a5, b2, hc]
          · have e4 : 0xF0 + n / 262144 = 0xF4 := by omega
            have b1 : 0x80 ≤ 0x80 + n / 4096 % 64 ∧ 0x80 + n / 4096 % 64 ≤ 0x8F := by omega
            have b2 : ((4 * 64 + (0x80 + n / 4096 % 64 - 0x80)) * 64
                + (0x80 + n / 64 % 64 - 0x80)) * 64 + (0x80 + n % 64 - 0x80) = n := by omega
            rw [e4, if_neg (by decide), if_neg (by decide), if_pos rfl]
            simp only [finish, b1, and_self, if_true, a4, a5, b2, hc]

theorem decode_encode (s : List Char) : decode (encode s) = s := by
  induction s with
  | nil => simp [encode, decode]
  | cons c r ih =>
    rw [encode, List.flatMap_cons, decode_encodeChar_append]
    exact congrArg _ ih

end RequestCode.Text.Utf8
