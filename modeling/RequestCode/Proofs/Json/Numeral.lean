import Mathlib.Data.List.TakeWhile
import RequestCode.Json.Tree

/-!
# Numerals are read back

The digits that are written for a number make up one numeral of JSON, and it stands for the number.
Main statements: `readNumeral_decimal` and `decimalValue_decimal`.
-/

namespace RequestCode

namespace Text

variable {n : Nat} {c : Char} {s : List Char}

theorem decimal_of_lt (h : n < 10) : decimal n = [lowerHexDigit n] := by
  rw [decimal, digits, dif_pos (.inr h)]

theorem decimal_of_le (h : 10 ≤ n) : decimal n = decimal (n / 10) ++ [lowerHexDigit (n % 10)] := by
  rw [decimal, digits, dif_neg (by omega)]
  rfl

theorem decimal_ne_nil (n : Nat) : decimal n ≠ [] := by
  rcases Nat.lt_or_ge n 10 with small | large
  · rw [decimal_of_lt small]
    exact List.cons_ne_nil _ _
  · rw [decimal_of_le large]
    exact List.append_ne_nil_of_right_ne_nil _ (List.cons_ne_nil _ _)

theorem isDecimal_lowerHexDigit : ∀ d < 10, isDecimal (lowerHexDigit d) = true := by decide

theorem isDecimal_of_mem_decimal (h : c ∈ decimal n) : isDecimal c = true := by
  induction n using Nat.strongRecOn with
  | ind n ih =>
    rcases Nat.lt_or_ge n 10 with small | large
    · rw [decimal_of_lt small, List.mem_singleton] at h
      rw [h]
      exact isDecimal_lowerHexDigit n small
    · rw [decimal_of_le large, List.mem_append, List.mem_singleton] at h
      rcases h with h | rfl
      · exact ih (n / 10) (by omega) h
      · exact isDecimal_lowerHexDigit _ (Nat.mod_lt n (by decide))

theorem decimalValue_append (s : List Char) (c : Char) :
    decimalValue (s ++ [c]) = decimalValue s * 10 + (c.toNat - 48) := by
  simp [decimalValue]

theorem decimalValue_decimal (n : Nat) : decimalValue (decimal n) = n := by
  have digit : ∀ d < 10, (lowerHexDigit d).toNat - 48 = d := by decide
  induction n using Nat.strongRecOn with
  | ind n ih =>
    rcases Nat.lt_or_ge n 10 with small | large
    · simp [decimal_of_lt small, decimalValue, digit n small]
    · rw [decimal_of_le large, decimalValue_append, ih (n / 10) (by omega),
        digit _ (Nat.mod_lt n (by decide))]
      omega

/-- Only the numeral of zero starts with a zero. -/
theorem head?_decimal_ne_zero (h : 0 < n) : ∃ c, (decimal n).head? = some c ∧ c ≠ '0' := by
  have digit : ∀ d < 10, 0 < d → lowerHexDigit d ≠ '0' := by decide
  induction n using Nat.strongRecOn with
  | ind n ih =>
    rcases Nat.lt_or_ge n 10 with small | large
    · exact ⟨_, by rw [decimal_of_lt small]; rfl, digit n small h⟩
    · obtain ⟨c, first, nonzero⟩ := ih (n / 10) (by omega) (by omega)
      refine ⟨c, ?_, nonzero⟩
      rw [decimal_of_le large, List.head?_append, first]
      rfl

end Text

namespace Json

open Text

theorem readNumeral_of_digits {s : List Char} (digits : ∀ c ∈ s, isDecimal c = true)
    (nonempty : s ≠ []) (leading : s.head? = some '0' → s.length ≤ 1) :
    readNumeral s = some (⟨false, s, none, none⟩, []) := by
  have whole : s.takeWhile isDecimal = s := List.takeWhile_eq_self_iff.mpr digits
  have rest : s.dropWhile isDecimal = [] := List.dropWhile_eq_nil_iff.mpr digits
  have unsigned : ∀ r, s ≠ '-' :: r := by
    rintro r rfl
    exact absurd (digits '-' List.mem_cons_self) (by decide)
  unfold readNumeral
  split
  rename_i negative t split_sign
  split at split_sign
  · exact absurd rfl (unsigned _)
  · cases split_sign
    have single : ¬(s.head? = some '0' ∧ 1 < s.length) := fun h => by
      have := leading h.1
      omega
    simp [whole, rest, nonempty, single, takeExponent]

theorem readNumeral_decimal (n : Nat) :
    readNumeral (decimal n) = some (⟨false, decimal n, none, none⟩, []) := by
  apply readNumeral_of_digits
  · exact fun c => isDecimal_of_mem_decimal
  · exact decimal_ne_nil n
  · intro zero
    rcases Nat.eq_zero_or_pos n with rfl | positive
    · rw [decimal_of_lt (by decide)]
      exact Nat.le_refl _
    · obtain ⟨c, first, nonzero⟩ := head?_decimal_ne_zero positive
      rw [first] at zero
      exact absurd (Option.some.inj zero) nonzero

end Json

end RequestCode
