import Mathlib.Data.List.Basic

/-!
Integers as text, in a base of at most ten.

A text is read after an optional sign, and what does not fit below a bound is
refused. A number is written with zeros in front to a least width. What is
written is read back, whatever the width.
-/

namespace Numeral

def isDigitOf (radix : Nat) (c : Char) : Bool :=
  c.isDigit && c.toNat - '0'.toNat < radix

/-- The characters behind an optional plus sign. -/
def unsignedPart : List Char → List Char
  | '+' :: digits => digits
  | digits => digits

def fromStrRadix (radix bound : Nat) (text : String) : Option Nat :=
  let digits := unsignedPart text.toList
  let n := Nat.ofDigitChars radix digits 0
  if digits ≠ [] ∧ digits.all (isDigitOf radix) ∧ n < bound then some n else none

/-- A signed integer: a minus sign and digits, or what is read without a sign. -/
def fromStrSigned (radix bound : Nat) (text : String) : Option Int :=
  match text.toList with
  | '-' :: digits =>
      let n := Nat.ofDigitChars radix digits 0
      if digits ≠ [] ∧ digits.all (isDigitOf radix) ∧ n ≤ bound then some (-n) else none
  | _ => (fromStrRadix radix bound text).map Int.ofNat

/-- The digits of a number, with zeros in front to a least width. -/
def padded (radix width n : Nat) : String :=
  let digits := Nat.toDigits radix n
  String.ofList (List.replicate (width - digits.length) '0' ++ digits)

variable {radix bound n : Nat}

theorem fromStrRadix_lt {text : String} (read : fromStrRadix radix bound text = some n) :
    n < bound := by
  simp only [fromStrRadix, Option.ite_none_right_eq_some, Option.some.injEq] at read
  obtain ⟨⟨-, -, fits⟩, rfl⟩ := read
  exact fits

theorem isDigitOf_digitChar (base : radix ≤ 10) (small : n < radix) :
    isDigitOf radix (Nat.digitChar n) = true := by
  have digit : n < 10 := by omega
  simp [isDigitOf, Nat.isDigit_digitChar, digit, Nat.toNat_digitChar_of_lt_ten digit, small]

/-- A number is written with digits of its base. -/
theorem isDigitOf_toDigits (low : 1 < radix) (base : radix ≤ 10) (n : Nat) :
    ∀ c ∈ Nat.toDigits radix n, isDigitOf radix c = true := by
  induction n using Nat.strongRecOn with
  | ind n ih =>
      intro c member
      rw [Nat.toDigits_eq_if low] at member
      by_cases small : n < radix
      · rw [if_pos small, List.mem_singleton] at member
        subst member
        exact isDigitOf_digitChar base small
      · rw [if_neg small, List.mem_append, List.mem_singleton] at member
        have positive : 0 < n := by omega
        cases member with
        | inl higher => exact ih (n / radix) (Nat.div_lt_self positive low) c higher
        | inr last =>
            subst last
            exact isDigitOf_digitChar base (Nat.mod_lt n (by omega))

theorem unsignedPart_digits {digits : List Char}
    (numeric : ∀ c ∈ digits, isDigitOf radix c = true) : unsignedPart digits = digits := by
  unfold unsignedPart
  split
  · have sign := numeric '+' List.mem_cons_self
    simp [isDigitOf] at sign
  · rfl

theorem toList_padded (width : Nat) :
    (padded radix width n).toList =
      List.replicate (width - (Nat.toDigits radix n).length) '0' ++ Nat.toDigits radix n :=
  String.toList_ofList

/-- A number is written with digits of its base, the zeros in front included. -/
theorem isDigitOf_padded (low : 1 < radix) (base : radix ≤ 10) (width n : Nat) :
    ∀ c ∈ (padded radix width n).toList, isDigitOf radix c = true := by
  intro c member
  rw [toList_padded, List.mem_append] at member
  cases member with
  | inl zero =>
      rw [List.eq_of_mem_replicate zero]
      simp only [isDigitOf, Nat.sub_self, Bool.and_eq_true, decide_eq_true_eq]
      exact ⟨rfl, by omega⟩
  | inr digit => exact isDigitOf_toDigits low base n c digit

/-- A number that fits is read back from what is written for it. -/
theorem fromStrRadix_padded (low : 1 < radix) (base : radix ≤ 10) (width : Nat) (fits : n < bound) :
    fromStrRadix radix bound (padded radix width n) = some n := by
  have numeric := isDigitOf_padded low base width n
  have value : Nat.ofDigitChars radix (padded radix width n).toList 0 = n := by
    rw [toList_padded, Nat.ofDigitChars_append, Nat.ofDigitChars_replicate_zero, Nat.mul_zero,
      Nat.ofDigitChars_toDigits low base]
  have nonempty : (padded radix width n).toList ≠ [] := by
    simp [toList_padded, Nat.toDigits_ne_nil]
  simp only [fromStrRadix, unsignedPart_digits numeric, value]
  exact if_pos ⟨nonempty, List.all_eq_true.mpr numeric, fits⟩

theorem padded_zero (n : Nat) : padded 10 0 n = n.repr := by
  simp [padded, Nat.repr]

theorem fromStrRadix_repr (fits : n < bound) : fromStrRadix 10 bound n.repr = some n := by
  rw [← padded_zero]
  exact fromStrRadix_padded (by decide) (by decide) 0 fits

end Numeral
