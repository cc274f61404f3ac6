import Mathlib.Data.List.Basic

/-!
# Digits of a number in a base

`Nat.toDigits` seen from the reader's side: every character is a digit of the
base, folding the digit values gives the number back, and only zero starts with
the digit zero.
-/
namespace Sipmon.Lib.Digits

variable {b : Nat}

theorem mem_toDigits (base : 1 < b) (n : Nat) {ch : Char} (member : ch ∈ Nat.toDigits b n) :
    ∃ d < b, ch = d.digitChar := by
  induction n using Nat.strongRecOn with
  | ind n ih =>
    rw [Nat.toDigits_eq_if base] at member
    split at member
    · next small => exact ⟨n, small, List.mem_singleton.mp member⟩
    · next large =>
      rcases List.mem_append.mp member with front | last
      · exact ih (n / b) (Nat.div_lt_self (by omega) base) front
      · exact ⟨n % b, Nat.mod_lt n (by omega), List.mem_singleton.mp last⟩

/-- Horner's rule reads the number back, for any reading of the digit characters. -/
theorem foldl_toDigits (base : 1 < b) {value : Char → Nat} (reads : ∀ d < b, value d.digitChar = d) (n : Nat) :
    (Nat.toDigits b n).foldl (fun acc ch => acc * b + value ch) 0 = n := by
  induction n using Nat.strongRecOn with
  | ind n ih =>
    rw [Nat.toDigits_eq_if base]
    split
    · next small => simp [reads n small]
    · next large =>
      have front := ih (n / b) (Nat.div_lt_self (by omega) base)
      rw [List.foldl_append, front, List.foldl_cons, List.foldl_nil, reads _ (Nat.mod_lt n (by omega)),
        Nat.mul_comm]
      exact Nat.div_add_mod n b

/-- A number of several digits does not start with a zero. -/
theorem head_toDigits (base : 1 < b) {zero : Char} (only : ∀ d < b, d.digitChar = zero → d = 0) (n : Nat)
    (leading : (Nat.toDigits b n).head? = some zero) : n = 0 := by
  induction n using Nat.strongRecOn with
  | ind n ih =>
    rw [Nat.toDigits_eq_if base] at leading
    split at leading
    · next small =>
      rw [List.head?_cons, Option.some.injEq] at leading
      exact only n small leading
    · next large =>
      have front : (Nat.toDigits b (n / b)).head? = some zero := by
        cases digits : Nat.toDigits b (n / b) with
        | nil => exact absurd digits Nat.toDigits_ne_nil
        | cons ch rest =>
          rw [digits, List.cons_append] at leading
          exact leading
      have gone := ih (n / b) (Nat.div_lt_self (by omega) base) front
      exact absurd gone (Nat.pos_iff_ne_zero.mp (Nat.div_pos (Nat.le_of_not_lt large) (by omega)))

end Sipmon.Lib.Digits
