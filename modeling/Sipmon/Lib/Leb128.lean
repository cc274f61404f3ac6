import Mathlib.Data.Nat.Bitwise

/-!
# LEB128: base-128 little-endian groups

A group is a byte whose low seven bits are the digit and whose top bit says that
another group follows. `encode` is the canonical encoding of a natural number;
`Terminated` is the shape of every encoding, canonical or not; `value` is the
number a group list denotes. Readers are verified against `Terminated` and
`value`, so that their correctness on canonical input is one instance.
-/
namespace Sipmon.Lib.Leb128

/-- The digit of a group. -/
def digit (b : UInt8) : Nat := b.toNat % 128

/-- The group announces a successor. -/
def continues (b : UInt8) : Prop := 128 ≤ b.toNat

instance (b : UInt8) : Decidable (continues b) := inferInstanceAs (Decidable (128 ≤ b.toNat))

/-- Canonical encoding: the shortest group list with the given value. -/
def encode (n : Nat) : List UInt8 :=
  if n < 128 then [UInt8.ofNat n] else UInt8.ofNat (n % 128 + 128) :: encode (n / 128)

/-- The number a group list denotes, least significant group first. -/
def value : List UInt8 → Nat
  | [] => 0
  | b :: rest => digit b + 128 * value rest

/-- Every group but the last continues. -/
def Terminated : List UInt8 → Prop
  | [] => False
  | [b] => ¬ continues b
  | b :: rest => continues b ∧ Terminated rest

theorem encode_of_lt {n : Nat} (small : n < 128) : encode n = [UInt8.ofNat n] := by
  rw [encode, if_pos small]

theorem encode_of_ge {n : Nat} (large : 128 ≤ n) :
    encode n = UInt8.ofNat (n % 128 + 128) :: encode (n / 128) := by
  rw [encode, if_neg (Nat.not_lt.mpr large)]

theorem terminated_cons_of_continues {b : UInt8} {rest : List UInt8} (more : continues b)
    (tail : Terminated rest) : Terminated (b :: rest) := by
  cases rest with
  | nil => exact tail.elim
  | cons c rest => exact ⟨more, tail⟩

theorem encode_terminated (n : Nat) : Terminated (encode n) := by
  induction n using encode.induct with
  | case1 n small =>
    rw [encode_of_lt small]
    simp only [Terminated, continues, UInt8.toNat_ofNat']
    omega
  | case2 n large ih =>
    rw [encode_of_ge (Nat.not_lt.mp large)]
    refine terminated_cons_of_continues ?_ ih
    simp only [continues, UInt8.toNat_ofNat']
    omega

theorem value_encode (n : Nat) : value (encode n) = n := by
  induction n using encode.induct with
  | case1 n small =>
    rw [encode_of_lt small]
    simp only [value, digit, UInt8.toNat_ofNat']
    omega
  | case2 n large ih =>
    rw [encode_of_ge (Nat.not_lt.mp large)]
    simp only [value, digit, UInt8.toNat_ofNat', ih]
    omega

theorem encode_length_pos (n : Nat) : 0 < (encode n).length := by
  rw [encode]
  split <;> simp

/-- A number of `7 * k` bits takes at most `k` groups. -/
theorem encode_length_le (k n : Nat) (fits : n < 2 ^ (7 * (k + 1))) :
    (encode n).length ≤ k + 1 := by
  induction k generalizing n with
  | zero =>
    rw [encode_of_lt (by simpa using fits)]
    simp
  | succ k ih =>
    by_cases small : n < 128
    · rw [encode_of_lt small]
      simp
    · rw [encode_of_ge (Nat.not_lt.mp small), List.length_cons]
      have shrink : n / 128 < 2 ^ (7 * (k + 1)) := by
        rw [Nat.div_lt_iff_lt_mul (by decide)]
        calc n < 2 ^ (7 * (k + 1 + 1)) := fits
          _ = 2 ^ (7 * (k + 1)) * 128 := by rw [Nat.mul_add 7 (k + 1) 1, Nat.pow_add]
      exact Nat.succ_le_succ (ih _ shrink)

/-- A proper prefix of an encoding is made of continuing groups only. -/
theorem Terminated.prefix_continues {groups cut : List UInt8} (whole : Terminated groups)
    (isPrefix : cut <+: groups) (proper : cut.length < groups.length) :
    ∀ b ∈ cut, continues b := by
  induction cut generalizing groups with
  | nil => simp
  | cons b cut ih =>
    obtain ⟨tail, rfl⟩ := isPrefix
    cases remaining : cut ++ tail with
    | nil =>
      have lengths := congrArg List.length remaining
      simp only [List.length_append, List.length_nil] at lengths
      simp only [List.cons_append, List.length_cons, List.length_append] at proper
      omega
    | cons c after =>
      have both : continues b ∧ Terminated (cut ++ tail) := by
        rw [remaining]
        simpa [List.cons_append, remaining, Terminated] using whole
      intro x member
      rcases List.mem_cons.mp member with rfl | member
      · exact both.1
      · refine ih both.2 ⟨tail, rfl⟩ ?_ x member
        simp only [List.cons_append, List.length_cons, List.length_append] at proper ⊢
        omega

end Sipmon.Lib.Leb128
