import Mathlib.Data.List.Basic
import Mathlib.Algebra.Order.Ring.Nat
import Mathlib.Tactic.Linarith
import Mathlib.Tactic.Ring

/-!
# Fixed-width big-endian numbers

`toBytes k n` is the `k`-byte big-endian form of `n`, most significant byte
first; `ofBytes` reads a byte list back. They are inverse below `256 ^ k`.
-/
namespace Sipmon.Lib.BigEndian

def toBytes : Nat → Nat → List UInt8
  | 0, _ => []
  | k + 1, n => toBytes k (n / 256) ++ [UInt8.ofNat (n % 256)]

def ofBytes (bs : List UInt8) : Nat := bs.foldl (fun acc b => acc * 256 + b.toNat) 0

@[simp] theorem toBytes_length (k n : Nat) : (toBytes k n).length = k := by
  induction k generalizing n with
  | zero => rfl
  | succ k ih => simp [toBytes, ih]

theorem ofBytes_append_byte (bs : List UInt8) (b : UInt8) :
    ofBytes (bs ++ [b]) = ofBytes bs * 256 + b.toNat := by
  simp [ofBytes]

theorem ofBytes_toBytes (k n : Nat) (fits : n < 256 ^ k) : ofBytes (toBytes k n) = n := by
  induction k generalizing n with
  | zero =>
    have zero : n = 0 := by simpa using fits
    simp [zero, toBytes, ofBytes]
  | succ k ih =>
    have shrink : n / 256 < 256 ^ k := by
      rw [Nat.div_lt_iff_lt_mul (by decide)]
      simpa [Nat.pow_succ] using fits
    rw [toBytes, ofBytes_append_byte, ih _ shrink]
    simp only [UInt8.toNat_ofNat']
    omega

theorem foldl_ofBytes (bs : List UInt8) (acc : Nat) :
    bs.foldl (fun acc b => acc * 256 + b.toNat) acc = acc * 256 ^ bs.length + ofBytes bs := by
  induction bs generalizing acc with
  | nil => simp [ofBytes]
  | cons b rest ih =>
    have shifted := ih (acc * 256 + b.toNat)
    have first := ih (0 * 256 + b.toNat)
    simp only [ofBytes, List.foldl_cons, List.length_cons, Nat.pow_succ'] at shifted first ⊢
    rw [shifted, first]
    ring

theorem ofBytes_cons (b : UInt8) (rest : List UInt8) :
    ofBytes (b :: rest) = b.toNat * 256 ^ rest.length + ofBytes rest := by
  have folded := foldl_ofBytes rest (0 * 256 + b.toNat)
  simpa only [ofBytes, List.foldl_cons, Nat.zero_mul, Nat.zero_add] using folded

theorem ofBytes_lt (bs : List UInt8) : ofBytes bs < 256 ^ bs.length := by
  induction bs with
  | nil => simp [ofBytes]
  | cons b rest ih =>
    have digit := b.toNat_lt
    rw [ofBytes_cons, List.length_cons, Nat.pow_succ']
    nlinarith

end Sipmon.Lib.BigEndian
