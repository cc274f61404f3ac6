import Mathlib.Algebra.Order.Field.Basic
import Mathlib.Data.List.Sort
import Sipmon.Source.F64

/-!
# Packet-weighted percentiles (`src/store/evstats.rs:828-845`)

The arithmetic is a parameter: that of `f64`, or an exact one.
-/
namespace Sipmon.Source.Percentile

structure Arithmetic (K : Type*) where
  /-- `n as f64`. -/
  ofNat : ℕ → K
  add : K → K → K
  sub : K → K → K
  mul : K → K → K
  lt : K → K → Bool
  /-- `p.clamp(0.0, 1.0)`. -/
  clamp : K → K

namespace Arithmetic

def f64 : Arithmetic F64 where
  ofNat := F64.ofNat
  add a b := a + b
  sub a b := a - b
  mul a b := a * b
  lt a b := decide (a < b)
  clamp p := p.clamp 0 1

/-- The numbers of an ordered field, without rounding. -/
def exact (K : Type*) [Field K] [LinearOrder K] : Arithmetic K where
  ofNat n := n
  add a b := a + b
  sub a b := a - b
  mul a b := a * b
  lt a b := decide (a < b)
  clamp p := if p < 0 then 0 else if 1 < p then 1 else p

end Arithmetic

variable {α K : Type*}

/-- The loop: the first value whose cumulated weight passes the target. -/
def passing (arith : Arithmetic K) (target : K) : K → List (α × ℕ) → Option α
  | _, [] => none
  | acc, (val, w) :: rest =>
    let acc := arith.add acc (arith.ofNat w)
    if arith.lt target acc then some val else passing arith target acc rest

/-- `weighted_percentile`; `before` is the order `total_cmp` sorts by. -/
def weightedPercentile (arith : Arithmetic K) (before : α → α → Prop) [DecidableRel before]
    (samples : List (α × ℕ)) (p : K) : Option α :=
  let v := (samples.filter fun s => decide (0 < s.2)).insertionSort fun a b => before a.1 b.1
  if v.isEmpty then none
  else
    let total := (v.map Prod.snd).sum
    let target := arith.mul (arith.sub (arith.ofNat total) (arith.ofNat 1)) (arith.clamp p)
    passing arith target (arith.ofNat 0) v

end Sipmon.Source.Percentile
