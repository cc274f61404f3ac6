import Mathlib.Algebra.Order.Ring.Nat

/-!
# `f64` as its 64-bit pattern

The event log stores every `f64` by its bits, NaN payloads included, so the
model keeps the bits. Arithmetic goes through Lean's binary64 `Float`, whose
operations round as the hardware does.
-/
namespace Sipmon.Source

structure F64 where
  bits : UInt64
  deriving DecidableEq, Repr

namespace F64

def toFloat (x : F64) : Float := Float.ofBits x.bits
def ofFloat (x : Float) : F64 := ⟨x.toBits⟩

instance : Inhabited F64 := ⟨⟨0⟩⟩
instance : Add F64 := ⟨fun a b => ofFloat (a.toFloat + b.toFloat)⟩
instance : Sub F64 := ⟨fun a b => ofFloat (a.toFloat - b.toFloat)⟩
instance : Mul F64 := ⟨fun a b => ofFloat (a.toFloat * b.toFloat)⟩
instance : Div F64 := ⟨fun a b => ofFloat (a.toFloat / b.toFloat)⟩
instance : OfScientific F64 := ⟨fun m s e => ofFloat (OfScientific.ofScientific m s e)⟩
instance (n : Nat) : OfNat F64 n := ⟨ofFloat (Float.ofNat n)⟩
instance : LT F64 := ⟨fun a b => a.toFloat < b.toFloat⟩
instance : LE F64 := ⟨fun a b => a.toFloat ≤ b.toFloat⟩
instance (a b : F64) : Decidable (a < b) := inferInstanceAs (Decidable (a.toFloat < b.toFloat))
instance (a b : F64) : Decidable (a ≤ b) := inferInstanceAs (Decidable (a.toFloat ≤ b.toFloat))

/-- `n as f64`. -/
def ofNat (n : Nat) : F64 := ofFloat (Float.ofNat n)
def ofInt (n : Int) : F64 := ofFloat (Float.ofInt n)

def abs (x : F64) : F64 := ofFloat x.toFloat.abs
/-- `f64::round`: half away from zero. -/
def round (x : F64) : F64 := ofFloat x.toFloat.round

def isFinite (x : F64) : Bool := x.toFloat.isFinite
def isNaN (x : F64) : Bool := x.toFloat.isNaN

/-- `f64::max`: a NaN operand gives the other one. -/
def max (a b : F64) : F64 := if a.isNaN then b else if b.isNaN then a else if a < b then b else a

/-- `f64::min`: a NaN operand gives the other one. -/
def min (a b : F64) : F64 := if a.isNaN then b else if b.isNaN then a else if b < a then b else a

/-- `f64::clamp` for finite bounds `lo ≤ hi`. -/
def clamp (x lo hi : F64) : F64 := if x < lo then lo else if hi < x then hi else x

/-- `x as u64`: truncation toward zero, saturating, NaN to zero. -/
def toU64 (x : F64) : UInt64 := x.toFloat.toUInt64

/-- The rank of a pattern under `f64::total_cmp`. -/
def totalRank (x : F64) : Int :=
  if x.bits.toNat < 2 ^ 63 then x.bits.toNat else 2 ^ 63 - 1 - x.bits.toNat

/-- The exact value of a finite pattern as `(negative, mantissa, exponent)`,
that is `mantissa * 2 ^ (exponent - 1074)`. -/
def decompose (x : F64) : Bool × Nat × Nat :=
  let n := x.bits.toNat
  let field := n / 2 ^ 52 % 2 ^ 11
  let fraction := n % 2 ^ 52
  (2 ^ 63 ≤ n, if field = 0 then fraction else fraction + 2 ^ 52, if field = 0 then 0 else field - 1)

/-- `format!("{x:.1}")`: the exact value, ties to even. -/
def fixed1 (x : F64) : String :=
  if x.isNaN then "NaN"
  else
    let (negative, mantissa, exponent) := x.decompose
    let sign := if negative then "-" else ""
    if !x.isFinite then sign ++ "inf"
    else
      let scaled := mantissa * 10 * 2 ^ exponent
      let unit := 2 ^ 1074
      let low := scaled / unit
      let twice := 2 * (scaled % unit)
      let tenths := if twice < unit then low else if unit < twice then low + 1 else low + low % 2
      sign ++ toString (tenths / 10) ++ "." ++ toString (tenths % 10)

example : fixed1 12.25 = "12.2" := by decide +kernel

end F64
end Sipmon.Source
