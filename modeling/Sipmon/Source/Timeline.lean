import Sipmon.Lib.Rounding
import Sipmon.Source.Sip

/-!
# The setup timeline of a call (`src/ui/call_detail.rs:1101-1226`)

`Focus` copies the milestone times of the call. Columns are computed in `f64`;
the values are finite and not negative, and their exponents stay far inside the
range, so every operation is its exact result rounded to 52 fraction bits.
Colours and the duration text are left out.
-/
namespace Sipmon.Source
open Lib.Rounding (nearest)

/-- The milestone times of a `Focus`. -/
structure Focus where
  inviteTs : Option UInt64
  tryingTs : Option UInt64
  ringingTs : Option UInt64
  answerTs : Option UInt64
  byeTs : Option UInt64
  endTs : Option UInt64

/-- `focus_detail` copies them from the call. -/
def Focus.ofCall (call : Call) : Focus :=
  { inviteTs := call.inviteTs, tryingTs := call.tryingTs, ringingTs := call.ringingTs
    answerTs := call.answerTs, byeTs := call.byeTs, endTs := call.endTs }

structure Phase where
  label : String
  start : UInt64
  stop : UInt64

/-- `u64::saturating_sub`. -/
def saturatingSub (a b : UInt64) : Nat := a.toNat - b.toNat

namespace Focus

def anchor (focus : Focus) : UInt64 := (focus.inviteTs <|> focus.ringingTs).getD 0

def ending (focus : Focus) : UInt64 :=
  (focus.endTs <|> focus.byeTs <|> focus.answerTs).getD focus.anchor

/-- The first of 100 Trying and 180 Ringing. -/
def provisional (focus : Focus) : Option UInt64 :=
  match focus.tryingTs, focus.ringingTs with
  | some t, some r => some (min t r)
  | some t, none => some t
  | none, some r => some r
  | none, none => none

def phase (label : String) (start stop : Option UInt64) : List Phase :=
  match start, stop with
  | some start, some stop => [{ label, start, stop }]
  | _, _ => []

def phases (focus : Focus) : List Phase :=
  phase "Inv → Try/Ring" focus.inviteTs focus.provisional ++
    phase "Ring" focus.ringingTs focus.answerTs ++
    phase "Setup" focus.inviteTs focus.answerTs ++
    phase "Talk" focus.answerTs (focus.byeTs <|> focus.endTs)

end Focus

/-- `x as f64`, `/`, `*`: rounded to the nearest double. -/
def f64 (x : ℚ) : ℚ := nearest 52 x

/-- `(offset as f64 / total as f64 * bar_w as f64).round() as usize`, then `.min(bar_w)`. -/
def column (offset total barW : Nat) : Nat :=
  let share := f64 (f64 (f64 offset / f64 total) * f64 barW)
  min ⌊share + 1 / 2⌋.toNat barW

/-- The columns of a phase, before they are used as a slice. -/
def phaseColumns (p : Phase) (anchor : UInt64) (total barW : Nat) : Nat × Nat :=
  (column (saturatingSub p.start anchor) total barW, column (saturatingSub p.stop anchor) total barW)

/-- `buf[s..e].fill('▓')`: a slice whose start lies behind its end panics. -/
def fillBar (barW s e : Nat) : Option (List Char) :=
  if s ≤ e ∧ e ≤ barW then
    some (List.replicate s '·' ++ List.replicate (e - s) '▓' ++ List.replicate (barW - e) '·')
  else none

/-- `timeline_line`, its label and its bar. -/
def timelineLine (p : Phase) (anchor : UInt64) (total barW : Nat) : Option (String × List Char) :=
  if 0 < total then
    let (s, e) := phaseColumns p anchor total barW
    (fillBar barW s e).map fun bar => (p.label, bar)
  else some (p.label, List.replicate barW '·')

/-- `(area.width as i64 - label_w - dur_w - 4).max(10)`. -/
def barWidth (width : UInt16) : Nat := (max ((width.toNat : Int) - 13 - 8 - 4) 10).toNat

/-- The lines drawn: the phases, and the total when it is not zero. -/
def Focus.drawn (focus : Focus) : List Phase :=
  let total := saturatingSub focus.ending focus.anchor
  focus.phases ++ if 0 < total then [{ label := "Total", start := focus.anchor, stop := focus.ending }] else []

/-- `render_timeline`: `none` where drawing a line panics. -/
def renderTimeline (width : UInt16) (focus : Focus) : Option (List (String × List Char)) :=
  let total := saturatingSub focus.ending focus.anchor
  focus.drawn.mapM fun p => timelineLine p focus.anchor total (barWidth width)

end Sipmon.Source
