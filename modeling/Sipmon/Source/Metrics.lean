import Sipmon.Source.CallMachine

/-!
# Call metrics recomputed (`src/analyze/metrics.rs`)

What the call machine keeps message by message, computed from a finished call.
-/
namespace Sipmon.Source

/-- `compute_pdd_ms`: from the INVITE to the first provisional. -/
def computePddMs (call : Call) : Option UInt32 := do
  let invite ← call.inviteTs
  let provisional ← match call.tryingTs, call.ringingTs with
    | some t, some r => some (min t r)
    | some t, none => some t
    | none, some r => some r
    | none, none => none
  return Call.msSince provisional invite

/-- `compute_setup_ms`: from the INVITE to the first 2xx. -/
def computeSetupMs (call : Call) : Option UInt32 := do
  let invite ← call.inviteTs
  let answer ← call.answerTs
  return Call.msSince answer invite

/-- The outcome of a failed call by its cause; the arm for 487 is behind a range that has it. -/
def failedOutcome : Option UInt32 → Outcome
  | some c =>
    if 400 ≤ c.toNat ∧ c.toNat < 500 then .rejected
    else if c = 487 then .canceled
    else .failed
  | none => .failed

/-- `classify_outcome`. -/
def classifyOutcome (call : Call) : Outcome :=
  match call.state with
  | .completed => .answered
  | .canceled => .canceled
  | .failed => failedOutcome call.hangup.code
  | .dialing | .ringing | .active => .inProgress

end Sipmon.Source
