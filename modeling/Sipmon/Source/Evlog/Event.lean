import Sipmon.Lib.ByteReader
import Sipmon.Source.F64
import Sipmon.Source.Packet

/-!
# Event-log records (`src/store/evlog.rs:33-174`)

The eight event kinds with every field they store. A Rust `String` is valid
UTF-8, which is what a Lean `String` carries as well.
-/
namespace Sipmon.Source.Evlog

open Lib.ByteReader (Bytes)

/-- `a.saturating_sub(b)`. -/
def satSub (a b : UInt64) : UInt64 := if b ≤ a then a - b else 0

/-- `a.saturating_add(b)`. -/
def satAdd (a b : UInt64) : UInt64 :=
  if a.toNat + b.toNat < 2 ^ 64 then a + b else 0xffffffffffffffff

theorem satSub_toNat (a b : UInt64) : (satSub a b).toNat = a.toNat - b.toNat := by
  unfold satSub
  split
  · next le => exact UInt64.toNat_sub_of_le _ _ le
  · next gt =>
    have lt : a.toNat < b.toNat := Nat.lt_of_not_le gt
    rw [UInt64.toNat_zero]
    omega

theorem satAdd_toNat (a b : UInt64) :
    (satAdd a b).toNat = min (a.toNat + b.toNat) (2 ^ 64 - 1) := by
  have left := a.toNat_lt
  have right := b.toNat_lt
  unfold satAdd
  split
  · rw [UInt64.toNat_add]
    omega
  · change 2 ^ 64 - 1 = _
    omega

theorem satAdd_satSub {last now : UInt64} (forward : last ≤ now) :
    satAdd last (satSub now last) = now := by
  have le : last.toNat ≤ now.toNat := forward
  have bound := now.toNat_lt
  rw [← UInt64.toNat_inj, satAdd_toNat, satSub_toNat]
  omega

/-- `b"SMON"`. -/
def magic : Bytes := [0x53, 0x4d, 0x4f, 0x4e]
def version : UInt16 := 2
def maxRecordLen : Nat := 32 * 1024 * 1024

inductive EvType where
  | sipMsg | txn | call | streamSnap | rtcpRtt | healthBucket | error | diag
  deriving DecidableEq, Repr

/-- The `#[repr(u8)]` discriminants. -/
def EvType.toByte : EvType → UInt8
  | .sipMsg => 1
  | .txn => 2
  | .call => 3
  | .streamSnap => 4
  | .rtcpRtt => 5
  | .healthBucket => 6
  | .error => 7
  | .diag => 8

structure SipMsgEvt where
  tsUs : UInt64
  flow : Flow5Tuple
  isRequest : Bool
  method : Option String
  status : Option UInt16
  callId : String
  cseq : Option UInt32
  branch : Option String
  fromTag : Option String
  toTag : Option String
  raw : Bytes
  deriving DecidableEq

inductive CallEvtKind where
  | setup | update | teardown
  deriving DecidableEq, Repr

def CallEvtKind.toByte : CallEvtKind → UInt8
  | .setup => 1
  | .update => 2
  | .teardown => 3

structure CallEvt where
  tsUs : UInt64
  callId : String
  kind : CallEvtKind
  fromUser : Option String
  toUser : Option String
  fromUri : Option String
  toUri : Option String
  state : UInt8
  outcome : UInt8
  inviteTs : Option UInt64
  tryingTs : Option UInt64
  ringingTs : Option UInt64
  answerTs : Option UInt64
  byeTs : Option UInt64
  endTs : Option UInt64
  pddMs : Option UInt32
  setupMs : Option UInt32
  hangupCode : Option UInt32
  hangupReason : Option String
  pktsSip : UInt64
  pktsRtp : UInt64
  pktsRtcp : UInt64
  bytes : UInt64
  deriving DecidableEq

structure StreamSnapEvt where
  tsUs : UInt64
  callId : String
  ssrc : UInt32
  flow : Flow5Tuple
  codec : Option String
  payloadType : Option UInt8
  packets : UInt64
  lost : UInt64
  expected : UInt64
  lossPct : F64
  jitterMs : Option F64
  mos : Option F64
  direction : Option String
  bytes : UInt64
  firstTsUs : Option UInt64
  lastTsUs : Option UInt64
  rttMinMs : Option F64
  rttAvgMs : Option F64
  rttMaxMs : Option F64
  onewayMs : Option F64
  leg : Option String
  viaTurn : Bool
  deriving DecidableEq

structure RtcpRttEvt where
  tsUs : UInt64
  callId : String
  ssrc : UInt32
  rttMs : F64
  onewayMs : Option F64
  deriving DecidableEq

structure TxnEvt where
  tsUs : UInt64
  callId : String
  branch : String
  method : String
  responseCode : Option UInt16
  delayMs : Option UInt32
  deriving DecidableEq

structure ErrorEvt where
  tsUs : UInt64
  kind : String
  msg : String
  deriving DecidableEq

structure DiagEvt where
  tsUs : UInt64
  callId : String
  severity : UInt8
  code : String
  message : String
  deriving DecidableEq

/-- One cell of the heatmap (`src/model/stats.rs`). -/
structure MetricSet where
  calls : UInt64 := 0
  answered : UInt64 := 0
  failed : UInt64 := 0
  pddSumMs : F64 := 0
  pddN : UInt64 := 0
  jitterSumMs : F64 := 0
  jitterN : UInt64 := 0
  lossSumPct : F64 := 0
  lossN : UInt64 := 0
  rttSumMs : F64 := 0
  rttN : UInt64 := 0
  mosSum : F64 := 0
  mosN : UInt64 := 0
  deriving DecidableEq

structure HealthBucket where
  bucketUs : UInt64
  dimKey : String
  metrics : MetricSet
  deriving DecidableEq

inductive Event where
  | sipMsg (e : SipMsgEvt)
  | txn (e : TxnEvt)
  | call (e : CallEvt)
  | streamSnap (e : StreamSnapEvt)
  | rtcpRtt (e : RtcpRttEvt)
  | healthBucket (e : HealthBucket)
  | error (e : ErrorEvt)
  | diag (e : DiagEvt)
  deriving DecidableEq

def Event.tsUs : Event → UInt64
  | .sipMsg e => e.tsUs
  | .txn e => e.tsUs
  | .call e => e.tsUs
  | .streamSnap e => e.tsUs
  | .rtcpRtt e => e.tsUs
  | .healthBucket e => e.bucketUs
  | .error e => e.tsUs
  | .diag e => e.tsUs

/-- The event a reader rebuilds when its clock stands at `ts`: a `HealthBucket`
carries its own time in the payload, every other kind takes the record's. -/
def Event.retime (ts : UInt64) : Event → Event
  | .sipMsg e => .sipMsg { e with tsUs := ts }
  | .txn e => .txn { e with tsUs := ts }
  | .call e => .call { e with tsUs := ts }
  | .streamSnap e => .streamSnap { e with tsUs := ts }
  | .rtcpRtt e => .rtcpRtt { e with tsUs := ts }
  | .healthBucket e => .healthBucket e
  | .error e => .error { e with tsUs := ts }
  | .diag e => .diag { e with tsUs := ts }

@[simp] theorem Event.retime_tsUs (ev : Event) : ev.retime ev.tsUs = ev := by
  cases ev <;> rfl

def Event.isHealthBucket : Event → Bool
  | .healthBucket _ => true
  | _ => false

/-- Only a `HealthBucket` hides the clock it was read under. -/
theorem Event.retime_eq_self_iff (ev : Event) (ts : UInt64) :
    ev.retime ts = ev ↔ ev.isHealthBucket = true ∨ ts = ev.tsUs := by
  constructor
  · intro same
    cases ev with
    | healthBucket e => exact Or.inl rfl
    | _ =>
      refine Or.inr ?_
      have clocks := congrArg Event.tsUs same
      exact clocks
  · rintro (bucket | rfl)
    · cases ev <;> simp_all [Event.isHealthBucket, Event.retime]
    · exact ev.retime_tsUs

end Sipmon.Source.Evlog
