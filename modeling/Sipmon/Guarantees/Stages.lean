import Sipmon.Source.Ingest

/-!
# Inside a step

A step enforces the caps at most once, in the middle. The definitions here name
the states a step passes through up to that point.
-/
namespace Sipmon.Guarantees.Stages
open Source Lib Correlator

/-- The correlator when a message has been received and reported, before a
terminal state is acted on. -/
def received (c : Correlator) (msg : SipMsg) : Correlator :=
  let c := c.observeSip msg
  let learned := (sdpOf msg).map NegotiatedMedia.ofSession
  (((c.storeMessage msg learned).learnSdp msg.callId learned).pushEv (.sipMsg (sipMsgEvt msg))).addDiagnostics
    (c.messageDiagnostics msg)

theorem ingestSip_received (iter : Iteration) (c : Correlator) (msg : SipMsg) :
    c.ingestSip iter msg = (received c msg).latchTerminal iter msg.callId := rfl

theorem keepTerminated_reportTeardown (c : Correlator) (id : String) (call : Call) :
    (c.reportTeardown id call).keepTerminated = c.keepTerminated := by
  unfold reportTeardown
  dsimp only
  generalize c.reg.pushEvent _ = reg
  split <;> rfl

/-- The registry whose caps are enforced when a terminated call is kept. -/
def retirePoint (c : Correlator) (id : String) : Option Registry :=
  match c.reg.calls.lookup id with
  | some call =>
    if call.state.terminal && c.keepTerminated then some (c.reportTeardown id call).reg else none
  | none => none

def terminalPoint (c : Correlator) (id : String) : Option Registry :=
  retirePoint (c.teardownChecks id) id

def sipPoint (c : Correlator) (msg : SipMsg) : Option Registry :=
  let r := received c msg
  if r.callTerminal msg.callId && decide (msg.callId ∉ r.terminalDone) then
    terminalPoint { r with terminalDone := insert msg.callId r.terminalDone } msg.callId
  else none

/-- The state in which a due periodic pass starts. -/
def flushed (iter : Iteration) (c : Correlator) (ts : UInt64) : Correlator :=
  { c.ipattrTick iter ts with lastFlushUs := some ts }

/-- The state of the periodic pass before it evicts. -/
def snapped (iter : Iteration) (c : Correlator) (ts : UInt64) : Correlator :=
  let c := flushed iter c ts
  { c with
    reg := c.reg.pruneHeatmap, turn := c.turn.prune iter
    tcpReasm := c.tcpReasm.prune ts TcpReassembler.idleUs }.snapStreams iter ts

/-- The registry once the stale calls are gone. -/
def unstale (iter : Iteration) (c : Correlator) (ts : UInt64) : Registry :=
  (if c.reg.searchHint.isSome then c.reg.refreshSearchMatches iter else c.reg).evictStale iter
    c.callTtlSecs ts

def flushPoint (iter : Iteration) (c : Correlator) (ts : UInt64) : Option Registry :=
  if tickerDue (c.ipattrTick iter ts).lastFlushUs ts flushPeriodUs then
    some (unstale iter (snapped iter c ts) ts)
  else none

/-- The registry on which a step enforces the caps, if it does. -/
def capPoint (c : Correlator) (input : Iteration × Op) : Option Registry :=
  match input.2 with
  | .sip msg => sipPoint c msg
  | .terminal id => terminalPoint c id
  | .flush ts => flushPoint input.1 c ts
  | _ => none

/-! ## What the caps leave -/

theorem reg_retireCall (iter : Iteration) {c : Correlator} {id : String} {reg : Registry}
    (point : retirePoint c id = some reg) : (c.retireCall iter id).reg = reg.evictIfNeeded iter := by
  unfold retirePoint at point
  unfold retireCall
  cases found : c.reg.calls.lookup id with
  | none =>
    rw [found] at point
    cases point
  | some call =>
    simp only [found] at point
    split at point
    · next kept =>
      obtain ⟨ended, keep⟩ := Bool.and_eq_true_iff.mp kept
      obtain rfl := Option.some.inj point
      simp only [ended, if_true, (keepTerminated_reportTeardown c id call).trans keep]
    · cases point

section View

variable {β : Type*} (view : Registry → β)

theorem view_onCallTerminal (blind : ∀ c : Correlator, view c.pruneRemovedBookkeeping.reg = view c.reg)
    (iter : Iteration) {c : Correlator} {id : String} {reg : Registry}
    (point : terminalPoint c id = some reg) :
    view (c.onCallTerminal iter id).reg = view (reg.evictIfNeeded iter) := by
  have retired : c.onCallTerminal iter id =
      ((c.teardownChecks id).retireCall iter id).pruneRemovedBookkeeping := rfl
  rw [retired, blind, reg_retireCall iter point]

theorem view_ingestSip (blind : ∀ c : Correlator, view c.pruneRemovedBookkeeping.reg = view c.reg)
    (iter : Iteration) {c : Correlator} {msg : SipMsg} {reg : Registry}
    (point : sipPoint c msg = some reg) :
    view (c.ingestSip iter msg).reg = view (reg.evictIfNeeded iter) := by
  rw [ingestSip_received]
  unfold sipPoint at point
  unfold latchTerminal
  dsimp only at point
  split at point
  · next through =>
    rw [if_pos through]
    exact view_onCallTerminal view blind iter point
  · cases point

end View

/-- The attribution ticker is not the flush's. -/
theorem lastFlushUs_ipattrTick (iter : Iteration) (c : Correlator) (ts : UInt64) :
    (c.ipattrTick iter ts).lastFlushUs = c.lastFlushUs := by
  unfold ipattrTick
  dsimp only
  split <;> split <;> rfl

/-- A due periodic pass. -/
theorem maybePeriodicFlush_due (iter : Iteration) {c : Correlator} {ts : UInt64}
    (due : tickerDue (c.ipattrTick iter ts).lastFlushUs ts flushPeriodUs = true) :
    c.maybePeriodicFlush iter ts =
      (((snapped iter c ts).evictPass iter ts).pruneRemovedBookkeeping).pruneIdleIps ts := by
  unfold maybePeriodicFlush
  simp only [due, Bool.or_true, if_true]
  rfl

end Sipmon.Guarantees.Stages
