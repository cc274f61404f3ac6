import Sipmon.Guarantees.CallSignals
import Sipmon.Guarantees.RegistryIndex
import Sipmon.Guarantees.Stages
import Sipmon.Guarantees.Teardown

/-!
# The call table across a step

`table` shows a correlator as the calls it tracks, each as signaling left it,
with the latch and the events of signaling. A message changes the entry of its
own call; a terminated call is reported; calls leave in lists that each step
names. Media, diagnostics and the passes over the streams change nothing here.
-/
namespace Sipmon.Guarantees.CallTable
open Source Lib Views RegistryShape RegistryIndex CallSignals Stages Correlator
open Evlog (Event)

/-- A call as signaling left it: what media, diagnostics and the message store
write is blank. -/
def signaling (call : Call) : Call :=
  { call with
    messages := [], pktsRtp := 0, pktsRtcp := 0, negotiated := {}, warnCount := 0
    criticalCount := 0, viaTurn := false, ips := [], lastTsUs := 0 }

/-- The SIP messages and call events, without their media counters. -/
def signalEvent : Event → Option Event
  | .sipMsg e => some (.sipMsg e)
  | .call e => some (.call { e with pktsRtp := 0, pktsRtcp := 0 })
  | _ => none

@[ext]
structure Table where
  call : String → Option Call
  done : Finset String
  removed : List String
  keep : Bool
  emit : Bool
  log : List Event
  stats : Option (List Event)
  lastUs : Option UInt64

def calls (reg : Registry) (id : String) : Option Call := (reg.calls.lookup id).map signaling

def table (c : Correlator) : Table :=
  { call := calls c.reg
    done := c.terminalDone
    removed := c.reg.removed
    keep := c.keepTerminated
    emit := c.emitEvlog
    log := c.pendingEvents.filterMap signalEvent
    stats := c.sessionStats.map fun evs => evs.filterMap signalEvent
    lastUs := c.reg.lastUs }

/-- What a table shows of a registry. -/
def board (reg : Registry) : (String → Option Call) × List String × Option UInt64 :=
  (calls reg, reg.removed, reg.lastUs)

theorem board_of_same {reg after : Registry} (same : after.calls = reg.calls)
    (removed : after.removed = reg.removed) (lastUs : after.lastUs = reg.lastUs) :
    board after = board reg := by
  have calls : calls after = calls reg := funext fun id => by rw [calls, calls, same]
  rw [board, board, calls, removed, lastUs]

theorem table_reg (c : Correlator) {reg : Registry} (same : board reg = board c.reg) :
    table { c with reg } = table c := by
  simp only [board, Prod.mk.injEq] at same
  simp only [table, same]

namespace Table

def push (t : Table) (ev : Event) : Table :=
  { t with
    log := if t.emit then t.log ++ [ev] else t.log
    stats := t.stats.map (· ++ [ev]) }

/-- Calls leave, with their latches. -/
def depart (t : Table) (ids : List String) : Table :=
  { t with call := fun id => if id ∈ ids then none else t.call id
           done := ids.foldl Finset.erase t.done }

theorem depart_nil (t : Table) : t.depart [] = t := by
  simp only [depart, List.not_mem_nil, if_false, List.foldl_nil]

/-- A message reaches its call. -/
def hear (t : Table) (msg : SipMsg) : Table :=
  let heard := signaling (((t.call msg.callId).getD (.new msg.callId)).applySip msg)
  { t with call := Function.update t.call msg.callId (some heard) }.push (.sipMsg (sipMsgEvt msg))

/-- A terminated call is reported; `gone` leaves with it. -/
def close (t : Table) (id : String) (gone : List String) : Table :=
  match t.call id with
  | some call =>
    if call.state.terminal then (t.push (.call (teardownEvt id call t.lastUs))).depart gone else t
  | none => t

/-- Whether a call is tracked and has ended. -/
def ended (t : Table) (id : String) : Bool := (t.call id).any fun call => call.state.terminal

/-- Whether the latch lets the call through. -/
def ends (t : Table) (id : String) : Bool := t.ended id && decide (id ∉ t.done)

def latch (t : Table) (id : String) (gone : List String) : Table :=
  if t.ends id then { t with done := insert id t.done }.close id gone else t

theorem close_terminal {t : Table} {id : String} {call : Call} (found : t.call id = some call)
    (terminal : call.state.terminal = true) (gone : List String) :
    t.close id gone = (t.push (.call (teardownEvt id call t.lastUs))).depart gone := by
  rw [close, found]
  exact if_pos terminal

theorem close_live {t : Table} {id : String} (live : t.ended id = false) (gone : List String) :
    t.close id gone = t := by
  unfold close
  unfold ended at live
  cases found : t.call id with
  | none => rfl
  | some call =>
    rw [found, Option.any_some] at live
    exact if_neg (Bool.eq_false_iff.mp live)

theorem close_call (t : Table) (id : String) (gone : List String) (a : String) :
    (t.close id gone).call a = if t.ended id ∧ a ∈ gone then none else t.call a := by
  unfold close ended
  cases t.call id with
  | none => simp
  | some call => cases terminal : call.state.terminal <;> simp [depart, push, terminal]

theorem close_done (t : Table) (id : String) (gone : List String) :
    (t.close id gone).done = if t.ended id then gone.foldl Finset.erase t.done else t.done := by
  unfold close ended
  cases t.call id with
  | none => simp
  | some call => cases terminal : call.state.terminal <;> simp [depart, push, terminal]

theorem latch_call (t : Table) (id : String) (gone : List String) (a : String) :
    (t.latch id gone).call a = if t.ends id ∧ a ∈ gone then none else t.call a := by
  have closed := close_call { t with done := insert id t.done } id gone a
  have same : Table.ended { t with done := insert id t.done } id = t.ended id := rfl
  unfold latch
  split
  · next ends =>
    have terminal : t.ended id = true := (Bool.and_eq_true_iff.mp ends).1
    rw [closed, same, terminal, ends]
  · next stays => exact (if_neg fun both => stays both.1).symm

theorem latch_done (t : Table) (id : String) (gone : List String) :
    (t.latch id gone).done =
      if t.ends id then gone.foldl Finset.erase (insert id t.done) else t.done := by
  have closed := close_done { t with done := insert id t.done } id gone
  have same : Table.ended { t with done := insert id t.done } id = t.ended id := rfl
  unfold latch
  split
  · next ends =>
    have terminal : t.ended id = true := (Bool.and_eq_true_iff.mp ends).1
    rw [closed, same, if_pos terminal]
  · rfl

end Table

/-! ## Events -/

theorem table_pushEv (c : Correlator) (ev : Event) :
    table (c.pushEv ev) = match signalEvent ev with
      | some shown => (table c).push shown
      | none => table c := by
  have logged : (if c.emitEvlog then c.pendingEvents ++ [ev] else c.pendingEvents).filterMap signalEvent =
      match signalEvent ev with
      | some shown => if c.emitEvlog then c.pendingEvents.filterMap signalEvent ++ [shown]
          else c.pendingEvents.filterMap signalEvent
      | none => c.pendingEvents.filterMap signalEvent := by
    cases c.emitEvlog <;> cases shown : signalEvent ev <;> simp [shown]
  have counted : (c.sessionStats.map (· ++ [ev])).map (fun evs => evs.filterMap signalEvent) =
      match signalEvent ev with
      | some shown => (c.sessionStats.map fun evs => evs.filterMap signalEvent).map (· ++ [shown])
      | none => c.sessionStats.map fun evs => evs.filterMap signalEvent := by
    cases c.sessionStats <;> cases shown : signalEvent ev <;> simp [shown]
  simp only [table, Correlator.pushEv, logged, counted]
  cases signalEvent ev <;> rfl

/-- An event that is neither a message nor a call event is not shown. -/
theorem table_pushEv_other (c : Correlator) (ev : Event) (other : signalEvent ev = none) :
    table (c.pushEv ev) = table c := by
  rw [table_pushEv, other]

/-! ## Calls that keep their entry -/

theorem calls_updateCall (reg : Registry) (a : String) {update : Call → Call}
    (keeps : ∀ call, signaling (update call) = signaling call) :
    calls (reg.updateCall a update) = calls reg := by
  funext id
  unfold calls Registry.updateCall
  rw [FiniteMap.lookup_modify]
  split
  · rw [Option.map_map]
    exact congrArg (Option.map · _) (funext keeps)
  · rfl

theorem board_updateCall (reg : Registry) (a : String) {update : Call → Call}
    (keeps : ∀ call, signaling (update call) = signaling call) :
    board (reg.updateCall a update) = board reg := by
  have same := calls_updateCall reg a keeps
  simp only [board, same]
  rfl

theorem signaling_countDiagnostic (severity : Severity) (call : Call) :
    signaling (countDiagnostic severity call) = signaling call := by
  cases severity <;> rfl

@[simp] theorem board_pushEvent (reg : Registry) (line : String) :
    board (reg.pushEvent line) = board reg := by
  refine board_of_same ?_ ?_ ?_ <;> simp only [Registry.pushEvent]

@[simp] theorem board_pushDiagnostic (reg : Registry) (d : Diagnostic) :
    board (reg.pushDiagnostic d) = board reg := by
  refine board_of_same ?_ ?_ ?_ <;> simp only [Registry.pushDiagnostic]

theorem blind_table : Blind table where
  diag c d := by
    unfold addDiagnostic
    dsimp only
    split
    · rfl
    · have logged := table_pushEv_other c (.diag
        { tsUs := d.tsUs, callId := d.callId, severity := severityCode d.severity
          code := d.code, message := d.message }) rfl
      refine Eq.trans (table_reg _ ?_) logged
      rw [board_pushDiagnostic, board_pushEvent]
      exact board_updateCall _ d.callId (signaling_countDiagnostic d.severity)
  heatmap _ _ := rfl
  ipstats _ _ := rfl

/-! ## A message -/

theorem signaling_prelude (call : Call) (msg : SipMsg) :
    signaling ((call.touch msg).identify msg) =
      signaling (((signaling call).touch msg).identify msg) := by
  dsimp only [Call.identify, Call.touch, signaling]
  split
  · split <;> split <;> rfl
  · rfl

theorem signaling_onRequest (call : Call) (msg : SipMsg) :
    signaling (call.onRequest msg) = signaling ((signaling call).onRequest msg) := by
  dsimp only [Call.onRequest, Call.onBye, Call.byeInitiator, signaling]
  split
  · split <;> rfl
  · split <;> rfl
  · rfl

theorem signaling_onResponse (call : Call) (msg : SipMsg) (code : UInt16) :
    signaling (call.onResponse msg code) = signaling ((signaling call).onResponse msg code) := by
  have provisional : signaling (call.onProvisional msg code) =
      signaling ((signaling call).onProvisional msg code) := by
    dsimp only [Call.onProvisional, signaling]
    repeat' split
    all_goals rfl
  have success : signaling (call.onSuccess msg) = signaling ((signaling call).onSuccess msg) := by
    dsimp only [Call.onSuccess, Call.closedState, signaling]
    repeat' split
    all_goals rfl
  have failure : signaling (call.onFailure msg code) =
      signaling ((signaling call).onFailure msg code) := by
    dsimp only [Call.onFailure, Call.closedState, signaling]
    repeat' split
    all_goals rfl
  have same : (signaling call).state = call.state := rfl
  unfold Call.onResponse
  rw [same]
  split
  · exact provisional
  · split
    · exact success
    · split
      · exact failure
      · rfl

/-- The call machine reads and writes what signaling shows. -/
theorem signaling_applySip (call : Call) (msg : SipMsg) :
    signaling (call.applySip msg) = signaling ((signaling call).applySip msg) := by
  have prelude := signaling_prelude call msg
  unfold Call.applySip
  dsimp only
  generalize (call.touch msg).identify msg = a at prelude ⊢
  generalize ((signaling call).touch msg).identify msg = b at prelude ⊢
  split
  · have dialed : ∀ call : Call, signaling (call.dial msg) = signaling ((signaling call).dial msg) :=
      fun _ => rfl
    rw [dialed a, dialed b, prelude]
  · split
    · rw [signaling_onRequest a, signaling_onRequest b, prelude]
    · split
      · rw [signaling_onResponse a, signaling_onResponse b, prelude]
      · exact prelude

theorem signaling_receive (msg : SipMsg) (learned : Option NegotiatedMedia) (call : Call) :
    signaling (receive msg learned call) = signaling ((signaling call).applySip msg) := by
  rw [← signaling_applySip]
  unfold receive
  cases learned <;> simp only [signaling]

theorem table_observeSip (c : Correlator) (msg : SipMsg) : table (c.observeSip msg) = table c := by
  unfold observeSip
  dsimp only
  split <;> rfl

theorem lookup_storeMessage (c : Correlator) (msg : SipMsg) (learned : Option NegotiatedMedia)
    (id : String) : (c.storeMessage msg learned).reg.calls.lookup id =
      if id = msg.callId then
        some (receive msg learned ((c.reg.calls.lookup msg.callId).getD (.new msg.callId)))
      else c.reg.calls.lookup id := by
  unfold storeMessage
  dsimp only
  rw [Registry.updateCall, FiniteMap.lookup_modify]
  split
  · next own => rw [own, lookup_getOrCreateCall, Option.map_some]
  · next other => exact lookup_getOrCreateCall_other c.reg other

theorem calls_storeMessage (c : Correlator) (msg : SipMsg) (learned : Option NegotiatedMedia) :
    calls (c.storeMessage msg learned).reg = Function.update (calls c.reg) msg.callId
      (some (signaling (((calls c.reg msg.callId).getD (.new msg.callId)).applySip msg))) := by
  funext id
  rw [calls, lookup_storeMessage]
  by_cases own : id = msg.callId
  · subst own
    have start : signaling ((c.reg.calls.lookup msg.callId).getD (.new msg.callId)) =
        (calls c.reg msg.callId).getD (.new msg.callId) := by
      unfold calls
      cases c.reg.calls.lookup msg.callId <;> rfl
    rw [Function.update_self, if_pos rfl, Option.map_some, signaling_receive, start]
  · rw [Function.update_of_ne own, if_neg own, calls]

theorem table_storeMessage (c : Correlator) (msg : SipMsg) (learned : Option NegotiatedMedia) :
    table (c.storeMessage msg learned) = { table c with call := calls (c.storeMessage msg learned).reg } := by
  unfold storeMessage Registry.getOrCreateCall
  split <;> rfl

theorem board_updateStreams (keys : List StreamKey) (update : StreamKey → RtpStream → RtpStream)
    (reg : Registry) :
    board (keys.foldl (fun reg key => reg.updateStream key (update key)) reg) = board reg := by
  induction keys generalizing reg with
  | nil => rfl
  | cons key rest ih => exact (ih (reg.updateStream key (update key))).trans (board_of_same rfl rfl rfl)

theorem table_learnSdp (c : Correlator) (id : String) (learned : Option NegotiatedMedia) :
    table (c.learnSdp id learned) = table c := by
  unfold learnSdp
  split
  · unfold learnEndpoints applySdpClocks
    dsimp only
    split
    · exact table_reg c (board_updateStreams _ (fun _ => reclock _) _)
    · rfl
  · rfl

/-- A message reaches its call and is reported. -/
theorem table_received (c : Correlator) (msg : SipMsg) : table (received c msg) = (table c).hear msg := by
  unfold received
  dsimp only
  rw [blind_table.addDiagnostics, table_pushEv, table_learnSdp, table_storeMessage, table_observeSip,
    calls_storeMessage]
  have observed : calls (c.observeSip msg).reg = (table c).call :=
    congrArg Table.call (table_observeSip c msg)
  rw [observed]
  rfl

/-! ## Calls that leave -/

theorem table_reportTeardown (c : Correlator) (id : String) (call : Call) :
    table (c.reportTeardown id call) =
      (table c).push (.call (teardownEvt id (signaling call) c.reg.lastUs)) := by
  unfold reportTeardown
  dsimp only
  generalize logged : c.reg.pushEvent _ = reg
  have same : board reg = board c.reg := by rw [← logged, board_pushEvent]
  have lastUs : reg.lastUs = c.reg.lastUs := congrArg (fun b => b.2.2) same
  have pushed := table_pushEv { c with reg } (.call (teardownEvt id call reg.lastUs))
  rw [table_reg c same, lastUs] at pushed
  rw [lastUs]
  split <;> exact pushed

/-- Streams come and go without moving the board. -/
theorem board_dropStreams (keys : List StreamKey) (reg : Registry) :
    board (keys.foldl Registry.dropStream reg) = board reg := by
  have dropped : ∀ (reg : Registry) (key : StreamKey), board (reg.dropStream key) = board reg := by
    intro reg key
    have flushed : board (reg.flushStreamIpattr key) = board reg := by
      unfold Registry.flushStreamIpattr
      split <;> rfl
    exact (board_of_same rfl rfl rfl).trans flushed
  induction keys generalizing reg with
  | nil => rfl
  | cons key rest ih => exact (ih (reg.dropStream key)).trans (dropped reg key)

theorem board_evictStreams (keys : List StreamKey) (reg : Registry) :
    board (keys.foldl Registry.evictStream reg) = board reg := by
  induction keys generalizing reg with
  | nil => rfl
  | cons key rest ih => exact (ih (reg.evictStream key)).trans (board_of_same rfl rfl rfl)

/-- What the board shows once some calls have left. -/
def leave (ids : List String) (b : (String → Option Call) × List String × Option UInt64) :
    (String → Option Call) × List String × Option UInt64 :=
  (fun id => if id ∈ ids then none else b.1 id, b.2.1 ++ ids, b.2.2)

theorem leave_nil (b : (String → Option Call) × List String × Option UInt64) : leave [] b = b := by
  simp only [leave, List.not_mem_nil, if_false, List.append_nil]

theorem leave_leave (first second : List String)
    (b : (String → Option Call) × List String × Option UInt64) :
    leave second (leave first b) = leave (first ++ second) b := by
  have calls : (fun id => if id ∈ second then none else if id ∈ first then none else b.1 id) =
      fun id => if id ∈ first ++ second then none else b.1 id := by
    funext id
    by_cases early : id ∈ first <;> by_cases late : id ∈ second <;> simp [early, late]
  simp only [leave, calls, List.append_assoc]

theorem board_removeCalls (reg : Registry) (ids : List String) :
    board (reg.removeCalls ids) = leave ids (board reg) := by
  have dropped : ∀ (reg : Registry) (id : String), board (reg.dropCall id) = leave [id] (board reg) := by
    intro reg id
    have erased : calls { reg with calls := reg.calls.erase id } = fun a =>
        if a ∈ [id] then none else calls reg a := by
      funext a
      rw [calls, FiniteMap.lookup_erase_iff]
      by_cases own : a = id <;> simp [own, calls]
    exact (board_dropStreams _ _).trans (Prod.ext erased rfl)
  have all : ∀ (ids : List String) (reg : Registry),
      board (ids.foldl Registry.dropCall reg) = leave ids (board reg) := by
    intro ids
    induction ids with
    | nil => exact fun reg => (leave_nil _).symm
    | cons id rest ih =>
      intro reg
      rw [List.foldl_cons, ih, dropped, leave_leave, List.singleton_append]
  exact (board_of_same rfl rfl rfl).trans (all ids reg)

/-- The calls beyond the cap. -/
def capCalls (reg : Registry) : List String :=
  if reg.maxCalls < reg.calls.size then reg.excessCalls else []

theorem board_evictIfNeeded (iter : Iteration) (reg : Registry) :
    board (reg.evictIfNeeded iter) = leave (capCalls reg) (board reg) := by
  unfold Registry.evictIfNeeded capCalls
  dsimp only
  split
  · split
    · rw [board_evictStreams, board_removeCalls]
    · rw [board_removeCalls]
  · split
    · rw [board_evictStreams, leave_nil]
    · rw [leave_nil]

/-- The calls past their TTL. -/
def staleCalls (iter : Iteration) (reg : Registry) (ttlSecs nowUs : UInt64) : List String :=
  if ttlSecs = 0 ∨ nowUs = 0 then []
  else ((iter.order reg.calls.toList).filter fun e => reg.isStale
    (nowUs.toNat - min (ttlSecs.toNat * 1000000) (2 ^ 64 - 1)) e.1 e.2).map Prod.fst

theorem board_evictStale (iter : Iteration) (reg : Registry) (ttlSecs nowUs : UInt64) :
    board (reg.evictStale iter ttlSecs nowUs) =
      leave (staleCalls iter reg ttlSecs nowUs) (board reg) := by
  unfold Registry.evictStale staleCalls
  split
  · rw [leave_nil]
  · exact board_removeCalls reg _

/-- Draining the calls that have left takes their latches. -/
theorem table_drained {c : Correlator} {reg : Registry} {ids : List String}
    (drained : c.reg.removed = []) (left : board reg = leave ids (board c.reg)) :
    table { c with reg }.pruneRemovedBookkeeping = (table c).depart ids := by
  obtain ⟨gone, removed, lastUs⟩ : calls reg = (fun id => if id ∈ ids then none else calls c.reg id) ∧
      reg.removed = c.reg.removed ++ ids ∧ reg.lastUs = c.reg.lastUs := by
    simpa only [board, leave, Prod.mk.injEq] using left
  rw [drained, List.nil_append] at removed
  have done := congrArg (fun l : List String => l.foldl Finset.erase c.terminalDone) removed
  exact Table.ext gone done drained.symm rfl rfl rfl rfl lastUs

theorem table_undrained {c : Correlator} (drained : c.reg.removed = []) :
    table c.pruneRemovedBookkeeping = table c := by
  have left : board c.reg = leave [] (board c.reg) := (leave_nil _).symm
  have nobody := table_drained drained left
  rwa [Table.depart_nil] at nobody

/-- The calls that leave when a terminated call is retired: itself, or those
beyond the cap when it is kept. -/
def retireGone (c : Correlator) (id : String) : List String :=
  if c.keepTerminated then ((retirePoint c id).map capCalls).getD [] else [id]

def terminalGone (c : Correlator) (id : String) : List String := retireGone (c.teardownChecks id) id

def sipGone (c : Correlator) (msg : SipMsg) : List String :=
  terminalGone { received c msg with
    terminalDone := insert msg.callId (received c msg).terminalDone } msg.callId

/-! ## Terminal handling -/

theorem table_retire (iter : Iteration) {c : Correlator} (drained : c.reg.removed = []) (id : String) :
    table (c.retireCall iter id).pruneRemovedBookkeeping = (table c).close id (retireGone c id) := by
  have found : (table c).call id = (c.reg.calls.lookup id).map signaling := rfl
  unfold retireCall Table.close retireGone retirePoint
  rw [found]
  cases c.reg.calls.lookup id with
  | none => exact table_undrained drained
  | some call =>
    have reported := table_reportTeardown c id call
    have keep := keepTerminated_reportTeardown c id call
    have removed : (c.reportTeardown id call).reg.removed = [] :=
      (congrArg Table.removed reported).trans drained
    have state : (signaling call).state = call.state := rfl
    have lastUs : (table c).lastUs = c.reg.lastUs := rfl
    simp only [Option.map_some, state]
    cases call.state.terminal with
    | false => exact table_undrained drained
    | true =>
      simp only [if_true, Bool.true_and, lastUs]
      rw [← reported]
      cases kept : c.keepTerminated with
      | true =>
        rw [if_pos (keep.trans kept)]
        exact table_drained removed (board_evictIfNeeded iter _)
      | false =>
        rw [if_neg (Bool.eq_false_iff.mp (keep.trans kept))]
        exact table_drained removed (board_removeCalls _ [id])

theorem table_onCallTerminal (iter : Iteration) {c : Correlator} (drained : c.reg.removed = [])
    (id : String) : table (c.onCallTerminal iter id) = (table c).close id (terminalGone c id) := by
  have checked := blind_table.teardownChecks c id
  have removed : (c.teardownChecks id).reg.removed = [] := by
    have listed : ∀ c : Correlator, (table c).removed = c.reg.removed := fun _ => rfl
    rw [← listed, checked, listed]
    exact drained
  rw [← checked]
  exact table_retire iter removed id

/-- The guard of the latch, read off the table. -/
theorem latch_guard (c : Correlator) (id : String) :
    (c.callTerminal id && decide (id ∉ c.terminalDone)) = (table c).ends id := by
  have seen : c.callTerminal id = (table c).ended id := by
    simp only [callTerminal, Table.ended, table, calls, Option.any_map]
    rfl
  rw [Table.ends, seen]
  rfl

/-- The calls as a message leaves them: it reaches its call, and a call that
has ended and is not latched is reported and retired. -/
theorem table_ingestSip (iter : Iteration) {c : Correlator} (drained : c.reg.removed = [])
    (msg : SipMsg) :
    table (c.ingestSip iter msg) = ((table c).hear msg).latch msg.callId (sipGone c msg) := by
  have heard := table_received c msg
  have removed : (received c msg).reg.removed = [] := (congrArg Table.removed heard).trans drained
  rw [ingestSip_received, ← heard]
  unfold latchTerminal Table.latch
  rw [latch_guard]
  split
  · have latched : ({ received c msg with
        terminalDone := insert msg.callId (received c msg).terminalDone } : Correlator).reg.removed = [] :=
      removed
    exact table_onCallTerminal iter latched msg.callId
  · rfl

/-! ## The periodic pass -/

theorem table_foldl {α : Type} {op : Correlator → α → Correlator}
    (keeps : ∀ c a, table (op c a) = table c) (l : List α) (c : Correlator) :
    table (l.foldl op c) = table c := by
  induction l generalizing c with
  | nil => rfl
  | cons a rest ih => exact (ih (op c a)).trans (keeps c a)

theorem board_foldl {α : Type} {op : Registry → α → Registry} (keeps : ∀ reg a, board (op reg a) = board reg)
    (l : List α) (reg : Registry) : board (l.foldl op reg) = board reg := by
  induction l generalizing reg with
  | nil => rfl
  | cons a rest ih => exact (ih (op reg a)).trans (keeps reg a)

theorem board_flushStreamIpattr (reg : Registry) (key : StreamKey) :
    board (reg.flushStreamIpattr key) = board reg := by
  unfold Registry.flushStreamIpattr
  split <;> rfl

theorem table_ipattrTick (iter : Iteration) (c : Correlator) (ts : UInt64) :
    table (c.ipattrTick iter ts) = table c := by
  have attributed : ∀ c : Correlator, table (c.attributeIpStats iter) = table c := fun c =>
    table_reg c (board_foldl board_flushStreamIpattr _ c.reg)
  unfold ipattrTick
  dsimp only
  split <;> split
  · exact attributed { c with lastIpattrUs := some ts }
  · exact attributed c
  · rfl
  · rfl

theorem table_snapStream (ts : UInt64) (c : Correlator) (key : StreamKey) :
    table (snapStream ts c key) = table c := by
  have sampled : table { c with reg := c.reg.updateStream key (·.sample ts) } = table c :=
    table_reg c (board_of_same rfl rfl rfl)
  have snap : ∀ (r : Correlator) s, table (r.pushEv (.streamSnap s)) = table r := fun r s =>
    table_pushEv_other r _ rfl
  unfold snapStream
  dsimp only
  repeat' split
  all_goals simp only [snap, sampled]

theorem table_snapped (iter : Iteration) (c : Correlator) (ts : UInt64) :
    table (snapped iter c ts) = table c := by
  have aged : ∀ reg : Registry, board reg.pruneHeatmap = board reg := by
    intro reg
    unfold Registry.pruneHeatmap
    split <;> rfl
  have ticked : table (flushed iter c ts) = table c := table_ipattrTick iter c ts
  refine (table_foldl (table_snapStream ts) _ _).trans ?_
  exact (table_reg (flushed iter c ts) (aged _)).trans ticked

theorem board_refreshSearchMatches (iter : Iteration) (reg : Registry) :
    board (reg.refreshSearchMatches iter) = board reg := by
  unfold Registry.refreshSearchMatches
  split <;> rfl

/-- The calls the eviction pass removes. -/
def evictGone (iter : Iteration) (c : Correlator) (ts : UInt64) : List String :=
  let reg := if c.reg.searchHint.isSome then c.reg.refreshSearchMatches iter else c.reg
  staleCalls iter reg c.callTtlSecs ts ++ capCalls (unstale iter c ts)

theorem board_evictPass (iter : Iteration) (c : Correlator) (ts : UInt64) :
    board (c.evictPass iter ts).reg = leave (evictGone iter c ts) (board c.reg) := by
  have cut := board_evictIfNeeded iter (unstale iter c ts)
  refine cut.trans ?_
  unfold unstale evictGone
  generalize hinted : (if c.reg.searchHint.isSome then c.reg.refreshSearchMatches iter else c.reg) = reg
  have same : board reg = board c.reg := by
    rw [← hinted]
    split
    · exact board_refreshSearchMatches iter _
    · rfl
  rw [board_evictStale, leave_leave, same, unstale, hinted]

theorem table_evictPass (iter : Iteration) {c : Correlator} (drained : c.reg.removed = [])
    (ts : UInt64) : table (c.evictPass iter ts).pruneRemovedBookkeeping =
      (table c).depart (evictGone iter c ts) :=
  table_drained drained (board_evictPass iter c ts)

theorem table_pruneIdleIps (c : Correlator) (ts : UInt64) : table (c.pruneIdleIps ts) = table c :=
  table_reg c (board_of_same rfl rfl rfl)

/-- The calls a periodic flush removes. -/
def flushGone (iter : Iteration) (c : Correlator) (ts : UInt64) : List String :=
  if tickerDue (c.ipattrTick iter ts).lastFlushUs ts flushPeriodUs then
    evictGone iter (snapped iter c ts) ts
  else []

/-- A periodic flush only takes calls away. -/
theorem table_maybePeriodicFlush (iter : Iteration) {c : Correlator} (drained : c.reg.removed = [])
    (ts : UInt64) : table (c.maybePeriodicFlush iter ts) = (table c).depart (flushGone iter c ts) := by
  have ticked := table_ipattrTick iter c ts
  unfold maybePeriodicFlush flushGone
  dsimp only
  by_cases due : tickerDue (c.ipattrTick iter ts).lastFlushUs ts flushPeriodUs = true
  · have snap := table_snapped iter c ts
    have removed : (snapped iter c ts).reg.removed = [] := (congrArg Table.removed snap).trans drained
    simp only [due, Bool.or_true, if_true]
    refine (table_pruneIdleIps ((snapped iter c ts).evictPass iter ts).pruneRemovedBookkeeping ts).trans ?_
    rw [table_evictPass iter removed ts, snap]
  · simp only [due, Bool.or_false, if_false, Bool.false_eq_true]
    rw [Table.depart_nil]
    split <;> exact ticked

/-! ## Media -/

theorem table_attachSample (ts : UInt64) (c : Correlator) (sample : RtcpSample) :
    table (attachSample ts c sample) = table c := by
  have timed : table { c with reg := (ssrcKeys c.reg sample.ssrc).foldl (fun reg k =>
      reg.updateStream k (·.addTiming sample.rttMs sample.onewayMs)) c.reg } = table c :=
    table_reg c (board_updateStreams _ (fun _ => (·.addTiming sample.rttMs sample.onewayMs)) c.reg)
  unfold attachSample
  dsimp only
  split
  · exact (table_pushEv_other _ _ rfl).trans timed
  · exact timed

theorem table_ingestRtcp (c : Correlator) (ts : UInt64) (flow : Flow5Tuple) (msg : RtcpMessage) :
    table (c.ingestRtcp ts flow msg) = table c := by
  unfold ingestRtcp
  dsimp only
  split
  · next id _ =>
    have counted : board (c.reg.updateCall id (countRtcp ts)) = board c.reg :=
      board_updateCall c.reg id fun _ => rfl
    exact (table_foldl (table_attachSample ts) _ _).trans (table_reg c counted)
  · exact table_foldl (table_attachSample ts) _ c

theorem table_ingestRtp (c : Correlator) (ts : UInt64) (flow : Flow5Tuple) (header : RtpHeader)
    (len : Nat) (encap : Encap) : table (c.ingestRtp ts flow header len encap) = table c := by
  have counted : ∀ (reg : Registry) (id : String),
      board (reg.updateCall id (countRtp ts)) = board reg := fun reg id =>
    board_updateCall reg id fun _ => rfl
  unfold ingestRtp
  dsimp only
  split
  · next s _ =>
    unfold observeExistingRtp
    dsimp only
    rw [blind_table.addDiagnostics]
    exact table_reg c ((counted _ _).trans (board_of_same rfl rfl rfl))
  · split
    · next id _ =>
      unfold openRtp
      dsimp only
      generalize openDiagnostics _ _ _ _ _ ts flow header = diags
      have noted : ∀ (reg : Registry) relayed,
          board (reg.updateCall id (noteMedia flow relayed)) = board reg := fun reg relayed =>
        board_updateCall reg id fun _ => rfl
      generalize opened : Registry.updateCall _ id (noteMedia flow _) = reg
      have listed : board reg = board c.reg := by
        rw [← opened, noted]
        exact board_of_same rfl rfl rfl
      have reported := (blind_table.addDiagnostics { c with reg } diags).trans (table_reg c listed)
      refine Eq.trans (table_reg _ ?_) reported
      split
      · exact (counted _ _).trans (board_of_same rfl rfl rfl)
      · exact counted _ _
    · rfl

/-! ## Every step -/

/-- The calls a step removes. -/
def gone (c : Correlator) (input : Iteration × Op) : List String :=
  match input.2 with
  | .sip msg => sipGone c msg
  | .terminal id => terminalGone c id
  | .flush ts => flushGone input.1 c ts
  | _ => []

/-- One operation, given the calls that leave with it. -/
def Table.step (t : Table) (op : Op) (gone : List String) : Table :=
  match op with
  | .sip msg => (t.hear msg).latch msg.callId gone
  | .terminal id => t.close id gone
  | .flush _ => t.depart gone
  | .clear => { t with call := fun _ => none, done := ∅, log := [], stats := t.stats.map fun _ => []
                       lastUs := none }
  | .touchTime ts => { t with lastUs := some ts }
  | .takeEvents => { t with log := [] }
  | .disableEvlogEmit => { t with emit := false }
  | .enableSessionStats => { t with stats := some [] }
  | .rtp .. | .rtcp .. | .focus _ | .search _ => t

/-- The table of a correlator moves as the table alone does. -/
theorem table_step {c : Correlator} (drained : c.reg.removed = []) (input : Iteration × Op) :
    table (step c input) = (table c).step input.2 (gone c input) := by
  obtain ⟨iter, op⟩ := input
  cases op with
  | sip msg => exact table_ingestSip iter drained msg
  | rtp ts flow header len encap => exact table_ingestRtp c ts flow header len encap
  | rtcp ts flow msg => exact table_ingestRtcp c ts flow msg
  | terminal id => exact table_onCallTerminal iter drained id
  | flush ts => exact table_maybePeriodicFlush iter drained ts
  | search q =>
    refine table_reg c ?_
    unfold Registry.setSearchHint
    dsimp only
    split
    · rfl
    · exact (board_refreshSearchMatches iter _).trans (board_of_same rfl rfl rfl)
  | clear =>
    refine Table.ext rfl rfl rfl rfl rfl rfl ?_ rfl
    change (c.sessionStats.map fun _ => []).map _ = (c.sessionStats.map _).map _
    cases c.sessionStats <;> rfl
  | touchTime ts => rfl
  | focus hint => rfl
  | takeEvents => rfl
  | disableEvlogEmit => rfl
  | enableSessionStats => rfl

/-! ## The entry of a message -/

/-- What a table knows of the call of a message before it arrives. -/
def before (t : Table) (msg : SipMsg) : Call := (t.call msg.callId).getD (.new msg.callId)

/-- The call once the message has arrived. -/
def after (t : Table) (msg : SipMsg) : Call := signaling ((before t msg).applySip msg)

theorem hear_own (t : Table) (msg : SipMsg) : (t.hear msg).call msg.callId = some (after t msg) :=
  Function.update_self _ _ _

theorem hear_other (t : Table) (msg : SipMsg) {id : String} (other : id ≠ msg.callId) :
    (t.hear msg).call id = t.call id := Function.update_of_ne other _ _

theorem milestones_after (t : Table) (msg : SipMsg) : milestones (after t msg) =
    (milestones (before t msg)).advance msg.tsUs (signal msg) := by
  rw [← applySip_milestones]
  rfl

/-- Every call that has ended is latched. -/
def Latched (t : Table) : Prop :=
  ∀ id call, t.call id = some call → call.state.terminal = true → id ∈ t.done

theorem latched_step {t : Table} (latched : Latched t) (op : Op) (gone : List String) :
    Latched (t.step op gone) := by
  have stays : ∀ {done : Finset String} {id : String}, id ∈ done → id ∉ gone →
      id ∈ gone.foldl Finset.erase done := fun member kept =>
    (mem_foldl_erase gone _ _).mpr ⟨member, kept⟩
  intro id call found ended
  cases op with
  | sip msg =>
    simp only [Table.step, Table.latch_call, Table.latch_done] at found ⊢
    have reached : (t.hear msg).call id = some call := by
      split at found
      · exact nomatch found
      · exact found
    have before : (t.hear msg).ends msg.callId = false → id ∈ (t.hear msg).done := by
      intro passed
      by_cases own : id = msg.callId
      · subst own
        have here : (t.hear msg).ended msg.callId = true := by
          rw [Table.ended, reached]
          exact ended
        simpa [Table.ends, here] using passed
      · have other : (t.hear msg).call id = t.call id := Function.update_of_ne own _ _
        exact latched id call (other.symm.trans reached) ended
    cases passes : (t.hear msg).ends msg.callId with
    | false =>
      rw [if_neg Bool.false_ne_true]
      exact before passes
    | true =>
      rw [if_pos rfl]
      have kept : id ∉ gone := fun member => by simp [passes, member] at found
      refine stays ?_ kept
      by_cases own : id = msg.callId
      · exact own ▸ Finset.mem_insert_self _ _
      · have other : (t.hear msg).call id = t.call id := Function.update_of_ne own _ _
        exact Finset.mem_insert_of_mem (latched id call (other.symm.trans reached) ended)
  | terminal a =>
    simp only [Table.step, Table.close_call, Table.close_done] at found ⊢
    split at found
    · exact nomatch found
    · next open_ =>
      have member := latched id call found ended
      split
      · next terminal => exact stays member fun left => open_ ⟨terminal, left⟩
      · exact member
  | flush ts =>
    simp only [Table.step, Table.depart] at found ⊢
    split at found
    · exact nomatch found
    · next kept => exact stays (latched id call found ended) kept
  | clear => exact nomatch found
  | rtp | rtcp | touchTime | focus | search | takeEvents | disableEvlogEmit | enableSessionStats =>
    exact latched id call found ended

/-- A message is acted on as the end of its call exactly when it ends a call
that has not ended and whose end has not been latched. -/
theorem ends_hear_iff {t : Table} (latched : Latched t) (msg : SipMsg) :
    (t.hear msg).ends msg.callId = true ↔ (before t msg).state.terminal = false ∧
      Teardown.ends (signal msg) ∧ msg.callId ∉ t.done := by
  have gate : (t.hear msg).ends msg.callId =
      ((after t msg).state.terminal && decide (msg.callId ∉ t.done)) := by
    rw [Table.ends, Table.ended, hear_own]
    rfl
  have state : (after t msg).state = ((milestones (before t msg)).advance msg.tsUs (signal msg)).state :=
    congrArg Milestones.state (milestones_after t msg)
  rw [gate, Bool.and_eq_true, decide_eq_true_eq, state]
  cases ended : (before t msg).state.terminal with
  | false =>
    have turn := Teardown.advance_terminal_iff (m := milestones (before t msg)) ended msg.tsUs
      (signal msg)
    rw [turn]
    exact ⟨fun both => ⟨rfl, both⟩, fun all => all.2⟩
  | true =>
    have member : msg.callId ∈ t.done := by
      cases found : t.call msg.callId with
      | none =>
        rw [before, found] at ended
        cases ended
      | some call =>
        rw [before, found, Option.getD_some] at ended
        exact latched msg.callId call found ended
    exact ⟨fun both => absurd member both.2, fun all => Bool.noConfusion all.1⟩

end Sipmon.Guarantees.CallTable
