import Sipmon.Guarantees.CallSignals
import Sipmon.Guarantees.RegistryShape
import Sipmon.Guarantees.Views

/-!
# The teardown ledger of one call

While the SIP of a single Call-ID is ingested, the correlator acts on a small
ledger: the milestones of the tracked call, the `terminal_done` latch, the
Teardown events written and the two outcome counters. `ingestSip_ledger` shows
that `ingest_sip` runs the ledger's `record`.
-/
namespace Sipmon.Guarantees.TeardownLedger
open Source Lib CallSignals RegistryShape Views
open Evlog (Event CallEvt)

/-- What a Teardown event says about the end of its call. -/
structure Verdict where
  state : UInt8
  outcome : UInt8
  answerTs : Option UInt64
  deriving DecidableEq, Repr

def verdictOf (e : CallEvt) : Verdict := ⟨e.state, e.outcome, e.answerTs⟩

/-- What the milestones of a call amount to. -/
def verdict (m : Milestones) : Verdict :=
  ⟨Correlator.stateCode m.state, Correlator.outcomeCode m.outcome, m.answerTs⟩

/-- The Teardown events of a call, in the order they were emitted. -/
def teardowns (id : String) (events : List Event) : List CallEvt :=
  events.filterMap fun ev => match ev with
    | .call e => if e.kind = .teardown ∧ e.callId = id then some e else none
    | _ => none

structure Ledger where
  call : Option Milestones
  latched : Bool
  verdicts : List Verdict
  completed : Nat
  failed : Nat

def ledger (id : String) (c : Correlator) : Ledger :=
  { call := (c.reg.calls.lookup id).map milestones
    latched := decide (id ∈ c.terminalDone)
    verdicts := (teardowns id c.pendingEvents).map verdictOf
    completed := c.reg.completed
    failed := c.reg.failed }

/-- Milestones of a call without messages. -/
def fresh : Milestones := milestones (.new "")

namespace Ledger

/-- The Teardown is written, the class counted; the call stays when it is retained. -/
def close (l : Ledger) (retained : Bool) (m : Milestones) : Ledger :=
  { call := if retained then some m else none
    latched := retained
    verdicts := l.verdicts ++ [verdict m]
    completed := if m.state = .completed then l.completed + 1 else l.completed
    failed := if m.state = .completed then l.failed else l.failed + 1 }

/-- One SIP message of the call. -/
def record (l : Ledger) (retained : Bool) (msg : SipMsg) : Ledger :=
  let m := (l.call.getD fresh).advance msg.tsUs (signal msg)
  if m.state.terminal && !l.latched then l.close retained m else { l with call := some m }

end Ledger

/-- Whether a terminated call stays in memory: headless recording drops it, and
so does a call cap of zero. -/
def retained (config : Config) : Bool := config.keepTerminated && decide (0 < config.maxCalls)

/-- What surrounds the ledger while only the SIP of `id` was ingested. -/
structure Setting where
  known : Set String
  streams : FiniteMap StreamKey RtpStream
  streamIndex : FiniteMap String (List StreamKey)
  removed : List String
  focusHint : Option FocusHint
  searchMatches : List String
  maxCalls : Nat
  keepTerminated : Bool
  emitEvlog : Bool

def setting (c : Correlator) : Setting :=
  { known := {a | a ∈ c.reg.calls}, streams := c.reg.streams, streamIndex := c.reg.streamIndex
    removed := c.reg.removed, focusHint := c.reg.focusHint, searchMatches := c.reg.searchMatches
    maxCalls := c.reg.maxCalls, keepTerminated := c.keepTerminated, emitEvlog := c.emitEvlog }

/-- Only the call `id` can be known, there is no media and nothing is pinned. -/
structure Setting.Solo (config : Config) (id : String) (s : Setting) : Prop where
  only : ∀ a ∈ s.known, a = id
  streams : s.streams = FiniteMap.empty
  streamIndex : s.streamIndex = FiniteMap.empty
  removed : s.removed = []
  focusHint : s.focusHint = none
  searchMatches : s.searchMatches = []
  maxCalls : s.maxCalls = config.maxCalls
  keepTerminated : s.keepTerminated = config.keepTerminated
  emitEvlog : s.emitEvlog = true

/-- The setting and the ledger. -/
def sight (id : String) (c : Correlator) : Setting × Ledger := (setting c, ledger id c)

/-! ## Stages that do not touch the ledger -/

theorem milestones_countDiagnostic (severity : Severity) (call : Call) :
    milestones (Correlator.countDiagnostic severity call) = milestones call := by
  cases severity <;> rfl

theorem lookup_milestones_modify (calls : FiniteMap String Call) (a id : String)
    (update : Call → Call) (keeps : ∀ call, milestones (update call) = milestones call) :
    ((calls.modify a update).lookup id).map milestones = (calls.lookup id).map milestones := by
  rw [FiniteMap.lookup_modify]
  split
  · rw [Option.map_map]
    exact congrArg (Option.map · _) (funext keeps)
  · rfl

theorem known_modify (calls : FiniteMap String Call) (a : String) (update : Call → Call) :
    {b | b ∈ calls.modify a update} = {b | b ∈ calls} :=
  Set.ext fun b => FiniteMap.mem_modify b a update calls

/-- An event that is no Teardown of `id` leaves the list of Teardowns alone. -/
theorem teardowns_append (id : String) (events : List Event) (ev : Event)
    (other : teardowns id [ev] = []) : teardowns id (events ++ [ev]) = teardowns id events := by
  rw [teardowns, List.filterMap_append]
  change teardowns id events ++ teardowns id [ev] = _
  rw [other, List.append_nil]

theorem sight_pushEv (id : String) (c : Correlator) (ev : Event)
    (other : teardowns id [ev] = []) : sight id (c.pushEv ev) = sight id c := by
  have same : teardowns id (c.pushEv ev).pendingEvents = teardowns id c.pendingEvents := by
    unfold Correlator.pushEv
    dsimp only
    split
    · exact teardowns_append id _ ev other
    · rfl
  simp only [sight, ledger, same]
  rfl

theorem sight_addDiagnostic (id : String) (c : Correlator) (d : Diagnostic) :
    sight id (c.addDiagnostic d) = sight id c := by
  unfold Correlator.addDiagnostic
  dsimp only
  split
  · rfl
  · refine Eq.trans ?_ (sight_pushEv id c (.diag
      { tsUs := d.tsUs, callId := d.callId, severity := Correlator.severityCode d.severity
        code := d.code, message := d.message }) rfl)
    have call := lookup_milestones_modify c.reg.calls d.callId id _
      (milestones_countDiagnostic d.severity)
    have known := known_modify c.reg.calls d.callId (Correlator.countDiagnostic d.severity)
    simp only [sight, setting, ledger, Correlator.pushEv, Registry.updateCall, Registry.pushEvent,
      Registry.pushDiagnostic, call, known]

theorem blind_sight (id : String) : Blind (sight id) where
  diag := sight_addDiagnostic id
  heatmap _ _ := rfl
  ipstats _ _ := rfl

theorem sight_observeSip (id : String) (c : Correlator) (msg : SipMsg) :
    sight id (c.observeSip msg) = sight id c := by
  unfold Correlator.observeSip
  dsimp only
  split <;> rfl

/-- Without streams an SDP only registers endpoints. -/
theorem sight_learnEndpoints (id : String) (c : Correlator) (callId : String) (n : NegotiatedMedia)
    (silent : c.reg.streamIndex = FiniteMap.empty) :
    sight id (c.learnEndpoints callId n) = sight id c := by
  have noKeys : c.reg.callStreamKeys callId = [] := by
    rw [Registry.callStreamKeys, silent]
    rfl
  unfold Correlator.learnEndpoints Correlator.applySdpClocks
  dsimp only
  split
  · change sight id { c with reg := (List.foldl _ _ (c.reg.callStreamKeys callId)) } = _
    rw [noKeys]
    rfl
  · rfl

/-! ## Storing the message -/

theorem milestones_receive (msg : SipMsg) (learned : Option NegotiatedMedia) (call : Call) :
    milestones (Correlator.receive msg learned call) =
      (milestones call).advance msg.tsUs (signal msg) := by
  rw [← applySip_milestones]
  unfold Correlator.receive
  dsimp only
  split <;> simp only [milestones]

/-- The tracked call advances by the message. -/
theorem ledger_storeMessage (c : Correlator) (msg : SipMsg) (learned : Option NegotiatedMedia) :
    ledger msg.callId (c.storeMessage msg learned) =
      { ledger msg.callId c with
        call := some (((ledger msg.callId c).call.getD fresh).advance msg.tsUs (signal msg)) } := by
  have stored : (c.storeMessage msg learned).reg.calls.lookup msg.callId =
      some (Correlator.receive msg learned ((c.reg.calls.lookup msg.callId).getD (.new msg.callId))) := by
    simp only [Correlator.storeMessage, Registry.updateCall, FiniteMap.lookup_modify, if_pos,
      lookup_getOrCreateCall, Option.map_some]
  have start : milestones ((c.reg.calls.lookup msg.callId).getD (.new msg.callId)) =
      ((c.reg.calls.lookup msg.callId).map milestones).getD fresh := by
    cases c.reg.calls.lookup msg.callId <;> rfl
  have created : ∀ reg : Registry, (reg.getOrCreateCall msg.callId).completed = reg.completed ∧
      (reg.getOrCreateCall msg.callId).failed = reg.failed := by
    intro reg
    unfold Registry.getOrCreateCall
    split <;> exact ⟨rfl, rfl⟩
  have counted := created c.reg
  simp only [ledger, stored, Option.map_some, milestones_receive, start]
  simp only [Correlator.storeMessage, Registry.updateCall, counted]

theorem solo_storeMessage {config : Config} {id : String} {c : Correlator} {msg : SipMsg}
    (learned : Option NegotiatedMedia) (own : msg.callId = id)
    (solo : (setting c).Solo config id) : (setting (c.storeMessage msg learned)).Solo config id := by
  have known : ∀ a ∈ (c.storeMessage msg learned).reg.calls, a = id := by
    intro a present
    have created := (FiniteMap.mem_modify a _ _ _).mp present
    unfold Registry.getOrCreateCall at created
    split at created
    · exact solo.only a created
    · rcases (AList.mem_insert _).mp created with same | earlier
      · exact same.trans own
      · exact solo.only a earlier
  have rest : setting (c.storeMessage msg learned) =
      { setting c with known := {a | a ∈ (c.storeMessage msg learned).reg.calls} } := by
    unfold setting Correlator.storeMessage Registry.updateCall Registry.getOrCreateCall
    split <;> rfl
  rw [rest]
  exact ⟨known, solo.streams, solo.streamIndex, solo.removed, solo.focusHint, solo.searchMatches,
    solo.maxCalls, solo.keepTerminated, solo.emitEvlog⟩

/-! ## Retiring the call -/

theorem calls_entries {config : Config} {id : String} {c : Correlator} {call : Call}
    (solo : (setting c).Solo config id) (found : c.reg.calls.lookup id = some call) :
    c.reg.calls.toList = [(id, call)] := by
  have only : ∀ e ∈ c.reg.calls.toList, e = (id, call) := by
    rintro ⟨a, other⟩ member
    have present := (FiniteMap.mem_toList _ _ _).mp member
    obtain rfl : a = id :=
      solo.only a (AList.lookup_isSome.mp (Option.isSome_of_eq_some present))
    rw [Option.some.inj (present.symm.trans found)]
  have repeated : c.reg.calls.toList = List.replicate c.reg.calls.toList.length (id, call) :=
    List.eq_replicate_of_mem only
  have present : (id, call) ∈ c.reg.calls.toList := (FiniteMap.mem_toList _ _ _).mpr found
  have once : (c.reg.calls.toList.map Prod.fst).Nodup := by
    have keys : c.reg.calls.toList.map Prod.fst = c.reg.calls.keys := by
      simp [FiniteMap.toList, AList.keys, List.keys]
    exact keys ▸ c.reg.calls.keys_nodup
  rw [repeated, List.map_replicate, List.nodup_replicate] at once
  have positive := List.length_pos_of_mem present
  rw [repeated, show c.reg.calls.toList.length = 1 by omega]
  rfl

theorem calls_size {config : Config} {id : String} {c : Correlator} {call : Call}
    (solo : (setting c).Solo config id) (found : c.reg.calls.lookup id = some call) :
    c.reg.calls.size = 1 := by
  have entries := congrArg List.length (calls_entries solo found)
  simpa [FiniteMap.toList, FiniteMap.size] using entries

/-- The call leaves; without media nothing else does. -/
theorem removeCalls_silent (reg : Registry) (id : String)
    (silent : reg.streamIndex = FiniteMap.empty) :
    reg.removeCalls [id] =
      { reg with
        calls := reg.calls.erase id, removed := reg.removed ++ [id]
        order := reg.order.filter fun a => !([id].contains a)
        endpointCall := reg.endpointCall.retain fun _ a => !([id].contains a) } := by
  have noKeys : reg.callStreamKeys id = [] := by
    rw [Registry.callStreamKeys, silent]
    rfl
  have erased : reg.streamIndex.erase id = reg.streamIndex := by
    rw [silent]
    rfl
  unfold Registry.removeCalls
  simp only [List.foldl_cons, List.foldl_nil, Registry.dropCall, noKeys, erased]

theorem excessCalls_solo {config : Config} {id : String} {c : Correlator} {call : Call}
    (solo : (setting c).Solo config id) (found : c.reg.calls.lookup id = some call) :
    c.reg.excessCalls = if c.reg.maxCalls = 0 then [id] else [] := by
  have unpinned : c.reg.pinned id = false := by
    have focus : c.reg.focusHint = none := solo.focusHint
    have search : c.reg.searchMatches = [] := solo.searchMatches
    simp [Registry.pinned, focus, search]
  unfold Registry.excessCalls
  rw [calls_entries solo found, calls_size solo found]
  cases c.reg.maxCalls with
  | zero => simp [unpinned, Registry.evictRank]
  | succ n => simp

theorem evictIfNeeded_solo (iter : Iteration) {config : Config} {id : String} {c : Correlator}
    {call : Call} (solo : (setting c).Solo config id) (found : c.reg.calls.lookup id = some call) :
    c.reg.evictIfNeeded iter = if c.reg.maxCalls = 0 then c.reg.removeCalls [id] else c.reg := by
  have streams : c.reg.streams = FiniteMap.empty := solo.streams
  have noStreams : ∀ reg : Registry, reg.streams = FiniteMap.empty →
      ¬ reg.maxStreams < reg.streams.size := by
    rintro reg none
    rw [none]
    exact Nat.not_lt_zero reg.maxStreams
  have cut : (if c.reg.maxCalls < c.reg.calls.size then c.reg.removeCalls c.reg.excessCalls
      else c.reg) = if c.reg.maxCalls = 0 then c.reg.removeCalls [id] else c.reg := by
    rw [excessCalls_solo solo found, calls_size solo found]
    by_cases cap : c.reg.maxCalls = 0
    · rw [if_pos (by omega), if_pos cap, if_pos cap]
    · rw [if_neg (by omega), if_neg cap]
  unfold Registry.evictIfNeeded
  dsimp only
  rw [cut, if_neg (noStreams _ ?_)]
  split
  · rw [removeCalls_silent c.reg id solo.streamIndex]
    exact streams
  · exact streams

theorem setting_reportTeardown (c : Correlator) (id : String) (call : Call) :
    setting (c.reportTeardown id call) = setting c := by
  unfold Correlator.reportTeardown
  dsimp only
  split <;> simp only [setting, Correlator.pushEv, Registry.pushEvent]

theorem ledger_reportTeardown (c : Correlator) (id : String) (call : Call)
    (logging : c.emitEvlog = true) :
    ledger id (c.reportTeardown id call) =
      { ledger id c with
        verdicts := (ledger id c).verdicts ++ [verdict (milestones call)]
        completed := if call.state = .completed then c.reg.completed + 1 else c.reg.completed
        failed := if call.state = .completed then c.reg.failed else c.reg.failed + 1 } := by
  have written : ∀ lastUs : Option UInt64,
      (teardowns id (c.pendingEvents ++ [.call (Correlator.teardownEvt id call lastUs)])).map verdictOf =
        (ledger id c).verdicts ++ [verdict (milestones call)] := by
    intro lastUs
    rw [teardowns, List.filterMap_append, List.map_append]
    simp only [Correlator.teardownEvt, List.filterMap_cons, List.filterMap_nil, and_self, if_pos]
    rfl
  unfold Correlator.reportTeardown
  dsimp only
  split
  all_goals simp only [ledger, Correlator.pushEv, Registry.pushEvent, if_pos logging, written]

theorem reportTeardown_frame (c : Correlator) (id : String) (call : Call) :
    (c.reportTeardown id call).reg.calls = c.reg.calls ∧
      (c.reportTeardown id call).terminalDone = c.terminalDone := by
  unfold Correlator.reportTeardown
  dsimp only
  split <;> simp only [Correlator.pushEv, Registry.pushEvent, and_self]

/-- Draining an empty list changes nothing. -/
theorem sight_prune_empty (id : String) (c : Correlator) (drained : c.reg.removed = []) :
    sight id c.pruneRemovedBookkeeping = sight id c := by
  unfold Correlator.pruneRemovedBookkeeping Registry.drainRemoved
  simp only [drained, List.foldl_nil, sight, setting, ledger]

/-- The call leaves the tables and the latch. -/
theorem sight_drop {config : Config} {id : String} {c : Correlator}
    (solo : (setting c).Solo config id) :
    (setting { c with reg := c.reg.removeCalls [id] }.pruneRemovedBookkeeping).Solo config id ∧
      ledger id { c with reg := c.reg.removeCalls [id] }.pruneRemovedBookkeeping =
        { ledger id c with call := none, latched := false } := by
  have removed : c.reg.removed = [] := solo.removed
  rw [removeCalls_silent c.reg id solo.streamIndex]
  constructor
  · refine ⟨?_, solo.streams, solo.streamIndex, rfl, solo.focusHint, solo.searchMatches,
      solo.maxCalls, solo.keepTerminated, solo.emitEvlog⟩
    exact fun a present => solo.only a (AList.mem_erase.mp present).2
  · simp only [ledger, Correlator.pruneRemovedBookkeeping, Registry.drainRemoved, removed,
      List.nil_append, List.foldl_cons, List.foldl_nil, AList.lookup_erase, Option.map_none,
      Finset.mem_erase, ne_eq, not_true_eq_false, false_and, decide_false]

/-- Retiring a terminated call closes the ledger. -/
theorem retire_ledger (iter : Iteration) {config : Config} {id : String} {c : Correlator}
    {call : Call} (solo : (setting c).Solo config id) (found : c.reg.calls.lookup id = some call)
    (terminal : call.state.terminal = true) (latched : id ∈ c.terminalDone) :
    (setting (c.retireCall iter id).pruneRemovedBookkeeping).Solo config id ∧
      ledger id (c.retireCall iter id).pruneRemovedBookkeeping =
        (ledger id c).close (retained config) (milestones call) := by
  have reported : (setting (c.reportTeardown id call)).Solo config id := by
    rwa [setting_reportTeardown]
  have written := ledger_reportTeardown c id call solo.emitEvlog
  have frame := reportTeardown_frame c id call
  rw [← frame.1] at found
  rw [← frame.2] at latched
  unfold Correlator.retireCall
  rw [← frame.1, found]
  dsimp only
  rw [if_pos terminal]
  generalize c.reportTeardown id call = r at reported written found latched
  have maxCalls : r.reg.maxCalls = config.maxCalls := reported.maxCalls
  have keepTerminated : r.keepTerminated = config.keepTerminated := reported.keepTerminated
  have before : (ledger id r).call = some (milestones call) ∧ (ledger id r).latched = true :=
    ⟨congrArg (Option.map milestones) found, decide_eq_true latched⟩
  rw [written] at before
  have dropped := sight_drop reported
  by_cases stays : retained config = true
  · obtain ⟨keep, positive⟩ := Bool.and_eq_true_iff.mp stays
    have evicts : (if r.keepTerminated = true then r.reg.evictIfNeeded iter
        else r.reg.removeCall id) = r.reg := by
      rw [if_pos (keepTerminated.trans keep), evictIfNeeded_solo iter reported found, maxCalls,
        if_neg (by have := of_decide_eq_true positive; omega)]
    have same := sight_prune_empty id r reported.removed
    simp only [evicts]
    refine ⟨?_, (congrArg Prod.snd same).trans (written.trans ?_)⟩
    · rw [show setting r.pruneRemovedBookkeeping = setting r from congrArg Prod.fst same]
      exact reported
    · simp only [Ledger.close, stays, if_pos, ← before.1, ← before.2]
      rfl
  · have evicts : (if r.keepTerminated = true then r.reg.evictIfNeeded iter
        else r.reg.removeCall id) = r.reg.removeCalls [id] := by
      split
      · next keep =>
        have none : r.reg.maxCalls = 0 := by
          have off : ¬ 0 < config.maxCalls := fun positive => stays (by
            simp [retained, ← keepTerminated, keep, positive])
          omega
        rw [evictIfNeeded_solo iter reported found, if_pos none]
      · rfl
    simp only [evicts]
    refine ⟨dropped.1, dropped.2.trans ?_⟩
    rw [written]
    simp only [Ledger.close, Bool.not_eq_true] at stays ⊢
    simp only [stays, Bool.false_eq_true, if_neg, not_false_eq_true]
    rfl

/-! ## One message -/

theorem callTerminal_ledger (id : String) (c : Correlator) :
    c.callTerminal id = (ledger id c).call.any fun m => m.state.terminal := by
  unfold Correlator.callTerminal ledger
  cases c.reg.calls.lookup id <;> rfl

theorem latch_ledger (iter : Iteration) {config : Config} {id : String} {c : Correlator}
    {m : Milestones} (solo : (setting c).Solo config id) (tracked : (ledger id c).call = some m) :
    (setting (c.latchTerminal iter id)).Solo config id ∧
      ledger id (c.latchTerminal iter id) =
        if m.state.terminal && !(ledger id c).latched then (ledger id c).close (retained config) m
        else ledger id c := by
  have latch : (c.callTerminal id && decide (id ∉ c.terminalDone)) =
      (m.state.terminal && !(ledger id c).latched) := by
    rw [callTerminal_ledger, tracked]
    simp [ledger]
  unfold Correlator.latchTerminal Correlator.onCallTerminal
  rw [latch]
  by_cases due : (m.state.terminal && !(ledger id c).latched) = true
  · rw [if_pos due, if_pos due]
    have marked : sight id { c with terminalDone := insert id c.terminalDone } =
        (setting c, { ledger id c with latched := true }) := by
      simp only [sight, setting, ledger, Finset.mem_insert_self, decide_true]
    rw [← (blind_sight id).teardownChecks _ id] at marked
    generalize Correlator.teardownChecks _ id = t at marked ⊢
    have settingT : setting t = setting c := congrArg Prod.fst marked
    have ledgerT : ledger id t = { ledger id c with latched := true } := congrArg Prod.snd marked
    have latched : id ∈ t.terminalDone := of_decide_eq_true (congrArg Ledger.latched ledgerT)
    have call : (ledger id t).call = some m := (congrArg Ledger.call ledgerT).trans tracked
    obtain ⟨call, found, rfl⟩ := Option.map_eq_some_iff.mp call
    have retired := retire_ledger iter (settingT.symm ▸ solo) found
      (Bool.and_eq_true_iff.mp due).1 latched
    rw [ledgerT] at retired
    exact retired
  · rw [if_neg due, if_neg due]
    exact ⟨solo, rfl⟩

/-- `ingest_sip` runs the ledger. -/
theorem ingestSip_ledger (iter : Iteration) {config : Config} {id : String} {c : Correlator}
    {msg : SipMsg} (solo : (setting c).Solo config id) (own : msg.callId = id) :
    (setting (c.ingestSip iter msg)).Solo config id ∧
      ledger id (c.ingestSip iter msg) = (ledger id c).record (retained config) msg := by
  unfold Correlator.ingestSip
  dsimp only
  generalize (Correlator.sdpOf msg).map NegotiatedMedia.ofSession = learned
  have observed := sight_observeSip id c msg
  have stored := ledger_storeMessage (c.observeSip msg) msg learned
  have same : setting (c.observeSip msg) = setting c := congrArg Prod.fst observed
  have alone := solo_storeMessage learned own (same.symm ▸ solo)
  rw [own, show ledger id (c.observeSip msg) = ledger id c from congrArg Prod.snd observed] at stored
  generalize (c.observeSip msg).storeMessage msg learned = s at stored alone
  have learnt : sight id (s.learnSdp msg.callId learned) = sight id s := by
    unfold Correlator.learnSdp
    split
    · exact sight_learnEndpoints id s _ _ alone.streamIndex
    · rfl
  generalize s.learnSdp msg.callId learned = l at learnt ⊢
  have diagnosed : ∀ diags, sight id ((l.pushEv (.sipMsg (Correlator.sipMsgEvt msg))).addDiagnostics
      diags) = sight id s := fun diags =>
    ((blind_sight id).addDiagnostics _ _).trans ((sight_pushEv id l _ rfl).trans learnt)
  specialize diagnosed ((c.observeSip msg).messageDiagnostics msg)
  generalize Correlator.addDiagnostics _ _ = d at diagnosed ⊢
  have settingD : setting d = setting s := congrArg Prod.fst diagnosed
  have ledgerD : ledger id d = ledger id s := congrArg Prod.snd diagnosed
  rw [own]
  have latched := latch_ledger iter (settingD.symm ▸ alone)
    (show (ledger id d).call = some _ by rw [ledgerD, stored])
  rw [ledgerD, stored] at latched
  simpa only [Ledger.record, Ledger.close] using latched

end Sipmon.Guarantees.TeardownLedger
