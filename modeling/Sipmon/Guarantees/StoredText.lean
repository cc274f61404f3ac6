import Sipmon.Guarantees.CallShare
import Sipmon.Lib.Run
import Sipmon.Source.Frame

/-!
# The correlator without the texts it stores

`plain` is a correlator without the stored messages, the byte and diagnostic
counts of its calls, the logs, the heatmap and the per-IP tables. Every
operation respects it: nothing else is computed from what is left out.
-/
namespace Sipmon.Guarantees.StoredText
open Source Lib Lib.Run
open Lib.FiniteMap (mapValues)
open Lib.ByteReader (Bytes)

def plainCall (call : Call) : Call :=
  { call with messages := [], bytes := 0, warnCount := 0, criticalCount := 0 }

def plainReg (reg : Registry) : Registry :=
  { reg with
    calls := mapValues plainCall reg.calls, events := [], diagnostics := []
    heatmap := .new 0, ipstats := FiniteMap.empty, sipstats := {}
    eventsVer := 0, diagVer := 0, heatVer := 0 }

def plain (c : Correlator) : Correlator :=
  { c with reg := plainReg c.reg, pendingEvents := [], sessionStats := none }

/-! ## The registry -/

theorem plain_calls (calls : FiniteMap String Call) :
    mapValues plainCall (mapValues plainCall calls) = mapValues plainCall calls :=
  FiniteMap.mapValues_mapValues plainCall plainCall calls

theorem plainReg_plainReg (reg : Registry) : plainReg (plainReg reg) = plainReg reg := by
  simp only [plainReg, plain_calls]

/-- It is enough to compare with the plain registry. -/
theorem respects_plainReg {f : Registry → Registry}
    (through : ∀ reg, plainReg (f (plainReg reg)) = plainReg (f reg)) : Respects plainReg f := by
  intro a b same
  rw [← through a, same, through b]

theorem plainReg_calls {a b : Registry} (same : plainReg a = plainReg b) {m n : FiniteMap String Call}
    (calls : mapValues plainCall m = mapValues plainCall n) :
    plainReg { a with calls := m } = plainReg { b with calls := n } := by
  have rest := congrArg (fun reg : Registry => { reg with calls := mapValues plainCall m }) same
  exact rest.trans (congrArg (fun calls => { plainReg b with calls }) calls)

/-- Two changes of a call that look alike. -/
theorem plainReg_updateCall {a b : Registry} (same : plainReg a = plainReg b) (id : String)
    {f g : Call → Call} (alike : ∀ x y, plainCall x = plainCall y → plainCall (f x) = plainCall (g y)) :
    plainReg (a.updateCall id f) = plainReg (b.updateCall id g) :=
  plainReg_calls same (FiniteMap.mapValues_modify_congr alike id (congrArg Registry.calls same))

theorem getOrCreateCall_respects (id : String) :
    Respects plainReg fun reg => reg.getOrCreateCall id := by
  refine respects_plainReg fun reg => ?_
  unfold Registry.getOrCreateCall
  have present : id ∈ (plainReg reg).calls ↔ id ∈ reg.calls :=
    FiniteMap.mem_mapValues plainCall reg.calls id
  by_cases here : id ∈ reg.calls
  · rw [if_pos (present.mpr here), if_pos here]
    exact plainReg_plainReg reg
  · rw [if_neg fun member => here (present.mp member), if_neg here]
    simp only [plainReg, FiniteMap.mapValues_insert, plain_calls]

theorem updateStream_respects (key : StreamKey) (f : RtpStream → RtpStream) :
    Respects plainReg fun reg => reg.updateStream key f :=
  respects_plainReg fun reg => by simp only [plainReg, Registry.updateStream, plain_calls]

theorem flushStreamIpattr_respects (key : StreamKey) :
    Respects plainReg fun reg => reg.flushStreamIpattr key := by
  refine respects_plainReg fun reg => ?_
  unfold Registry.flushStreamIpattr
  cases present : reg.streams.lookup key <;>
    simp only [plainReg, Registry.updateStream, plain_calls, present]

theorem evictStream_respects (key : StreamKey) : Respects plainReg fun reg => reg.evictStream key :=
  respects_plainReg fun reg => by
    simp only [plainReg, Registry.evictStream, Registry.forgetStream, plain_calls]

theorem dropStream_respects (key : StreamKey) : Respects plainReg fun reg => reg.dropStream key :=
  (evictStream_respects key).comp (flushStreamIpattr_respects key)

theorem dropCall_respects (id : String) : Respects plainReg fun reg => reg.dropCall id := by
  refine respects_plainReg fun reg => ?_
  have erased : plainReg { plainReg reg with
        calls := (plainReg reg).calls.erase id, removed := reg.removed ++ [id]
        streamIndex := reg.streamIndex.erase id } =
      plainReg { reg with
        calls := reg.calls.erase id, removed := reg.removed ++ [id]
        streamIndex := reg.streamIndex.erase id } := by
    simp only [plainReg, FiniteMap.mapValues_erase, plain_calls]
  exact Respects.foldl dropStream_respects (reg.callStreamKeys id) _ _ erased

theorem removeCalls_respects (ids : List String) : Respects plainReg fun reg => reg.removeCalls ids := by
  have swept : Respects plainReg fun reg : Registry => { reg with
      order := reg.order.filter fun id => !ids.contains id
      endpointCall := reg.endpointCall.retain fun _ id => !ids.contains id } :=
    respects_plainReg fun reg => by simp only [plainReg, plain_calls]
  exact swept.comp (Respects.foldl dropCall_respects ids)

theorem excessCalls_plain (reg : Registry) : (plainReg reg).excessCalls = reg.excessCalls := by
  unfold Registry.excessCalls
  simp only [plainReg, FiniteMap.toList_mapValues, FiniteMap.size_mapValues, List.filter_map,
    List.map_map]
  rfl

theorem evictIfNeeded_respects (iter : Iteration) :
    Respects plainReg fun reg => reg.evictIfNeeded iter := by
  have calls : Respects plainReg fun reg : Registry =>
      if reg.maxCalls < reg.calls.size then reg.removeCalls reg.excessCalls else reg := by
    refine respects_plainReg fun reg => ?_
    have size : (plainReg reg).calls.size = reg.calls.size := FiniteMap.size_mapValues plainCall reg.calls
    rw [excessCalls_plain, size]
    change plainReg (if reg.maxCalls < reg.calls.size then _ else _) = _
    split
    · exact removeCalls_respects reg.excessCalls _ _ (plainReg_plainReg reg)
    · exact plainReg_plainReg reg
  have streams : Respects plainReg fun reg : Registry =>
      if reg.maxStreams < reg.streams.size then (reg.excessStreams iter).foldl Registry.evictStream reg
      else reg := by
    refine respects_plainReg fun reg => ?_
    change plainReg (if reg.maxStreams < reg.streams.size then
      (reg.excessStreams iter).foldl Registry.evictStream (plainReg reg) else plainReg reg) = _
    split
    · exact Respects.foldl evictStream_respects (reg.excessStreams iter) _ _ (plainReg_plainReg reg)
    · exact plainReg_plainReg reg
  exact streams.comp calls

theorem evictStale_respects {iter : Iteration} (natural : iter.Natural) (ttlSecs nowUs : UInt64) :
    Respects plainReg fun reg => reg.evictStale iter ttlSecs nowUs := by
  refine respects_plainReg fun reg => ?_
  have stale : ∀ cutoff, ((iter.order (plainReg reg).calls.toList).filter fun e =>
        (plainReg reg).isStale cutoff e.1 e.2).map Prod.fst =
      ((iter.order reg.calls.toList).filter fun e => reg.isStale cutoff e.1 e.2).map Prod.fst := by
    intro cutoff
    have visited := natural (fun e : String × Call => (e.1, plainCall e.2)) reg.calls.toList
    simp only [plainReg, FiniteMap.toList_mapValues, visited, List.filter_map, List.map_map]
    rfl
  unfold Registry.evictStale
  split
  · exact plainReg_plainReg reg
  · dsimp only
    rw [stale]
    exact removeCalls_respects _ _ _ (plainReg_plainReg reg)

/-- Sorting by a time of the call does not look at the stored texts. -/
theorem map_recent (calls : List Call) :
    (calls.insertionSort fun a b => (b.inviteTs.getD 0).toNat ≤ (a.inviteTs.getD 0).toNat).map plainCall =
      (calls.map plainCall).insertionSort fun a b =>
        (b.inviteTs.getD 0).toNat ≤ (a.inviteTs.getD 0).toNat :=
  List.map_insertionSort (fun a b : Call => (b.inviteTs.getD 0).toNat ≤ (a.inviteTs.getD 0).toNat) _
    plainCall calls fun _ _ _ _ => Iff.rfl

/-- The filter reads no stored text. -/
theorem refreshSearchMatches_respects {iter : Iteration} (natural : iter.Natural) :
    Respects plainReg fun reg => reg.refreshSearchMatches iter := by
  refine respects_plainReg fun reg => ?_
  unfold Registry.refreshSearchMatches
  cases hint : reg.searchHint with
  | none => simp only [plainReg, hint, plain_calls]
  | some q =>
    have matched : ∀ rules, (iter.order (plainReg reg).calls.values).filter
          (fun call => Filter.matchesAll call.like rules) =
        ((iter.order reg.calls.values).filter fun call =>
          Filter.matchesAll call.like rules).map plainCall := by
      intro rules
      have visited := natural plainCall reg.calls.values
      simp only [plainReg, FiniteMap.values_mapValues, visited, List.filter_map]
      rfl
    have shown : (plainReg reg).searchHint = some q := hint
    rw [shown]
    dsimp only
    rw [matched, ← map_recent, ← List.map_take, List.map_map]
    simp only [plainReg, plain_calls]
    rfl

/-! ## The call machine -/

/-- The same message, another text stored. -/
def withRaw (msg : SipMsg) (raw : Bytes) : SipMsg := { msg with raw }

/-- Where the call machine reads the text, both texts say the same. -/
def SameReason (msg : SipMsg) (raw : Bytes) : Prop :=
  msg.method = some .bye → reasonFromRaw raw = reasonFromRaw msg.raw

theorem plain_prelude (call : Call) (msg : SipMsg) (raw : Bytes) :
    plainCall ((call.touch (withRaw msg raw)).identify (withRaw msg raw)) =
      plainCall (((plainCall call).touch msg).identify msg) := by
  dsimp only [Call.identify, Call.touch, plainCall, withRaw]
  split
  · split <;> split <;> rfl
  · rfl

theorem plain_onRequest (call : Call) {msg : SipMsg} {raw : Bytes} (reason : SameReason msg raw) :
    plainCall (call.onRequest (withRaw msg raw)) = plainCall ((plainCall call).onRequest msg) := by
  dsimp only [Call.onRequest, Call.onBye, Call.byeInitiator, plainCall, withRaw]
  split
  · next bye =>
    rw [reason bye]
    split <;> rfl
  · split <;> rfl
  · rfl

theorem plain_onResponse (call : Call) (msg : SipMsg) (raw : Bytes) (code : UInt16) :
    plainCall (call.onResponse (withRaw msg raw) code) =
      plainCall ((plainCall call).onResponse msg code) := by
  have provisional : plainCall (call.onProvisional (withRaw msg raw) code) =
      plainCall ((plainCall call).onProvisional msg code) := by
    dsimp only [Call.onProvisional, plainCall, withRaw]
    repeat' split
    all_goals rfl
  have bye : (withRaw msg raw).cseqIs "BYE" = msg.cseqIs "BYE" := rfl
  have same : (plainCall call).state = call.state := rfl
  have success : plainCall (call.onSuccess (withRaw msg raw)) =
      plainCall ((plainCall call).onSuccess msg) := by
    have answered : (plainCall call).answerTs = call.answerTs := rfl
    unfold Call.onSuccess
    rw [bye, answered]
    by_cases ended : msg.cseqIs "BYE" = true
    · rw [if_pos ended, if_pos ended]
      rfl
    · rw [if_neg ended, if_neg ended]
      split <;> rfl
  have failure : plainCall (call.onFailure (withRaw msg raw) code) =
      plainCall ((plainCall call).onFailure msg code) := by
    unfold Call.onFailure
    rw [bye]
    by_cases ended : msg.cseqIs "BYE" = true
    · rw [if_pos ended, if_pos ended]
      rfl
    · rw [if_neg ended, if_neg ended, same]
      repeat' split
      all_goals rfl
  have known : (withRaw msg raw).cseqInviteOrUnknown = msg.cseqInviteOrUnknown := rfl
  unfold Call.onResponse
  rw [same, known]
  split
  · exact provisional
  · split
    · exact success
    · split
      · exact failure
      · rfl

/-- The call machine computes nothing from what is left out, nor from the text
where both texts give the same reason. -/
theorem plain_applySip {x y : Call} (same : plainCall x = plainCall y) {msg : SipMsg} {raw : Bytes}
    (reason : SameReason msg raw) :
    plainCall (x.applySip (withRaw msg raw)) = plainCall (y.applySip msg) := by
  have through : ∀ (call : Call) (raw : Bytes), SameReason msg raw →
      plainCall (call.applySip (withRaw msg raw)) = plainCall ((plainCall call).applySip msg) := by
    intro call raw reason
    have prelude := plain_prelude call msg raw
    unfold Call.applySip
    dsimp only
    generalize (call.touch (withRaw msg raw)).identify (withRaw msg raw) = a at prelude ⊢
    generalize ((plainCall call).touch msg).identify msg = b at prelude ⊢
    have initial : (withRaw msg raw).isInitialInvite = msg.isInitialInvite := rfl
    have request : (withRaw msg raw).isRequest = msg.isRequest := rfl
    have status : (withRaw msg raw).status = msg.status := rfl
    rw [initial, request, status]
    split
    · have dialed : ∀ call : Call, plainCall (call.dial (withRaw msg raw)) =
          plainCall ((plainCall call).dial msg) := fun _ => rfl
      rw [dialed a, prelude]
      exact (dialed b).symm
    · split
      · rw [plain_onRequest a reason, prelude]
        exact (plain_onRequest b fun _ => rfl).symm
      · split
        · next code _ =>
          rw [plain_onResponse a msg raw code, prelude]
          exact (plain_onResponse b msg msg.raw code).symm
        · exact prelude
  rw [through x raw reason, same]
  exact (through y msg.raw fun _ => rfl).symm

theorem plain_receive {x y : Call} (same : plainCall x = plainCall y) {msg : SipMsg} {raw : Bytes}
    (reason : SameReason msg raw) (learned : Option NegotiatedMedia) :
    plainCall (Correlator.receive (withRaw msg raw) learned x) =
      plainCall (Correlator.receive msg learned y) := by
  have applied := plain_applySip same reason
  unfold Correlator.receive
  dsimp only
  generalize Registry.keepLast _ _ = sent
  generalize Registry.keepLast _ _ = stored
  generalize x.applySip (withRaw msg raw) = a at applied ⊢
  generalize y.applySip msg = b at applied ⊢
  cases learned with
  | none => exact applied
  | some n =>
    exact congrArg (fun call : Call => { call with negotiated := call.negotiated.merge n }) applied

/-! ## The correlator -/

theorem plain_plain (c : Correlator) : plain (plain c) = plain c := by
  simp only [plain, plainReg_plainReg]

theorem respects_plain {f : Correlator → Correlator}
    (through : ∀ c, plain (f (plain c)) = plain (f c)) : Respects plain f := by
  intro a b same
  rw [← through a, same, through b]

theorem plain_reg {a b : Correlator} (same : plain a = plain b) {r s : Registry}
    (regs : plainReg r = plainReg s) : plain { a with reg := r } = plain { b with reg := s } := by
  have rest := congrArg (fun c : Correlator => { c with reg := plainReg r }) same
  exact rest.trans (congrArg (fun reg => { plain b with reg }) regs)

theorem sameReg {a b : Correlator} (same : plain a = plain b) : plainReg a.reg = plainReg b.reg :=
  congrArg Correlator.reg same

theorem reg_respects {f : Registry → Registry} (respects : Respects plainReg f) :
    Respects plain fun c => { c with reg := f c.reg } :=
  fun _ _ same => plain_reg same (respects _ _ (sameReg same))

/-- The call of an id looks the same. -/
theorem sameCall {a b : Correlator} (same : plain a = plain b) (id : String) :
    (a.reg.calls.lookup id).map plainCall = (b.reg.calls.lookup id).map plainCall := by
  have calls : mapValues plainCall a.reg.calls = mapValues plainCall b.reg.calls :=
    congrArg Registry.calls (sameReg same)
  rw [← FiniteMap.lookup_mapValues, ← FiniteMap.lookup_mapValues, calls]

theorem plain_countDiagnostic (severity : Severity) (call : Call) :
    plainCall (Correlator.countDiagnostic severity call) = plainCall call := by
  cases severity <;> rfl

/-- What a reported diagnostic leaves behind. -/
theorem plain_reported (c : Correlator) {d : Diagnostic}
    (reported : ¬ d.severity.rank < c.minSeverity.rank) :
    plain (c.addDiagnostic d) =
      plain { c with reg := c.reg.updateCall d.callId (Correlator.countDiagnostic d.severity) } := by
  unfold Correlator.addDiagnostic
  rw [if_neg reported]
  simp only [plain, plainReg, Correlator.pushEv, Registry.updateCall, Registry.pushEvent,
    Registry.pushDiagnostic]

theorem addDiagnostic_respects (d : Diagnostic) : Respects plain fun c => c.addDiagnostic d := by
  intro a b same
  have threshold := congrArg Correlator.minSeverity same
  change a.minSeverity = b.minSeverity at threshold
  by_cases below : d.severity.rank < a.minSeverity.rank
  · have skipped : a.addDiagnostic d = a ∧ b.addDiagnostic d = b := by
      unfold Correlator.addDiagnostic
      exact ⟨if_pos below, if_pos (threshold ▸ below)⟩
    dsimp only
    rw [skipped.1, skipped.2, same]
  · dsimp only
    rw [plain_reported a below, plain_reported b (threshold ▸ below)]
    refine plain_reg same (plainReg_updateCall (sameReg same) d.callId fun x y alike => ?_)
    rw [plain_countDiagnostic, plain_countDiagnostic, alike]

theorem addDiagnostics_respects (ds : List Diagnostic) : Respects plain fun c => c.addDiagnostics ds :=
  Respects.foldl addDiagnostic_respects ds

/-! ## Teardown -/

theorem checkOneway_respects (id : String) : Respects plain fun c => c.checkOnewayAtTeardown id := by
  refine respects_plain fun c => ?_
  unfold Correlator.checkOnewayAtTeardown
  dsimp only [plain, plainReg, Registry.callStreamKeys]
  repeat' split
  · exact plain_plain c
  · exact addDiagnostic_respects _ _ _ (plain_plain c)
  · exact plain_plain c

theorem checkTurnLegs_respects (id : String) : Respects plain fun c => c.checkTurnLegs id := by
  refine respects_plain fun c => ?_
  have streams : (plain c).callStreams id = c.callStreams id := rfl
  unfold Correlator.checkTurnLegs
  rw [streams]
  dsimp only
  split
  · split
    · exact addDiagnostic_respects _ _ _ (plain_plain c)
    · exact plain_plain c
  · exact plain_plain c

theorem plain_recordHeatmap (c : Correlator) (id : String) : plain (c.recordHeatmap id) = plain c := by
  unfold Correlator.recordHeatmap
  repeat' split
  all_goals rfl

theorem plain_releaseActive (c : Correlator) (id : String) : plain (c.releaseActive id) = plain c := by
  unfold Correlator.releaseActive
  split <;> rfl

theorem teardownChecks_respects (id : String) : Respects plain fun c => c.teardownChecks id := by
  have checks := (checkTurnLegs_respects id).comp (checkOneway_respects id)
  have recorded := (respects_of_blind fun c => plain_recordHeatmap c id).comp checks
  exact (respects_of_blind fun c => plain_releaseActive c id).comp recorded

theorem reportTeardown_alike {a b : Correlator} (same : plain a = plain b) (id : String) {x y : Call}
    (alike : plainCall x = plainCall y) :
    plain (a.reportTeardown id x) = plain (b.reportTeardown id y) := by
  have state := congrArg Call.state alike
  change x.state = y.state at state
  have completed : ∀ c : Correlator, plain { c with reg := { c.reg with completed := c.reg.completed + 1 } } =
      { plain c with reg := { (plain c).reg with completed := (plain c).reg.completed + 1 } } :=
    fun _ => rfl
  have failed : ∀ c : Correlator, plain { c with reg := { c.reg with failed := c.reg.failed + 1 } } =
      { plain c with reg := { (plain c).reg with failed := (plain c).reg.failed + 1 } } :=
    fun _ => rfl
  have logged : ∀ (c : Correlator) line ev, plain ({ c with reg := c.reg.pushEvent line }.pushEv ev) =
      plain c := fun c line ev => by
    simp only [plain, plainReg, Correlator.pushEv, Registry.pushEvent]
  unfold Correlator.reportTeardown
  dsimp only
  rw [state]
  split
  · rw [completed, completed, logged, logged, same]
  · rw [failed, failed, logged, logged, same]

theorem retireCall_respects (iter : Iteration) (id : String) :
    Respects plain fun c => c.retireCall iter id := by
  intro a b same
  have found := sameCall same id
  unfold Correlator.retireCall
  dsimp only
  cases left : a.reg.calls.lookup id with
  | none =>
    rw [left] at found
    rw [Option.map_eq_none_iff.mp found.symm]
    exact same
  | some x =>
    rw [left] at found
    obtain ⟨y, right, alike⟩ := Option.map_eq_some_iff.mp found.symm
    have state := congrArg Call.state alike
    change y.state = x.state at state
    rw [right]
    dsimp only
    rw [state]
    split
    · have reported := reportTeardown_alike same id alike.symm
      generalize a.reportTeardown id x = a at reported ⊢
      generalize b.reportTeardown id y = b at reported ⊢
      have keep := congrArg Correlator.keepTerminated reported
      change a.keepTerminated = b.keepTerminated at keep
      have retired : ∀ kept : Bool,
          plain { a with reg := if kept then a.reg.evictIfNeeded iter else a.reg.removeCall id } =
            plain { b with reg := if kept then b.reg.evictIfNeeded iter else b.reg.removeCall id } := by
        intro kept
        cases kept
        · exact reg_respects (removeCalls_respects [id]) _ _ reported
        · exact reg_respects (evictIfNeeded_respects iter) _ _ reported
      exact (retired a.keepTerminated).trans (by rw [keep])
    · exact same

theorem pruneRemovedBookkeeping_respects :
    Respects plain fun c : Correlator => c.pruneRemovedBookkeeping :=
  respects_plain fun c => by
    simp only [Correlator.pruneRemovedBookkeeping, Registry.drainRemoved, plain, plainReg, plain_calls]

theorem onCallTerminal_respects (iter : Iteration) (id : String) :
    Respects plain fun c => c.onCallTerminal iter id :=
  pruneRemovedBookkeeping_respects.comp
    ((retireCall_respects iter id).comp (teardownChecks_respects id))

theorem latchTerminal_respects (iter : Iteration) (id : String) :
    Respects plain fun c => c.latchTerminal iter id := by
  intro a b same
  have found := sameCall same id
  have ended : a.callTerminal id = b.callTerminal id := by
    have through : ∀ c : Correlator, c.callTerminal id =
        ((c.reg.calls.lookup id).map plainCall).any fun call => call.state.terminal := by
      intro c
      rw [Option.any_map]
      rfl
    rw [through, through, found]
  have done := congrArg Correlator.terminalDone same
  change a.terminalDone = b.terminalDone at done
  unfold Correlator.latchTerminal
  dsimp only
  rw [ended, done]
  split
  · refine onCallTerminal_respects iter id _ _ ?_
    exact congrArg (fun c : Correlator => { c with terminalDone := insert id b.terminalDone }) same
  · exact same

end Sipmon.Guarantees.StoredText
