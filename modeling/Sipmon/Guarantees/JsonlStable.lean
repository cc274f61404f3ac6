import Sipmon.Guarantees.ExportOnce
import Sipmon.Guarantees.JsonlRows
import Sipmon.Guarantees.SnapshotCaches
import Sipmon.Source.Frame

/-!
# JSONL files that are exported again

Whatever the correlator was fed, its diagnostics carry codes the import knows
and its heatmap cells have counted a call, and the caches of the snapshots hold
nothing else. So a file comes back from the import with the same lines.
-/
namespace Sipmon.Guarantees.JsonlStable
open Source Lib Lib.VersionedCache Correlator Stages Views LogVersions SnapshotCaches Jsonl JsonlRows
open CallSignals (sampleMsg)
open ExportOnce (book_retireCall)
open Lib.ByteReader (Bytes)
open Evlog (DiagEvt MetricSet)

/-! ## The machine -/

/-- What live capture, a replay and the snapshots do to the correlator. -/
inductive Feed where
  | packet (dec : Decoder) (iters : Nat → Iteration) (fuel : Nat) (ts : UInt64)
      (decoded : Option (Flow5Tuple × L4))
  | op (input : Iteration × Op)
  | pushEvent (line : String)
  | restore (e : DiagEvt)
  | ensureStart (tsUs : UInt64)
  | importStreamSnap (tsUs : UInt64) (s : StreamSummary)
  | snapshot (iter : Iteration) (limit streamLimit : Nat)

/-- A recorded diagnostic is counted on its call and logged again. -/
def restore (c : Correlator) (e : DiagEvt) : Correlator :=
  let d := recordedDiagnostic e
  { c with reg := (c.reg.updateCall d.callId (countDiagnostic d.severity)).pushDiagnostic d }

/-- A packet on which the TCP reassembly does not return changes nothing. -/
def feed (c : Correlator) : Feed → Correlator
  | .packet dec iters fuel ts decoded => (c.ingestFrame dec iters fuel ts decoded).getD c
  | .op input => c.step input
  | .pushEvent line => { c with reg := c.reg.pushEvent line }
  | .restore e => restore c e
  | .ensureStart tsUs => { c with reg := c.reg.ensureStart tsUs }
  | .importStreamSnap tsUs s => { c with reg := c.reg.importStreamSnap tsUs s }
  | .snapshot iter limit streamLimit => { c with reg := (c.reg.snapshotWith iter limit streamLimit).2 }

def fed (c : Correlator) (feeds : List Feed) : Correlator := feeds.foldl feed c

/-! ## The invariant -/

/-- A code the import gives back. -/
def Known (d : Diagnostic) : Prop := codeFromStr d.code = d.code

/-- A cell that has counted a call, and at most one for each version of the heatmap. -/
def Counted (version : Nat) (cell : MetricSet) : Prop :=
  ∃ n, 0 < n ∧ n ≤ version ∧ cell.calls = UInt64.ofNat n

/-- The logs and the cells can be imported again, those that are cached too. -/
structure Exportable (reg : Registry) : Prop where
  logged : ∀ d ∈ reg.diagnostics, Known d
  keptLog : ∀ entry ∈ reg.diagCache, ∀ d ∈ entry.2, Known d
  cells : ∀ bucket row key cell, reg.heatmap.cells.lookup bucket = some row →
    row.lookup key = some cell → Counted reg.heatVer cell
  keptCells : ∀ entry ∈ reg.bucketsCache, ∀ b ∈ entry.2, Counted reg.heatVer b.2.2

/-- Only the logs, the cells and their caches matter. -/
theorem Exportable.of_stores {a b : Registry} (cached : caches b = caches a)
    (diags : diagnostics b = diagnostics a) (map : heatmap b = heatmap a) (holds : Exportable a) :
    Exportable b := by
  simp only [caches, diagnostics, heatmap, Prod.mk.injEq] at cached diags map
  obtain ⟨_, diagCache, bucketsCache⟩ := cached
  constructor
  · rw [diags.2]; exact holds.logged
  · rw [diagCache]; exact holds.keptLog
  · rw [map.1, map.2]; exact holds.cells
  · rw [map.1, bucketsCache]; exact holds.keptCells

theorem Exportable.of_memo {a b : Registry} (same : memo b = memo a) (holds : Exportable a) :
    Exportable b := by
  simp only [memo, Prod.mk.injEq] at same
  exact holds.of_stores same.2.1 same.2.2.2.1 same.2.2.2.2

/-- A registry in which nothing was logged. -/
theorem Exportable.blank {reg : Registry} (log : reg.diagnostics = []) (keptLog : reg.diagCache = none)
    (cells : reg.heatmap.cells = FiniteMap.empty) (keptCells : reg.bucketsCache = none) :
    Exportable reg := by
  constructor
  · intro d member
    rw [log] at member
    exact absurd member List.not_mem_nil
  · intro entry held
    rw [keptLog] at held
    cases held
  · intro bucket row key cell found
    rw [cells] at found
    cases found
  · intro entry held
    rw [keptCells] at held
    cases held

theorem Counted.later {version later : Nat} {cell : MetricSet} (counted : Counted version cell)
    (newer : version ≤ later) : Counted later cell := by
  obtain ⟨n, some_call, bound, calls⟩ := counted
  exact ⟨n, some_call, bound.trans newer, calls⟩

/-! ## Diagnostics -/

theorem known_diag (tsUs : UInt64) (callId : String) (severity : Severity) (code : DiagCode)
    (message : String) : Known (diag tsUs callId severity code message) := by
  have listed : codeFromStr code.text = code.text := by cases code <;> decide
  exact listed

theorem codeFromStr_idem (s : String) : codeFromStr (codeFromStr s) = codeFromStr s := by
  unfold codeFromStr
  by_cases known : s ∈ diagCodes
  · rw [if_pos known, if_pos known]
  · rw [if_neg known]
    decide

theorem known_recorded (e : DiagEvt) : Known (recordedDiagnostic e) := codeFromStr_idem e.code

/-- What the rules report. -/
def AllKnown (ds : List Diagnostic) : Prop := ∀ d ∈ ds, Known d

namespace AllKnown

theorem nil : AllKnown [] := fun _ member => absurd member List.not_mem_nil

theorem one {d : Diagnostic} (known : Known d) : AllKnown [d] := by
  intro other member
  rwa [List.mem_singleton.mp member]

theorem append {first second : List Diagnostic} (one : AllKnown first) (other : AllKnown second) :
    AllKnown (first ++ second) := by
  intro d member
  obtain here | there := List.mem_append.mp member
  · exact one d here
  · exact other d there

theorem when {p : Prop} [Decidable p] {ds : List Diagnostic} (known : AllKnown ds) :
    AllKnown (if p then ds else []) := by
  split
  · exact known
  · exact nil

/-- A rule with at most one report. -/
theorem optional {p : Prop} [Decidable p] {d : Diagnostic} (known : Known d) :
    AllKnown (if p then none else some d).toList := by
  split
  · exact nil
  · exact one known

end AllKnown

theorem known_messageDiagnostics (c : Correlator) (msg : SipMsg) : AllKnown (c.messageDiagnostics msg) := by
  have contact : AllKnown (checkContact msg.tsUs msg.callId msg (peerIsPublic msg.flow)) := by
    unfold checkContact
    split
    · exact .nil
    · dsimp only
      split
      · exact .one (known_diag _ _ _ _ _)
      · exact .append (.when (.one (known_diag _ _ _ _ _))) (.when (.one (known_diag _ _ _ _ _)))
  have route : AllKnown (checkRecordRoute msg.tsUs msg.callId msg
      ((c.inviteRr.lookup msg.callId).getD false)) := .when (.one (known_diag _ _ _ _ _))
  have sdp : AllKnown (((sdpOf msg).map (checkSdp msg.tsUs msg.callId)).getD []) := by
    cases sdpOf msg with
    | none => exact .nil
    | some session => exact .when (.one (known_diag _ _ _ _ _))
  exact (contact.append route).append sdp

theorem known_checkPtChange (tsUs : UInt64) (callId : String) (ssrc : UInt32) (pt : UInt8)
    (prevPt : Option UInt8) : AllKnown (checkPtChange tsUs callId ssrc pt prevPt).toList := by
  cases prevPt with
  | none => exact .nil
  | some p => exact .optional (known_diag _ _ _ _ _)

theorem known_openDiagnostics (callId : String) (neg : Option NegotiatedMedia) (leg : Option Leg)
    (encap : Encap) (note : Bool) (ts : UInt64) (flow : Flow5Tuple) (header : RtpHeader) :
    AllKnown (openDiagnostics callId neg leg encap note ts flow header) := by
  unfold openDiagnostics
  dsimp only
  refine (AllKnown.append ?_ ?_).append ?_
  · split
    · exact .append (.optional (known_diag _ _ _ _ _)) (.optional (known_diag _ _ _ _ _))
    · exact .nil
  · split
    · exact .one (known_diag _ _ _ _ _)
    · exact .one (known_diag _ _ _ _ _)
    · exact .nil
  · split
    · exact .one (known_diag _ _ _ _ _)
    · exact .nil

theorem known_turn (turn : TurnTracker) (ts : UInt64) (flow : Flow5Tuple) (payload : Bytes) :
    AllKnown (turn.ingest ts flow payload).2.1 := by
  have noted : ∀ severity code message, AllKnown [TurnTracker.note ts severity code message] :=
    fun severity code message => .one (known_diag ts "" severity code message)
  have allocated : ∀ (turn : TurnTracker) client msg, AllKnown (turn.allocated ts client msg).2 := by
    intro turn client msg
    unfold TurnTracker.allocated
    split
    · exact .nil
    · exact noted _ _ _
  unfold TurnTracker.ingest
  dsimp only
  split
  · exact .nil
  · next msg _ =>
    generalize TurnTracker.serverSide _ _ _ = server
    split
    · split
      · exact .nil
      · exact allocated _ flow.dst msg
      · exact noted _ _ _
      · exact .nil
    · split
      · split
        · exact .nil
        · exact noted _ _ _
        · exact .nil
      · split
        · exact .nil
        · split <;> exact .nil

/-! ## Stores -/

/-- A cell with one more call. -/
theorem counted_record {version : Nat} {present : Option MetricSet} {metrics : CallMetrics}
    (before : ∀ cell, present = some cell → Counted version cell) :
    Counted (version + 1) (MetricSet.record (present.getD {}) metrics) := by
  cases present with
  | none => exact ⟨1, Nat.one_pos, Nat.le_add_left 1 version, rfl⟩
  | some cell =>
    obtain ⟨n, _, bound, calls⟩ := before cell rfl
    refine ⟨n + 1, Nat.succ_pos n, Nat.succ_le_succ bound, ?_⟩
    change cell.calls + 1 = UInt64.ofNat (n + 1)
    rw [calls, UInt64.ofNat_add]
    rfl

namespace Exportable

variable {reg : Registry}

theorem pushEvent (holds : Exportable reg) (line : String) : Exportable (reg.pushEvent line) := by
  unfold Registry.pushEvent
  generalize Registry.keepLast _ _ = lines
  exact of_stores (a := reg) rfl rfl rfl holds

theorem pushDiagnostic (holds : Exportable reg) {d : Diagnostic} (known : Known d) :
    Exportable (reg.pushDiagnostic d) where
  logged other member := by
    have listed := List.mem_of_mem_drop member
    obtain before | here := List.mem_append.mp listed
    · exact holds.logged other before
    · rwa [List.mem_singleton.mp here]
  keptLog := holds.keptLog
  cells := holds.cells
  keptCells := holds.keptCells

theorem updateCall (holds : Exportable reg) (id : String) (update : Call → Call) :
    Exportable (reg.updateCall id update) := holds.of_memo (staying_memo.updateCall reg id update)

theorem recordHeatmapCell (holds : Exportable reg) (metrics : CallMetrics) :
    Exportable (reg.recordHeatmapCell metrics) where
  logged := holds.logged
  keptLog := holds.keptLog
  cells bucket row key cell found held := by
    have newer : reg.heatVer ≤ reg.heatVer + 1 := Nat.le_succ _
    change (reg.heatmap.recordCall metrics).cells.lookup bucket = some row at found
    simp only [Heatmap.recordCall, FiniteMap.lookup_upsert] at found
    split at found
    · obtain rfl := Option.some.inj found
      rw [FiniteMap.lookup_upsert] at held
      split at held
      · obtain rfl := Option.some.inj held
        exact counted_record fun before present => by
          cases there : reg.heatmap.cells.lookup (reg.heatmap.bucketOf metrics.tsUs) with
          | none =>
            rw [there] at present
            cases present
          | some row =>
            rw [there] at present
            exact holds.cells _ row metrics.key before there present
      · cases there : reg.heatmap.cells.lookup (reg.heatmap.bucketOf metrics.tsUs) with
        | none =>
          rw [there] at held
          cases held
        | some row =>
          rw [there] at held
          exact (holds.cells _ row key cell there held).later newer
    · exact (holds.cells bucket row key cell found held).later newer
  keptCells entry held b member := (holds.keptCells entry held b member).later (Nat.le_succ _)

theorem pruneHeatmap (holds : Exportable reg) : Exportable reg.pruneHeatmap := by
  unfold Registry.pruneHeatmap
  split
  · refine ⟨holds.logged, holds.keptLog, ?_, holds.keptCells⟩
    intro bucket row key cell found
    change AList.lookup bucket (FiniteMap.retain _ _) = some row at found
    rw [FiniteMap.lookup_retain, Option.filter_eq_some_iff] at found
    exact holds.cells bucket row key cell found.1
  · exact holds

theorem setSearchHint (holds : Exportable reg) (iter : Iteration) (q : Option String) :
    Exportable (reg.setSearchHint iter q) := by
  unfold Registry.setSearchHint
  dsimp only
  split
  · exact holds
  · generalize Option.filter _ _ = hint
    unfold Registry.refreshSearchMatches
    split <;> exact of_stores (a := reg) rfl rfl rfl holds

theorem importStreamSnap (holds : Exportable reg) (tsUs : UInt64) (s : StreamSummary) :
    Exportable (reg.importStreamSnap tsUs s) := by
  have added : ∀ reg : Registry, Exportable reg → Exportable (reg.addImportedStream s) := by
    intro reg holds
    unfold Registry.addImportedStream
    dsimp only
    split
    · exact of_stores (a := reg) rfl rfl rfl holds
    · split
      · exact holds
      · exact of_stores (a := reg) rfl rfl rfl holds
  have timed : Exportable (if reg.lastUs.getD 0 < tsUs then { reg with lastUs := some tsUs } else reg) := by
    split
    · exact of_stores (a := reg) rfl rfl rfl holds
    · exact holds
  have imported := added _ timed
  unfold Registry.importStreamSnap
  dsimp only
  split
  · exact of_stores (a := Registry.addImportedStream _ s) rfl rfl rfl imported
  · exact imported

/-! ### Snapshots -/

theorem listed (holds : Exportable reg) (iter : Iteration) :
    ∀ b ∈ reg.heatmap.flat iter, Counted reg.heatVer b.2.2 := by
  intro b member
  rw [Heatmap.flat, List.mem_insertionSort, List.mem_flatMap] at member
  obtain ⟨row, there, member⟩ := member
  obtain ⟨cell, held, rfl⟩ := List.mem_map.mp member
  rw [iter.mem_order] at there held
  exact holds.cells row.1 row.2 cell.1 cell.2 ((FiniteMap.mem_toList _ _ _).mp there)
    ((FiniteMap.mem_toList _ _ _).mp held)

/-- What is served and what is cached for the next time. -/
theorem served (holds : Exportable reg) (iter : Iteration) (limit streamLimit : Nat) :
    ((∀ d ∈ (reg.snapshotWith iter limit streamLimit).1.diagnostics, Known d) ∧
      ∀ b ∈ (reg.snapshotWith iter limit streamLimit).1.buckets, Counted reg.heatVer b.2.2) ∧
      Exportable (reg.snapshotWith iter limit streamLimit).2 := by
  have log := read_or_cached id (diagnostics reg) (P := fun ds => ∀ d ∈ ds, Known d) holds.logged
    holds.keptLog
  have cells := read_or_cached (Heatmap.flat iter) (heatmap reg)
    (P := fun bs => ∀ b ∈ bs, Counted reg.heatVer b.2.2) (holds.listed iter) holds.keptCells
  rw [snapshot_diagnostics, snapshot_buckets, snapshot_registry]
  exact ⟨⟨log.1, cells.1⟩, ⟨holds.logged, log.2, holds.cells, cells.2⟩⟩

end Exportable

/-! ## Steps -/

section Steps

variable {c : Correlator}

theorem exportable_addDiagnostic (holds : Exportable c.reg) {d : Diagnostic} (known : Known d) :
    Exportable (c.addDiagnostic d).reg := by
  unfold addDiagnostic
  split
  · exact holds
  · have counted := (holds.updateCall d.callId (countDiagnostic d.severity)).pushEvent
    exact (counted _).pushDiagnostic known

theorem exportable_addDiagnostics {ds : List Diagnostic} (holds : Exportable c.reg) (known : AllKnown ds) :
    Exportable (c.addDiagnostics ds).reg := by
  induction ds generalizing c with
  | nil => exact holds
  | cons d rest ih =>
    have first := exportable_addDiagnostic holds (known d List.mem_cons_self)
    exact ih first fun d member => known d (List.mem_cons_of_mem _ member)

theorem exportable_teardownChecks (holds : Exportable c.reg) (id : String) :
    Exportable (c.teardownChecks id).reg := by
  have oneway : Exportable (c.checkOnewayAtTeardown id).reg := by
    unfold checkOnewayAtTeardown
    dsimp only
    split
    · split
      · exact holds
      · exact exportable_addDiagnostic holds (known_diag _ _ _ _ _)
    · exact holds
  have legs : Exportable ((c.checkOnewayAtTeardown id).checkTurnLegs id).reg := by
    generalize c.checkOnewayAtTeardown id = r at oneway ⊢
    unfold checkTurnLegs
    dsimp only
    split
    · split
      · exact exportable_addDiagnostic oneway (known_diag _ _ _ _ _)
      · exact oneway
    · exact oneway
  have heatmap : Exportable (((c.checkOnewayAtTeardown id).checkTurnLegs id).recordHeatmap id).reg := by
    generalize (c.checkOnewayAtTeardown id).checkTurnLegs id = r at legs ⊢
    unfold recordHeatmap
    split
    · split
      · exact legs.recordHeatmapCell _
      · exact legs
    · exact legs
  unfold teardownChecks
  generalize ((c.checkOnewayAtTeardown id).checkTurnLegs id).recordHeatmap id = r at heatmap ⊢
  unfold releaseActive
  split
  · exact .of_stores (a := r.reg) rfl rfl rfl heatmap
  · exact heatmap

theorem exportable_retireCall (holds : Exportable c.reg) (iter : Iteration) (id : String) :
    Exportable (c.retireCall iter id).reg := by
  have reported : ∀ call, Exportable (c.reportTeardown id call).reg := by
    intro call
    unfold reportTeardown
    dsimp only
    generalize logged : c.reg.pushEvent _ = reg
    have pushed : Exportable reg := by
      rw [← logged]
      exact holds.pushEvent _
    split <;> exact .of_stores (a := reg) rfl rfl rfl pushed
  unfold retireCall
  split
  · next call _ =>
    split
    · dsimp only
      split
      · exact (reported call).of_memo (staying_memo.evictIfNeeded iter _)
      · exact (reported call).of_memo (staying_memo.removeCalls _ [id])
    · exact holds
  · exact holds

theorem exportable_onCallTerminal (holds : Exportable c.reg) (iter : Iteration) (id : String) :
    Exportable (c.onCallTerminal iter id).reg := by
  have retired := exportable_retireCall (exportable_teardownChecks holds id) iter id
  unfold onCallTerminal
  generalize (c.teardownChecks id).retireCall iter id = r at retired ⊢
  exact .of_stores (a := r.reg) rfl rfl rfl retired

theorem exportable_ingestSip (holds : Exportable c.reg) (iter : Iteration) (msg : SipMsg) :
    Exportable (c.ingestSip iter msg).reg := by
  have heard : Exportable (received c msg).reg := by
    unfold received
    dsimp only
    generalize (sdpOf msg).map NegotiatedMedia.ofSession = learned
    have stored : memo (((c.observeSip msg).storeMessage msg learned).learnSdp msg.callId learned).reg =
        memo c.reg := by
      rw [staying_memo.learnSdp, staying_memo.storeMessage, staying_memo.observeSip]
    generalize ((c.observeSip msg).storeMessage msg learned).learnSdp msg.callId learned = r at stored ⊢
    have pushed : Exportable (r.pushEv (.sipMsg (sipMsgEvt msg))).reg := holds.of_memo stored
    exact exportable_addDiagnostics pushed (known_messageDiagnostics _ msg)
  rw [ingestSip_received]
  generalize received c msg = r at heard ⊢
  unfold latchTerminal
  split
  · exact exportable_onCallTerminal (c := { r with terminalDone := insert msg.callId r.terminalDone })
      heard iter msg.callId
  · exact heard

theorem exportable_ingestRtp (holds : Exportable c.reg) (ts : UInt64) (flow : Flow5Tuple)
    (header : RtpHeader) (len : Nat) (encap : Encap) :
    Exportable (c.ingestRtp ts flow header len encap).reg := by
  unfold ingestRtp
  dsimp only
  split
  · next stream _ =>
    unfold observeExistingRtp
    dsimp only
    refine exportable_addDiagnostics (holds.of_memo ?_) (known_checkPtChange _ _ _ _ _)
    exact (staying_memo.updateCall _ _ _).trans (staying_memo.updateStream c.reg _ _)
  · split
    · next id _ =>
      unfold openRtp
      dsimp only
      generalize opened : Registry.updateCall _ id (noteMedia flow _) = reg
      have listed : memo reg = memo c.reg := by
        rw [← opened, staying_memo.updateCall]
        exact staying_memo.tables c.reg _ _ _ _ _ _ _ _ _ _ _
      have reported := exportable_addDiagnostics (c := { c with reg }) (holds.of_memo listed)
        (known_openDiagnostics id ((c.reg.calls.lookup id).map Call.negotiated) (c.turn.legOf flow) encap
          (turnNoteDue ((c.reg.streams.lookup { flow, ssrc := header.ssrc }).getD (.new flow header.ssrc id))
            encap (c.turn.legOf flow)) ts flow header)
      refine reported.of_memo ?_
      rw [staying_memo.updateCall]
      split
      · exact staying_memo.updateStream _ _ _
      · rfl
    · exact holds

theorem exportable_ingestRtcpAll (holds : Exportable c.reg) (ts : UInt64) (flow : Flow5Tuple)
    (msgs : List RtcpMessage) : Exportable (c.ingestRtcpAll ts flow msgs).reg := by
  induction msgs generalizing c with
  | nil => exact holds
  | cons msg rest ih => exact ih (holds.of_memo (staying_memo.ingestRtcp c ts flow msg))

theorem exportable_flush (holds : Exportable c.reg) (iter : Iteration) (ts : UInt64) :
    Exportable (c.maybePeriodicFlush iter ts).reg := by
  by_cases due : tickerDue c.lastFlushUs ts flushPeriodUs = true
  · obtain ⟨cached, _, diags, map⟩ := flush_stores iter due
    exact holds.pruneHeatmap.of_stores cached diags map
  · exact holds.of_memo (flush_idle iter due)

theorem exportable_step (holds : Exportable c.reg) (input : Iteration × Op) :
    Exportable (c.step input).reg := by
  obtain ⟨iter, op⟩ := input
  cases op with
  | sip msg => exact exportable_ingestSip holds iter msg
  | rtp ts flow header len encap => exact exportable_ingestRtp holds ts flow header len encap
  | rtcp ts flow msg => exact holds.of_memo (staying_memo.ingestRtcp c ts flow msg)
  | terminal id => exact exportable_onCallTerminal holds iter id
  | flush ts => exact exportable_flush holds iter ts
  | clear => exact .blank rfl rfl rfl rfl
  | search q => exact holds.setSearchHint iter q
  | touchTime ts => exact .of_stores (a := c.reg) rfl rfl rfl holds
  | focus hint => exact .of_stores (a := c.reg) rfl rfl rfl holds
  | takeEvents => exact holds
  | disableEvlogEmit => exact holds
  | enableSessionStats => exact holds

/-! ### Packets -/

theorem exportable_dispatchMedia (holds : Exportable c.reg) (ts : UInt64) (flow : Flow5Tuple)
    (bytes : Bytes) (encap : Encap) : Exportable (c.dispatchMedia ts flow bytes encap).reg := by
  unfold dispatchMedia
  split
  · split
    · exact exportable_ingestRtp holds ts flow _ _ encap
    · exact holds
  · exact exportable_ingestRtcpAll holds ts flow _
  · exact holds

theorem exportable_handleTurn (holds : Exportable c.reg) (ts : UInt64) (flow : Flow5Tuple)
    (payload : Bytes) : Exportable (c.handleTurn ts flow payload).reg := by
  have dispatched : ∀ (media : List Bytes) (c : Correlator), Exportable c.reg →
      Exportable (media.foldl (fun c m => c.dispatchMedia ts flow m .sendIndication) c).reg := by
    intro media
    induction media with
    | nil => exact fun c holds => holds
    | cons m rest ih => exact fun c holds => ih _ (exportable_dispatchMedia holds ts flow m _)
  unfold handleTurn
  split
  · have noted := exportable_addDiagnostics (c := { c with turn := (c.turn.ingest ts flow payload).1 })
      holds (known_turn c.turn ts flow payload)
    exact dispatched _ _ noted
  · split
    · exact exportable_dispatchMedia holds ts flow _ _
    · exact holds

theorem exportable_handleUdp (holds : Exportable c.reg) (dec : Decoder) (iter : Iteration) (ts : UInt64)
    (flow : Flow5Tuple) (payload : Bytes) : Exportable (c.handleUdp dec iter ts flow payload).reg := by
  unfold handleUdp
  split
  · exact exportable_dispatchMedia holds ts flow payload _
  · split
    · split
      · exact exportable_ingestSip holds iter _
      · exact holds
    · split
      · exact holds
      · exact exportable_handleTurn holds ts flow payload

theorem exportable_ingestSegments (holds : Exportable c.reg) (dec : Decoder) (ts : UInt64)
    (flow : Flow5Tuple) (iters : Nat → Iteration) (msgs : List Bytes) :
    Exportable (ingestSegments dec ts flow iters c msgs).reg := by
  unfold ingestSegments
  generalize msgs.zipIdx = numbered
  induction numbered generalizing c with
  | nil => exact holds
  | cons msg rest ih =>
    apply ih
    dsimp only
    split
    · exact exportable_ingestSip holds _ _
    · exact holds

theorem exportable_ingestFrame (holds : Exportable c.reg) (dec : Decoder) (iters : Nat → Iteration)
    (fuel : Nat) (ts : UInt64) (decoded : Option (Flow5Tuple × L4)) :
    Exportable ((c.ingestFrame dec iters fuel ts decoded).getD c).reg := by
  have touched : Exportable (c.reg.touchTime ts) := .of_stores (a := c.reg) rfl rfl rfl holds
  unfold ingestFrame
  dsimp only
  split
  · exact touched
  · next flow payload =>
    exact exportable_handleUdp (c := { c with reg := c.reg.touchTime ts }) touched dec _ ts flow payload
  · next flow payload =>
    cases TcpReassembler.feed fuel c.tcpReasm flow payload ts with
    | none => exact holds
    | some result =>
      exact exportable_ingestSegments (c := { c with reg := c.reg.touchTime ts, tcpReasm := result.2 })
        touched dec ts flow iters result.1

end Steps

/-! ## Runs -/

theorem exportable_feed {c : Correlator} (holds : Exportable c.reg) (input : Feed) :
    Exportable (feed c input).reg := by
  cases input with
  | packet dec iters fuel ts decoded => exact exportable_ingestFrame holds dec iters fuel ts decoded
  | op input => exact exportable_step holds input
  | pushEvent line => exact holds.pushEvent line
  | restore e => exact (holds.updateCall _ _).pushDiagnostic (known_recorded e)
  | ensureStart tsUs => exact .of_stores (a := c.reg) rfl rfl rfl holds
  | importStreamSnap tsUs s => exact holds.importStreamSnap tsUs s
  | snapshot iter limit streamLimit => exact (holds.served iter limit streamLimit).2

theorem exportable_fed (iter : Iteration) (config : Config) (source : String) (feeds : List Feed) :
    Exportable (fed (.new iter config source) feeds).reg := by
  have start : Exportable (Correlator.new iter config source).reg := .blank rfl rfl rfl rfl
  generalize Correlator.new iter config source = c at start
  induction feeds generalizing c with
  | nil => exact start
  | cons input rest ih => exact ih _ (exportable_feed start input)

/-! ## Exports -/

/-- The version of the heatmap is a `u64`. -/
theorem Counted.ne_zero {version : Nat} {cell : MetricSet} (counted : Counted version cell)
    (fits : version < 2 ^ 64) : cell.calls ≠ 0 := by
  obtain ⟨n, some_call, bound, calls⟩ := counted
  intro zero
  have value : (UInt64.ofNat n).toNat = 0 := by rw [← calls, zero]; rfl
  rw [UInt64.toNat_ofNat_of_lt' (by exact lt_of_le_of_lt bound fits)] at value
  omega

theorem Exportable.restorable {reg : Registry} (holds : Exportable reg) (fits : reg.heatVer < 2 ^ 64)
    (iter : Iteration) : Restorable (exactSnapshot (reg.snapshotFull iter).1) := by
  obtain ⟨⟨log, cells⟩, _⟩ := holds.served iter usizeMax usizeMax
  constructor
  · have sorted := List.pairwise_insertionSort
      (fun a b : CallSummary => (b.inviteTs.getD 0).toNat ≤ (a.inviteTs.getD 0).toNat)
      (reg.displayed iter usizeMax)
    exact List.pairwise_map.mpr sorted
  · exact log
  · intro b member
    obtain ⟨bucket, shown, rfl⟩ := List.mem_map.mp member
    exact (cells bucket shown).ne_zero fits

/-- In every run, the file of a full snapshot that is imported and exported again
has the same lines. -/
theorem exported_again (iter : Iteration) (config : Config) (source : String) (feeds : List Feed)
    (fits : (fed (.new iter config source) feeds).reg.heatVer < 2 ^ 64) (pass : Iteration) :
    let lines := exportSnapshot
      (exactSnapshot ((fed (.new iter config source) feeds).reg.snapshotFull pass).1)
    exportSnapshot (importSnapshot lines) = lines :=
  exportSnapshot_again ((exportable_fed iter config source feeds).restorable fits pass)

/-- A call that was declined, with a restored diagnostic. -/
def declinedCall : List Feed :=
  [.op (.stored, .sip (sampleMsg 1 true (some .invite) none "INVITE" none)),
    .op (.stored, .sip (sampleMsg 2 false none (some 486) "INVITE" (some "b"))),
    .restore { tsUs := 3, callId := "c", severity := 2, code := "LATE", message := "" }]

theorem exported_again_declinedCall :
    (fed (.new .stored {} "eth0") declinedCall).reg.heatVer = 1 ∧
      let lines := exportSnapshot
        (exactSnapshot ((fed (.new .stored {} "eth0") declinedCall).reg.snapshotFull .stored).1)
      exportSnapshot (importSnapshot lines) = lines :=
  ⟨by decide +kernel, exported_again .stored {} "eth0" declinedCall (by decide +kernel) .stored⟩

end Sipmon.Guarantees.JsonlStable
