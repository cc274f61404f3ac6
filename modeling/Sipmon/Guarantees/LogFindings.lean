import Sipmon.Guarantees.ExportOnce
import Sipmon.Guarantees.JsonlStable
import Sipmon.Guarantees.Retelling

/-!
# What a log says of the diagnostics

The warnings and the critical diagnostics of each call, and the last diagnostics, are told
by the log of a session: its messages make the calls known and its diagnostics count for
them. Whatever the correlator does besides only takes calls away.
-/
namespace Sipmon.Guarantees.LogFindings
open Source Lib Correlator Stages CallTable CallRecords EventTimes FrameMoves ToldEvents Retelling
open Evlog (Event)
open JsonlStable (AllKnown)

/-! ## Findings -/

/-- The warnings and the critical ones of each call, the calls whose route is recorded, and
the last diagnostics. -/
structure Findings where
  counts : String → Option (Nat × Nat)
  routed : String → Option Bool
  ring : List Diagnostic

namespace Findings

def blank : Findings := { counts := fun _ => none, routed := fun _ => none, ring := [] }

def graded : Severity → Nat × Nat → Nat × Nat
  | .critical, n => (n.1, n.2 + 1)
  | .warn, n => (n.1 + 1, n.2)
  | .info, n => n

/-- A message makes its call known; an initial INVITE tells whether its route is recorded. -/
def hear (f : Findings) (msg : SipMsg) : Findings :=
  { f with
    counts := Function.update f.counts msg.callId (some ((f.counts msg.callId).getD (0, 0)))
    routed := if msg.isInitialInvite then
        Function.update f.routed msg.callId
          (some ((f.routed msg.callId).getD (decide (0 < msg.recordRouteCount))))
      else f.routed }

theorem counts_hear (f : Findings) (msg : SipMsg) (id : String) : (f.hear msg).counts id =
    if id = msg.callId then some ((f.counts msg.callId).getD (0, 0)) else f.counts id :=
  Function.update_apply _ _ _ id

theorem routed_hear (f : Findings) (msg : SipMsg) (id : String) : (f.hear msg).routed id =
    if msg.isInitialInvite = true ∧ id = msg.callId then
      some ((f.routed msg.callId).getD (decide (0 < msg.recordRouteCount)))
    else f.routed id := by
  unfold hear
  cases msg.isInitialInvite with
  | true => simp [Function.update_apply]
  | false => simp

/-- A diagnostic counts for its call, when that is known. -/
def file (room : Nat) (f : Findings) (d : Diagnostic) : Findings :=
  { f with
    counts := Function.update f.counts d.callId ((f.counts d.callId).map (graded d.severity))
    ring := Registry.keepLast room (f.ring ++ [d]) }

theorem counts_file (room : Nat) (f : Findings) (d : Diagnostic) (id : String) :
    ((f.file room d).counts id).isSome = (f.counts id).isSome := by
  unfold file
  dsimp only
  rw [Function.update_apply]
  split
  · next own => rw [Option.isSome_map, own]
  · rfl

/-- One event of a log. -/
def note (parse : SipParser) (room : Nat) (f : Findings) : Event → Findings
  | .sipMsg e => f.hear (evtToSipmsg parse e)
  | .diag e => f.file room (recordedDiagnostic e)
  | _ => f

/-- The diagnostics a message raises. -/
def raised (f : Findings) (msg : SipMsg) : List Diagnostic :=
  checkContact msg.tsUs msg.callId msg (peerIsPublic msg.flow) ++
    checkRecordRoute msg.tsUs msg.callId msg (((f.hear msg).routed msg.callId).getD false) ++
    ((sdpOf msg).map (checkSdp msg.tsUs msg.callId)).getD []

end Findings

open Findings (blank note raised)

/-- What a log says is what the correlator has, as far as it still has the calls. -/
structure Agrees (room : Nat) (f : Findings) (c : Correlator) : Prop where
  counts : Each (fun id call => f.counts id = some (call.warnCount, call.criticalCount)) c.reg
  routed : Each (fun id _ => c.inviteRr.lookup id = f.routed id) c.reg
  unheard : ∀ id, f.counts id = none → f.routed id = none ∧ c.inviteRr.lookup id = none
  ring : c.reg.diagnostics = f.ring
  room : c.reg.maxDiagnostics = room

/-! ## What leaves the findings alone -/

/-- Calls may leave; those that stay keep their counts. -/
structure Calm (reg after : Registry) : Prop where
  calls : ∀ id call, after.calls.lookup id = some call → ∃ was, reg.calls.lookup id = some was ∧
    was.warnCount = call.warnCount ∧ was.criticalCount = call.criticalCount
  ring : after.diagnostics = reg.diagnostics
  room : after.maxDiagnostics = reg.maxDiagnostics

variable {reg mid after : Registry}

theorem calm_of_same (calls : after.calls = reg.calls) (ring : after.diagnostics = reg.diagnostics)
    (room : after.maxDiagnostics = reg.maxDiagnostics) : Calm reg after where
  calls id call found := ⟨call, by rwa [calls] at found, rfl, rfl⟩
  ring := ring
  room := room

theorem Calm.refl (reg : Registry) : Calm reg reg := calm_of_same rfl rfl rfl

theorem Calm.trans (first : Calm reg mid) (second : Calm mid after) : Calm reg after where
  calls id call found := by
    obtain ⟨was, listed, warns, criticals⟩ := second.calls id call found
    obtain ⟨once, known, warned, critical⟩ := first.calls id was listed
    exact ⟨once, known, warned.trans warns, critical.trans criticals⟩
  ring := second.ring.trans first.ring
  room := second.room.trans first.room

theorem Calm.foldl {α : Type} {op : Registry → α → Registry} (each : ∀ reg a, Calm reg (op reg a)) (l : List α)
    (reg : Registry) : Calm reg (l.foldl op reg) := by
  induction l generalizing reg with
  | nil => exact .refl reg
  | cons a rest ih => exact (each reg a).trans (ih (op reg a))

theorem calm_updateCall (reg : Registry) (id : String) {update : Call → Call}
    (warns : ∀ call, (update call).warnCount = call.warnCount)
    (criticals : ∀ call, (update call).criticalCount = call.criticalCount) : Calm reg (reg.updateCall id update) where
  calls a call found := by
    rw [Registry.updateCall, FiniteMap.lookup_modify] at found
    split at found
    · obtain ⟨was, listed, rfl⟩ := Option.map_eq_some_iff.mp found
      exact ⟨was, listed, (warns was).symm, (criticals was).symm⟩
    · exact ⟨call, found, rfl, rfl⟩
  ring := rfl
  room := rfl

theorem calm_erase (reg : Registry) (id : String) : Calm reg { reg with calls := reg.calls.erase id } where
  calls a call found := by
    rw [FiniteMap.lookup_erase_iff] at found
    split at found
    · cases found
    · exact ⟨call, found, rfl, rfl⟩
  ring := rfl
  room := rfl

theorem calm_pushEvent (reg : Registry) (line : String) : Calm reg (reg.pushEvent line) := by
  apply calm_of_same <;> simp only [Registry.pushEvent]

theorem calm_flushStreamIpattr (reg : Registry) (key : StreamKey) : Calm reg (reg.flushStreamIpattr key) := by
  unfold Registry.flushStreamIpattr
  split
  · exact calm_of_same rfl rfl rfl
  · exact .refl reg

theorem calm_dropCall (reg : Registry) (id : String) : Calm reg (reg.dropCall id) := by
  have dropped : ∀ (reg : Registry) (key : StreamKey), Calm reg (reg.dropStream key) := fun reg key =>
    (calm_flushStreamIpattr reg key).trans (calm_of_same rfl rfl rfl)
  have noted : Calm { reg with calls := reg.calls.erase id }
      { reg with
        calls := reg.calls.erase id, removed := reg.removed ++ [id]
        streamIndex := reg.streamIndex.erase id } := calm_of_same rfl rfl rfl
  exact ((calm_erase reg id).trans noted).trans (Calm.foldl dropped (reg.callStreamKeys id) _)

theorem calm_removeCalls (reg : Registry) (ids : List String) : Calm reg (reg.removeCalls ids) :=
  (Calm.foldl calm_dropCall ids reg).trans (calm_of_same rfl rfl rfl)

theorem calm_evictIfNeeded (iter : Iteration) (reg : Registry) : Calm reg (reg.evictIfNeeded iter) := by
  have streams : ∀ (keys : List StreamKey) (reg : Registry), Calm reg (keys.foldl Registry.evictStream reg) :=
    Calm.foldl fun reg key => calm_of_same rfl rfl rfl
  have capped : Calm reg (if reg.maxCalls < reg.calls.size then reg.removeCalls reg.excessCalls else reg) := by
    split
    · exact calm_removeCalls reg _
    · exact .refl reg
  unfold Registry.evictIfNeeded
  dsimp only
  generalize (if reg.maxCalls < reg.calls.size then _ else _) = fewer at capped ⊢
  split
  · exact capped.trans (streams _ fewer)
  · exact capped

theorem calm_evictStale (iter : Iteration) (reg : Registry) (ttlSecs nowUs : UInt64) :
    Calm reg (reg.evictStale iter ttlSecs nowUs) := by
  unfold Registry.evictStale
  split
  · exact .refl reg
  · exact calm_removeCalls reg _

theorem calm_refreshSearchMatches (iter : Iteration) (reg : Registry) :
    Calm reg (reg.refreshSearchMatches iter) := by
  unfold Registry.refreshSearchMatches
  split <;> exact calm_of_same rfl rfl rfl

theorem calm_setSearchHint (iter : Iteration) (reg : Registry) (q : Option String) :
    Calm reg (reg.setSearchHint iter q) := by
  unfold Registry.setSearchHint
  dsimp only
  generalize Option.filter _ _ = searchHint
  have hinted : Calm reg { reg with searchHint } := calm_of_same rfl rfl rfl
  split
  · exact .refl reg
  · exact hinted.trans (calm_refreshSearchMatches iter _)

/-- Calm in the registry, and no call that stays loses the mark of its route. -/
structure Still (c after : Correlator) : Prop where
  least : after.minSeverity = c.minSeverity
  reg : Calm c.reg after.reg
  routed : ∀ id, after.inviteRr.lookup id = c.inviteRr.lookup id ∨
    after.inviteRr.lookup id = none ∧ after.reg.calls.lookup id = none

variable {room : Nat} {f : Findings} {c next last : Correlator}

theorem Still.of_reg (calm : Calm c.reg next.reg) (routed : next.inviteRr = c.inviteRr)
    (least : next.minSeverity = c.minSeverity) : Still c next where
  least := least
  reg := calm
  routed id := .inl (by rw [routed])

theorem Still.refl (c : Correlator) : Still c c := .of_reg (.refl c.reg) rfl rfl

theorem Still.trans (first : Still c next) (second : Still next last) : Still c last where
  least := second.least.trans first.least
  reg := first.reg.trans second.reg
  routed id := by
    rcases second.routed id with same | gone
    · rcases first.routed id with before | ⟨unmarked, left⟩
      · exact .inl (same.trans before)
      · refine .inr ⟨same.trans unmarked, ?_⟩
        cases found : last.reg.calls.lookup id with
        | none => rfl
        | some call =>
          obtain ⟨was, listed, -⟩ := second.reg.calls id call found
          rw [left] at listed
          cases listed
    · exact .inr gone

theorem Still.foldl {α : Type} {op : Correlator → α → Correlator} (each : ∀ c a, Still c (op c a)) (l : List α)
    (c : Correlator) : Still c (l.foldl op c) := by
  induction l generalizing c with
  | nil => exact .refl c
  | cons a rest ih => exact (each c a).trans (ih (op c a))

theorem Agrees.still (agrees : Agrees room f c) (still : Still c next) : Agrees room f next where
  counts id call found := by
    obtain ⟨was, listed, warns, criticals⟩ := still.reg.calls id call found
    rw [agrees.counts id was listed, warns, criticals]
  routed id call found := by
    obtain ⟨was, listed, -⟩ := still.reg.calls id call found
    rcases still.routed id with same | ⟨-, left⟩
    · exact same.trans (agrees.routed id was listed)
    · rw [left] at found
      cases found
  unheard id new := by
    obtain ⟨unrouted, unmarked⟩ := agrees.unheard id new
    refine ⟨unrouted, ?_⟩
    rcases still.routed id with same | ⟨none_left, -⟩
    · exact same.trans unmarked
    · exact none_left
  ring := still.reg.ring.trans agrees.ring
  room := still.reg.room.trans agrees.room

/-! ## What a live run adds to its log -/

/-- What is reported between the two says what has changed; no message is among it. -/
def Tracks (room : Nat) (c after : Correlator) : Prop :=
  ∃ evs, Logs c after evs ∧ (∀ ev ∈ evs, messageId ev = none) ∧
    ∀ parse f, Agrees room f c → Agrees room (evs.foldl (note parse room) f) after

theorem Still.tracks (still : Still c next) (pending : next.pendingEvents = c.pendingEvents)
    (session : next.sessionStats = c.sessionStats) (emit : next.emitEvlog = c.emitEvlog) : Tracks room c next :=
  ⟨[], .silent pending session emit, by simp, fun _ _ agrees => agrees.still still⟩

theorem still_reg (c : Correlator) (calm : Calm c.reg reg) : Still c { c with reg } := .of_reg calm rfl rfl

theorem tracks_reg (c : Correlator) (calm : Calm c.reg reg) : Tracks room c { c with reg } :=
  (still_reg c calm).tracks rfl rfl rfl

/-- The clocks, the trackers and the latch of the ends matter to none of it. -/
theorem tracks_aside (calm : Calm c.reg next.reg) (routed : next.inviteRr = c.inviteRr)
    (pending : next.pendingEvents = c.pendingEvents) (session : next.sessionStats = c.sessionStats)
    (emit : next.emitEvlog = c.emitEvlog) (least : next.minSeverity = c.minSeverity) : Tracks room c next :=
  (Still.of_reg calm routed least).tracks pending session emit

theorem Tracks.refl (c : Correlator) : Tracks room c c := tracks_reg c (.refl c.reg)

theorem Tracks.trans (first : Tracks room c next) (second : Tracks room next last) : Tracks room c last := by
  obtain ⟨early, logs, quiet, agrees⟩ := first
  obtain ⟨late, later, still_quiet, agrees_later⟩ := second
  refine ⟨early ++ late, logs.append later, fun ev member => ?_, fun parse f before => ?_⟩
  · rcases List.mem_append.mp member with inside | inside
    · exact quiet ev inside
    · exact still_quiet ev inside
  · rw [List.foldl_append]
    exact agrees_later parse _ (agrees parse f before)

theorem Tracks.foldl {α : Type} {op : Correlator → α → Correlator} (each : ∀ c a, Tracks room c (op c a))
    (l : List α) (c : Correlator) : Tracks room c (l.foldl op c) := by
  induction l generalizing c with
  | nil => exact .refl c
  | cons a rest ih => exact (each c a).trans (ih (op c a))

/-- An event that is neither a message nor a diagnostic. -/
def plain : Event → Bool
  | .sipMsg _ | .diag _ => false
  | _ => true

theorem tracks_pushEv (c : Correlator) {ev : Event} (other : plain ev = true) : Tracks room c (c.pushEv ev) := by
  have still : Still c (c.pushEv ev) := .of_reg (.refl c.reg) rfl rfl
  refine ⟨[ev], ⟨rfl, rfl, rfl⟩, ?_, fun parse f agrees => ?_⟩
  · cases ev <;> simp_all [plain, messageId]
  · have unsaid : note parse room f ev = f := by cases ev <;> simp_all [plain, note]
    simpa [unsaid] using agrees.still still

/-- A diagnostic of the rules is read back from its record as it was. -/
theorem recorded_known {d : Diagnostic} (known : JsonlStable.Known d) :
    recordedDiagnostic { tsUs := d.tsUs, callId := d.callId, severity := severityCode d.severity, code := d.code
                         message := d.message } = d := by
  have graded : severityOf (severityCode d.severity) = d.severity := by cases d.severity <;> rfl
  rw [recordedDiagnostic, graded, known]

/-- A diagnostic is counted for its call and kept. -/
theorem Agrees.file (agrees : Agrees room f c) {d : Diagnostic} {reg : Registry}
    (counted : reg.calls = c.reg.calls.modify d.callId (countDiagnostic d.severity))
    (kept : reg.diagnostics = Registry.keepLast c.reg.maxDiagnostics (c.reg.diagnostics ++ [d]))
    (same : reg.maxDiagnostics = c.reg.maxDiagnostics) : Agrees room (f.file room d) { c with reg } where
  counts id call found := by
    rw [counted, FiniteMap.lookup_modify] at found
    unfold Findings.file
    dsimp only
    by_cases own : id = d.callId
    · subst own
      rw [if_pos rfl] at found
      obtain ⟨was, listed, rfl⟩ := Option.map_eq_some_iff.mp found
      rw [Function.update_self, agrees.counts d.callId was listed]
      cases d.severity <;> rfl
    · rw [if_neg own] at found
      rw [Function.update_of_ne own]
      exact agrees.counts id call found
  routed id call found := by
    rw [counted, FiniteMap.lookup_modify] at found
    split at found
    · obtain ⟨was, listed, rfl⟩ := Option.map_eq_some_iff.mp found
      exact agrees.routed id was listed
    · exact agrees.routed id call found
  unheard id new := by
    apply agrees.unheard id
    unfold Findings.file at new
    dsimp only at new
    by_cases own : id = d.callId
    · rw [own, Function.update_self, Option.map_eq_none_iff] at new
      rw [own]
      exact new
    · rwa [Function.update_of_ne own] at new
  ring := by
    rw [Findings.file, ← agrees.ring, ← agrees.room]
    exact kept
  room := same.trans agrees.room

theorem tracks_addDiagnostic (c : Correlator) {d : Diagnostic} (known : JsonlStable.Known d) :
    Tracks room c (c.addDiagnostic d) := by
  unfold addDiagnostic
  split
  · exact .refl c
  · refine ⟨[.diag _], ⟨rfl, rfl, rfl⟩, by simp [messageId], fun parse f agrees => ?_⟩
    have pushed : Agrees room f (c.pushEv (.diag
        { tsUs := d.tsUs, callId := d.callId, severity := severityCode d.severity
          code := d.code, message := d.message })) := agrees.still (.of_reg (.refl c.reg) rfl rfl)
    have filed : note parse room f (.diag
        { tsUs := d.tsUs, callId := d.callId, severity := severityCode d.severity
          code := d.code, message := d.message }) = f.file room d := by rw [note, recorded_known known]
    rw [List.foldl_cons, filed, List.foldl_nil]
    exact pushed.file (by simp only [Registry.pushDiagnostic, Registry.pushEvent, Registry.updateCall])
      (by simp only [Registry.pushDiagnostic, Registry.pushEvent, Registry.updateCall])
      (by simp only [Registry.pushDiagnostic, Registry.pushEvent, Registry.updateCall])

theorem tracks_addDiagnostics {ds : List Diagnostic} (known : AllKnown ds) (c : Correlator) :
    Tracks room c (c.addDiagnostics ds) := by
  induction ds generalizing c with
  | nil => exact .refl c
  | cons d rest ih =>
    have first : Tracks room c (c.addDiagnostic d) := tracks_addDiagnostic c (known d List.mem_cons_self)
    exact first.trans (ih (fun d member => known d (List.mem_cons_of_mem _ member)) (c.addDiagnostic d))

theorem tracks_teardownChecks (c : Correlator) (id : String) : Tracks room c (c.teardownChecks id) := by
  have oneway : Tracks room c (c.checkOnewayAtTeardown id) := by
    unfold checkOnewayAtTeardown
    dsimp only
    split
    · split
      · exact .refl c
      · exact tracks_addDiagnostic c (JsonlStable.known_diag _ _ _ _ _)
    · exact .refl c
  have legs : ∀ c : Correlator, Tracks room c (c.checkTurnLegs id) := by
    intro c
    unfold checkTurnLegs
    dsimp only
    split
    · split
      · exact tracks_addDiagnostic c (JsonlStable.known_diag _ _ _ _ _)
      · exact .refl c
    · exact .refl c
  have cell : ∀ c : Correlator, Tracks room c (c.recordHeatmap id) := by
    intro c
    unfold recordHeatmap
    split
    · split
      · exact tracks_reg c (calm_of_same rfl rfl rfl)
      · exact .refl c
    · exact .refl c
  have released : ∀ c : Correlator, Tracks room c (c.releaseActive id) := by
    intro c
    unfold releaseActive
    split
    · exact tracks_reg c (calm_of_same rfl rfl rfl)
    · exact .refl c
  exact ((oneway.trans (legs _)).trans (cell _)).trans (released _)

/-- Draining the calls that have left takes the marks of their routes. -/
theorem still_drained {ids : List String} (drained : c.reg.removed = [])
    (left : board reg = leave ids (board c.reg)) (calm : Calm c.reg reg) :
    Still c ({ c with reg } : Correlator).pruneRemovedBookkeeping where
  least := rfl
  reg := calm.trans (calm_of_same rfl rfl rfl)
  routed id := by
    have removed : reg.removed = ids := by
      have all := congrArg (fun b => b.2.1) left
      rw [board, leave, board, drained] at all
      exact all
    have marks : (({ c with reg } : Correlator).pruneRemovedBookkeeping).inviteRr.lookup id =
        if id ∈ ids then none else c.inviteRr.lookup id := by
      rw [← removed]
      exact FiniteMap.lookup_eraseAll reg.removed c.inviteRr id
    by_cases gone : id ∈ ids
    · rw [if_pos gone] at marks
      have none_left : calls reg id = none := (congrFun (congrArg Prod.fst left) id).trans (if_pos gone)
      exact .inr ⟨marks, Option.map_eq_none_iff.mp none_left⟩
    · rw [if_neg gone] at marks
      exact .inl marks

theorem still_undrained (drained : c.reg.removed = []) : Still c c.pruneRemovedBookkeeping :=
  still_drained drained (leave_nil (board c.reg)).symm (.refl c.reg)

theorem tracks_reportTeardown (c : Correlator) (id : String) (call : Call) :
    Tracks room c (c.reportTeardown id call) := by
  have reported : ∀ c : Correlator, Tracks room c (c.pushEv (.call (teardownEvt id call c.reg.lastUs))) := fun c =>
    tracks_pushEv c rfl
  unfold reportTeardown
  dsimp only
  generalize logged : c.reg.pushEvent _ = reg
  have line : Tracks room c { c with reg } := tracks_reg c (logged ▸ calm_pushEvent c.reg _)
  have counted := line.trans (reported { c with reg })
  split
  · exact counted.trans (tracks_reg _ (calm_of_same rfl rfl rfl))
  · exact counted.trans (tracks_reg _ (calm_of_same rfl rfl rfl))

/-- A reported call leaves, or calls beyond the cap do. -/
theorem still_retired (iter : Iteration) (drained : c.reg.removed = []) (id : String) :
    Still c ({ c with
      reg := (if c.keepTerminated then c.reg.evictIfNeeded iter
        else c.reg.removeCall id) } : Correlator).pruneRemovedBookkeeping := by
  split
  · exact still_drained drained (board_evictIfNeeded iter c.reg) (calm_evictIfNeeded iter c.reg)
  · exact still_drained drained (board_removeCalls c.reg [id]) (calm_removeCalls c.reg [id])

theorem removed_reportTeardown (drained : c.reg.removed = []) (id : String) (call : Call) :
    (c.reportTeardown id call).reg.removed = [] :=
  (congrArg Table.removed (table_reportTeardown c id call)).trans drained

theorem tracks_retireCall (iter : Iteration) (drained : c.reg.removed = []) (id : String) :
    Tracks room c (c.retireCall iter id).pruneRemovedBookkeeping := by
  unfold retireCall
  split
  · next call _ =>
    split
    · have reported : Tracks room c (c.reportTeardown id call) := tracks_reportTeardown c id call
      have removed := removed_reportTeardown drained id call
      dsimp only
      generalize c.reportTeardown id call = r at reported removed ⊢
      exact reported.trans ((still_retired iter removed id).tracks rfl rfl rfl)
    · exact (still_undrained drained).tracks rfl rfl rfl
  · exact (still_undrained drained).tracks rfl rfl rfl

theorem tracks_onCallTerminal (iter : Iteration) (drained : c.reg.removed = []) (id : String) :
    Tracks room c (c.onCallTerminal iter id) := by
  have removed : (c.teardownChecks id).reg.removed = [] :=
    (congrArg Table.removed (blind_table.teardownChecks c id)).trans drained
  exact (tracks_teardownChecks c id).trans (tracks_retireCall iter removed id)

theorem tracks_latchTerminal (iter : Iteration) (drained : c.reg.removed = []) (id : String) :
    Tracks room c (c.latchTerminal iter id) := by
  unfold latchTerminal
  split
  · have latched : Tracks room c { c with terminalDone := insert id c.terminalDone } :=
      tracks_aside (.refl c.reg) rfl rfl rfl rfl rfl
    have removed : ({ c with terminalDone := insert id c.terminalDone } : Correlator).reg.removed = [] := drained
    exact latched.trans (tracks_onCallTerminal iter removed id)
  · exact .refl c

/-! ## A message -/

/-- The state in which a message is about to be reported. -/
def told (c : Correlator) (msg : SipMsg) : Correlator :=
  ((c.observeSip msg).storeMessage msg ((sdpOf msg).map NegotiatedMedia.ofSession)).learnSdp msg.callId
    ((sdpOf msg).map NegotiatedMedia.ofSession)

/-- The call of the message is tracked, or nothing has been heard of it. -/
def Placed (f : Findings) (c : Correlator) (id : String) : Prop := id ∈ c.reg.calls ∨ f.counts id = none

theorem Agrees.marked (agrees : Agrees room f c) {id : String} (placed : Placed f c id) :
    c.inviteRr.lookup id = f.routed id := by
  rcases placed with tracked | new
  · obtain ⟨call, found⟩ := Option.isSome_iff_exists.mp (AList.lookup_isSome.mpr tracked)
    exact agrees.routed id call found
  · obtain ⟨unrouted, unmarked⟩ := agrees.unheard id new
    rw [unrouted, unmarked]

theorem routed_observeSip (c : Correlator) (msg : SipMsg) (id : String) :
    (c.observeSip msg).inviteRr.lookup id =
      if msg.isInitialInvite = true ∧ id = msg.callId then
        some ((c.inviteRr.lookup msg.callId).getD (decide (0 < msg.recordRouteCount)))
      else c.inviteRr.lookup id := by
  unfold observeSip
  dsimp only
  split
  · next initial =>
    dsimp only
    rw [FiniteMap.lookup_upsert]
    by_cases own : id = msg.callId
    · rw [if_pos own, if_pos ⟨initial, own⟩]
    · rw [if_neg own, if_neg fun both => own both.2]
  · next later => exact (if_neg fun both => later both.1).symm

theorem still_learnSdp (c : Correlator) (id : String) (learned : Option NegotiatedMedia) :
    Still c (c.learnSdp id learned) := by
  have clocked : ∀ c : Correlator, Still c (c.applySdpClocks id) := by
    intro c
    unfold applySdpClocks
    split
    · next call _ =>
      have each : ∀ (reg : Registry) key, Calm reg (reg.updateStream key (reclock call.negotiated)) :=
        fun _ _ => calm_of_same rfl rfl rfl
      exact still_reg c (Calm.foldl each _ c.reg)
    · exact .refl c
  cases learned with
  | none => exact .refl c
  | some n =>
    have listed : ∀ endpointCall, Still c { c with reg := { c.reg with endpointCall } } := fun _ =>
      still_reg c (calm_of_same rfl rfl rfl)
    exact (listed _).trans (clocked _)

/-- Signaling does not count diagnostics. -/
theorem counts_applySip (call : Call) (msg : SipMsg) : (call.applySip msg).warnCount = call.warnCount ∧
    (call.applySip msg).criticalCount = call.criticalCount := by
  have prelude : ((call.touch msg).identify msg).warnCount = call.warnCount ∧
      ((call.touch msg).identify msg).criticalCount = call.criticalCount := by
    dsimp only [Call.identify, Call.touch]
    repeat' split
    all_goals exact ⟨rfl, rfl⟩
  unfold Call.applySip
  dsimp only
  generalize (call.touch msg).identify msg = known at prelude ⊢
  split
  · exact prelude
  · split
    · dsimp only [Call.onRequest, Call.onBye]
      repeat' split
      all_goals exact prelude
    · split
      · dsimp only [Call.onResponse, Call.onProvisional, Call.onSuccess, Call.onFailure]
        repeat' split
        all_goals exact prelude
      · exact prelude

theorem counts_receive (msg : SipMsg) (learned : Option NegotiatedMedia) (call : Call) :
    (receive msg learned call).warnCount = call.warnCount ∧
      (receive msg learned call).criticalCount = call.criticalCount := by
  have heard := counts_applySip call msg
  unfold receive
  cases learned <;> exact heard

theorem observeSip_calls (c : Correlator) (msg : SipMsg) : (c.observeSip msg).reg.calls = c.reg.calls ∧
    (c.observeSip msg).reg.diagnostics = c.reg.diagnostics ∧
    (c.observeSip msg).reg.maxDiagnostics = c.reg.maxDiagnostics := by
  unfold observeSip
  dsimp only
  split <;> exact ⟨rfl, rfl, rfl⟩

/-- The call of a message is new without diagnostics, or keeps those it has. -/
theorem Agrees.counts_stored (agrees : Agrees room f c) {msg : SipMsg} (placed : Placed f c msg.callId)
    {learned : Option NegotiatedMedia} {id : String} {call : Call}
    (found : ((c.observeSip msg).storeMessage msg learned).reg.calls.lookup id = some call) :
    (f.hear msg).counts id = some (call.warnCount, call.criticalCount) := by
  rw [lookup_storeMessage, (observeSip_calls c msg).1] at found
  rw [Findings.counts_hear]
  split at found
  · next own =>
    obtain rfl := Option.some.inj found
    rw [if_pos own, (counts_receive _ _ _).1, (counts_receive _ _ _).2]
    cases tracked : c.reg.calls.lookup msg.callId with
    | some was => simp [agrees.counts msg.callId was tracked]
    | none =>
      have new : f.counts msg.callId = none :=
        placed.resolve_left fun present => by simp [← AList.lookup_isSome, tracked] at present
      rw [new]
      rfl
  · next other =>
    rw [if_neg other]
    exact agrees.counts id call found

theorem Agrees.marks_stored (agrees : Agrees room f c) {msg : SipMsg} (placed : Placed f c msg.callId)
    (learned : Option NegotiatedMedia) (id : String) :
    ((c.observeSip msg).storeMessage msg learned).inviteRr.lookup id =
      if msg.isInitialInvite = true ∧ id = msg.callId then
        some ((f.routed msg.callId).getD (decide (0 < msg.recordRouteCount)))
      else c.inviteRr.lookup id := by
  rw [← agrees.marked placed]
  exact routed_observeSip c msg id

/-- A message is heard. -/
theorem Agrees.hear (agrees : Agrees room f c) {msg : SipMsg} (placed : Placed f c msg.callId) :
    Agrees room (f.hear msg) (told c msg) := by
  have created : ∀ reg : Registry, (reg.getOrCreateCall msg.callId).diagnostics = reg.diagnostics ∧
      (reg.getOrCreateCall msg.callId).maxDiagnostics = reg.maxDiagnostics := by
    intro reg
    unfold Registry.getOrCreateCall
    split <;> exact ⟨rfl, rfl⟩
  obtain ⟨calls, diagnostics, maxDiagnostics⟩ := observeSip_calls c msg
  have stored : Agrees room (f.hear msg) ((c.observeSip msg).storeMessage msg
      ((sdpOf msg).map NegotiatedMedia.ofSession)) := by
    constructor
    · exact fun id call found => agrees.counts_stored placed found
    · intro id call found
      rw [lookup_storeMessage, calls] at found
      rw [agrees.marks_stored placed, Findings.routed_hear]
      split
      · rfl
      · by_cases own : id = msg.callId
        · exact own ▸ agrees.marked placed
        · rw [if_neg own] at found
          exact agrees.routed id call found
    · intro id new
      rw [Findings.counts_hear] at new
      split at new
      · cases new
      · next other =>
        rw [agrees.marks_stored placed, Findings.routed_hear, if_neg fun both => other both.2,
          if_neg fun both => other both.2]
        exact agrees.unheard id new
    · exact (created _).1.trans (diagnostics.trans agrees.ring)
    · exact (created _).2.trans (maxDiagnostics.trans agrees.room)
  exact stored.still (still_learnSdp _ _ _)

/-- What a message raises is told by the findings. -/
theorem Agrees.raises (agrees : Agrees room f c) {msg : SipMsg} (placed : Placed f c msg.callId) :
    (c.observeSip msg).messageDiagnostics msg = raised f msg := by
  have marks : (c.observeSip msg).inviteRr.lookup msg.callId = (f.hear msg).routed msg.callId := by
    rw [routed_observeSip, Findings.routed_hear, agrees.marked placed]
  unfold messageDiagnostics raised
  rw [marks]

theorem silent_told (c : Correlator) (msg : SipMsg) : (told c msg).pendingEvents = c.pendingEvents ∧
    (told c msg).sessionStats = c.sessionStats ∧ (told c msg).emitEvlog = c.emitEvlog := by
  have observed : (c.observeSip msg).pendingEvents = c.pendingEvents ∧
      (c.observeSip msg).sessionStats = c.sessionStats ∧ (c.observeSip msg).emitEvlog = c.emitEvlog := by
    unfold observeSip
    dsimp only
    split <;> exact ⟨rfl, rfl, rfl⟩
  unfold told
  generalize (sdpOf msg).map NegotiatedMedia.ofSession = learned
  cases learned with
  | none => exact observed
  | some n =>
    unfold learnSdp learnEndpoints applySdpClocks
    dsimp only
    split <;> exact observed

theorem received_told (c : Correlator) (msg : SipMsg) : received c msg =
    ((told c msg).pushEv (.sipMsg (sipMsgEvt msg))).addDiagnostics ((c.observeSip msg).messageDiagnostics msg) := rfl

/-- A message is reported first, then what it raises. -/
theorem Agrees.ingestSip (agrees : Agrees room f c) (drained : c.reg.removed = []) (iter : Iteration) {msg : SipMsg}
    (placed : Placed f c msg.callId) : ∃ rest, Logs c (c.ingestSip iter msg) (.sipMsg (sipMsgEvt msg) :: rest) ∧
      (∀ ev ∈ rest, messageId ev = none) ∧
      ∀ parse, Agrees room (rest.foldl (note parse room) (f.hear msg)) (c.ingestSip iter msg) := by
  obtain ⟨pending, session, emit⟩ := silent_told c msg
  have reported : Logs c ((told c msg).pushEv (.sipMsg (sipMsgEvt msg))) [.sipMsg (sipMsgEvt msg)] :=
    (Logs.silent pending session emit).append ⟨rfl, rfl, rfl⟩
  have heard : Agrees room (f.hear msg) ((told c msg).pushEv (.sipMsg (sipMsgEvt msg))) :=
    (agrees.hear placed).still (.of_reg (.refl _) rfl rfl)
  have removed : (received c msg).reg.removed = [] :=
    (congrArg Table.removed (table_received c msg)).trans drained
  have raises : Tracks room ((told c msg).pushEv (.sipMsg (sipMsgEvt msg))) (received c msg) :=
    tracks_addDiagnostics (JsonlStable.known_messageDiagnostics (c.observeSip msg) msg) _
  obtain ⟨rest, logs, silent, follows⟩ := raises.trans (tracks_latchTerminal iter removed msg.callId)
  exact ⟨rest, reported.append logs, silent, fun parse => follows parse _ heard⟩

/-! ## Media and passes -/

theorem calm_countRtp (reg : Registry) (ts : UInt64) (id : String) : Calm reg (reg.updateCall id (countRtp ts)) :=
  calm_updateCall reg id (fun _ => rfl) fun _ => rfl

theorem tracks_ingestRtp (c : Correlator) (ts : UInt64) (flow : Flow5Tuple) (header : RtpHeader) (len : Nat)
    (encap : Encap) : Tracks room c (c.ingestRtp ts flow header len encap) := by
  unfold ingestRtp
  dsimp only
  split
  · next s _ =>
    have heard : Calm c.reg (c.reg.updateStream { flow, ssrc := header.ssrc } (·.observe ts header len)) :=
      calm_of_same rfl rfl rfl
    refine (tracks_reg c (heard.trans (calm_countRtp _ ts s.callId))).trans ?_
    exact tracks_addDiagnostics (JsonlStable.known_checkPtChange _ _ _ _ _) _
  · split
    · next id _ =>
      unfold openRtp
      dsimp only
      have known := JsonlStable.known_openDiagnostics id ((c.reg.calls.lookup id).map Call.negotiated)
        (c.turn.legOf flow) encap (turnNoteDue ((c.reg.streams.lookup { flow, ssrc := header.ssrc }).getD
          (.new flow header.ssrc id)) encap (c.turn.legOf flow)) ts flow header
      generalize openDiagnostics _ _ _ _ _ ts flow header = diags at known ⊢
      generalize opened : Registry.updateCall _ id (noteMedia flow _) = reg
      have listed : Calm c.reg reg := by
        rw [← opened]
        refine Calm.trans ?_ (calm_updateCall _ id (fun _ => rfl) fun _ => rfl)
        exact calm_of_same rfl rfl rfl
      have reported : Tracks room c (({ c with reg } : Correlator).addDiagnostics diags) :=
        (tracks_reg c listed).trans (tracks_addDiagnostics known _)
      refine reported.trans (tracks_reg _ (Calm.trans ?_ (calm_countRtp _ ts id)))
      split
      · exact calm_of_same rfl rfl rfl
      · exact .refl _
    · exact .refl c

theorem tracks_attachSample (ts : UInt64) (c : Correlator) (sample : RtcpSample) :
    Tracks room c (attachSample ts c sample) := by
  have timed : ∀ (reg : Registry) key,
      Calm reg (reg.updateStream key (·.addTiming sample.rttMs sample.onewayMs)) := fun _ _ => calm_of_same rfl rfl rfl
  have all : Tracks room c { c with
      reg := (ssrcKeys c.reg sample.ssrc).foldl
        (fun reg key => reg.updateStream key (·.addTiming sample.rttMs sample.onewayMs)) c.reg } :=
    tracks_reg c (Calm.foldl timed _ c.reg)
  unfold attachSample
  dsimp only
  split
  · exact all.trans (tracks_pushEv _ rfl)
  · exact all

theorem tracks_ingestRtcp (c : Correlator) (ts : UInt64) (flow : Flow5Tuple) (msg : RtcpMessage) :
    Tracks room c (c.ingestRtcp ts flow msg) := by
  have counted : ∀ id, Calm c.reg (c.reg.updateCall id (countRtcp ts)) := fun id =>
    calm_updateCall c.reg id (fun _ => rfl) fun _ => rfl
  unfold ingestRtcp
  dsimp only
  split
  · exact (tracks_reg c (counted _)).trans (.foldl (tracks_attachSample ts) _ _)
  · exact .foldl (tracks_attachSample ts) _ c

theorem tracks_ipattrTick (iter : Iteration) (c : Correlator) (ts : UInt64) : Tracks room c (c.ipattrTick iter ts) := by
  have timed : ∀ c : Correlator, Tracks room c { c with lastIpattrUs := some ts } := fun c =>
    tracks_aside (.refl c.reg) rfl rfl rfl rfl rfl
  have attributed : ∀ c : Correlator, Tracks room c (c.attributeIpStats iter) := fun c =>
    tracks_reg c (Calm.foldl calm_flushStreamIpattr _ c.reg)
  unfold ipattrTick
  dsimp only
  split
  · split
    · exact (timed c).trans (attributed _)
    · exact attributed c
  · split
    · exact timed c
    · exact .refl c

theorem tracks_snapStream (ts : UInt64) (c : Correlator) (key : StreamKey) :
    Tracks room c (snapStream ts c key) := by
  have sampled : Tracks room c (if c.keepTerminated then
      { c with reg := c.reg.updateStream key (·.sample ts) } else c) := by
    split
    · exact tracks_reg c (calm_of_same rfl rfl rfl)
    · exact .refl c
  unfold snapStream
  dsimp only
  generalize (if c.keepTerminated then _ else c) = r at sampled ⊢
  split
  · split
    · exact sampled.trans (tracks_pushEv r rfl)
    · exact sampled
  · exact sampled

theorem tracks_snapped (iter : Iteration) (c : Correlator) (ts : UInt64) : Tracks room c (snapped iter c ts) := by
  have aged : ∀ t : Correlator, Tracks room t { t with
      lastFlushUs := some ts, reg := t.reg.pruneHeatmap, turn := t.turn.prune iter
      tcpReasm := t.tcpReasm.prune ts TcpReassembler.idleUs } := by
    intro t
    have cells : Calm t.reg t.reg.pruneHeatmap := by
      unfold Registry.pruneHeatmap
      split <;> exact calm_of_same rfl rfl rfl
    exact tracks_aside cells rfl rfl rfl rfl rfl
  exact ((tracks_ipattrTick iter c ts).trans (aged _)).trans (.foldl (tracks_snapStream ts) _ _)

theorem calm_evictPass (iter : Iteration) (c : Correlator) (ts : UInt64) : Calm c.reg (c.evictPass iter ts).reg := by
  have matched : Calm c.reg (if c.reg.searchHint.isSome then c.reg.refreshSearchMatches iter else c.reg) := by
    split
    · exact calm_refreshSearchMatches iter c.reg
    · exact .refl c.reg
  exact (matched.trans (calm_evictStale iter _ c.callTtlSecs ts)).trans (calm_evictIfNeeded iter _)

theorem tracks_maybePeriodicFlush (iter : Iteration) (drained : c.reg.removed = []) (ts : UInt64) :
    Tracks room c (c.maybePeriodicFlush iter ts) := by
  by_cases due : tickerDue (c.ipattrTick iter ts).lastFlushUs ts flushPeriodUs = true
  · rw [maybePeriodicFlush_due iter due]
    have snap : Tracks room c (snapped iter c ts) := tracks_snapped iter c ts
    have removed : (snapped iter c ts).reg.removed = [] :=
      (congrArg Table.removed (table_snapped iter c ts)).trans drained
    generalize snapped iter c ts = t at snap removed ⊢
    have evicted : Still t (t.evictPass iter ts).pruneRemovedBookkeeping :=
      still_drained removed (board_evictPass iter t ts) (calm_evictPass iter t ts)
    exact (snap.trans (evicted.tracks rfl rfl rfl)).trans (tracks_reg _ (calm_of_same rfl rfl rfl))
  · have ticked : Tracks room c (c.ipattrTick iter ts) := tracks_ipattrTick iter c ts
    unfold maybePeriodicFlush
    simp only [due, Bool.or_false, if_false, Bool.false_eq_true]
    generalize c.ipattrTick iter ts = t at ticked ⊢
    split
    · exact ticked.trans (tracks_aside (.refl t.reg) rfl rfl rfl rfl rfl)
    · exact ticked

end Sipmon.Guarantees.LogFindings
