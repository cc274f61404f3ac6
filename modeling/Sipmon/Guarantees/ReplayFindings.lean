import Sipmon.Guarantees.LiveRuns
import Sipmon.Guarantees.LogFindings
import Sipmon.Guarantees.ReplayRun

/-!
# What a replay finds of a live run

The replay of a log takes the messages through the correlator once more, and restores the
recorded diagnostics besides. So a message that raises a diagnostic has it counted twice.
Where none does, and no message comes for a call that the live run has let go, the replay
finds the calls the live run still has as it has them, with their counts, and the same
diagnostics.
-/
namespace Sipmon.Guarantees.ReplayFindings
open Source Lib Correlator Stages CallTable CallRecords EventTimes FrameMoves ToldEvents Retelling ReplayRun LogFindings
open LiveRuns
open Evlog (Event RawRecord)
open LogFindings.Findings (blank note raised)
open RegistryIndex (mem_foldl_erase)
open ExportOnce (Streamless minSeverity_observeSip)

variable {room : Nat} {f : Findings} {c next : Correlator}

/-! ## Calls that have left -/

/-- As far as calls are still tracked, they are as they are remembered. -/
structure Recalls (k seen : Known) : Prop where
  call : ∀ id call, seen.call id = some call → k.call id = some call
  done : ∀ id, (seen.call id).isSome = true → (id ∈ seen.done ↔ id ∈ k.done)
  unheard : ∀ id, k.call id = none → id ∉ k.done ∧ id ∉ seen.done

variable {k seen : Known}

theorem Recalls.depart (recalls : Recalls k seen) (gone : List String) :
    Recalls k { call := fun id => if id ∈ gone then none else seen.call id
                done := gone.foldl Finset.erase seen.done } where
  call id call found := by
    dsimp only at found
    split at found
    · cases found
    · exact recalls.call id call found
  done id found := by
    dsimp only at found ⊢
    split at found
    · cases found
    · next stays =>
      rw [mem_foldl_erase, recalls.done id found]
      exact and_iff_left stays
  unheard id new := by
    obtain ⟨unmarked, unseen⟩ := recalls.unheard id new
    exact ⟨unmarked, fun member => unseen ((mem_foldl_erase gone _ _).mp member).1⟩

theorem relate_fst (s : Known) (msg : SipMsg) : (s.relate msg).1 =
    { call := Function.update s.call msg.callId (some (s.hear msg))
      done := if (s.hear msg).state.terminal && decide (msg.callId ∉ s.done) then insert msg.callId s.done
        else s.done } := by
  unfold Known.relate
  dsimp only
  split <;> rfl

/-- A message for a tracked call, or for one nothing has been heard of. -/
theorem Recalls.relate (recalls : Recalls k seen) {msg : SipMsg}
    (placed : (seen.call msg.callId).isSome = true ∨ k.call msg.callId = none) :
    Recalls (k.relate msg).1 (seen.relate msg).1 := by
  have entry : k.call msg.callId = seen.call msg.callId := by
    cases tracked : seen.call msg.callId with
    | some call => exact recalls.call msg.callId call tracked
    | none => exact placed.resolve_left (by simp [tracked])
  have marked : msg.callId ∈ seen.done ↔ msg.callId ∈ k.done := by
    rcases placed with tracked | new
    · exact recalls.done msg.callId tracked
    · obtain ⟨unmarked, unseen⟩ := recalls.unheard msg.callId new
      exact iff_of_false unseen unmarked
  have heard : k.hear msg = seen.hear msg := by rw [Known.hear, Known.hear, entry]
  rw [relate_fst, relate_fst, heard]
  constructor
  · intro id call found
    dsimp only at found ⊢
    by_cases own : id = msg.callId
    · rw [own, Function.update_self] at found ⊢
      exact found
    · rw [Function.update_of_ne own] at found ⊢
      exact recalls.call id call found
  · intro id found
    dsimp only at found ⊢
    by_cases own : id = msg.callId
    · rw [own]
      split <;> split <;> simp_all
    · rw [Function.update_of_ne own] at found
      have same := recalls.done id found
      split <;> split <;> simp_all
  · intro id new
    dsimp only at new ⊢
    by_cases own : id = msg.callId
    · rw [own, Function.update_self] at new
      cases new
    · rw [Function.update_of_ne own] at new
      have both := recalls.unheard id new
      split <;> split <;> simp_all

/-- What a message leaves of the calls. -/
theorem recalls_ingestSip (iter : Iteration) (drained : c.reg.removed = []) {msg : SipMsg}
    (recalls : Recalls k (knows c))
    (placed : ((knows c).call msg.callId).isSome = true ∨ k.call msg.callId = none) :
    Recalls (k.relate msg).1 (knows (c.ingestSip iter msg)) := by
  have heard := recalls.relate placed
  have moved := table_ingestSip iter drained msg
  have guard := ends_known c msg
  cases ends : ((table c).hear msg).ends msg.callId with
  | true =>
    rw [ends] at guard
    have left : knows (c.ingestSip iter msg) =
        { call := fun id => if id ∈ sipGone c msg then none else ((knows c).relate msg).1.call id
          done := (sipGone c msg).foldl Finset.erase ((knows c).relate msg).1.done } := by
      rw [knows, moved, Known.mk.injEq]
      constructor
      · funext id
        rw [Table.latch_call, ends, Known.relate, if_pos guard.symm]
        simp only [true_and]
        rfl
      · rw [Table.latch_done, ends, if_pos rfl, Known.relate, if_pos guard.symm]
        rfl
    rw [left]
    exact heard.depart _
  | false =>
    rw [ends] at guard
    have stayed : knows (c.ingestSip iter msg) = ((knows c).relate msg).1 := by
      have unmet : ¬ (((knows c).hear msg).state.terminal && decide (msg.callId ∉ (knows c).done)) = true := by
        rw [← guard]
        exact Bool.false_ne_true
      rw [knows, moved, Known.relate, if_neg unmet, Known.mk.injEq]
      constructor
      · funext id
        rw [Table.latch_call, ends]
        simp only [Bool.false_eq_true, false_and, if_false]
        rfl
      · rw [Table.latch_done, ends]
        rfl
    rw [stayed]
    exact heard

/-! ## What a log remembers -/

variable {parse : SipParser} {log : List Event}

theorem retold_silent {evs : List Event} (silent : ∀ ev ∈ evs, messageId ev = none) :
    (retold parse (log ++ evs)).1 = (retold parse log).1 := by
  rw [retold_append]
  generalize retold parse log = s
  induction evs generalizing s with
  | nil => rfl
  | cons ev rest ih =>
    have one : (retell parse s ev).1 = s.1 := by
      have other := silent ev List.mem_cons_self
      cases ev <;> simp_all [retell, messageId]
    rw [List.foldl_cons, ih (fun ev member => silent ev (List.mem_cons_of_mem _ member)), one]

theorem retold_message (e : Evlog.SipMsgEvt) :
    (retold parse (log ++ [.sipMsg e])).1 = ((retold parse log).1.relate (evtToSipmsg parse e)).1 := by
  rw [retold_append]
  rfl

/-- The messages of the log parse again. -/
def Parsable (parse : SipParser) (log : List Event) : Prop :=
  ∀ e, .sipMsg e ∈ log → sipMsgEvt (evtToSipmsg parse e) = e

/-- A call is remembered when a message of it was recorded. -/
theorem remembered_iff (room : Nat) (parsable : Parsable parse log) (id : String) :
    (((retold parse log).1.call id).isSome = true ↔ id ∈ messageIds log) ∧
      (((log.foldl (note parse room) blank).counts id).isSome = true ↔ id ∈ messageIds log) := by
  induction log using List.reverseRecOn with
  | nil => simp [retold, unknown, blank, messageIds]
  | append_singleton log ev ih =>
    obtain ⟨known, counted⟩ := ih fun e member => parsable e (List.mem_append_left _ member)
    have ids : id ∈ messageIds (log ++ [ev]) ↔ id ∈ messageIds log ∨ messageId ev = some id := by
      simp [messageIds, List.filterMap_append, List.mem_filterMap]
    rw [List.foldl_append, List.foldl_cons, List.foldl_nil, ids]
    cases message : messageId ev with
    | some a =>
      obtain ⟨e, rfl⟩ : ∃ e, ev = .sipMsg e := by cases ev <;> simp_all [messageId]
      have same : (evtToSipmsg parse e).callId = a :=
        (congrArg Evlog.SipMsgEvt.callId (parsable e (by simp))).trans (Option.some.inj message)
      have heard : note parse room (log.foldl (note parse room) blank) (.sipMsg e) =
          (log.foldl (note parse room) blank).hear (evtToSipmsg parse e) := rfl
      rw [retold_message, relate_fst, heard, Findings.counts_hear, same]
      dsimp only
      rw [Function.update_apply]
      by_cases own : id = a
      · simp [own]
      · simp [own, known, counted, Ne.symm own]
    | none =>
      have silent : ∀ other ∈ [ev], messageId other = none := by simp [message]
      have noted : ((note parse room (log.foldl (note parse room) blank) ev).counts id).isSome =
          ((log.foldl (note parse room) blank).counts id).isSome := by
        cases ev with
        | sipMsg e => cases message
        | diag e => exact Findings.counts_file _ _ _ id
        | _ => rfl
      rw [retold_silent silent, noted, known, counted]
      simp

/-- A message of a tracked call, or of one the log does not tell of. -/
theorem placed_of_log (room : Nat) (parsable : Parsable parse log) {id : String}
    (at_hand : id ∈ c.reg.calls ∨ id ∉ messageIds log) :
    Placed (log.foldl (note parse room) blank) c id ∧
      (((knows c).call id).isSome = true ∨ (retold parse log).1.call id = none) := by
  obtain ⟨known, counted⟩ := remembered_iff room parsable id
  rcases at_hand with tracked | untold
  · obtain ⟨call, found⟩ := Option.isSome_iff_exists.mp (AList.lookup_isSome.mpr tracked)
    refine ⟨.inl tracked, .inl ?_⟩
    change ((c.reg.calls.lookup id).map signaling).isSome = true
    rw [found]
    rfl
  · refine ⟨.inr ?_, .inr ?_⟩
    · rw [← Option.not_isSome_iff_eq_none, counted]
      exact untold
    · rw [← Option.not_isSome_iff_eq_none, known]
      exact untold

/-! ## Live runs -/

/-- The stored text of a message parses to the message again. -/
def Reparsed (parse : SipParser) : Act → Prop
  | .entry _ (.sip msg) => evtToSipmsg parse (sipMsgEvt msg) = msg
  | _ => True

/-- The session is neither cleared nor told to record no more, and an end is handled where a
message brings it. A message comes for a call that is tracked or new, and raises no
diagnostic as grave as `least`. -/
def Retold (least : Severity) (now : Correlator × List Event) : Act → Prop
  | .entry _ (.sip msg) =>
    (msg.callId ∈ now.1.reg.calls ∨ msg.callId ∉ messageIds (recorded now)) ∧
      ∀ d ∈ (now.1.observeSip msg).messageDiagnostics msg, d.severity.rank < least.rank
  | .entry _ .clear | .entry _ (.terminal _) | .entry _ .disableEvlogEmit => False
  | _ => True

instance (least : Severity) (now : Correlator × List Event) : (act : Act) → Decidable (Retold least now act)
  | .entry _ (.sip msg) => inferInstanceAs (Decidable
      ((msg.callId ∈ now.1.reg.calls ∨ msg.callId ∉ messageIds (recorded now)) ∧
        ∀ d ∈ (now.1.observeSip msg).messageDiagnostics msg, d.severity.rank < least.rank))
  | .entry _ .clear | .entry _ (.terminal _) | .entry _ .disableEvlogEmit => instDecidableFalse
  | .entry _ (.rtp ..) | .entry _ (.rtcp ..) | .entry _ (.flush _) | .entry _ (.touchTime _) | .entry _ (.focus _)
  | .entry _ (.search _) | .entry _ .takeEvents | .entry _ .enableSessionStats => instDecidableTrue
  | .turn .. | .reassembled _ | .publish .. => instDecidableTrue

/-- A message of the log raises no diagnostic as grave as `least`. -/
def Quiet (parse : SipParser) (least : Severity) (f : Findings) (ev : Event) : Prop :=
  ∀ e, ev = .sipMsg e → ∀ d ∈ raised f (evtToSipmsg parse e), d.severity.rank < least.rank

/-- The log tells of the run so far. -/
structure Recounts (parse : SipParser) (least : Severity) (room : Nat) (log : List Event) (c : Correlator) :
    Prop where
  emit : c.emitEvlog = true
  drained : c.reg.removed = []
  parsable : Parsable parse log
  recalls : Recalls (retold parse log).1 (knows c)
  agrees : Agrees room (log.foldl (note parse room) blank) c
  quiet : Run.Along (note parse room) (Quiet parse least) blank log

variable {least : Severity}

/-- An act that hears no message. -/
theorem Recounts.tracks (holds : Recounts parse least room log c) {evs : List Event} (logs : Logs c next evs)
    (silent : ∀ ev ∈ evs, messageId ev = none)
    (agrees : ∀ f, Agrees room f c → Agrees room (evs.foldl (note parse room) f) next)
    (drained : next.reg.removed = []) (recalls : ∀ k, Recalls k (knows c) → Recalls k (knows next)) :
    Recounts parse least room (log ++ evs) next where
  emit := logs.emit.trans holds.emit
  drained := drained
  parsable e member := by
    rcases List.mem_append.mp member with early | late
    · exact holds.parsable e early
    · exact absurd (silent _ late) (Option.some_ne_none _)
  recalls := by
    rw [retold_silent silent]
    exact recalls _ holds.recalls
  agrees := by
    rw [List.foldl_append]
    exact agrees _ holds.agrees
  quiet := by
    rw [Run.along_append]
    refine ⟨holds.quiet, (Run.along_of_forall _ silent).mono fun f ev none_told e same => ?_⟩
    rw [same] at none_told
    cases none_told

theorem Recounts.follow {written : List Event} (holds : Recounts parse least room (recorded (c, written)) c)
    (tracks : Tracks room c next) (drained : next.reg.removed = [])
    (recalls : ∀ k, Recalls k (knows c) → Recalls k (knows next)) :
    Recounts parse least room (recorded (next, written)) next := by
  obtain ⟨evs, logs, silent, agrees⟩ := tracks
  have grown : recorded (next, written) = recorded (c, written) ++ evs := by
    rw [recorded, logs.pending, if_pos holds.emit, recorded, List.append_assoc]
  rw [grown]
  exact holds.tracks logs silent (agrees parse) drained recalls

/-- What changes neither the log nor the calls. -/
theorem Recounts.aside (holds : Recounts parse least room log c) (still : Still c next)
    (emit : next.emitEvlog = c.emitEvlog) (drained : next.reg.removed = c.reg.removed)
    (same : knows next = knows c) : Recounts parse least room log next where
  emit := emit.trans holds.emit
  drained := drained.trans holds.drained
  parsable := holds.parsable
  recalls := by rw [same]; exact holds.recalls
  agrees := holds.agrees.still still
  quiet := holds.quiet

/-- A message that parses again. -/
theorem Recounts.sip {written : List Event} (holds : Recounts parse least room (recorded (c, written)) c)
    (iter : Iteration) {msg : SipMsg} (again : evtToSipmsg parse (sipMsgEvt msg) = msg)
    (at_hand : msg.callId ∈ c.reg.calls ∨ msg.callId ∉ messageIds (recorded (c, written)))
    (below : ∀ d ∈ (c.observeSip msg).messageDiagnostics msg, d.severity.rank < least.rank) :
    Recounts parse least room (recorded (c.ingestSip iter msg, written)) (c.ingestSip iter msg) := by
  obtain ⟨placed, known⟩ := placed_of_log room holds.parsable at_hand
  obtain ⟨rest, logs, silent, agrees⟩ := holds.agrees.ingestSip holds.drained iter placed
  have grown : recorded (c.ingestSip iter msg, written) =
      recorded (c, written) ++ [.sipMsg (sipMsgEvt msg)] ++ rest := by
    rw [recorded, logs.pending, if_pos holds.emit, recorded]
    simp
  have heard : (recorded (c, written) ++ [Event.sipMsg (sipMsgEvt msg)]).foldl (note parse room) blank =
      ((recorded (c, written)).foldl (note parse room) blank).hear msg := by
    rw [List.foldl_append, List.foldl_cons, List.foldl_nil, note, again]
  have raises := holds.agrees.raises placed
  rw [grown]
  constructor
  · exact logs.emit.trans holds.emit
  · exact removed_ingestSip iter holds.drained msg
  · intro e member
    rcases List.mem_append.mp member with early | late
    · rcases List.mem_append.mp early with before | here
      · exact holds.parsable e before
      · obtain rfl := Event.sipMsg.inj (List.mem_singleton.mp here)
        rw [again]
    · exact absurd (silent _ late) (Option.some_ne_none _)
  · rw [retold_silent silent, retold_message, again]
    exact recalls_ingestSip iter holds.drained holds.recalls known
  · rw [List.foldl_append, heard]
    exact agrees parse
  · rw [Run.along_append, Run.along_append]
    refine ⟨⟨holds.quiet, ?_, trivial⟩, (Run.along_of_forall _ silent).mono fun f ev none_told e same => ?_⟩
    · intro e same d member
      obtain rfl := Event.sipMsg.inj same
      rw [again, ← raises] at member
      exact below d member
    · rw [same] at none_told
      cases none_told

/-- A publication only fills the caches of the registry. -/
theorem Recounts.publish (holds : Recounts parse least room log c) (iter : Iteration) (limit streamLimit : Nat) :
    Recounts parse least room log { c with reg := (c.reg.snapshotWith iter limit streamLimit).2 } := by
  have published : Still c { c with reg := (c.reg.snapshotWith iter limit streamLimit).2 } := by
    rw [SnapshotCaches.snapshot_registry]
    exact still_reg c (calm_of_same rfl rfl rfl)
  have same : board (c.reg.snapshotWith iter limit streamLimit).2 = board c.reg := by
    rw [SnapshotCaches.snapshot_registry]
    rfl
  have removed : (c.reg.snapshotWith iter limit streamLimit).2.removed = c.reg.removed :=
    congrArg (fun b => b.2.1) same
  have known : knows { c with reg := (c.reg.snapshotWith iter limit streamLimit).2 } = knows c := by
    rw [knows, table_reg c same, knows]
  exact holds.aside published rfl removed known

/-- A periodic flush may take calls away. -/
theorem Recounts.flush {written : List Event} (holds : Recounts parse least room (recorded (c, written)) c)
    (iter : Iteration) (ts : UInt64) :
    Recounts parse least room (recorded (c.maybePeriodicFlush iter ts, written)) (c.maybePeriodicFlush iter ts) := by
  have moved := table_maybePeriodicFlush iter holds.drained ts
  have removed : (c.maybePeriodicFlush iter ts).reg.removed = c.reg.removed := congrArg Table.removed moved
  have left : ∀ k, Recalls k (knows c) → Recalls k (knows (c.maybePeriodicFlush iter ts)) := by
    intro k recalls
    rw [knows, moved]
    exact recalls.depart _
  exact holds.follow (tracks_maybePeriodicFlush iter holds.drained ts) (removed.trans holds.drained) left

theorem recounts_act {now : Correlator × List Event} (act : Act) (reparsed : Reparsed parse act)
    (retold : Retold least now act) (holds : Recounts parse least room (recorded now) now.1) :
    Recounts parse least room (recorded (record now act)) (record now act).1 := by
  obtain ⟨c, written⟩ := now
  have media : ∀ {next : Correlator}, Tracks room c next → table next = table c →
      Recounts parse least room (recorded (next, written)) next := by
    intro next tracks same
    have removed : next.reg.removed = c.reg.removed := congrArg Table.removed same
    refine holds.follow tracks (removed.trans holds.drained) fun k recalls => ?_
    rwa [knows, same]
  cases act with
  | entry iter op =>
    cases op with
    | sip msg => exact holds.sip iter reparsed retold.1 retold.2
    | rtp ts flow header len encap =>
      exact media (tracks_ingestRtp c ts flow header len encap) (table_ingestRtp c ts flow header len encap)
    | rtcp ts flow msg => exact media (tracks_ingestRtcp c ts flow msg) (table_ingestRtcp c ts flow msg)
    | terminal id => exact False.elim retold
    | flush ts => exact holds.flush iter ts
    | clear => exact False.elim retold
    | touchTime ts => exact holds.aside (still_reg c (calm_of_same rfl rfl rfl)) rfl rfl rfl
    | focus hint => exact holds.aside (still_reg c (calm_of_same rfl rfl rfl)) rfl rfl rfl
    | search q =>
      have moved := table_step holds.drained (iter, .search q)
      exact media (tracks_reg c (calm_setSearchHint iter c.reg q)) moved
    | takeEvents =>
      have same : recorded (record (c, written) (.entry iter .takeEvents)) = recorded (c, written) :=
        List.append_nil _
      rw [same]
      exact holds.aside (.of_reg (.refl c.reg) rfl rfl) rfl rfl rfl
    | disableEvlogEmit => exact False.elim retold
    | enableSessionStats => exact holds.aside (.of_reg (.refl c.reg) rfl rfl) rfl rfl rfl
  | turn ts flow payload =>
    have turned : Tracks room c { c with turn := (c.turn.ingest ts flow payload).1 } :=
      tracks_aside (.refl c.reg) rfl rfl rfl rfl rfl
    exact media (turned.trans (tracks_addDiagnostics (JsonlStable.known_turn c.turn ts flow payload) _))
      (blind_table.addDiagnostics { c with turn := (c.turn.ingest ts flow payload).1 } _)
  | reassembled tcpReasm => exact holds.aside (.of_reg (.refl c.reg) rfl rfl) rfl rfl rfl
  | publish iter limit streamLimit =>
    exact holds.publish iter limit streamLimit

/-- The log of a live run tells of it. -/
theorem recounts_run (iter : Iteration) (config : Config) (source : String) {acts : List Act}
    (reparsed : ∀ act ∈ acts, Reparsed parse act)
    (retold : Run.Along record (Retold least) (.new iter config source, []) acts) :
    let now := acts.foldl record (.new iter config source, [])
    Recounts parse least config.maxDiagnostics (recorded now) now.1 := by
  have fresh : Recounts parse least config.maxDiagnostics (recorded (.new iter config source, []))
      (.new iter config source) := by
    constructor
    · rfl
    · rfl
    · intro e member
      cases member
    · constructor
      · intro id call found
        cases found
      · intro id found
        cases found
      · intro id _
        exact ⟨Finset.notMem_empty id, Finset.notMem_empty id⟩
    · constructor
      · intro id call found
        cases found
      · intro id call found
        cases found
      · exact fun id _ => ⟨rfl, rfl⟩
      · rfl
      · rfl
    · trivial
  have parsed : Run.Along record (fun _ act => Reparsed parse act) (.new iter config source, []) acts :=
    Run.along_of_forall _ reparsed
  exact (parsed.and retold).invariant (P := fun now => Recounts parse least config.maxDiagnostics (recorded now) now.1)
    (fun now act allowed holds => recounts_act act allowed.1 allowed.2 holds) fresh

/-! ## The replay -/

/-- One record, as `run_replay` takes it. -/
def takeRecord (parse : SipParser) (c : Correlator) (next : Iteration × RawRecord) : Option Correlator :=
  ({ c with reg := c.reg.ensureStart next.2.tsUs } : Correlator).replayApply parse next.1 next.2

/-- The correlator `run_replay` starts with. -/
def replayer (iter : Iteration) (config : Config) (source : String) (tui : Bool) : Correlator :=
  let corr := (Correlator.new iter config source).disableEvlogEmit
  if tui then corr.enableSessionStats else corr

/-- Without streams the checks of a teardown find nothing. -/
theorem still_teardownChecks (streamless : Streamless c) (id : String) : Still c (c.teardownChecks id) := by
  have cell : Still c (c.recordHeatmap id) := by
    unfold recordHeatmap
    split
    · split
      · exact still_reg c (calm_of_same rfl rfl rfl)
      · exact .refl c
    · exact .refl c
  have released : ∀ c : Correlator, Still c (c.releaseActive id) := by
    intro c
    unfold releaseActive
    split
    · exact still_reg c (calm_of_same rfl rfl rfl)
    · exact .refl c
  unfold teardownChecks
  rw [streamless.checkOneway, streamless.checkTurnLegs]
  exact cell.trans (released _)

theorem still_reportTeardown (c : Correlator) (id : String) (call : Call) : Still c (c.reportTeardown id call) := by
  unfold reportTeardown
  dsimp only
  generalize logged : c.reg.pushEvent _ = reg
  have line : Calm c.reg reg := logged ▸ calm_pushEvent c.reg _
  split
  · exact .of_reg (line.trans (calm_of_same rfl rfl rfl)) rfl rfl
  · exact .of_reg (line.trans (calm_of_same rfl rfl rfl)) rfl rfl

theorem still_retireCall (iter : Iteration) (drained : c.reg.removed = []) (id : String) :
    Still c (c.retireCall iter id).pruneRemovedBookkeeping := by
  unfold retireCall
  split
  · next call _ =>
    split
    · have removed := removed_reportTeardown drained id call
      exact (still_reportTeardown c id call).trans (still_retired iter removed id)
    · exact still_undrained drained
  · exact still_undrained drained

theorem still_latchTerminal (iter : Iteration) (drained : c.reg.removed = []) (streamless : Streamless c)
    (id : String) : Still c (c.latchTerminal iter id) := by
  unfold latchTerminal
  split
  · have latched : Still c { c with terminalDone := insert id c.terminalDone } := .of_reg (.refl c.reg) rfl rfl
    have without : Streamless { c with terminalDone := insert id c.terminalDone } := streamless
    have left : ({ c with terminalDone := insert id c.terminalDone } : Correlator).reg.removed = [] := drained
    generalize ({ c with terminalDone := insert id c.terminalDone } : Correlator) = r at latched without left ⊢
    have removed : (r.teardownChecks id).reg.removed = [] :=
      (congrArg Table.removed (blind_table.teardownChecks r id)).trans left
    exact (latched.trans (still_teardownChecks without id)).trans (still_retireCall iter removed id)
  · exact .refl c

/-- Diagnostics below the least severity are dropped. -/
theorem addDiagnostics_below {ds : List Diagnostic} (below : ∀ d ∈ ds, d.severity.rank < c.minSeverity.rank) :
    c.addDiagnostics ds = c := by
  induction ds with
  | nil => rfl
  | cons d rest ih =>
    have dropped : c.addDiagnostic d = c := if_pos (below d List.mem_cons_self)
    have one : c.addDiagnostics (d :: rest) = (c.addDiagnostic d).addDiagnostics rest := rfl
    rw [one, dropped]
    exact ih fun d member => below d (List.mem_cons_of_mem _ member)

/-- A replay in which streams come and go only as recorded summaries. -/
structure Rerun (parse : SipParser) (ids : Finset String) (tui : Bool) (least : Severity) (room : Nat)
    (past : List Event) (c : Correlator) : Prop where
  replays : Replays parse ids tui past c
  agrees : Agrees room (past.foldl (note parse room) blank) c
  streamless : Streamless c
  least : c.minSeverity = least

variable {ids : Finset String} {tui : Bool} {past : List Event}

theorem least_told (c : Correlator) (msg : SipMsg) : (told c msg).minSeverity = c.minSeverity :=
  (still_learnSdp _ msg.callId _).least.trans (minSeverity_observeSip c msg)

/-- A message that raises nothing the replay reports is only heard. -/
theorem agrees_heard (agrees : Agrees room f c) (drained : c.reg.removed = []) (streamless : Streamless c)
    (iter : Iteration) {msg : SipMsg} (placed : Placed f c msg.callId)
    (below : ∀ d ∈ raised f msg, d.severity.rank < c.minSeverity.rank) :
    Agrees room (f.hear msg) (c.ingestSip iter msg) ∧ (c.ingestSip iter msg).minSeverity = c.minSeverity := by
  have least : ((told c msg).pushEv (.sipMsg (sipMsgEvt msg))).minSeverity = c.minSeverity := least_told c msg
  have heard : Agrees room (f.hear msg) ((told c msg).pushEv (.sipMsg (sipMsgEvt msg))) :=
    (agrees.hear placed).still (.of_reg (.refl _) rfl rfl)
  have quiet : received c msg = (told c msg).pushEv (.sipMsg (sipMsgEvt msg)) := by
    rw [received_told]
    apply addDiagnostics_below
    rw [agrees.raises placed, least]
    exact below
  have removed : (received c msg).reg.removed = [] :=
    (congrArg Table.removed (table_received c msg)).trans drained
  have without : Streamless (received c msg) := streamless.of_drops (.of_eq (StreamSheet.sheet_received c msg))
  rw [ingestSip_received]
  have latched := still_latchTerminal iter removed without msg.callId
  rw [quiet] at latched ⊢
  exact ⟨heard.still latched, latched.least.trans least⟩

/-- A recorded summary stays aside. -/
theorem restoreSnap_aside (c : Correlator) (tsUs : UInt64) (s : StreamSummary) :
    Still c (c.restoreSnap tsUs s) ∧ (c.restoreSnap tsUs s).reg.streams = c.reg.streams := by
  have imported : ∀ reg : Registry, Calm reg (reg.importStreamSnap tsUs s) ∧
      (reg.importStreamSnap tsUs s).streams = reg.streams := by
    intro reg
    unfold Registry.importStreamSnap Registry.addImportedStream
    dsimp only
    repeat' split
    all_goals exact ⟨calm_of_same rfl rfl rfl, rfl⟩
  have line : (c.reg.pushEvent (lossLine s)).streams = c.reg.streams := by simp only [Registry.pushEvent]
  unfold restoreSnap replayStreamSummary feed
  dsimp only
  split
  · have logged := calm_pushEvent c.reg (lossLine s)
    generalize c.reg.pushEvent (lossLine s) = reg at logged line ⊢
    exact ⟨.of_reg (logged.trans (imported reg).1) rfl rfl, (imported reg).2.trans line⟩
  · exact ⟨.of_reg (imported c.reg).1 rfl rfl, (imported c.reg).2⟩

/-- What one more record finds. -/
theorem findings_applied {ev : Event} (holds : Rerun parse ids tui least room past c) (iter : Iteration)
    (parsed : ∀ e, ev = .sipMsg e → sipMsgEvt (evtToSipmsg parse e) = e) (parsable : Parsable parse past)
    (quiet : Quiet parse least (past.foldl (note parse room) blank) ev) :
    Agrees room (note parse room (past.foldl (note parse room) blank) ev) (applied parse iter c ev) ∧
      Streamless (applied parse iter c ev) ∧ (applied parse iter c ev).minSeverity = least := by
  obtain ⟨replays, agrees, streamless, low⟩ := holds
  have idle : ∀ next : Correlator, Still c next → next.reg.streams = c.reg.streams →
      Agrees room (past.foldl (note parse room) blank) next ∧ Streamless next ∧ next.minSeverity = least := by
    intro next still same
    exact ⟨agrees.still still, by rw [Streamless, same]; exact streamless, still.least.trans low⟩
  cases ev with
  | sipMsg e =>
    have tracked : (evtToSipmsg parse e).callId ∈ c.reg.calls ∨
        (evtToSipmsg parse e).callId ∉ messageIds past := by
      by_cases untold : (evtToSipmsg parse e).callId ∈ messageIds past
      · have known := ((remembered_iff room parsable _).1).mpr untold
        rw [replays.known] at known
        refine .inl (AList.lookup_isSome.mp ?_)
        rw [← Option.isSome_map (f := signaling)]
        exact known
      · exact .inr untold
    have placed := (placed_of_log room parsable tracked).1
    obtain ⟨heard, kept⟩ := agrees_heard agrees replays.drained streamless iter placed fun d member => by
      rw [low]
      exact quiet e rfl d member
    exact ⟨heard, streamless.of_drops (StreamSheet.drops_ingestSip iter c _), kept.trans low⟩
  | streamSnap e =>
    obtain ⟨still, same⟩ := restoreSnap_aside c e.tsUs (SnapDecoders.summaryOf e)
    exact idle _ still same
  | diag e =>
    have filed : Agrees room ((past.foldl (note parse room) blank).file room (recordedDiagnostic e))
        (c.restoreDiag e) := agrees.file
      (by simp only [Registry.pushDiagnostic, Registry.pushEvent, Registry.updateCall, recordedDiagnostic])
      (by simp only [Registry.pushDiagnostic, Registry.pushEvent, Registry.updateCall])
      (by simp only [Registry.pushDiagnostic, Registry.pushEvent, Registry.updateCall])
    have same : (c.restoreDiag e).reg.streams = c.reg.streams := by
      simp only [restoreDiag, Registry.pushDiagnostic, Registry.pushEvent, Registry.updateCall]
    refine ⟨filed, ?_, low⟩
    rw [Streamless]
    exact fun key => (congrArg (fun m => m.lookup key) same).trans (streamless key)
  | rtcpRtt e => exact idle _ (.of_reg (.refl c.reg) rfl rfl) rfl
  | txn | call | healthBucket | error => exact idle c (.refl c) rfl

/-- What the replay needs of a record of the log. -/
structure Replayable (parse : SipParser) (ids : Finset String) (ev : Event) : Prop where
  fits : (Evlog.payloadOf ev).length ≤ Evlog.maxRecordLen
  parsed : ∀ e, ev = .sipMsg e → sipMsgEvt (evtToSipmsg parse e) = e
  inside : ∀ e, ev = .sipMsg e → e.callId ∈ ids

theorem rerun_record {ev : Event} (holds : Rerun parse ids tui least room past c) (iter : Iteration)
    (replayable : Replayable parse ids ev) (parsable : Parsable parse past)
    (quiet : Quiet parse least (past.foldl (note parse room) blank) ev) :
    ∃ read, takeRecord parse c (iter, StatsAgreement.rawOf ev) = some read ∧
      Rerun parse ids tui least room (past ++ [ev]) read := by
  let started : Correlator := { c with reg := c.reg.ensureStart ev.tsUs }
  have starts : Rerun parse ids tui least room past started :=
    { replays := holds.replays.reg (board_of_same rfl rfl rfl) fun roomy => roomy.kept (each_of_same rfl) rfl
      agrees := holds.agrees.still (still_reg c (calm_of_same rfl rfl rfl))
      streamless := holds.streamless
      least := holds.least }
  have goes : started.replayApply parse iter (StatsAgreement.rawOf ev) = some (applied parse iter started ev) :=
    apply_rawOf iter started ev (replayable.fits.trans_lt (by decide))
  have one : (past ++ [ev]).foldl (note parse room) blank =
      note parse room (past.foldl (note parse room) blank) ev := by
    rw [List.foldl_append, List.foldl_cons, List.foldl_nil]
  obtain ⟨agrees, streamless, low⟩ := findings_applied starts iter replayable.parsed parsable quiet
  refine ⟨applied parse iter started ev, goes, ?_, ?_, streamless, low⟩
  · exact replays_applied iter starts.replays ev replayable.parsed replayable.inside
  · rw [one]
    exact agrees

/-- Record by record, the replay finds what the log tells. -/
theorem rerun_records {records : List (Iteration × RawRecord)} {ahead : List Event}
    (read : records.map Prod.snd = ahead.map StatsAgreement.rawOf) (holds : Rerun parse ids tui least room past c)
    (replayable : ∀ ev ∈ past ++ ahead, Replayable parse ids ev)
    (quiet : Run.Along (note parse room) (Quiet parse least) (past.foldl (note parse room) blank) ahead) :
    ∃ again, records.foldlM (takeRecord parse) c = some again ∧
      Rerun parse ids tui least room (past ++ ahead) again := by
  induction ahead generalizing records past c with
  | nil =>
    obtain rfl := List.map_eq_nil_iff.mp read
    exact ⟨c, rfl, by rwa [List.append_nil]⟩
  | cons ev rest ih =>
    obtain ⟨record, later, rfl, first, others⟩ := List.map_eq_cons_iff.mp read
    have parsable : Parsable parse past := fun e member =>
      (replayable _ (List.mem_append_left _ member)).parsed e rfl
    obtain ⟨next, goes, now⟩ := rerun_record holds record.1
      (replayable ev (List.mem_append_right _ List.mem_cons_self)) parsable quiet.1
    have through : past ++ ev :: rest = past ++ [ev] ++ rest := by rw [List.append_assoc, List.singleton_append]
    rw [through] at replayable ⊢
    obtain ⟨again, run, done⟩ := ih others now replayable (by
      rw [List.foldl_append, List.foldl_cons, List.foldl_nil]
      exact quiet.2)
    refine ⟨again, ?_, done⟩
    rw [List.foldlM_cons]
    have same : record = (record.1, StatsAgreement.rawOf ev) := Prod.ext rfl first
    rw [same, goes]
    exact run

theorem rerun_new (iter : Iteration) (config : Config) (source : String) (tui : Bool)
    (keeps : config.keepTerminated = true) (fits : ids.card ≤ config.maxCalls) :
    Rerun parse ids tui (.fromLevel config.diagLevel) config.maxDiagnostics [] (replayer iter config source tui) := by
  have fresh : ∀ stats, stats = (if tui then some [] else none) →
      Rerun parse ids tui (.fromLevel config.diagLevel) config.maxDiagnostics []
        { (Correlator.new iter config source).disableEvlogEmit with sessionStats := stats } := by
    intro stats empty
    refine ⟨⟨keeps, rfl, ⟨fun id call found => ?_, fits⟩, rfl, ?_⟩, ?_, fun key => rfl, rfl⟩
    · cases found
    · cases tui <;> simp [empty, retold]
    · constructor
      · intro id call found
        cases found
      · intro id call found
        cases found
      · exact fun id _ => ⟨rfl, rfl⟩
      · rfl
      · rfl
  unfold replayer
  cases tui with
  | true => exact fresh (some []) rfl
  | false => exact fresh none rfl

/-! ## The replay of a live run -/

/-- The replay has the call as the live run has it, with as many warnings and critical
diagnostics. -/
def SameCall (call again : Call) : Prop :=
  signaling again = signaling call ∧ again.warnCount = call.warnCount ∧ again.criticalCount = call.criticalCount

def offerNow : Correlator × List Event := offerActs.foldl record (.new .stored {} "eth0", [])

def offerRecords : List (Iteration × RawRecord) :=
  (recorded offerNow).map fun ev => (.stored, StatsAgreement.rawOf ev)

theorem offerActs_parsed : ∀ act ∈ offerActs, Reparsed offerParser act := by
  intro act member
  rcases List.mem_append.mp member with heard | media
  · obtain ⟨msg, parsed, rfl⟩ := List.mem_map.mp heard
    exact parsed_again (Option.mem_toList.mp parsed)
  · obtain rfl := List.mem_singleton.mp media
    trivial

def natNow : Correlator × List Event :=
  (ExportOnce.natInvite.toList.map fun msg => Act.entry .stored (.sip msg)).foldl record (.new .stored {} "eth0", [])

def natRecords : List (Iteration × RawRecord) :=
  (recorded natNow).map fun ev => (.stored, StatsAgreement.rawOf ev)

end Sipmon.Guarantees.ReplayFindings
