import Sipmon.Guarantees.EvlogBuffers
import Sipmon.Guarantees.ExportOnce
import Sipmon.Guarantees.ReplayReport
import Sipmon.Guarantees.Retelling

/-!
# Replaying the log of a session

The worker of a replay takes the records one by one, whatever the UI does in between. At
the end of the log of a session from which no call was taken away, it knows the calls as
the session knew them, and its report has counted what the log counts.
-/
namespace Sipmon.Guarantees.ReplayRun
open Source Lib Correlator CallTable CallRecords EventTimes Recording ReplayReport ToldEvents Retelling
open Evlog (Event RawRecord EvlogReader)
open SnapDecoders (summaryOf)
open StatsAgreement (rawOf scan_sorted)

/-! ## Records -/

theorem summaryEvt_summaryOf (e : Evlog.StreamSnapEvt) : summaryEvt e.tsUs (summaryOf e) = e := by
  simp [summaryEvt, summaryOf]

/-- What the report is fed between the two, as far as it is told. -/
structure Feeds (c after : Correlator) (news : List Event) : Prop where
  session : ∃ evs, after.sessionStats = c.sessionStats.map (· ++ evs) ∧ evs.filterMap told = news
  keep : after.keepTerminated = c.keepTerminated

variable {parse : SipParser} {ids : Finset String} {tui : Bool} {c after : Correlator} {news : List Event}

theorem feeds_tells (tells : Tells c after news) : Feeds c after news := by
  obtain ⟨⟨evs, logs, again⟩, keep, -⟩ := tells
  exact ⟨⟨evs, logs.session, again⟩, keep⟩

theorem feeds_feed (c : Correlator) (reg : Registry) (ev : Event) :
    Feeds c { c.feed ev with reg } (told ev).toList := by
  have again : [ev].filterMap told = (told ev).toList := by cases again : told ev <;> simp [again]
  exact ⟨⟨[ev], rfl, again⟩, rfl⟩

/-- A replay that knows what the log read so far tells. -/
structure Replays (parse : SipParser) (ids : Finset String) (tui : Bool) (past : List Event) (c : Correlator) :
    Prop where
  keep : c.keepTerminated = true
  drained : c.reg.removed = []
  roomy : Roomy ids c.reg
  known : (retold parse past).1 = knows c
  counted : c.sessionStats.map (·.filterMap told) = if tui then some (retold parse past).2 else none

/-- What does not concern the calls leaves it true. -/
theorem Replays.aside {past : List Event} (holds : Replays parse ids tui past c)
    (keep : after.keepTerminated = c.keepTerminated) (session : after.sessionStats = c.sessionStats)
    (drained : after.reg.removed = c.reg.removed) (roomy : Roomy ids c.reg → Roomy ids after.reg)
    (known : knows after = knows c) : Replays parse ids tui past after where
  keep := keep.trans holds.keep
  drained := drained.trans holds.drained
  roomy := roomy holds.roomy
  known := holds.known.trans known.symm
  counted := session ▸ holds.counted

/-- One more record. -/
theorem Replays.next {past : List Event} (holds : Replays parse ids tui past c) {ev : Event} {k : Known}
    (again : retell parse (retold parse past) ev = (k, (retold parse past).2 ++ news))
    (feeds : Feeds c after news) (drained : after.reg.removed = []) (roomy : Roomy ids after.reg)
    (known : knows after = k) : Replays parse ids tui (past ++ [ev]) after := by
  have last : retold parse (past ++ [ev]) = (k, (retold parse past).2 ++ news) := by
    rw [retold_append]
    exact again
  obtain ⟨⟨evs, session, told_again⟩, keep⟩ := feeds
  constructor
  · exact keep.trans holds.keep
  · exact drained
  · exact roomy
  · rw [last, known]
  · have counted := holds.counted
    rw [session, last]
    cases was : c.sessionStats <;> cases tui <;> simp_all

/-! ## What a record does -/

/-- The effect of the record of an event. -/
def applied (parse : SipParser) (iter : Iteration) (c : Correlator) : Event → Correlator
  | .sipMsg e => c.ingestSip iter (evtToSipmsg parse e)
  | .streamSnap e => c.restoreSnap e.tsUs (summaryOf e)
  | .rtcpRtt e => c.replayRttSample e.tsUs e.rttMs
  | .diag e => c.restoreDiag e
  | _ => c

/-- No recorded payload panics the decoder. -/
theorem decodeOrPanic_rawOf (ev : Event) (fits : (Evlog.payloadOf ev).length < 2 ^ 63) :
    decodeOrPanic (rawOf ev) = some (.ok ev) := by
  have decoded := EvlogPayloads.decodePayload_payloadOf ev.tsUs ev (by omega)
  rw [Evlog.Event.retime_tsUs] at decoded
  have quiet : ((Evlog.layoutOf (rawOf ev).ty).walk (rawOf ev).payload).ending ≠ .panicked :=
    EvlogBuffers.walk_of_decoded fits decoded
  unfold decodeOrPanic
  rw [if_neg quiet]
  exact congrArg some decoded

theorem apply_rawOf (iter : Iteration) (c : Correlator) (ev : Event)
    (fits : (Evlog.payloadOf ev).length < 2 ^ 63) :
    c.replayApply parse iter (rawOf ev) = some (applied parse iter c ev) := by
  have decoded := decodeOrPanic_rawOf ev fits
  have short : (Evlog.payloadOf ev).length < 2 ^ 64 := by omega
  unfold replayApply
  rw [decoded]
  unfold rawOf
  dsimp only
  cases ev with
  | streamSnap e =>
    have parsed : Evlog.parseStreamSummary (Evlog.payloadOf (.streamSnap e)) = some (summaryOf e) :=
      ExportOnce.parseStreamSummary_encode e short
    simp [EvlogPayloads.typeOf, Evlog.encodeEventPayload, Evlog.EvType.toByte, applied, parsed, Event.tsUs]
  | rtcpRtt e =>
    have parsed : Evlog.parseRtcpRttMs (Evlog.payloadOf (.rtcpRtt e)) = some e.rttMs :=
      EvlogLite.parseRtcpRttMs_encode e short
    simp [EvlogPayloads.typeOf, Evlog.encodeEventPayload, Evlog.EvType.toByte, applied, parsed, Event.tsUs]
  | _ => simp [EvlogPayloads.typeOf, Evlog.encodeEventPayload, Evlog.EvType.toByte, applied]

/-- The same calls, and the same room for them. -/
structure SameCalls (reg after : Registry) : Prop where
  calls : after.calls = reg.calls
  removed : after.removed = reg.removed
  maxCalls : after.maxCalls = reg.maxCalls

theorem SameCalls.trans {first second last : Registry} (now : SameCalls first second)
    (later : SameCalls second last) : SameCalls first last where
  calls := later.calls.trans now.calls
  removed := later.removed.trans now.removed
  maxCalls := later.maxCalls.trans now.maxCalls

theorem sameCalls_pushEvent (reg : Registry) (line : String) : SameCalls reg (reg.pushEvent line) := by
  constructor <;> simp only [Registry.pushEvent]

/-- A stream summary does not concern the calls. -/
theorem sameCalls_importStreamSnap (reg : Registry) (tsUs : UInt64) (s : StreamSummary) :
    SameCalls reg (reg.importStreamSnap tsUs s) := by
  have added : ∀ reg : Registry, SameCalls reg (reg.addImportedStream s) := by
    intro reg
    unfold Registry.addImportedStream
    dsimp only
    split
    · exact ⟨rfl, rfl, rfl⟩
    · split <;> exact ⟨rfl, rfl, rfl⟩
  have clocked : SameCalls reg (if reg.lastUs.getD 0 < tsUs then { reg with lastUs := some tsUs } else reg) := by
    split <;> exact ⟨rfl, rfl, rfl⟩
  have both := clocked.trans (added _)
  unfold Registry.importStreamSnap
  dsimp only
  generalize (if reg.lastUs.getD 0 < tsUs then { reg with lastUs := some tsUs } else reg) = now at both ⊢
  split
  · exact both.trans ⟨rfl, rfl, rfl⟩
  · exact both

theorem restoreSnap_eq (c : Correlator) (tsUs : UInt64) (s : StreamSummary) : ∃ reg,
    c.restoreSnap tsUs s = { c.feed (.streamSnap (summaryEvt tsUs s)) with reg } ∧ SameCalls c.reg reg := by
  have logged := sameCalls_pushEvent c.reg (lossLine s)
  have fed : ∀ reg : Registry, ({ c with reg } : Correlator).replayStreamSummary tsUs s =
      { c.feed (.streamSnap (summaryEvt tsUs s)) with reg } := fun _ => rfl
  unfold restoreSnap
  dsimp only
  split
  · generalize c.reg.pushEvent (lossLine s) = reg at logged ⊢
    rw [fed]
    exact ⟨_, rfl, logged.trans (sameCalls_importStreamSnap reg tsUs s)⟩
  · exact ⟨_, rfl, sameCalls_importStreamSnap c.reg tsUs s⟩

theorem restoreDiag_eq (c : Correlator) (e : Evlog.DiagEvt) : ∃ reg, c.restoreDiag e = { c with reg } ∧
    board reg = board c.reg ∧ ∀ ids, Roomy ids c.reg → Roomy ids reg := by
  refine ⟨_, rfl, ?_, fun ids roomy => (tends_roomy ids).diagnostic _ _
    ((tends_roomy ids).counted _ _ (.diagnostic _) ((tends_roomy ids).event c.reg _ roomy))⟩
  rw [board_pushDiagnostic, board_updateCall _ e.callId (signaling_countDiagnostic (severityOf e.severity)),
    board_pushEvent]

theorem replays_applied {past : List Event} (iter : Iteration) (holds : Replays parse ids tui past c) (ev : Event)
    (parsed : ∀ e, ev = .sipMsg e → sipMsgEvt (evtToSipmsg parse e) = e)
    (inside : ∀ e, ev = .sipMsg e → e.callId ∈ ids) :
    Replays parse ids tui (past ++ [ev]) (applied parse iter c ev) := by
  cases ev with
  | sipMsg e =>
    have recorded := parsed e rfl
    have own : (evtToSipmsg parse e).callId ∈ ids := by
      have same : (evtToSipmsg parse e).callId = e.callId := congrArg Evlog.SipMsgEvt.callId recorded
      rw [same]
      exact inside e rfl
    have again : retell parse (retold parse past) (.sipMsg e) =
        (((knows c).relate (evtToSipmsg parse e)).1,
          (retold parse past).2 ++ ((knows c).relate (evtToSipmsg parse e)).2) := by
      rw [← holds.known]
      rfl
    apply holds.next again (feeds_tells (tells_ingestSip iter c _)) (removed_ingestSip iter holds.drained _)
    · exact roomy_ingestSip iter own holds.roomy
    · exact knows_ingestSip iter holds.drained holds.keep own holds.roomy
  | streamSnap e =>
    obtain ⟨reg, restored, same_calls⟩ := restoreSnap_eq c e.tsUs (summaryOf e)
    rw [summaryEvt_summaryOf] at restored
    have again : retell parse (retold parse past) (.streamSnap e) =
        (knows c, (retold parse past).2 ++ (told (.streamSnap e)).toList) := by
      rw [← holds.known]
      rfl
    have same : CallTable.calls reg = CallTable.calls c.reg := by
      funext id
      rw [CallTable.calls, same_calls.calls, CallTable.calls]
    simp only [applied, restored]
    apply holds.next again (feeds_feed c reg _) (same_calls.removed.trans holds.drained)
    · exact holds.roomy.kept (each_of_same same_calls.calls) same_calls.maxCalls
    · simp [knows, table, same, feed]
  | rtcpRtt e =>
    have again : retell parse (retold parse past) (.rtcpRtt e) =
        (knows c, (retold parse past).2 ++ (told (.rtcpRtt (rttEvt e.tsUs e.rttMs))).toList) := by
      rw [← holds.known]
      rfl
    exact holds.next again (feeds_feed c c.reg _) holds.drained holds.roomy rfl
  | diag e =>
    have again : retell parse (retold parse past) (.diag e) = (knows c, (retold parse past).2 ++ []) := by
      rw [← holds.known, List.append_nil]
      rfl
    obtain ⟨reg, restored, same, stays⟩ := restoreDiag_eq c e
    have removed : reg.removed = c.reg.removed := congrArg (fun b => b.2.1) same
    have known : knows { c with reg } = knows c := by rw [knows, table_reg c same, knows]
    simp only [applied, restored]
    exact holds.next again (feeds_tells (.reg c reg)) (removed.trans holds.drained) (stays ids holds.roomy) known
  | txn | call | healthBucket | error =>
    have again : ∀ past, (retold parse past).1 = knows c →
        retold parse past = (knows c, (retold parse past).2 ++ []) := by
      intro past known
      rw [List.append_nil, ← known]
    exact holds.next (again past holds.known) (feeds_tells (.refl c)) holds.drained holds.roomy rfl

/-! ## The worker -/

/-- A worker that is through with `past` and has `ahead` before it. -/
structure Reading (parse : SipParser) (ids : Finset String) (tui : Bool) (past ahead : List Event) (w : Replayer) :
    Prop where
  unread : w.reader.rest = Evlog.records w.reader.lastTs ahead
  sorted : (w.reader.lastTs :: ahead.map Event.tsUs).Pairwise (· ≤ ·)
  ended : w.done = true → ahead = []
  corr : Replays parse ids tui past w.corr

variable {past ahead : List Event} {w : Replayer} {r : ReplaySession}

/-- What moves no call leaves the replay true. -/
theorem Replays.reg (holds : Replays parse ids tui past c) {reg : Registry} (same : board reg = board c.reg)
    (roomy : Roomy ids c.reg → Roomy ids reg) : Replays parse ids tui past { c with reg } := by
  have removed : reg.removed = c.reg.removed := congrArg (fun b => b.2.1) same
  have known : knows { c with reg } = knows c := by rw [knows, table_reg c same, knows]
  exact holds.aside rfl rfl removed roomy known

theorem Reading.aside (holds : Reading parse ids tui past ahead w) {after : Replayer} (reader : after.reader = w.reader)
    (done : after.done = w.done) (corr : Replays parse ids tui past after.corr) :
    Reading parse ids tui past ahead after where
  unread := by rw [reader]; exact holds.unread
  sorted := by rw [reader]; exact holds.sorted
  ended := by rw [done]; exact holds.ended
  corr := corr

theorem nextRaw_nil (reader : EvlogReader) (empty : reader.rest = []) : reader.nextRaw = (.ok none, reader) := by
  have starved : Evlog.readVarint [] = .error .unexpectedEof := Evlog.readVarintFrom_nil 0 0
  have same : { reader with rest := [] } = reader := by rw [← empty]
  unfold EvlogReader.nextRaw
  rw [empty, starved, same]

/-- What a log holds that can be told again. -/
structure Tellable (parse : SipParser) (ids : Finset String) (ev : Event) : Prop where
  fits : (Evlog.payloadOf ev).length ≤ Evlog.maxRecordLen
  parsed : ∀ e, ev = .sipMsg e → sipMsgEvt (evtToSipmsg parse e) = e
  inside : ∀ e, ev = .sipMsg e → e.callId ∈ ids

/-- The next record is read, or the end is met. -/
theorem reading_read {t : ReplayTurn} (holds : Reading r.parseMessage ids r.withTui past ahead w)
    (tellable : ∀ ev ∈ ahead, Tellable r.parseMessage ids ev) :
    ∃ past' ahead', past ++ ahead = past' ++ ahead' ∧
      Reading r.parseMessage ids r.withTui past' ahead' (w.read r t) := by
  cases ahead with
  | nil =>
    refine ⟨past, [], rfl, ?_⟩
    have ended := nextRaw_nil w.reader holds.unread
    unfold Replayer.read
    rw [ended]
    dsimp only
    split
    · exact holds.aside rfl rfl holds.corr
    · exact { unread := holds.unread, sorted := holds.sorted, ended := fun _ => rfl, corr := holds.corr }
  | cons ev rest =>
    refine ⟨past ++ [ev], rest, by simp, ?_⟩
    obtain ⟨fits, parsed, inside⟩ := tellable ev List.mem_cons_self
    obtain ⟨unread, sorted, ended, corr⟩ := holds
    have going : w.done = false := by
      cases finished : w.done with
      | false => rfl
      | true => cases ended finished
    rw [List.map_cons, List.pairwise_cons] at sorted
    have now : EvlogRecords.clockAfter w.reader.lastTs w.reader.lastTs ev = ev.tsUs :=
      Evlog.satAdd_satSub (sorted.1 ev.tsUs List.mem_cons_self)
    have next := EvlogRecords.nextRaw_record w.reader w.reader.lastTs ev _ unread fits
    rw [now] at next
    let started : Correlator := { w.corr with reg := w.corr.reg.ensureStart ev.tsUs }
    have starts : Replays r.parseMessage ids r.withTui past started :=
      corr.reg (board_of_same rfl rfl rfl) fun roomy => roomy.kept (each_of_same rfl) rfl
    have counted : Replays r.parseMessage ids r.withTui (past ++ [ev]) (applied r.parseMessage t.iter started ev) :=
      replays_applied t.iter starts ev parsed inside
    have goes : started.replayApply r.parseMessage t.iter (rawOf ev) =
        some (applied r.parseMessage t.iter started ev) :=
      apply_rawOf t.iter started ev (fits.trans_lt (by decide))
    have matched : ∀ {c past}, Replays r.parseMessage ids r.withTui past c →
        Replays r.parseMessage ids r.withTui past
          { c with reg := if c.reg.searchHint.isSome then c.reg.refreshSearchMatches t.iter else c.reg } := by
      intro c past holds
      split
      · exact holds.reg (board_refreshSearchMatches t.iter _) ((tends_roomy ids).refreshSearchMatches t.iter _)
      · exact holds
    unfold rawOf at goes
    unfold Replayer.read
    rw [next]
    dsimp only
    rw [goes]
    dsimp only
    split
    · exact { unread := rfl, sorted := sorted.2, ended := by simp [going], corr := matched counted }
    · exact { unread := rfl, sorted := sorted.2, ended := by simp [going], corr := counted }

/-- A publication moves no call. -/
theorem Reading.publish (holds : Reading parse ids tui past ahead w) (iter : Iteration) (full : Bool) :
    Reading parse ids tui past ahead (w.snapshot iter full).2 := by
  have kept : ∀ limit streamLimit, Replays parse ids tui past
      { w.corr with reg := (w.corr.reg.publishedWith iter w.ipStatsCache limit streamLimit).2.1 } := by
    intro limit streamLimit
    have same : (w.corr.reg.publishedWith iter w.ipStatsCache limit streamLimit).2.1 =
        (w.corr.reg.snapshotWith iter limit streamLimit).2 := rfl
    rw [same, SnapshotCaches.snapshot_registry]
    exact holds.corr.reg (board_of_same rfl rfl rfl) fun roomy => roomy.kept (each_of_same rfl) rfl
  cases full with
  | true => exact holds.aside rfl rfl (kept usizeMax usizeMax)
  | false => exact holds.aside rfl rfl (kept 500 1000)

theorem Reading.goOn (holds : Reading parse ids tui past ahead w) (onward : ReplayOnward) :
    Reading parse ids tui past ahead (w.goOn onward) := by
  cases onward <;> exact holds.aside rfl rfl holds.corr

/-- Whether an action makes the worker forget what it has read. -/
def clears (m : ReplayMonitor) : ReplayMonitor.Act → Bool
  | .work _ => decide (m.worker.stage = .clearing) && m.app.shared.clear
  | _ => false

/-- A worker somewhere in the log `evs`. -/
def Midway (parse : SipParser) (ids : Finset String) (tui : Bool) (evs : List Event) (w : Replayer) : Prop :=
  ∃ past ahead, evs = past ++ ahead ∧ Reading parse ids tui past ahead w

variable {evs : List Event}

theorem midway_work {m : ReplayMonitor} (t : ReplayTurn) (holds : Midway r.parseMessage ids r.withTui evs m.worker)
    (tellable : ∀ ev ∈ evs, Tellable r.parseMessage ids ev) (kept : clears m (.work t) = false) :
    Midway r.parseMessage ids r.withTui evs (m.workerStep r t).worker := by
  obtain ⟨past, ahead, rfl, reading⟩ := holds
  have tends := tends_roomy ids
  have aside : ∀ stage, Midway r.parseMessage ids r.withTui (past ++ ahead) { m.worker with stage } :=
    fun stage => ⟨past, ahead, rfl, reading.aside rfl rfl reading.corr⟩
  unfold ReplayMonitor.workerStep
  dsimp only
  cases at_stage : m.worker.stage with
  | quitting | pausing | idling | idleSearch => exact aside _
  | clearing =>
    have unset : m.app.shared.clear = false := by simpa [clears, at_stage] using kept
    simp only [unset, Bool.false_eq_true, if_false]
    exact aside _
  | reading =>
    obtain ⟨past', ahead', same, read⟩ :=
      reading_read (t := t) reading fun ev member => tellable ev (List.mem_append_right _ member)
    exact ⟨past', ahead', same, read⟩
  | focusing full onward =>
    exact ⟨past, ahead, rfl, reading.aside rfl rfl
      (reading.corr.reg (board_of_same rfl rfl rfl) fun roomy => roomy.kept (each_of_same rfl) rfl)⟩
  | searching full onward =>
    have same : board (m.worker.corr.reg.setSearchHint t.iter m.app.shared.search) = board m.worker.corr.reg := by
      unfold Registry.setSearchHint
      dsimp only
      split
      · rfl
      · exact board_refreshSearchMatches t.iter _
    exact ⟨past, ahead, rfl, reading.aside rfl rfl
      (reading.corr.reg same (tends.setSearchHint t.iter m.worker.corr.reg m.app.shared.search))⟩
  | storing full onward => exact ⟨past, ahead, rfl, (reading.publish t.iter full).goOn onward⟩
  | ended | aborted => exact ⟨past, ahead, rfl, reading⟩

theorem midway_step {m : ReplayMonitor} (act : ReplayMonitor.Act)
    (holds : Midway r.parseMessage ids r.withTui evs m.worker)
    (tellable : ∀ ev ∈ evs, Tellable r.parseMessage ids ev) (kept : clears m act = false) :
    Midway r.parseMessage ids r.withTui evs (m.step r act).worker := by
  unfold ReplayMonitor.step
  split
  · exact holds
  · cases act with
    | work t => exact midway_work t holds tellable kept
    | draw | key | leave =>
      dsimp only
      split <;> exact holds

/-! ## The replay of a session -/

/-- A replay of the log with these events, with room for its calls. -/
structure Replaying (parse : SipParser) (tz : Int32) (evs : List Event) (r : ReplaySession) : Prop where
  file : r.file = Evlog.sessionImage tz evs
  parser : r.parseMessage = parse
  keeps : r.config.keepTerminated = true
  room : (messageIds evs).card ≤ r.config.maxCalls

theorem midway_start (iter : Iteration) {tz : Int32} (replaying : Replaying parse tz evs r)
    (sorted : (evs.map Event.tsUs).Pairwise (· ≤ ·)) :
    Midway r.parseMessage (messageIds evs) r.withTui evs (ReplayMonitor.start iter r).worker := by
  obtain ⟨offset, reader⟩ := EvlogRecords.new_header tz (Evlog.records 0 evs)
  have opened : EvlogReader.new r.file = { rest := Evlog.records 0 evs, lastTs := 0, tzOffsetSecs := offset } := by
    rw [replaying.file, Evlog.sessionImage_eq, reader]
  have ordered : (0 :: evs.map Event.tsUs).Pairwise (· ≤ ·) :=
    List.pairwise_cons.mpr ⟨fun _ _ => UInt64.zero_le, sorted⟩
  have fresh : ∀ tui stats, stats = (if tui then some [] else none) → Replays r.parseMessage (messageIds evs) tui []
      { (Correlator.new iter r.config ("replay:" ++ r.path)).disableEvlogEmit with sessionStats := stats } := by
    intro tui stats empty
    constructor
    · exact replaying.keeps
    · rfl
    · refine ⟨fun id call found => ?_, replaying.room⟩
      cases found
    · rfl
    · cases tui <;> simp [empty, retold]
  refine ⟨[], evs, rfl, ?_⟩
  unfold ReplayMonitor.start
  dsimp only
  rw [opened]
  constructor
  · rfl
  · exact ordered
  · intro done
    cases done
  · cases r.withTui with
    | true => exact fresh true (some []) rfl
    | false => exact fresh false none rfl

/-- At the end of the log a replay knows what the log tells, however its threads interleave. -/
theorem replay_told (iter : Iteration) {tz : Int32} {racts : List ReplayMonitor.Act}
    (replaying : Replaying parse tz evs r) (sorted : (evs.map Event.tsUs).Pairwise (· ≤ ·))
    (fits : ∀ ev ∈ evs, (Evlog.payloadOf ev).length ≤ Evlog.maxRecordLen)
    (parsed : ∀ e, .sipMsg e ∈ evs → sipMsgEvt (evtToSipmsg parse e) = e)
    (uncleared : Run.Along (ReplayMonitor.step r) (fun m act => clears m act = false) (.start iter r) racts)
    (done : ((ReplayMonitor.start iter r).run r racts).worker.done = true) :
    Replays parse (messageIds evs) r.withTui evs ((ReplayMonitor.start iter r).run r racts).worker.corr := by
  have started := midway_start iter replaying sorted
  have tellable : ∀ ev ∈ evs, Tellable r.parseMessage (messageIds evs) ev := by
    intro ev member
    constructor
    · exact fits ev member
    · rintro e rfl
      rw [replaying.parser]
      exact parsed e member
    · rintro e rfl
      exact mem_messageIds member
  obtain ⟨past, ahead, split, reading⟩ := uncleared.invariant
    (P := fun m => Midway r.parseMessage (messageIds evs) r.withTui evs m.worker)
    (fun _ act kept holds => midway_step act holds tellable kept) started
  have through : ahead = [] := reading.ended done
  rw [through, List.append_nil] at split
  have corr := reading.corr
  rw [replaying.parser, ← split] at corr
  exact corr

section
variable (iter riter : Iteration) {s : Session} {acts : List Monitor.Act} {r : ReplaySession}
  {racts : List ReplayMonitor.Act} (tz : Int32)

/-- A replay of the log of a session restores its calls and what was reported of them. -/
theorem replay_restores (archives : Archives iter s acts)
    (ended : ((Monitor.start iter s).run s acts).pipe.stage = .ended)
    (forward : ((framesOf s (.start iter s) acts).map Frame.tsUs).Pairwise (· ≤ ·))
    (fits : ∀ ev ∈ ((Monitor.start iter s).run s acts).pipe.written,
      (Evlog.payloadOf ev).length ≤ Evlog.maxRecordLen)
    (replaying : Replaying s.dec.parseMessage tz ((Monitor.start iter s).run s acts).pipe.written r)
    (uncleared : Run.Along (ReplayMonitor.step r) (fun m act => clears m act = false) (.start riter r) racts)
    (done : ((ReplayMonitor.start riter r).run r racts).worker.done = true) :
    let live := ((Monitor.start iter s).run s acts).pipe.corr
    let again := ((ReplayMonitor.start riter r).run r racts).worker.corr
    (∀ id, (again.reg.calls.lookup id).map signaling = (live.reg.calls.lookup id).map signaling) ∧
      again.terminalDone = live.terminalDone := by
  intro live again
  obtain ⟨told_live, parsed⟩ := archive_told iter archives (by rw [ended]; rfl)
  have holds := replay_told riter replaying (sorted_written iter acts forward) fits parsed uncleared done
  have same : knows live = knows again := by
    have known := holds.known
    rw [told_live] at known
    exact known
  constructor
  · exact fun id => (congrFun (congrArg Known.call same) id).symm
  · exact (congrArg Known.done same).symm

/-- When every end of a call that the log holds has its own time, the replay reports on its
exit what a scan of the file counts, but for the diagnostics and the time range. -/
theorem replay_reports (archives : Archives iter s acts)
    (ended : ((Monitor.start iter s).run s acts).pipe.stage = .ended)
    (forward : ((framesOf s (.start iter s) acts).map Frame.tsUs).Pairwise (· ≤ ·))
    (fits : ∀ ev ∈ ((Monitor.start iter s).run s acts).pipe.written,
      (Evlog.payloadOf ev).length ≤ Evlog.maxRecordLen)
    (own : ∀ ev ∈ ((Monitor.start iter s).run s acts).pipe.written, dated ev = true)
    (replaying : Replaying s.dec.parseMessage tz ((Monitor.start iter s).run s acts).pipe.written r)
    (uncleared : Run.Along (ReplayMonitor.step r) (fun m act => clears m act = false) (.start riter r) racts)
    (done : ((ReplayMonitor.start riter r).run r racts).worker.done = true) (tui : r.withTui = true) :
    ((ReplayMonitor.start riter r).run r racts).worker.corr.sessionStats.map
        (fun out => blur (out.foldl StatsAcc.ingest {})) = some (blur (StatsAcc.scanRecords (.new r.file))) := by
  obtain ⟨told_live, parsed⟩ := archive_told iter archives (by rw [ended]; rfl)
  have sorted := sorted_written iter acts forward
  have counted := (replay_told riter replaying sorted fits parsed uncleared done).counted
  rw [if_pos tui, told_live] at counted
  obtain ⟨out, fed, same⟩ := Option.map_eq_some_iff.mp counted
  have out_own : ∀ ev ∈ out, dated ev = true := dated_of_told same own
  have alike : blur (out.foldl StatsAcc.ingest {}) = blur (List.foldl StatsAcc.ingest {} _) :=
    alike_of_told same out_own own
  rw [fed, replaying.file, scan_sorted tz sorted fits, Option.map_some, alike]

end

/-! ## A call that was refused -/

/-- An INVITE of the call `c1`, or its refusal. -/
def refusalParser : SipParser := fun raw =>
  some { start := if raw.head? = some 73 then .request .invite else .response 486
         callId := some "c1", cseq := some "1 INVITE", topVia := none
         fromValue := none, toValue := none, contact := none
         contentType := none, compactType := none, routes := 0, recordRoutes := 0 }

def archive : Session :=
  { wire with dec := { wire.dec with parseMessage := refusalParser }, config.callTtlSecs := 0 }

def refusalFrame (tsUs : UInt64) : Frame where
  tsUs := tsUs
  decoded := some (⟨.udp, ⟨.v4 ⟨10, 0, 0, 2⟩, 5060⟩, ⟨.v4 ⟨8, 8, 8, 8⟩, 5060⟩⟩,
    .udp "SIP/2.0 486 Busy Here".toUTF8.toList)
  iters _ := .stored
  fuel := 0

def archiveActs : List Monitor.Act :=
  (List.replicate 3 (reads []) ++ reads [wireFrame 1000, refusalFrame 2000] :: List.replicate 11 (reads [])).map .pipe

/-- The replay of its log. -/
def rerun : ReplaySession where
  parseMessage := refusalParser
  config := {}
  path := "c1.evlog"
  file := Evlog.sessionImage 3600 ((Monitor.start .stored archive).run archive archiveActs).pipe.written
  withTui := true
  widget _ selected := selected

def rerunActs : List ReplayMonitor.Act := List.replicate 30 (.work ⟨.stored, false⟩)

theorem archives_refusal : Archives .stored archive archiveActs where
  recording := rfl
  whole := rfl
  keeps := rfl
  shown := .inr rfl
  lasting := rfl
  uncleared := by decide +kernel
  room := by decide +kernel

theorem replaying_refusal : Replaying archive.dec.parseMessage 3600
    ((Monitor.start .stored archive).run archive archiveActs).pipe.written rerun where
  file := rfl
  parser := rfl
  keeps := rfl
  room := by decide +kernel

theorem replay_restores_refusal :
    let live := ((Monitor.start .stored archive).run archive archiveActs).pipe.corr
    let again := ((ReplayMonitor.start .stored rerun).run rerun rerunActs).worker.corr
    (∀ id, (again.reg.calls.lookup id).map signaling = (live.reg.calls.lookup id).map signaling) ∧
      again.terminalDone = live.terminalDone :=
  replay_restores .stored .stored 3600 archives_refusal (by decide +kernel) (by decide +kernel) (by decide +kernel)
    replaying_refusal (by decide +kernel) (by decide +kernel)

theorem replay_reports_refusal :
    ((ReplayMonitor.start .stored rerun).run rerun rerunActs).worker.corr.sessionStats.map
        (fun out => blur (out.foldl StatsAcc.ingest {})) = some (blur (StatsAcc.scanRecords (.new rerun.file))) :=
  replay_reports .stored .stored 3600 archives_refusal (by decide +kernel) (by decide +kernel) (by decide +kernel)
    (by decide +kernel) replaying_refusal (by decide +kernel) (by decide +kernel) rfl

end Sipmon.Guarantees.ReplayRun
