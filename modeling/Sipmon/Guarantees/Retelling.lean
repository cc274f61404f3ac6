import Sipmon.Guarantees.Recording
import Sipmon.Guarantees.ToldEvents

/-!
# A recorded log tells its session again

As long as no call is taken away, what a session knows of its calls is what its log says:
told again event by event, the log yields the same calls in the same states, and itself.
-/
namespace Sipmon.Guarantees.Retelling
open Source Lib Correlator CallTable EventTimes Deeds Recording FrameMoves ToldEvents
open Lib.ByteReader (Bytes)
open Evlog (Event)

/-! ## Telling a log again -/

/-- One event of a log; the raw text of a message is parsed anew. -/
def retell (parse : SipParser) (s : Known × List Event) (ev : Event) : Known × List Event :=
  match ev with
  | .sipMsg e => ((s.1.relate (evtToSipmsg parse e)).1, s.2 ++ (s.1.relate (evtToSipmsg parse e)).2)
  | .streamSnap _ | .rtcpRtt _ => (s.1, s.2 ++ (told ev).toList)
  | _ => s

def unknown : Known := { call := fun _ => none, done := ∅ }

def retold (parse : SipParser) (evs : List Event) : Known × List Event :=
  evs.foldl (retell parse) (unknown, [])

/-- The Call-ID of a message. -/
def messageId : Event → Option String
  | .sipMsg e => some e.callId
  | _ => none

def messageIds (evs : List Event) : Finset String := (evs.filterMap messageId).toFinset

variable {parse : SipParser}

theorem retold_append (evs news : List Event) :
    retold parse (evs ++ news) = news.foldl (retell parse) (retold parse evs) := by
  unfold retold
  rw [List.foldl_append]

/-- Only what is told matters. -/
theorem foldl_told (evs : List Event) (s : Known × List Event) :
    evs.foldl (retell parse) s = (evs.filterMap told).foldl (retell parse) s := by
  induction evs generalizing s with
  | nil => rfl
  | cons ev rest ih =>
    have same : retell parse s ev = (told ev).toList.foldl (retell parse) s := by cases ev <;> rfl
    rw [List.foldl_cons, same, ih]
    cases again : told ev with
    | none => rw [List.filterMap_cons_none again]; rfl
    | some other => rw [List.filterMap_cons_some again]; rfl

theorem foldl_media {evs : List Event} (medium : ∀ ev ∈ evs, media ev = true)
    (fixed : ∀ ev ∈ evs, told ev = some ev) (s : Known × List Event) :
    evs.foldl (retell parse) s = (s.1, s.2 ++ evs) := by
  induction evs generalizing s with
  | nil => simp
  | cons ev rest ih =>
    have one : retell parse s ev = (s.1, s.2 ++ [ev]) := by
      have again := fixed ev List.mem_cons_self
      have kind := medium ev List.mem_cons_self
      cases ev <;> simp_all [retell, media]
    rw [List.foldl_cons, one, ih (fun ev member => medium ev (List.mem_cons_of_mem _ member))
      fun ev member => fixed ev (List.mem_cons_of_mem _ member)]
    simp

/-- A message told again, and the end it brings about. -/
theorem foldl_relate {msg : SipMsg} (again : evtToSipmsg parse (sipMsgEvt msg) = msg) (s : Known × List Event) :
    (s.1.relate msg).2.foldl (retell parse) s = ((s.1.relate msg).1, s.2 ++ (s.1.relate msg).2) := by
  have first : retell parse s (.sipMsg (sipMsgEvt msg)) = ((s.1.relate msg).1, s.2 ++ (s.1.relate msg).2) := by
    simp [retell, again]
  have shape : (s.1.relate msg).2 = [.sipMsg (sipMsgEvt msg)] ∨
      ∃ id call, (s.1.relate msg).2 = [.sipMsg (sipMsgEvt msg), ending id call] := by
    unfold Known.relate
    dsimp only
    split
    · exact .inr ⟨_, _, rfl⟩
    · exact .inl rfl
  rcases shape with one | ⟨id, call, two⟩
  · calc (s.1.relate msg).2.foldl (retell parse) s = retell parse s (.sipMsg (sipMsgEvt msg)) := by rw [one]; rfl
      _ = _ := first
  · calc (s.1.relate msg).2.foldl (retell parse) s = retell parse s (.sipMsg (sipMsgEvt msg)) := by rw [two]; rfl
      _ = _ := first

theorem messageIds_append (evs news : List Event) : messageIds evs ⊆ messageIds (evs ++ news) := by
  intro id member
  simp only [messageIds, List.filterMap_append, List.mem_toFinset, List.mem_append] at member ⊢
  exact .inl member

theorem mem_messageIds {evs : List Event} {e : Evlog.SipMsgEvt} (member : .sipMsg e ∈ evs) :
    e.callId ∈ messageIds evs := by
  rw [messageIds, List.mem_toFinset, List.mem_filterMap]
  exact ⟨.sipMsg e, member, rfl⟩

/-- A message whose text is whole is parsed again from what is recorded of it. -/
theorem parsed_again {tsUs : UInt64} {flow : Flow5Tuple} {raw : Bytes} {msg : SipMsg}
    (parsed : parseSip parse none tsUs flow raw = some msg) : evtToSipmsg parse (sipMsgEvt msg) = msg := by
  have source : msg.tsUs = tsUs ∧ msg.flow = flow ∧ msg.raw = raw := by
    unfold parseSip at parsed
    split at parsed
    · cases parsed
    · obtain ⟨parts, -, rest⟩ := Option.bind_eq_some_iff.mp parsed
      obtain ⟨callId, -, built⟩ := Option.bind_eq_some_iff.mp rest
      obtain rfl := Option.some.inj built
      exact ⟨rfl, rfl, rfl⟩
  obtain ⟨rfl, rfl, rfl⟩ := source
  simp [evtToSipmsg, sipMsgEvt, parsed]

/-! ## A session and its log -/

/-- A session in which nothing is taken away as long as its calls are among `ids`: its log
tells it again. -/
structure Chronicle (parse : SipParser) (ids : Finset String) (written : List Event) (c : Correlator) : Prop where
  keep : c.keepTerminated = true
  ttl : c.callTtlSecs = 0
  emit : c.emitEvlog = true
  drained : c.reg.removed = []
  parsed : ∀ e, .sipMsg e ∈ written ++ c.pendingEvents → sipMsgEvt (evtToSipmsg parse e) = e
  faithful : messageIds (written ++ c.pendingEvents) ⊆ ids → Roomy ids c.reg ∧
    retold parse (written ++ c.pendingEvents) = (knows c, (written ++ c.pendingEvents).filterMap told)

variable {ids : Finset String} {written : List Event} {c after : Correlator}

/-- What is told besides is added to the log. -/
theorem Chronicle.grows (holds : Chronicle parse ids written c) {evs : List Event} (logs : Logs c after evs) :
    written ++ after.pendingEvents = written ++ c.pendingEvents ++ evs := by
  rw [logs.pending, if_pos holds.emit, List.append_assoc]

theorem told_fixed {evs : List Event} : ∀ ev ∈ evs.filterMap told, told ev = some ev := by
  intro ev member
  obtain ⟨was, -, again⟩ := List.mem_filterMap.mp member
  exact told_told again

/-- A step that tells of media leaves the chronicle true. -/
theorem Chronicle.media (holds : Chronicle parse ids written c) (tells : TellsMedia c after)
    (drained : after.reg.removed = [])
    (kept : Roomy ids c.reg → Roomy ids after.reg ∧ knows after = knows c) : Chronicle parse ids written after := by
  obtain ⟨news, ⟨⟨evs, logs, again⟩, keep, ttl⟩, medium⟩ := tells
  have log := holds.grows logs
  constructor
  · exact keep.trans holds.keep
  · exact ttl.trans holds.ttl
  · exact logs.emit.trans holds.emit
  · exact drained
  · intro e member
    rw [log] at member
    rcases List.mem_append.mp member with early | late
    · exact holds.parsed e early
    · have among : .sipMsg e ∈ news := again ▸ List.mem_filterMap.mpr ⟨.sipMsg e, late, rfl⟩
      cases medium _ among
  · intro within
    rw [log] at within ⊢
    obtain ⟨roomy, told_before⟩ := holds.faithful ((messageIds_append _ evs).trans within)
    obtain ⟨still, same⟩ := kept roomy
    refine ⟨still, ?_⟩
    have fixed : ∀ ev ∈ news, told ev = some ev := again ▸ told_fixed
    generalize written ++ c.pendingEvents = before at told_before ⊢
    rw [retold_append, told_before, foldl_told, again, foldl_media medium fixed, same, List.filterMap_append, again]

/-- So does a message whose text is whole. -/
theorem Chronicle.sip (holds : Chronicle parse ids written c) (iter : Iteration) {msg : SipMsg}
    (parsed : evtToSipmsg parse (sipMsgEvt msg) = msg) : Chronicle parse ids written (c.ingestSip iter msg) := by
  obtain ⟨⟨evs, logs, again⟩, keep, ttl⟩ := tells_ingestSip iter c msg
  have log := holds.grows logs
  have first : .sipMsg (sipMsgEvt msg) ∈ ((knows c).relate msg).2 := by
    unfold Known.relate
    dsimp only
    split <;> simp
  have only : ∀ e, .sipMsg e ∈ ((knows c).relate msg).2 → e = sipMsgEvt msg := by
    intro e member
    unfold Known.relate at member
    dsimp only at member
    split at member <;> simp_all [ending]
  constructor
  · exact keep.trans holds.keep
  · exact ttl.trans holds.ttl
  · exact logs.emit.trans holds.emit
  · exact removed_ingestSip iter holds.drained msg
  · intro e member
    rw [log] at member
    rcases List.mem_append.mp member with early | late
    · exact holds.parsed e early
    · have among : .sipMsg e ∈ ((knows c).relate msg).2 :=
        again ▸ List.mem_filterMap.mpr ⟨.sipMsg e, late, rfl⟩
      rw [only e among, parsed]
  · intro within
    rw [log] at within ⊢
    obtain ⟨roomy, told_before⟩ := holds.faithful ((messageIds_append _ evs).trans within)
    have own : msg.callId ∈ ids := by
      obtain ⟨was, late, same⟩ := List.mem_filterMap.mp (again ▸ first)
      have recorded : .sipMsg (sipMsgEvt msg) ∈ evs := by
        cases was <;> simp_all [told]
      exact within (mem_messageIds (List.mem_append_right _ recorded))
    have stays : Roomy ids (c.ingestSip iter msg).reg := roomy_ingestSip iter own roomy
    refine ⟨stays, ?_⟩
    generalize written ++ c.pendingEvents = before at told_before ⊢
    rw [retold_append, told_before, foldl_told, again, foldl_relate parsed,
      knows_ingestSip iter holds.drained holds.keep own roomy, List.filterMap_append, again]

/-! ## Sessions -/

/-- A step that does not move the table. -/
theorem Chronicle.idle (holds : Chronicle parse ids written c) (tells : TellsMedia c after)
    (same : table after = table c) (roomy : Roomy ids c.reg → Roomy ids after.reg) :
    Chronicle parse ids written after := by
  have removed : after.reg.removed = c.reg.removed := congrArg Table.removed same
  have known : knows after = knows c := by rw [knows, same, knows]
  exact holds.media tells (removed.trans holds.drained) fun there => ⟨roomy there, known⟩

theorem chronicle_flush (holds : Chronicle parse ids written c) (iter : Iteration) (ts : UInt64) :
    Chronicle parse ids written (c.maybePeriodicFlush iter ts) := by
  have moved := table_maybePeriodicFlush iter holds.drained ts
  have removed : (c.maybePeriodicFlush iter ts).reg.removed = c.reg.removed := congrArg Table.removed moved
  apply holds.media (tells_maybePeriodicFlush iter c ts) (removed.trans holds.drained)
  intro roomy
  rw [flushGone_roomy iter ts holds.ttl roomy, Table.depart_nil] at moved
  refine ⟨(tends_roomy ids).flush iter c ts (fun _ _ _ there => there.kept (fun inside => inside) rfl) roomy, ?_⟩
  rw [knows, moved, knows]

theorem chronicle_move {dec : Decoder} (whole : dec.rawTruncate = none) {ts : UInt64} {m : Move}
    (at_ts : m.At dec ts) (holds : Chronicle dec.parseMessage ids written c) :
    Chronicle dec.parseMessage ids written (m.run c) := by
  have tends := tends_roomy ids
  cases at_ts with
  | touch iter =>
    have quiet : Tells c { c with reg := c.reg.touchTime ts } [] := .reg c _
    exact holds.media quiet.media holds.drained fun roomy => ⟨roomy.kept (fun inside => inside) rfl, rfl⟩
  | @sip iter _ _ msg parsed =>
    rw [whole] at parsed
    exact holds.sip iter (parsed_again parsed)
  | rtp iter flow header len encap =>
    exact holds.idle (tells_ingestRtp c ts flow header len encap).media (table_ingestRtp c ts flow header len encap)
      (tends.ingestRtp c ts flow header len encap)
  | rtcp iter flow msg =>
    exact holds.idle (tells_ingestRtcp c ts flow msg) (table_ingestRtcp c ts flow msg)
      (tends.ingestRtcp c ts flow msg)
  | @turn tracker diags _ =>
    have turned : Tells c { c with turn := tracker } [] := .silent rfl rfl rfl rfl rfl
    exact holds.idle (turned.quietly (tells_nothing.addDiagnostics _ diags)).media
      (blind_table.addDiagnostics { c with turn := tracker } diags)
      (tends.respects.addDiagnostics { c with turn := tracker } diags)
  | reassembled tcpReasm =>
    have fed : Tells c { c with tcpReasm } [] := .silent rfl rfl rfl rfl rfl
    exact holds.idle fed.media rfl (fun roomy => roomy)

theorem chronicle_frame {dec : Decoder} (whole : dec.rawTruncate = none) {iters : Nat → Iteration} {fuel : Nat}
    {ts : UInt64} {decoded : Option (Flow5Tuple × L4)}
    (returned : c.ingestFrame dec iters fuel ts decoded = some after)
    (holds : Chronicle dec.parseMessage ids written c) : Chronicle dec.parseMessage ids written after := by
  have touched := chronicle_move whole (.touch .stored : Move.At dec ts _) holds
  exact (moved_ingestFrame returned).invariant (P := Chronicle dec.parseMessage ids written)
    (fun _ _ at_ts kept => chronicle_move whole at_ts kept) touched

/-- A chronicle of the correlator and its log file. -/
def Told (s : Session) (ids : Finset String) (now : Correlator × List Event) : Prop :=
  Chronicle s.dec.parseMessage ids now.2 now.1

theorem told_deed {s : Session} (whole : s.dec.rawTruncate = none) (recording : s.recording = true) {d : Deed}
    (uncleared : d ≠ .clear) {now : Correlator × List Event} (holds : Told s ids now) :
    Told s ids (d.run s now) := by
  have tends := tends_roomy ids
  obtain ⟨c, written⟩ := now
  cases d with
  | frame f =>
    cases returned : c.ingestFrame s.dec f.iters f.fuel f.tsUs f.decoded with
    | none => simpa [Deed.run, returned] using holds
    | some after => simpa [Told, Deed.run, returned] using chronicle_frame whole returned holds
  | flush iter => exact chronicle_flush holds iter _
  | idle iter => exact chronicle_flush holds iter 0
  | take =>
    have same : written ++ c.pendingEvents ++ c.takeEvents.2.pendingEvents = written ++ c.pendingEvents :=
      List.append_nil _
    have handed : Deed.take.run s (c, written) = (c.takeEvents.2, written ++ c.pendingEvents) := by
      simp [Deed.run, recording]
    rw [handed]
    exact { keep := holds.keep, ttl := holds.ttl, emit := holds.emit, drained := holds.drained
            parsed := fun e member => holds.parsed e (same ▸ member)
            faithful := by rw [same]; exact holds.faithful }
  | clear => exact absurd rfl uncleared
  | focus hint =>
    exact holds.idle (Tells.reg c _).media rfl fun roomy => roomy.kept (fun inside => inside) rfl
  | search iter q =>
    have same : table (c.setSearch iter q) = table c := by
      have moved := table_step holds.drained (iter, .search q)
      exact moved
    exact holds.idle (Tells.reg c _).media same (tends.setSearchHint iter c.reg q)
  | publish iter limit streamLimit =>
    simp only [Told, Deed.run]
    rw [SnapshotCaches.snapshot_registry]
    exact holds.idle (Tells.reg c _).media rfl fun roomy => roomy.kept (fun inside => inside) rfl

theorem told_deeds {s : Session} (whole : s.dec.rawTruncate = none) (recording : s.recording = true)
    {ds : List Deed} (uncleared : ds.any Deed.clears = false) {now : Correlator × List Event}
    (holds : Told s ids now) : Told s ids (ds.foldl (Deed.run s) now) := by
  have kept : ∀ d ∈ ds, d ≠ .clear := by
    intro d member cleared
    subst cleared
    have some_clear : ds.any Deed.clears = true := List.any_eq_true.mpr ⟨.clear, member, rfl⟩
    rw [uncleared] at some_clear
    cases some_clear
  exact (Run.along_of_forall now kept).invariant (P := Told s ids)
    (fun _ _ step_kept told_before => told_deed whole recording step_kept told_before) holds

/-- A session that records every message whole and takes no call away: the ended ones are
kept, none is too old, and there is room for all. -/
structure Archives (iter : Iteration) (s : Session) (acts : List Monitor.Act) : Prop where
  recording : s.recording = true
  whole : s.dec.rawTruncate = none
  keeps : s.config.keepTerminated = true
  shown : s.withTui = true ∨ s.quiet = false
  lasting : s.config.callTtlSecs = 0
  uncleared : (deedsOf s (.start iter s) acts).any Deed.clears = false
  room : (messageIds ((Monitor.start iter s).run s acts).pipe.written).card ≤ s.config.maxCalls

theorem told_start (iter : Iteration) {s : Session} (keeps : s.config.keepTerminated = true)
    (shown : s.withTui = true ∨ s.quiet = false) (lasting : s.config.callTtlSecs = 0)
    (room : ids.card ≤ s.config.maxCalls) : Told s ids (held (Monitor.start iter s)) := by
  have kept : (!s.withTui && s.quiet) = false := by rcases shown with tui | loud <;> simp_all
  have fresh : Chronicle s.dec.parseMessage ids [] (.new iter s.config s.name) := by
    constructor
    · exact keeps
    · exact lasting
    · rfl
    · rfl
    · intro e member
      cases member
    · intro _
      refine ⟨⟨fun id call found => ?_, room⟩, rfl⟩
      cases found
  unfold Told held Monitor.start
  simp only [kept, Bool.false_eq_true, if_false]
  split
  · have enabled : Correlator.enableSessionStats (.new iter s.config s.name) =
        { (Correlator.new iter s.config s.name) with sessionStats := some [] } := rfl
    rw [enabled]
    exact { keep := fresh.keep, ttl := fresh.ttl, emit := fresh.emit, drained := fresh.drained
            parsed := fresh.parsed, faithful := fresh.faithful }
  · exact fresh

/-- The log of such a session, once nothing waits, tells its calls and itself. -/
theorem archive_told (iter : Iteration) {s : Session} {acts : List Monitor.Act} (archives : Archives iter s acts)
    (leaves : leaving ((Monitor.start iter s).run s acts).pipe.stage = true) :
    let m := (Monitor.start iter s).run s acts
    retold s.dec.parseMessage m.pipe.written = (knows m.pipe.corr, m.pipe.written.filterMap told) ∧
      ∀ e, .sipMsg e ∈ m.pipe.written → sipMsgEvt (evtToSipmsg s.dec.parseMessage e) = e := by
  intro m
  have started : Told s (messageIds m.pipe.written) (held (.start iter s)) :=
    told_start iter archives.keeps archives.shown archives.lasting archives.room
  have chronicle := told_deeds archives.whole archives.recording archives.uncleared started
  rw [← held_run s acts (orderly_start iter s)] at chronicle
  have nothing : m.pipe.corr.pendingEvents = [] := drained_start iter acts leaves
  have log : (held m).2 ++ (held m).1.pendingEvents = m.pipe.written := by
    rw [held, nothing, List.append_nil]
  obtain ⟨-, told_now⟩ := chronicle.faithful (by rw [log])
  have parsed := chronicle.parsed
  rw [log] at told_now parsed
  exact ⟨told_now, parsed⟩

end Sipmon.Guarantees.Retelling
