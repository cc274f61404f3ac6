import Sipmon.Guarantees.SnapDecoders
import Sipmon.Guarantees.StatsAgreement
import Sipmon.Guarantees.StreamSheet
import Sipmon.Source.Export

/-!
# What an export lists

The recorded streams and diagnostics are added to the snapshot as they come. A
stream that was flushed twice is listed twice, and a diagnostic that its message
raises again stands beside its own record.
-/
namespace Sipmon.Guarantees.ExportOnce
open Lib Lib.ByteReader Source Source.Evlog Views StreamSheet EvlogPayloads EvlogRecords SnapDecoders
  StatsAgreement

/-! ## What a log holds -/

def messageOf (parseMessage : SipParser) (raw : RawRecord) : Option SipMsg :=
  if raw.ty = 1 then
    match decodePayload raw.ty raw.tsUs raw.payload with
    | .ok (.sipMsg e) => some (evtToSipmsg parseMessage e)
    | _ => none
  else none

def streamOf (raw : RawRecord) : Option StreamSummary :=
  if raw.ty = 4 then parseStreamSummary raw.payload else none

def diagnosticOf (raw : RawRecord) : Option Diagnostic :=
  if raw.ty = 8 then
    match decodePayload raw.ty raw.tsUs raw.payload with
    | .ok (.diag e) => some (recordedDiagnostic e)
    | _ => none
  else none

def rawRecords (file : Bytes) : List RawRecord := (EvlogReader.new file).rawReplay.1

def recordedMessages (parseMessage : SipParser) (file : Bytes) : List SipMsg :=
  (rawRecords file).filterMap (messageOf parseMessage)

/-- The flushed summaries, in file order. -/
def recordedStreams (file : Bytes) : List StreamSummary := (rawRecords file).filterMap streamOf

def recordedDiags (file : Bytes) : List Diagnostic := (rawRecords file).filterMap diagnosticOf

/-! ### The log of one run -/

theorem parseStreamSummary_encode (e : StreamSnapEvt) (short : (encodeStreamSnap e).length < 2 ^ 64) :
    parseStreamSummary (encodeStreamSnap e) = some (summaryOf e) := by
  have text : CallIdIsUtf8 (encodeStreamSnap e) := by
    unfold encodeStreamSnap at short ⊢
    simp only [List.append_assoc] at short ⊢
    exact callIdIsUtf8_written e.callId _ short
  have decoded := decodePayload_payloadOf e.tsUs (.streamSnap e) short
  rw [show e.tsUs = (Event.streamSnap e).tsUs from rfl, Event.retime_tsUs] at decoded
  obtain ⟨rest, read⟩ := decodePayload_streamSnap decoded
  exact parseStreamSummary_decoded text read

def eventMessage (parseMessage : SipParser) : Event → Option SipMsg
  | .sipMsg e => some (evtToSipmsg parseMessage e)
  | _ => none

def eventStream : Event → Option StreamSummary
  | .streamSnap e => some (summaryOf e)
  | _ => none

def eventDiagnostic : Event → Option Diagnostic
  | .diag e => some (recordedDiagnostic e)
  | _ => none

theorem facts_rawOf (parseMessage : SipParser) (ev : Event) (short : (payloadOf ev).length < 2 ^ 64) :
    messageOf parseMessage (rawOf ev) = eventMessage parseMessage ev ∧
      streamOf (rawOf ev) = eventStream ev ∧ diagnosticOf (rawOf ev) = eventDiagnostic ev := by
  have decoded := decodePayload_payloadOf ev.tsUs ev short
  rw [Event.retime_tsUs] at decoded
  unfold messageOf streamOf diagnosticOf rawOf
  dsimp only
  rw [decoded]
  cases ev with
  | streamSnap e =>
    have parsed : parseStreamSummary (payloadOf (.streamSnap e)) = some (summaryOf e) :=
      parseStreamSummary_encode e short
    simp [typeOf, encodeEventPayload, EvType.toByte, eventMessage, eventStream, eventDiagnostic, parsed]
  | _ => simp [typeOf, encodeEventPayload, EvType.toByte, eventMessage, eventStream, eventDiagnostic]

/-- The log of a run that wrote its events in order holds their facts. -/
theorem recorded_session (parseMessage : SipParser) (tz : Int32) (evs : List Event)
    (sorted : (evs.map Event.tsUs).Pairwise (· ≤ ·))
    (fits : ∀ ev ∈ evs, (payloadOf ev).length ≤ maxRecordLen) :
    recordedMessages parseMessage (sessionImage tz evs) = evs.filterMap (eventMessage parseMessage) ∧
      recordedStreams (sessionImage tz evs) = evs.filterMap eventStream ∧
      recordedDiags (sessionImage tz evs) = evs.filterMap eventDiagnostic := by
  obtain ⟨offset, reader⟩ := new_header tz (records 0 evs)
  have ordered : (0 :: evs.map Event.tsUs).Pairwise (· ≤ ·) :=
    List.pairwise_cons.mpr ⟨fun _ _ => UInt64.zero_le, sorted⟩
  have replayed := rawReplay_sorted evs { rest := records 0 evs, lastTs := 0, tzOffsetSecs := offset }
    ordered rfl fits
  have raws : rawRecords (sessionImage tz evs) = evs.map rawOf := by
    rw [rawRecords, sessionImage_eq, reader, replayed]
  have facts := fun ev member => facts_rawOf parseMessage ev (short_of_fits (fits ev member))
  unfold recordedMessages recordedStreams recordedDiags
  rw [raws, List.filterMap_map, List.filterMap_map, List.filterMap_map]
  exact ⟨List.filterMap_congr fun ev member => (facts ev member).1,
    List.filterMap_congr fun ev member => (facts ev member).2.1,
    List.filterMap_congr fun ev member => (facts ev member).2.2⟩

/-! ### The property -/

/-- One row for each call, SSRC and flow, the last one recorded; one row for each
recorded diagnostic. -/
structure ListsOnce (snap : Snapshot) (file : Bytes) : Prop where
  streams : ∀ key, snap.streams.filter (importKey · = key) =
    ((recordedStreams file).filter (importKey · = key)).getLast?.toList
  diagnostics : ∀ d ∈ recordedDiags file, snap.diagnostics.count d = (recordedDiags file).count d

/-! ## The loop -/

theorem record_whole (parseMessage : SipParser) (iter : Iteration) (x : ExportState) (raw : RawRecord) :
    ∃ buckets, x.record parseMessage iter none none raw =
      { corr := (messageOf parseMessage raw).toList.foldl (ExportState.reingest iter) x.corr
        streamsExtra := x.streamsExtra ++ (streamOf raw).toList
        diagsExtra := x.diagsExtra ++ (diagnosticOf raw).toList
        bucketsExtra := buckets } := by
  have code : ∀ n : UInt8, raw.ty = n ↔ raw.ty.toNat = n.toNat := fun n => UInt8.toNat_inj.symm
  unfold ExportState.record messageOf streamOf diagnosticOf
  simp only [code, show ExportState.inRange none none raw.tsUs = true from rfl]
  generalize decodePayload raw.ty raw.tsUs raw.payload = decoded
  generalize raw.ty.toNat = ty
  split
  · rcases decoded with _ | ev
    · exact ⟨x.bucketsExtra, by simp⟩
    · cases ev <;> exact ⟨x.bucketsExtra, by simp⟩
  · cases parseStreamSummary raw.payload <;> exact ⟨x.bucketsExtra, by simp⟩
  · rcases decoded with _ | ev
    · exact ⟨x.bucketsExtra, by simp⟩
    · cases ev <;> exact ⟨x.bucketsExtra, by simp⟩
  · rcases decoded with _ | ev
    · exact ⟨x.bucketsExtra, by simp⟩
    · cases ev with
      | healthBucket e => exact ⟨x.bucketsExtra ++ [(e.bucketUs, e.dimKey, e.metrics)], by simp⟩
      | _ => exact ⟨x.bucketsExtra, by simp⟩
  · next notMessage notStream notDiag _ =>
    have others : ty ≠ 1 ∧ ty ≠ 4 ∧ ty ≠ 8 := ⟨notMessage, notStream, notDiag⟩
    exact ⟨x.bucketsExtra, by simp [others]⟩

theorem filterMap_cons_toList {α β : Type} (f : α → Option β) (a : α) (l : List α) :
    (a :: l).filterMap f = (f a).toList ++ l.filterMap f := by
  cases found : f a <;> simp [found]

theorem foldl_record (parseMessage : SipParser) (iter : Iteration) (raws : List RawRecord) (x : ExportState) :
    ∃ buckets, raws.foldl (ExportState.record parseMessage iter none none) x =
      { corr := (raws.filterMap (messageOf parseMessage)).foldl (ExportState.reingest iter) x.corr
        streamsExtra := x.streamsExtra ++ raws.filterMap streamOf
        diagsExtra := x.diagsExtra ++ raws.filterMap diagnosticOf
        bucketsExtra := buckets } := by
  induction raws generalizing x with
  | nil => exact ⟨x.bucketsExtra, by simp⟩
  | cons raw rest ih =>
    obtain ⟨first, here⟩ := record_whole parseMessage iter x raw
    obtain ⟨buckets, later⟩ := ih (x.record parseMessage iter none none raw)
    refine ⟨buckets, ?_⟩
    rw [List.foldl_cons, later, here]
    simp only [filterMap_cons_toList, List.foldl_append, List.append_assoc]

/-! ## The correlator -/

/-- What a snapshot shows of the registry besides calls, live streams and totals. -/
def book (reg : Registry) :
    FiniteMap ImportKey StreamSummary × Option (Nat × List Diagnostic) × Nat × List Diagnostic :=
  (reg.importedStreams, reg.diagCache, reg.maxDiagnostics, reg.diagnostics)

theorem staying_book : Staying book := ⟨fun _ _ _ _ _ _ _ _ _ _ _ _ => rfl⟩

/-- Signalling alone never makes a stream. -/
def Streamless (c : Correlator) : Prop := ∀ key, c.reg.streams.lookup key = none

theorem Streamless.of_drops {c after : Correlator} (drops : (sheet c).Drops (sheet after))
    (bare : Streamless c) : Streamless after := by
  intro key
  cases present : after.reg.streams.lookup key with
  | none => rfl
  | some s =>
    have shown : (sheet after).live key = some (figures s) := by
      simp [sheet, liveFigures, present]
    have before := drops.live key _ shown
    simp [sheet, liveFigures, bare key] at before

theorem Streamless.callStreams {c : Correlator} (bare : Streamless c) (id : String) :
    c.callStreams id = [] := by
  unfold Correlator.callStreams
  rw [List.filterMap_eq_nil_iff]
  exact fun key _ => bare key

theorem Streamless.checkOneway {c : Correlator} (bare : Streamless c) (id : String) :
    c.checkOnewayAtTeardown id = c := by
  have none_left : (c.reg.callStreamKeys id).filterMap
      (fun k => (c.reg.streams.lookup k).map RtpStream.flow) = [] := by
    rw [List.filterMap_eq_nil_iff]
    intro key _
    rw [bare key, Option.map_none]
  unfold Correlator.checkOnewayAtTeardown
  rw [none_left]

theorem Streamless.checkTurnLegs {c : Correlator} (bare : Streamless c) (id : String) :
    c.checkTurnLegs id = c := by
  unfold Correlator.checkTurnLegs
  rw [bare.callStreams id]
  rfl

theorem book_recordHeatmap (c : Correlator) (id : String) : book (c.recordHeatmap id).reg = book c.reg := by
  unfold Correlator.recordHeatmap
  repeat' split
  all_goals rfl

theorem book_releaseActive (c : Correlator) (id : String) : book (c.releaseActive id).reg = book c.reg := by
  unfold Correlator.releaseActive
  split <;> rfl

theorem book_reportTeardown (c : Correlator) (id : String) (call : Call) :
    book (c.reportTeardown id call).reg = book c.reg := by
  unfold Correlator.reportTeardown
  dsimp only
  generalize logged : c.reg.pushEvent _ = reg
  have same : book reg = book c.reg := by
    rw [← logged]
    simp only [book, Registry.pushEvent]
  split
  all_goals exact same

theorem book_retireCall (iter : Iteration) (c : Correlator) (id : String) :
    book (c.retireCall iter id).reg = book c.reg := by
  unfold Correlator.retireCall
  split
  · next call _ =>
    have reported := book_reportTeardown c id call
    split
    · dsimp only
      split
      · exact (staying_book.evictIfNeeded iter _).trans reported
      · exact (staying_book.removeCalls _ _).trans reported
    · rfl
  · rfl

theorem book_pruneRemoved (c : Correlator) : book c.pruneRemovedBookkeeping.reg = book c.reg := rfl

theorem book_onCallTerminal (iter : Iteration) {c : Correlator} (bare : Streamless c) (id : String) :
    book (c.onCallTerminal iter id).reg = book c.reg := by
  have checked : book (c.teardownChecks id).reg = book c.reg := by
    unfold Correlator.teardownChecks
    rw [book_releaseActive, book_recordHeatmap, bare.checkOneway, bare.checkTurnLegs]
  unfold Correlator.onCallTerminal
  rw [book_pruneRemoved, book_retireCall, checked]

/-- The diagnostics a message raises and the log keeps. -/
def raises (c : Correlator) (msg : SipMsg) : List Diagnostic :=
  ((c.observeSip msg).messageDiagnostics msg).filter fun d => decide (c.minSeverity.rank ≤ d.severity.rank)

theorem keepLast_keepLast {α : Type} (n : Nat) (l more : List α) :
    Registry.keepLast n (Registry.keepLast n l ++ more) = Registry.keepLast n (l ++ more) := by
  unfold Registry.keepLast
  rw [← List.drop_append_of_le_length (Nat.sub_le l.length n), List.drop_drop, List.length_drop]
  congr 1
  rw [List.length_append]
  omega

theorem addDiagnostic_kept {c : Correlator} {d : Diagnostic} (kept : ¬ d.severity.rank < c.minSeverity.rank) :
    (c.addDiagnostic d).reg.diagnostics = Registry.keepLast c.reg.maxDiagnostics (c.reg.diagnostics ++ [d]) ∧
      (c.addDiagnostic d).reg.maxDiagnostics = c.reg.maxDiagnostics ∧
      (c.addDiagnostic d).minSeverity = c.minSeverity := by
  unfold Correlator.addDiagnostic
  rw [if_neg kept]
  exact ⟨rfl, rfl, rfl⟩

theorem diagnostics_addDiagnostics (c : Correlator) (ds before : List Diagnostic)
    (ring : c.reg.diagnostics = Registry.keepLast c.reg.maxDiagnostics before) :
    (c.addDiagnostics ds).reg.diagnostics = Registry.keepLast c.reg.maxDiagnostics
      (before ++ ds.filter fun d => decide (c.minSeverity.rank ≤ d.severity.rank)) := by
  induction ds generalizing c before with
  | nil => exact ring.trans (congrArg _ (List.append_nil before).symm)
  | cons d rest ih =>
    have later : c.addDiagnostics (d :: rest) = (c.addDiagnostic d).addDiagnostics rest := rfl
    rw [later]
    by_cases below : d.severity.rank < c.minSeverity.rank
    · have skipped : c.addDiagnostic d = c := by
        unfold Correlator.addDiagnostic
        exact if_pos below
      rw [skipped, List.filter_cons, if_neg (by simpa using below)]
      exact ih c before ring
    · obtain ⟨logged, cap, severity⟩ := addDiagnostic_kept below
      rw [ring, keepLast_keepLast, ← cap] at logged
      have here := ih (c.addDiagnostic d) (before ++ [d]) logged
      rw [cap, severity, List.append_assoc] at here
      rw [List.filter_cons, if_pos (by simpa using below)]
      exact here

/-- What not even a diagnostic touches. -/
def stock (reg : Registry) : FiniteMap ImportKey StreamSummary × Option (Nat × List Diagnostic) × Nat :=
  (reg.importedStreams, reg.diagCache, reg.maxDiagnostics)

theorem mute_stock : Mute fun c : Correlator => stock c.reg where
  diag c d := by
    unfold Correlator.addDiagnostic
    split <;> rfl
  heatmap _ _ := rfl

theorem minSeverity_learnSdp (c : Correlator) (id : String) (learned : Option NegotiatedMedia) :
    (c.learnSdp id learned).minSeverity = c.minSeverity := by
  have clocked : ∀ c : Correlator, (c.applySdpClocks id).minSeverity = c.minSeverity := by
    intro c
    unfold Correlator.applySdpClocks
    split <;> rfl
  cases learned with
  | none => rfl
  | some n => exact clocked _

theorem minSeverity_observeSip (c : Correlator) (msg : SipMsg) :
    (c.observeSip msg).minSeverity = c.minSeverity := by
  unfold Correlator.observeSip
  dsimp only
  split <;> rfl

/-- A correlator that has seen messages only, which raised these diagnostics. -/
structure Fed (raised : List Diagnostic) (c : Correlator) : Prop where
  streamless : Streamless c
  imported : c.reg.importedStreams = FiniteMap.empty
  uncached : c.reg.diagCache = none
  ring : c.reg.diagnostics = Registry.keepLast c.reg.maxDiagnostics raised

theorem fed_received {raised : List Diagnostic} {c : Correlator} (fed : Fed raised c) (msg : SipMsg) :
    Fed (raised ++ raises c msg) (Stages.received c msg) ∧
      (Stages.received c msg).reg.maxDiagnostics = c.reg.maxDiagnostics := by
  have streamless : Streamless (Stages.received c msg) :=
    fed.streamless.of_drops (.of_eq (sheet_received c msg))
  unfold Stages.received at streamless ⊢
  dsimp only at streamless ⊢
  generalize (Correlator.sdpOf msg).map NegotiatedMedia.ofSession = learned at streamless ⊢
  generalize reported : Correlator.pushEv _ _ = front at streamless ⊢
  have books : book front.reg = book c.reg := by
    rw [← reported]
    exact ((staying_book.learnSdp _ _ _).trans (staying_book.storeMessage _ _ _)).trans
      (staying_book.observeSip c msg)
  have severity : front.minSeverity = c.minSeverity := by
    rw [← reported]
    exact (minSeverity_learnSdp _ _ _).trans (minSeverity_observeSip c msg)
  simp only [book, Prod.mk.injEq] at books
  obtain ⟨imported, cache, cap, diagnostics⟩ := books
  have stocks := mute_stock.addDiagnostics front ((c.observeSip msg).messageDiagnostics msg)
  simp only [stock, Prod.mk.injEq] at stocks
  obtain ⟨importedAfter, cacheAfter, capAfter⟩ := stocks
  have ring := fed.ring
  rw [← diagnostics, ← cap] at ring
  have logged := diagnostics_addDiagnostics front ((c.observeSip msg).messageDiagnostics msg) raised ring
  refine ⟨⟨streamless, ?_, ?_, ?_⟩, ?_⟩
  · rw [importedAfter, imported, fed.imported]
  · rw [cacheAfter, cache, fed.uncached]
  · rw [logged, capAfter, severity]
    rfl
  · rw [capAfter, cap]

theorem fed_reingest (iter : Iteration) {raised : List Diagnostic} {c : Correlator} (fed : Fed raised c)
    (msg : SipMsg) : Fed (raised ++ raises c msg) (ExportState.reingest iter c msg) ∧
      (ExportState.reingest iter c msg).reg.maxDiagnostics = c.reg.maxDiagnostics := by
  obtain ⟨before, cap⟩ := fed_received fed msg
  have streamless : Streamless (c.ingestSip iter msg) := fed.streamless.of_drops (drops_ingestSip iter c msg)
  have books : book (c.ingestSip iter msg).reg = book (Stages.received c msg).reg := by
    rw [Stages.ingestSip_received]
    generalize Stages.received c msg = r at before
    unfold Correlator.latchTerminal
    split
    · have bare : Streamless { r with terminalDone := insert msg.callId r.terminalDone } :=
        before.streamless
      exact book_onCallTerminal iter bare msg.callId
    · rfl
  simp only [book, Prod.mk.injEq] at books
  obtain ⟨imported, cache, kept, diagnostics⟩ := books
  refine ⟨⟨streamless, imported.trans before.imported, cache.trans before.uncached, ?_⟩, kept.trans cap⟩
  have same : (c.ingestSip iter msg).reg.diagnostics =
      Registry.keepLast (c.ingestSip iter msg).reg.maxDiagnostics (raised ++ raises c msg) := by
    rw [diagnostics, kept, before.ring]
  exact same

/-- The diagnostics the messages raise again, one after the other. -/
def rederived (iter : Iteration) : Correlator → List SipMsg → List Diagnostic
  | _, [] => []
  | c, msg :: rest => raises c msg ++ rederived iter (ExportState.reingest iter c msg) rest

theorem fed_run (iter : Iteration) (msgs : List SipMsg) {raised : List Diagnostic} {c : Correlator}
    (fed : Fed raised c) : Fed (raised ++ rederived iter c msgs) (msgs.foldl (ExportState.reingest iter) c) ∧
      (msgs.foldl (ExportState.reingest iter) c).reg.maxDiagnostics = c.reg.maxDiagnostics := by
  induction msgs generalizing raised c with
  | nil => exact ⟨(List.append_nil raised).symm ▸ fed, rfl⟩
  | cons msg rest ih =>
    obtain ⟨here, cap⟩ := fed_reingest iter fed msg
    obtain ⟨later, capLater⟩ := ih here
    rw [List.append_assoc] at later
    exact ⟨later, capLater.trans cap⟩

/-! ## The snapshot -/

theorem fed_new (iter : Iteration) (config : Config) (source : String) :
    Fed [] (Correlator.new iter config source) where
  streamless _ := rfl
  imported := rfl
  uncached := rfl
  ring := List.drop_nil.symm

theorem shownStreams_of_fed (iter : Iteration) {raised : List Diagnostic} {c : Correlator}
    (fed : Fed raised c) (limit : Nat) : c.reg.shownStreams iter limit = [] := by
  have none_listed : ∀ s, s ∉ iter.order c.reg.streams.values := by
    intro s member
    rw [iter.mem_order, FiniteMap.mem_values] at member
    obtain ⟨key, present⟩ := member
    rw [fed.streamless key] at present
    cases present
  have none_imported : iter.order c.reg.importedStreams.values = [] := by
    rw [fed.imported]
    exact (iter.perm _).eq_nil
  unfold Registry.shownStreams
  rw [List.eq_nil_iff_forall_not_mem.mpr none_listed, none_imported]
  simp

theorem diagnostics_snapshotFull (iter : Iteration) {reg : Registry} (uncached : reg.diagCache = none) :
    (reg.snapshotFull iter).1.diagnostics = reg.diagnostics := by
  have shown : ∀ after : Registry, after.diagCache = none → after.diagSnapshot.1 = after.diagnostics := by
    intro after fresh
    unfold Registry.diagSnapshot
    rw [fresh]
  have events : reg.eventsSnapshot.2.diagCache = none ∧
      reg.eventsSnapshot.2.diagnostics = reg.diagnostics := by
    unfold Registry.eventsSnapshot
    repeat' split
    all_goals exact ⟨uncached, rfl⟩
  exact (shown _ events.1).trans events.2

/-- The rows of an export: every recorded summary, and behind the diagnostics that
are raised again every recorded one. -/
theorem rows_runExport (parseMessage : SipParser) (iter : Iteration) (config : Config) (file : Bytes) :
    (runExport parseMessage iter config file none none).streams = recordedStreams file ∧
      (runExport parseMessage iter config file none none).diagnostics =
        Registry.keepLast config.maxDiagnostics
          (rederived iter (.new iter config "export") (recordedMessages parseMessage file)) ++
          recordedDiags file := by
  obtain ⟨buckets, looped⟩ := foldl_record parseMessage iter (rawRecords file)
    { corr := Correlator.new iter config "export" }
  obtain ⟨fed, cap⟩ := fed_run iter (recordedMessages parseMessage file) (fed_new iter config "export")
  have exported : runExport parseMessage iter config file none none = ExportState.finish iter
      { corr := (recordedMessages parseMessage file).foldl (ExportState.reingest iter)
          (.new iter config "export")
        streamsExtra := recordedStreams file, diagsExtra := recordedDiags file, bucketsExtra := buckets } :=
    congrArg (ExportState.finish iter) looped
  rw [exported]
  unfold ExportState.finish
  dsimp only
  constructor
  · have live := shownStreams_of_fed iter fed usizeMax
    change Registry.shownStreams iter _ usizeMax ++ _ = _
    rw [live, List.nil_append]
  · rw [diagnostics_snapshotFull iter fed.uncached, fed.ring, cap, List.nil_append]
    rfl

/-! ## Once -/

/-- No stream was flushed twice. -/
def FlushedOnce (file : Bytes) : Prop := ((recordedStreams file).map importKey).Nodup

/-- The messages, read again, raise nothing that is recorded and kept. -/
def NothingRaisedAgain (parseMessage : SipParser) (iter : Iteration) (config : Config) (file : Bytes) : Prop :=
  ∀ d ∈ Registry.keepLast config.maxDiagnostics
    (rederived iter (.new iter config "export") (recordedMessages parseMessage file)),
    d ∉ recordedDiags file

theorem last_alone_iff {α : Type} (l : List α) : l = l.getLast?.toList ↔ l.length ≤ 1 := by
  match l with
  | [] => simp
  | [a] => simp
  | a :: b :: rest =>
    constructor
    · intro same
      have short := congrArg List.length same
      rw [List.getLast?_cons_cons] at short
      cases last : (b :: rest).getLast? <;> simp [last] at short
    · intro short
      simp at short

theorem last_of_key_iff {α β : Type} [DecidableEq β] (f : α → β) (l : List α) :
    (∀ key, l.filter (f · = key) = (l.filter (f · = key)).getLast?.toList) ↔ (l.map f).Nodup := by
  rw [List.nodup_iff_count_le_one]
  refine forall_congr' fun key => ?_
  rw [last_alone_iff, List.count, List.countP_map, List.countP_eq_length_filter]
  exact Iff.of_eq (congrArg (fun p => (l.filter p).length ≤ 1) (funext fun a => rfl))

/-- An export lists each fact of a log once exactly if no stream was flushed twice
and no recorded diagnostic is raised again. -/
theorem lists_once_iff (parseMessage : SipParser) (iter : Iteration) (config : Config) (file : Bytes) :
    ListsOnce (runExport parseMessage iter config file none none) file ↔
      FlushedOnce file ∧ NothingRaisedAgain parseMessage iter config file := by
  obtain ⟨streams, diagnostics⟩ := rows_runExport parseMessage iter config file
  constructor
  · intro once
    constructor
    · have rows := once.streams
      rw [streams] at rows
      exact (last_of_key_iff importKey _).mp rows
    · intro d raised recorded
      have counted := once.diagnostics d recorded
      rw [diagnostics, List.count_append, Nat.add_eq_right, List.count_eq_zero] at counted
      exact counted raised
  · rintro ⟨flushed, fresh⟩
    constructor
    · rw [streams]
      exact (last_of_key_iff importKey _).mpr flushed
    · intro d recorded
      rw [diagnostics, List.count_append, Nat.add_eq_right, List.count_eq_zero]
      exact fun raised => fresh d raised recorded

/-! ## A diagnostic listed twice -/

/-- An INVITE that comes from a public address with a private Contact. -/
def natParser : SipParser := fun _ =>
  some { start := .request .invite, callId := some "c1", cseq := some "1 INVITE", topVia := none
         fromValue := none, toValue := none, contact := some "<sip:a@10.0.0.5:5060>"
         contentType := none, compactType := none, routes := 0, recordRoutes := 0 }

def natInvite : Option SipMsg :=
  parseSip natParser none 1000 ⟨.udp, ⟨.v4 ⟨8, 8, 8, 8⟩, 5060⟩, ⟨.v4 ⟨10, 0, 0, 2⟩, 5060⟩⟩
    "INVITE sip:b SIP/2.0".toUTF8.toList

/-- What a capture of it writes. -/
def natEvents : List Event :=
  (natInvite.toList.foldl (Correlator.ingestSip .stored) (.new .stored {} "eth0")).takeEvents.1

def natLog : Bytes := sessionImage 0 natEvents

theorem natLog_recorded : recordedMessages natParser natLog = natEvents.filterMap (eventMessage natParser) ∧
    recordedStreams natLog = natEvents.filterMap eventStream ∧
    recordedDiags natLog = natEvents.filterMap eventDiagnostic :=
  recorded_session natParser 0 natEvents (by decide +kernel) (by decide +kernel)

/-- The one diagnostic of the run is in its log and comes back from its message. -/
theorem nat_diagnostic_twice :
    (recordedDiags natLog).length = 1 ∧
      (runExport natParser .stored {} natLog none none).diagnostics.length = 2 ∧
      ¬ ListsOnce (runExport natParser .stored {} natLog none none) natLog := by
  obtain ⟨messages, -, diags⟩ := natLog_recorded
  have rows := (rows_runExport natParser .stored {} natLog).2
  rw [messages, diags] at rows
  have both : (runExport natParser .stored {} natLog none none).diagnostics.length = 2 := by
    rw [rows]
    decide +kernel
  refine ⟨by rw [diags]; decide +kernel, both, fun once => ?_⟩
  have counted := once.diagnostics
  rw [rows, diags] at counted
  revert counted
  decide +kernel

end Sipmon.Guarantees.ExportOnce
