import Sipmon.Guarantees.CallRecords
import Sipmon.Guarantees.Deeds
import Sipmon.Guarantees.SearchPins
import Sipmon.Guarantees.StreamStages

/-!
# What the publications of a session rest on

Calls are filed under their ids with messages of their own, address rows under their
addresses, the search matches are distinct, and the caches of the logs are current,
whatever the pipeline does.
-/
namespace Sipmon.Guarantees.FiledRecords
open Source Lib Correlator RegistryIndex Deeds FrameMoves
open CallRecords (Each each_step tends_each)
open SearchPins (Named)
open StreamStages (Attends Settles)

/-! ## The rows of the addresses -/

/-- Every row is that of the address it is filed under. -/
def Keyed (store : IpStatsStore) : Prop := ∀ ip row, store.lookup ip = some row → row.ip = ip

theorem keyed_entry {store : IpStatsStore} (keyed : Keyed store) (ip : IpAddr) {update : IpStats → IpStats}
    (same : ∀ row, (update row).ip = row.ip) : Keyed (store.entry ip update) := by
  intro a row found
  rw [IpStatsStore.entry, FiniteMap.lookup_upsert] at found
  split at found
  · rename_i own
    obtain rfl := Option.some.inj found
    rw [same, own]
    cases listed : store.lookup ip with
    | none => rfl
    | some was => exact keyed ip was listed
  · exact keyed a row found

theorem keyed_attributeTo {store : IpStatsStore} (keyed : Keyed store) (d : Registry.IpAttr) :
    Keyed (Registry.attributeTo store d) := by
  have packets : ∀ {store : IpStatsStore}, Keyed store → ∀ ip ts count bytes dir,
      Keyed (store.observePackets ip ts count bytes dir) := by
    intro store keyed ip ts count bytes dir
    apply keyed_entry keyed
    intro row
    unfold IpStats.addPackets
    split
    · rfl
    · cases dir <;> rfl
  have losses : ∀ {store : IpStatsStore}, Keyed store → ∀ ip ts lost dir,
      Keyed (store.observeLost ip ts lost dir) := by
    intro store keyed ip ts lost dir
    apply keyed_entry keyed
    intro row
    unfold IpStats.addLost
    split
    · rfl
    · cases dir <;> rfl
  unfold Registry.attributeTo
  dsimp only
  split
  · split
    · exact losses (losses (packets (packets keyed _ _ _ _ _) _ _ _ _ _) _ _ _ _) _ _ _ _
    · exact losses (losses keyed _ _ _ _) _ _ _ _
  · split
    · exact packets (packets keyed _ _ _ _ _) _ _ _ _ _
    · exact keyed

def Filed (c : Correlator) : Prop := Keyed c.reg.ipstats

/-- Keyed rows stay keyed. -/
def KeepsKeyed (a b : Registry) : Prop := Keyed a.ipstats → Keyed b.ipstats

theorem settles_keyed : Settles (fun _ => ()) KeepsKeyed where
  reclock _ _ := rfl
  sample _ _ := rfl
  timing _ _ _ := rfl
  reversed _ := rfl
  trans first second keyed := second (first keyed)
  kept _ same keyed := same ▸ keyed
  updated _ _ _ _ keyed := keyed
  active _ ip _ keyed := keyed_entry keyed ip fun _ => rfl
  dropped reg key keyed := by
    unfold Registry.dropStream Registry.flushStreamIpattr
    split
    · exact keyed_attributeTo keyed _
    · exact keyed

theorem keyed_evictIfNeeded (iter : Iteration) {reg : Registry} (keyed : Keyed reg.ipstats) :
    Keyed (reg.evictIfNeeded iter).ipstats := by
  rw [(StreamStages.evictIfNeeded_cut iter reg).1]
  exact settles_keyed.cutCalls reg keyed

theorem keyed_onCallTerminal (iter : Iteration) {c : Correlator} (id : String) (keyed : Filed c) :
    Filed (c.onCallTerminal iter id) := by
  have checked : Keyed (c.teardownChecks id).reg.ipstats := settles_keyed.respects.teardownChecks c id keyed
  have stages : c.onCallTerminal iter id =
      ((c.teardownChecks id).retireCall iter id).pruneRemovedBookkeeping := rfl
  rw [stages]
  generalize c.teardownChecks id = r at checked ⊢
  change Keyed (r.retireCall iter id).reg.ipstats
  unfold Correlator.retireCall
  split
  · rename_i call found
    split
    · have reported : Keyed (r.reportTeardown id call).reg.ipstats := settles_keyed.reportTeardown r id call checked
      dsimp only
      split
      · exact keyed_evictIfNeeded iter reported
      · exact settles_keyed.removeCalls _ [id] reported
    · exact checked
  · exact checked

theorem keyed_flush (iter : Iteration) {c : Correlator} (ts : UInt64) (keyed : Filed c) :
    Filed (c.maybePeriodicFlush iter ts) := by
  have attributed : ∀ c : Correlator, KeepsKeyed c.reg (c.attributeIpStats iter).reg := by
    intro c
    apply settles_keyed.foldl
    intro reg key keyed
    unfold Registry.flushStreamIpattr
    split
    · exact keyed_attributeTo keyed _
    · exact keyed
  have ticked : Keyed (c.ipattrTick iter ts).reg.ipstats := by
    unfold ipattrTick
    dsimp only
    split
    · split
      · exact attributed { c with lastIpattrUs := some ts } keyed
      · exact attributed c keyed
    · split
      · exact keyed
      · exact keyed
  have passed : Keyed ((Stages.flushed iter c ts).flushPass iter ts).reg.ipstats := by
    have snapped : Keyed (Stages.snapped iter c ts).reg.ipstats := settles_keyed.snapped iter c ts ticked
    have evicted : Keyed ((Stages.snapped iter c ts).evictPass iter ts).reg.ipstats := by
      apply keyed_evictIfNeeded
      exact settles_keyed.unstale iter (Stages.snapped iter c ts) ts snapped
    intro ip row found
    rw [show ((Stages.flushed iter c ts).flushPass iter ts).reg.ipstats =
      ((Stages.snapped iter c ts).evictPass iter ts).reg.ipstats.pruneIdle (ts.toNat - ipstatsIdleUs) from rfl,
      IpStatsStore.pruneIdle, FiniteMap.lookup_retain] at found
    obtain ⟨present, -⟩ := Option.filter_eq_some_iff.mp found
    exact evicted ip row present
  unfold maybePeriodicFlush
  dsimp only
  split
  · rename_i due
    simp only [due, Bool.or_true, if_true]
    exact passed
  · split
    · exact ticked
    · exact ticked

theorem keyed_step {c : Correlator} (input : Iteration × Op) (keyed : Filed c) : Filed (c.step input) := by
  obtain ⟨iter, op⟩ := input
  cases op with
  | sip msg =>
    change Filed (c.ingestSip iter msg)
    have heard : Filed (Stages.received c msg) := settles_keyed.received c msg keyed
    rw [Stages.ingestSip_received]
    generalize Stages.received c msg = r at heard ⊢
    unfold latchTerminal
    split
    · exact keyed_onCallTerminal iter (c := { r with terminalDone := insert msg.callId r.terminalDone }) msg.callId heard
    · exact heard
  | rtp ts flow header len encap =>
    change Filed (c.ingestRtp ts flow header len encap)
    unfold ingestRtp
    dsimp only
    split
    · exact settles_keyed.observeExistingRtp c ts header len _ _ keyed
    · split
      · exact settles_keyed.openRtp c ts flow header len encap _ keyed
      · exact keyed
  | rtcp ts flow msg =>
    have counted : Filed (c.ingestRtcp ts flow msg) := settles_keyed.ingestRtcp c ts flow msg keyed
    exact counted
  | terminal id => exact keyed_onCallTerminal iter id keyed
  | flush ts => exact keyed_flush iter ts keyed
  | clear =>
    intro ip row found
    cases found
  | search q =>
    have moved : Filed (c.setSearch iter q) := settles_keyed.setSearchHint iter c.reg q keyed
    exact moved
  | touchTime | focus | takeEvents | disableEvlogEmit | enableSessionStats => exact keyed

/-! ## The messages of a call -/

/-- A call is filed under its id, and so are its messages. -/
def Owned (id : String) (call : Call) : Prop := call.callId = id ∧ ∀ m ∈ call.messages, m.callId = id

theorem owned_closed : CallRecords.Closed Owned := by
  intro update counting id call owned
  cases counting with
  | diagnostic severity => cases severity <;> exact owned
  | rtp | rtcp | media => exact owned

theorem messages_applySip (call : Call) (msg : SipMsg) : (call.applySip msg).messages = call.messages := by
  refine (congrArg CallSignals.Roster.messages (CallSignals.roster_applySip call msg)).trans ?_
  split <;> rfl

theorem owned_receive {call : Call} {msg : SipMsg} (owned : Owned msg.callId call)
    (learned : Option NegotiatedMedia) : Owned msg.callId (receive msg learned call) := by
  have kept : ∀ cap, Owned msg.callId { call.applySip msg with
      messages := Registry.keepLast cap ((call.applySip msg).messages ++ [msg]) } := by
    intro cap
    refine ⟨(SearchPins.callId_applySip call msg).trans owned.1, fun m member => ?_⟩
    rw [messages_applySip] at member
    have listed : m ∈ call.messages ++ [msg] := List.mem_of_mem_drop member
    rcases List.mem_append.mp listed with before | last
    · exact owned.2 m before
    · rw [List.mem_singleton.mp last]
  have now := kept maxMsgsPerCall
  unfold receive
  generalize maxMsgsPerCall = cap at now ⊢
  cases learned with
  | none => exact now
  | some n => exact now

theorem owned_step (c : Correlator) (input : Iteration × Op) (owned : Each Owned c.reg) :
    Each Owned (c.step input).reg := by
  apply each_step owned_closed c input
  · exact fun id call _ found => owned id call found
  · intro msg _
    apply owned_receive
    unfold CallRecords.addressed
    cases found : c.reg.calls.lookup msg.callId with
    | none => exact ⟨rfl, by simp [Call.new]⟩
    | some call => exact owned msg.callId call found

theorem named_of_owned {reg : Registry} (owned : Each Owned reg) : Named reg := fun id call found =>
  (owned id call found).1

/-! ## The caches of the logs -/

/-- The caches show the logs whenever a reader would trust them. -/
structure LogsFresh (reg : Registry) : Prop where
  events : VersionedCache.Valid Eq reg.eventsCache (LogVersions.events reg)
  diagnostics : VersionedCache.Valid Eq reg.diagCache (LogVersions.diagnostics reg)

theorem LogsFresh.onward {a b : Registry} (fresh : LogsFresh a) (onward : LogVersions.Onward a b) : LogsFresh b := by
  have same := onward.caches
  simp only [LogVersions.caches, Prod.mk.injEq] at same
  obtain ⟨events, diagnostics, -⟩ := same
  exact ⟨events ▸ fresh.events.moved onward.events, diagnostics ▸ fresh.diagnostics.moved onward.diagnostics⟩

theorem logsFresh_of_stores {a b : Registry} (fresh : LogsFresh a)
    (caches : LogVersions.caches b = LogVersions.caches a) (events : LogVersions.events b = LogVersions.events a)
    (diagnostics : LogVersions.diagnostics b = LogVersions.diagnostics a) : LogsFresh b := by
  simp only [LogVersions.caches, Prod.mk.injEq] at caches
  constructor
  · rw [caches.1, events]
    exact fresh.events
  · rw [caches.2.1, diagnostics]
    exact fresh.diagnostics

theorem logsFresh_flush (iter : Iteration) {c : Correlator} (ts : UInt64) (fresh : LogsFresh c.reg) :
    LogsFresh (c.maybePeriodicFlush iter ts).reg := by
  by_cases due : tickerDue c.lastFlushUs ts flushPeriodUs = true
  · obtain ⟨cached, lines, diags, -⟩ := SnapshotCaches.flush_stores iter due
    obtain ⟨kept, events, diagnostics, -⟩ := SnapshotCaches.pruneHeatmap_stores c.reg
    exact logsFresh_of_stores fresh (cached.trans kept) (lines.trans events) (diags.trans diagnostics)
  · have idle := SnapshotCaches.flush_idle iter due
    simp only [LogVersions.memo, Prod.mk.injEq] at idle
    exact logsFresh_of_stores fresh idle.2.1 idle.2.2.1 idle.2.2.2.1

theorem logsFresh_step (c : Correlator) (input : Iteration × Op) (fresh : LogsFresh c.reg) :
    LogsFresh (c.step input).reg := by
  obtain ⟨iter, op⟩ := input
  cases op with
  | sip msg => exact fresh.onward (LogVersions.onward_ingestSip iter c msg)
  | rtp ts flow header len encap => exact fresh.onward (LogVersions.onward_ingestRtp c ts flow header len encap)
  | rtcp ts flow msg => exact fresh.onward (LogVersions.onward_ingestRtcp c ts flow msg)
  | terminal id => exact fresh.onward (LogVersions.onward_onCallTerminal iter c id)
  | flush ts => exact logsFresh_flush iter ts fresh
  | clear => exact ⟨.empty _, .empty _⟩
  | search q =>
    change LogsFresh (c.reg.setSearchHint iter q)
    unfold Registry.setSearchHint Registry.refreshSearchMatches
    dsimp only
    split
    · exact fresh
    · split
      · exact ⟨fresh.events, fresh.diagnostics⟩
      · exact ⟨fresh.events, fresh.diagnostics⟩
  | touchTime | focus | takeEvents | disableEvlogEmit | enableSessionStats => exact ⟨fresh.events, fresh.diagnostics⟩

/-! ## The search matches -/

/-- The search matches are what they were, or taken anew from the calls. -/
theorem pins_step {c : Correlator} (input : Iteration × Op) (owned : Each Owned c.reg)
    (distinct : c.reg.searchMatches.Nodup) : (c.step input).reg.searchMatches.Nodup := by
  have named := named_of_owned owned
  have onward : ∀ {b : Registry}, LogVersions.Onward c.reg b → b.searchMatches.Nodup := by
    intro b moved
    have same : b.searchMatches = c.reg.searchMatches := congrArg (fun pins => pins.2.1) moved.pins
    rw [same]
    exact distinct
  obtain ⟨iter, op⟩ := input
  cases op with
  | sip msg => exact onward (LogVersions.onward_ingestSip iter c msg)
  | rtp ts flow header len encap => exact onward (LogVersions.onward_ingestRtp c ts flow header len encap)
  | rtcp ts flow msg => exact onward (LogVersions.onward_ingestRtcp c ts flow msg)
  | terminal id => exact onward (LogVersions.onward_onCallTerminal iter c id)
  | flush ts =>
    have pass := congrArg (fun memo => memo.1.2.1) (LogVersions.memo_maybePeriodicFlush iter c ts)
    have snapped : (Stages.snapped iter c ts).reg.searchMatches = c.reg.searchMatches := by
      have aged := congrArg (fun memo => memo.1.2.1) (LogVersions.memo_snapped iter c ts)
      have ticked := congrArg (fun memo => memo.1.2.1) (LogVersions.memo_flushed iter c ts)
      have pruned : ∀ reg : Registry, reg.pruneHeatmap.searchMatches = reg.searchMatches := by
        intro reg
        unfold Registry.pruneHeatmap
        split <;> rfl
      exact (aged.trans (pruned _)).trans ticked
    have still : Named (Stages.snapped iter c ts).reg := by
      rw [SearchPins.named_iff, CallTable.table_snapped, ← SearchPins.named_iff]
      exact named
    change (c.maybePeriodicFlush iter ts).reg.searchMatches.Nodup
    rw [show (c.maybePeriodicFlush iter ts).reg.searchMatches = _ from pass]
    split
    · change (LogVersions.hinted iter (Stages.snapped iter c ts)).searchMatches.Nodup
      unfold LogVersions.hinted
      split
      · exact SearchPins.nodup_searchMatches iter still
      · rw [snapped]
        exact distinct
    · exact distinct
  | clear => exact List.nodup_nil
  | search q =>
    change (c.reg.setSearchHint iter q).searchMatches.Nodup
    unfold Registry.setSearchHint
    dsimp only
    split
    · exact distinct
    · exact SearchPins.nodup_searchMatches iter named
  | touchTime | focus | takeEvents | disableEvlogEmit | enableSessionStats => exact distinct

/-! ## No imported streams -/

def Live (reg : Registry) : Prop := reg.importedStreams = FiniteMap.empty

theorem tends_live : Carried.Tends fun a b => Live a → Live b where
  refl _ live := live
  trans first second live := second (first live)
  tables _ _ _ _ _ _ _ _ _ _ live := live
  erased _ _ live := live
  counted _ _ _ _ live := live
  event reg line live := by
    unfold Registry.pushEvent
    generalize Registry.keepLast _ _ = lines
    exact live
  diagnostic reg d live := by
    unfold Registry.pushDiagnostic
    generalize Registry.keepLast _ _ = kept
    exact live
  cell _ _ live := live
  aged _ _ live := live
  searched _ _ _ live := live

theorem staying_imported : Views.Staying Registry.importedStreams where
  tables _ _ _ _ _ _ _ _ _ _ _ _ := rfl

theorem live_step (c : Correlator) (input : Iteration × Op) (live : Live c.reg) : Live (c.step input).reg := by
  obtain ⟨iter, op⟩ := input
  cases op with
  | sip msg =>
    have stored : Live (Carried.Carries.stored c msg).reg := by
      have kept := staying_imported.storeMessage (c.observeSip msg) msg ((sdpOf msg).map NegotiatedMedia.ofSession)
      exact (kept.trans (staying_imported.observeSip c msg)).trans live
    exact tends_live.ingestSip iter c msg stored
  | rtp ts flow header len encap => exact tends_live.ingestRtp c ts flow header len encap live
  | rtcp ts flow msg => exact tends_live.ingestRtcp c ts flow msg live
  | terminal id => exact tends_live.onCallTerminal iter c id live
  | flush ts => exact tends_live.flush iter c ts (fun _ _ _ live => live) live
  | clear => rfl
  | search q => exact tends_live.setSearchHint iter c.reg q live
  | touchTime | focus | takeEvents | disableEvlogEmit | enableSessionStats => exact live

/-! ## Whatever the pipeline does -/

/-- What the publications rest on. -/
structure Whole (c : Correlator) : Prop where
  orderly : Orderly c
  owned : Each Owned c.reg
  rows : Filed c
  pins : c.reg.searchMatches.Nodup
  logs : LogsFresh c.reg
  live : Live c.reg

theorem whole_new (iter : Iteration) (config : Config) (source : String) : Whole (.new iter config source) where
  orderly := orderly_new iter config source
  owned := by
    intro id call found
    cases found
  rows := by
    intro ip row found
    cases found
  pins := List.nodup_nil
  logs := ⟨.empty _, .empty _⟩
  live := rfl

theorem whole_step {c : Correlator} (whole : Whole c) (input : Iteration × Op) : Whole (c.step input) where
  orderly := orderly_step whole.orderly input
  owned := owned_step c input whole.owned
  rows := keyed_step input whole.rows
  pins := pins_step input whole.owned whole.pins
  logs := logsFresh_step c input whole.logs
  live := live_step c input whole.live

theorem whole_move {c : Correlator} (m : Move) (whole : Whole c) : Whole (m.run c) := by
  cases m with
  | op iter entry => exact whole_step whole (iter, entry)
  | turn tracker diags =>
    have onward := LogVersions.respects_onward.addDiagnostics { c with turn := tracker } diags
    constructor
    case orderly =>
      have moved : Orderly { c with turn := tracker } := orderly_of_same (c := c) rfl rfl whole.orderly
      exact orderly_of_same (blind_books.addDiagnostics _ diags) (CallTable.blind_table.addDiagnostics _ diags) moved
    case owned => exact (tends_each owned_closed).respects.addDiagnostics { c with turn := tracker } diags whole.owned
    case rows => exact settles_keyed.respects.addDiagnostics { c with turn := tracker } diags whole.rows
    case pins =>
      have same : ({ c with turn := tracker }.addDiagnostics diags).reg.searchMatches = c.reg.searchMatches :=
        congrArg (fun pins => pins.2.1) onward.pins
      change ({ c with turn := tracker }.addDiagnostics diags).reg.searchMatches.Nodup
      rw [same]
      exact whole.pins
    case logs => exact whole.logs.onward onward
    case live => exact tends_live.respects.addDiagnostics { c with turn := tracker } diags whole.live
  | reassembled tcpReasm =>
    exact ⟨orderly_of_same (c := c) rfl rfl whole.orderly, whole.owned, whole.rows, whole.pins, whole.logs, whole.live⟩

theorem whole_ingestFrame {dec : Decoder} {iters : Nat → Iteration} {fuel : Nat} {ts : UInt64}
    {c after : Correlator} {decoded : Option (Flow5Tuple × L4)} (whole : Whole c)
    (returned : c.ingestFrame dec iters fuel ts decoded = some after) : Whole after := by
  have touched : Whole { c with reg := c.reg.touchTime ts } := whole_step whole (.stored, .touchTime ts)
  exact (moved_ingestFrame returned).invariant (fun _ m _ kept => whole_move m kept) touched

theorem whole_publish (iter : Iteration) (limit streamLimit : Nat) {c : Correlator} (whole : Whole c) :
    Whole { c with reg := (c.reg.snapshotWith iter limit streamLimit).2 } := by
  have events := (Lib.VersionedCache.valid_read (fun _ => rfl : ∀ a, id a = a) whole.logs.events).2
  have diagnostics := (Lib.VersionedCache.valid_read (fun _ => rfl : ∀ a, id a = a) whole.logs.diagnostics).2
  have orderly := orderly_publish iter limit streamLimit whole.orderly
  rw [SnapshotCaches.snapshot_registry] at orderly ⊢
  exact ⟨orderly, whole.owned, whole.rows, whole.pins, ⟨events, diagnostics⟩, whole.live⟩

theorem whole_deed (s : Session) (d : Deed) {now : Correlator × List Evlog.Event} (whole : Whole now.1) :
    Whole (d.run s now).1 := by
  cases d with
  | frame f =>
    cases returned : now.1.ingestFrame s.dec f.iters f.fuel f.tsUs f.decoded with
    | none => simpa [Deed.run, returned] using whole
    | some after => simpa [Deed.run, returned] using whole_ingestFrame whole returned
  | flush iter => exact whole_step whole (iter, .flush _)
  | idle iter => exact whole_step whole (iter, .flush 0)
  | take => exact whole_step whole (.stored, .takeEvents)
  | clear => exact whole_step whole (.stored, .clear)
  | focus hint => exact whole_step whole (.stored, .focus hint)
  | search iter q => exact whole_step whole (iter, .search q)
  | publish iter limit streamLimit => exact whole_publish iter limit streamLimit whole

end Sipmon.Guarantees.FiledRecords
