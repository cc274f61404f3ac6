import Mathlib.Data.Finset.Card
import Sipmon.Guarantees.CallRecords
import Sipmon.Guarantees.EventTimes
import Sipmon.Source.ReplaySession

/-!
# What a replay can tell again

A replay takes the messages, the streams and the round trips from the log and reports the
end of a call itself. Here is what each entry of the correlator reports of that: a message
is told, and the end of its call when it ends it; media report streams and round trips.
-/
namespace Sipmon.Guarantees.ToldEvents
open Source Lib Correlator Stages CallTable CallRecords EventTimes
open Evlog (Event)
open Views (Staying)

/-! ## Telling -/

/-- An event as a replay can tell it again: no diagnostics, of a round trip the time and
the value, and the end of a call without its media counters, and without a time when it
bears none. -/
def told : Event → Option Event
  | .diag _ => none
  | .call e => some (.call { e with
      tsUs := if e.endTs.isSome then e.tsUs else 0, pktsRtp := 0, pktsRtcp := 0 })
  | .rtcpRtt e => some (.rtcpRtt (rttEvt e.tsUs e.rttMs))
  | ev => some ev

theorem told_told {ev again : Event} (first : told ev = some again) : told again = some again := by
  cases ev with
  | diag => cases first
  | call e =>
    obtain rfl := Option.some.inj first
    cases e.endTs <;> simp [told]
  | sipMsg | txn | streamSnap | rtcpRtt | healthBucket | error =>
    obtain rfl := Option.some.inj first
    rfl

/-- The end of a call, as it is told. -/
def ending (id : String) (call : Call) : Event :=
  .call { teardownEvt id call none with pktsRtp := 0, pktsRtcp := 0 }

theorem told_teardown (id : String) (call : Call) (lastUs : Option UInt64) :
    told (.call (teardownEvt id call lastUs)) = some (ending id call) := by
  cases ended : call.endTs <;> simp [told, ending, teardownEvt, ended]

theorem ending_signaling (id : String) (call : Call) : ending id (signaling call) = ending id call := rfl

/-- What is reported between the two, as it can be told again; the options stay. -/
structure Tells (c after : Correlator) (news : List Event) : Prop where
  logs : ∃ evs, Logs c after evs ∧ evs.filterMap told = news
  keep : after.keepTerminated = c.keepTerminated
  ttl : after.callTtlSecs = c.callTtlSecs

variable {c after : Correlator} {news : List Event}

theorem Tells.silent (pending : after.pendingEvents = c.pendingEvents)
    (session : after.sessionStats = c.sessionStats) (emit : after.emitEvlog = c.emitEvlog)
    (keep : after.keepTerminated = c.keepTerminated) (ttl : after.callTtlSecs = c.callTtlSecs) :
    Tells c after [] :=
  ⟨⟨[], .silent pending session emit, rfl⟩, keep, ttl⟩

theorem Tells.reg (c : Correlator) (reg : Registry) : Tells c { c with reg } [] := .silent rfl rfl rfl rfl rfl

theorem Tells.refl (c : Correlator) : Tells c c [] := .reg c c.reg

theorem Tells.append {last : Correlator} {first second : List Event} (now : Tells c after first)
    (later : Tells after last second) : Tells c last (first ++ second) where
  logs := by
    obtain ⟨early, start, begun⟩ := now.logs
    obtain ⟨late, next, done⟩ := later.logs
    refine ⟨early ++ late, start.append next, ?_⟩
    rw [List.filterMap_append, begun, done]
  keep := later.keep.trans now.keep
  ttl := later.ttl.trans now.ttl

theorem Tells.quietly {last : Correlator} (now : Tells c after news) (later : Tells after last []) :
    Tells c last news := by
  simpa using now.append later

theorem Tells.onward {first : Correlator} (quiet : Tells c first []) (later : Tells first after news) :
    Tells c after news := by
  simpa using quiet.append later

theorem Tells.pushEv (c : Correlator) (ev : Event) : Tells c (c.pushEv ev) (told ev).toList := by
  have logs : Logs c (c.pushEv ev) [ev] := ⟨rfl, rfl, rfl⟩
  have again : [ev].filterMap told = (told ev).toList := by cases again : told ev <;> simp [again]
  exact ⟨⟨[ev], logs, again⟩, rfl, rfl⟩

/-- Diagnostics, heatmap cells and the counters of concurrent calls tell nothing. -/
theorem tells_nothing : Views.Respects fun c after : Correlator => Tells c after [] where
  refl c := .refl c
  trans first second := first.quietly second
  diag c d := by
    unfold addDiagnostic
    split
    · exact .refl c
    · exact (Tells.pushEv c _).quietly (.reg _ _)
  heatmap c metrics := .reg c _
  active c ip delta := .reg c _

/-! ## Roomy registries -/

/-- Only calls of these names are tracked, and there is room for all of them. -/
structure Roomy (ids : Finset String) (reg : Registry) : Prop where
  inside : Each (fun id _ => id ∈ ids) reg
  room : ids.card ≤ reg.maxCalls

variable {ids : Finset String}

theorem Roomy.kept {a b : Registry} (roomy : Roomy ids a)
    (inside : Each (fun id _ => id ∈ ids) a → Each (fun id _ => id ∈ ids) b)
    (room : b.maxCalls = a.maxCalls) : Roomy ids b where
  inside := inside roomy.inside
  room := room ▸ roomy.room

theorem tends_roomy (ids : Finset String) : Carried.Tends fun a b => Roomy ids a → Roomy ids b := by
  have inside : Carried.Tends _ := tends_each (P := fun id _ => id ∈ ids) fun _ _ _ member => member
  constructor
  · constructor
    · exact fun _ => id
    · exact fun first second roomy => second (first roomy)
    · exact fun reg _ _ _ _ _ _ _ _ _ roomy => roomy.kept (inside.tables reg _ _ _ _ _ _ _ _ _) rfl
    · exact fun reg id roomy => roomy.kept (inside.erased reg id) rfl
    · exact fun reg id _ counting roomy => roomy.kept (inside.counted reg id counting) rfl
    · intro reg line roomy
      apply roomy.kept (inside.event reg line)
      simp only [Registry.pushEvent]
    · intro reg d roomy
      apply roomy.kept (inside.diagnostic reg d)
      simp only [Registry.pushDiagnostic]
    · exact fun reg metrics roomy => roomy.kept (inside.cell reg metrics) rfl
  · exact fun reg heatmap roomy => roomy.kept (inside.aged reg heatmap) rfl
  · exact fun reg hint found roomy => roomy.kept (inside.searched reg hint found) rfl

/-- The cap takes no call away. -/
theorem capCalls_roomy {reg : Registry} (roomy : Roomy ids reg) : capCalls reg = [] := by
  have listed : reg.calls.keys.toFinset ⊆ ids := by
    intro id member
    have tracked : id ∈ reg.calls := AList.mem_keys.mpr (List.mem_toFinset.mp member)
    obtain ⟨call, found⟩ := Option.isSome_iff_exists.mp (AList.lookup_isSome.mpr tracked)
    exact roomy.inside id call found
  have fewer : reg.calls.size ≤ ids.card := by
    have counted := Finset.card_le_card listed
    rw [List.toFinset_card_of_nodup reg.calls.keys_nodup] at counted
    simpa [FiniteMap.size, AList.keys, List.keys] using counted
  exact if_neg (Nat.not_lt.mpr (fewer.trans roomy.room))

/-! ## Messages -/

/-- The calls as signaling left them, and those whose end has been reported. -/
structure Known where
  call : String → Option Call
  done : Finset String

def knows (c : Correlator) : Known := { call := (table c).call, done := (table c).done }

namespace Known

def hear (k : Known) (msg : SipMsg) : Call :=
  signaling (((k.call msg.callId).getD (.new msg.callId)).applySip msg)

/-- A message reaches its call; a call that it ends is reported, once. -/
def relate (k : Known) (msg : SipMsg) : Known × List Event :=
  let heard := k.hear msg
  let call := Function.update k.call msg.callId (some heard)
  if heard.state.terminal && decide (msg.callId ∉ k.done) then
    ({ call, done := insert msg.callId k.done }, [.sipMsg (sipMsgEvt msg), ending msg.callId heard])
  else ({ call, done := k.done }, [.sipMsg (sipMsgEvt msg)])

end Known

theorem tells_observeSip (c : Correlator) (msg : SipMsg) : Tells c (c.observeSip msg) [] := by
  unfold observeSip
  dsimp only
  split
  · exact .silent rfl rfl rfl rfl rfl
  · exact .silent rfl rfl rfl rfl rfl

theorem tells_learnSdp (c : Correlator) (id : String) (learned : Option NegotiatedMedia) :
    Tells c (c.learnSdp id learned) [] := by
  have clocked : ∀ c : Correlator, Tells c (c.applySdpClocks id) [] := by
    intro c
    unfold applySdpClocks
    split
    · exact .reg c _
    · exact .refl c
  cases learned with
  | none => exact .refl c
  | some n => exact (Tells.reg c _).quietly (clocked _)

theorem tells_received (c : Correlator) (msg : SipMsg) : Tells c (received c msg) [.sipMsg (sipMsgEvt msg)] := by
  have stored : Tells c (Carried.Carries.stored c msg) [] := (tells_observeSip c msg).quietly (.reg _ _)
  have learnt := stored.quietly (tells_learnSdp _ msg.callId ((sdpOf msg).map NegotiatedMedia.ofSession))
  have reported := learnt.onward (.pushEv _ (.sipMsg (sipMsgEvt msg)))
  exact reported.quietly (tells_nothing.addDiagnostics _ _)

theorem tells_retireCall (iter : Iteration) (c : Correlator) {id : String} {call : Call}
    (found : c.reg.calls.lookup id = some call) (ended : call.state.terminal = true) :
    Tells c (c.retireCall iter id) [ending id call] := by
  have reported : Tells c (c.reportTeardown id call) [ending id call] := by
    have logged := fun reg => Tells.pushEv { c with reg } (.call (teardownEvt id call reg.lastUs))
    simp only [told_teardown] at logged
    unfold reportTeardown
    dsimp only
    split
    · exact ((Tells.reg c _).onward (logged _)).quietly (.reg _ _)
    · exact ((Tells.reg c _).onward (logged _)).quietly (.reg _ _)
  unfold retireCall
  rw [found]
  simp only [ended, if_true]
  exact reported.quietly (.reg _ _)

theorem tells_prune (c : Correlator) : Tells c c.pruneRemovedBookkeeping [] := .silent rfl rfl rfl rfl rfl

/-- A call that has ended is told. -/
theorem tells_onCallTerminal (iter : Iteration) (c : Correlator) {id : String} {call : Call}
    (known : (table c).call id = some call) (ended : call.state.terminal = true) :
    Tells c (c.onCallTerminal iter id) [ending id call] := by
  have checked : Tells c (c.teardownChecks id) [] := tells_nothing.teardownChecks c id
  rw [← blind_table.teardownChecks c id, table_call] at known
  obtain ⟨kept, found, shown⟩ := Option.map_eq_some_iff.mp known
  have stages : c.onCallTerminal iter id = ((c.teardownChecks id).retireCall iter id).pruneRemovedBookkeeping := rfl
  have terminal : kept.state.terminal = true := by
    rw [← shown] at ended
    exact ended
  rw [stages, ← shown, ending_signaling]
  generalize c.teardownChecks id = r at checked found ⊢
  have retired : Tells r (r.retireCall iter id) [ending id kept] := tells_retireCall iter r found terminal
  exact (checked.onward retired).quietly (tells_prune _)

theorem hear_known (c : Correlator) (msg : SipMsg) :
    ((table c).hear msg).call msg.callId = some ((knows c).hear msg) := hear_own (table c) msg

/-- The latch lets through what is reported. -/
theorem ends_known (c : Correlator) (msg : SipMsg) : ((table c).hear msg).ends msg.callId =
    (((knows c).hear msg).state.terminal && decide (msg.callId ∉ (knows c).done)) := by
  rw [Table.ends, Table.ended, hear_known, Option.any_some]
  rfl

/-- A message tells of itself, and of the end of the call that it ends. -/
theorem tells_ingestSip (iter : Iteration) (c : Correlator) (msg : SipMsg) :
    Tells c (c.ingestSip iter msg) ((knows c).relate msg).2 := by
  have heard := tells_received c msg
  have now : (table (received c msg)).call msg.callId = some ((knows c).hear msg) := by
    rw [table_received]
    exact hear_known c msg
  rw [ingestSip_received, latchTerminal, latch_guard, table_received, ends_known, Known.relate]
  split
  · next ends =>
    have latched : Tells (received c msg)
        { received c msg with terminalDone := insert msg.callId (received c msg).terminalDone } [] :=
      .silent rfl rfl rfl rfl rfl
    have known : (table { received c msg with
        terminalDone := insert msg.callId (received c msg).terminalDone }).call msg.callId =
          some ((knows c).hear msg) := now
    exact heard.append (latched.onward (tells_onCallTerminal iter _ known (Bool.and_eq_true_iff.mp ends).1))
  · exact heard

theorem staying_maxCalls : Staying Registry.maxCalls where
  tables _ _ _ _ _ _ _ _ _ _ _ _ := rfl

theorem roomy_received {msg : SipMsg} (member : msg.callId ∈ ids) (roomy : Roomy ids c.reg) :
    Roomy ids (received c msg).reg := by
  apply (tends_roomy ids).received c msg
  apply roomy.kept
  · intro inside id call found
    rw [lookup_stored] at found
    split at found
    · next same => exact same ▸ member
    · exact inside id call found
  · have stored : (Carried.Carries.stored c msg).reg.maxCalls = (c.observeSip msg).reg.maxCalls :=
      (staying_maxCalls.updateCall _ _ _).trans (staying_maxCalls.getOrCreateCall _ _)
    exact stored.trans (staying_maxCalls.observeSip c msg)

theorem roomy_ingestSip (iter : Iteration) {msg : SipMsg} (member : msg.callId ∈ ids) (roomy : Roomy ids c.reg) :
    Roomy ids (c.ingestSip iter msg).reg := by
  have heard := roomy_received member roomy
  rw [ingestSip_received]
  unfold latchTerminal
  split
  · exact (tends_roomy ids).onCallTerminal iter
      { received c msg with terminalDone := insert msg.callId (received c msg).terminalDone } msg.callId heard
  · exact heard

/-- Where there is room and ended calls are kept, a message takes no call away. -/
theorem sipGone_roomy (keep : c.keepTerminated = true) {msg : SipMsg} (member : msg.callId ∈ ids)
    (roomy : Roomy ids c.reg) : sipGone c msg = [] := by
  have heard := tells_received c msg
  have there := roomy_received member roomy
  unfold sipGone terminalGone
  generalize received c msg = r at heard there ⊢
  have checked := tells_nothing.teardownChecks { r with terminalDone := insert msg.callId r.terminalDone } msg.callId
  have still := (tends_roomy ids).respects.teardownChecks
    { r with terminalDone := insert msg.callId r.terminalDone } msg.callId there
  generalize ({ r with terminalDone := insert msg.callId r.terminalDone } : Correlator).teardownChecks
    msg.callId = t at checked still ⊢
  rw [retireGone, if_pos (checked.keep.trans (heard.keep.trans keep)), retirePoint]
  split
  · next call _ =>
    split
    · rw [Option.map_some, Option.getD_some]
      exact capCalls_roomy ((tends_roomy ids).reportTeardown t msg.callId call still)
    · rfl
  · rfl

/-- There the calls move as what is known of them does. -/
theorem knows_ingestSip (iter : Iteration) (drained : c.reg.removed = []) (keep : c.keepTerminated = true)
    {msg : SipMsg} (member : msg.callId ∈ ids) (roomy : Roomy ids c.reg) :
    knows (c.ingestSip iter msg) = ((knows c).relate msg).1 := by
  have moved := table_ingestSip iter drained msg
  rw [sipGone_roomy keep member roomy] at moved
  have calls : ((knows c).relate msg).1.call =
      Function.update (knows c).call msg.callId (some ((knows c).hear msg)) := by
    unfold Known.relate
    dsimp only
    split <;> rfl
  rw [knows, moved, Known.mk.injEq]
  constructor
  · rw [calls]
    funext id
    rw [Table.latch_call, if_neg (by simp)]
    rfl
  · rw [Table.latch_done, ends_known, Known.relate]
    split <;> rfl

theorem removed_ingestSip (iter : Iteration) (drained : c.reg.removed = []) (msg : SipMsg) :
    (c.ingestSip iter msg).reg.removed = [] := by
  have latch_removed : ∀ (t : Table) id gone, (t.latch id gone).removed = t.removed := by
    intro t id gone
    unfold Table.latch Table.close
    repeat' split
    all_goals rfl
  have moved := congrArg Table.removed (table_ingestSip iter drained msg)
  rw [latch_removed] at moved
  exact moved.trans drained

/-! ## Media -/

def media : Event → Bool
  | .streamSnap _ | .rtcpRtt _ => true
  | _ => false

/-- Streams and round trips are told, nothing else. -/
def TellsMedia (c after : Correlator) : Prop := ∃ news, Tells c after news ∧ ∀ ev ∈ news, media ev = true

theorem Tells.media (quiet : Tells c after []) : TellsMedia c after := ⟨[], quiet, by simp⟩

theorem TellsMedia.trans {last : Correlator} (now : TellsMedia c after) (later : TellsMedia after last) :
    TellsMedia c last := by
  obtain ⟨first, early, streams⟩ := now
  obtain ⟨second, late, more⟩ := later
  refine ⟨first ++ second, early.append late, fun ev member => ?_⟩
  rcases List.mem_append.mp member with inside | inside
  · exact streams ev inside
  · exact more ev inside

theorem TellsMedia.foldl {α : Type} {f : Correlator → α → Correlator} (each : ∀ c a, TellsMedia c (f c a))
    (l : List α) (c : Correlator) : TellsMedia c (l.foldl f c) := by
  induction l generalizing c with
  | nil => exact (Tells.refl c).media
  | cons a rest ih => exact (each c a).trans (ih (f c a))

theorem tells_medium (c : Correlator) {ev : Event} (medium : media ev = true) : TellsMedia c (c.pushEv ev) := by
  have kind : ∀ again ∈ (told ev).toList, media again = true := by cases ev <;> simp_all [told, media]
  exact ⟨(told ev).toList, .pushEv c ev, kind⟩

theorem tells_ingestRtp (c : Correlator) (ts : UInt64) (flow : Flow5Tuple) (header : RtpHeader) (len : Nat)
    (encap : Encap) : Tells c (c.ingestRtp ts flow header len encap) [] := by
  unfold ingestRtp
  dsimp only
  split
  · exact (Tells.reg c _).quietly (tells_nothing.addDiagnostics _ _)
  · split
    · exact ((Tells.reg c _).quietly (tells_nothing.addDiagnostics _ _)).quietly (.reg _ _)
    · exact .refl c

theorem tells_attachSample (ts : UInt64) (c : Correlator) (sample : RtcpSample) :
    TellsMedia c (attachSample ts c sample) := by
  unfold attachSample
  dsimp only
  generalize List.foldl _ c.reg _ = reg
  have timed : Tells c { c with reg } [] := .reg c reg
  split
  · exact timed.media.trans (tells_medium _ rfl)
  · exact (Tells.reg c _).media

theorem tells_ingestRtcp (c : Correlator) (ts : UInt64) (flow : Flow5Tuple) (msg : RtcpMessage) :
    TellsMedia c (c.ingestRtcp ts flow msg) := by
  unfold ingestRtcp
  dsimp only
  split
  · exact (Tells.reg c _).media.trans (.foldl (tells_attachSample ts) _ _)
  · exact .foldl (tells_attachSample ts) _ c

theorem tells_snapStream (ts : UInt64) (c : Correlator) (key : StreamKey) : TellsMedia c (snapStream ts c key) := by
  have sampled : ∀ reg, Tells c (if c.keepTerminated then { c with reg } else c) [] := by
    intro reg
    split
    · exact .reg c _
    · exact .refl c
  unfold snapStream
  dsimp only
  specialize sampled (c.reg.updateStream key (·.sample ts))
  generalize (if c.keepTerminated then _ else c) = r at sampled ⊢
  split
  · split
    · exact sampled.media.trans (tells_medium r rfl)
    · exact sampled.media
  · exact sampled.media

theorem tells_ipattrTick (iter : Iteration) (c : Correlator) (ts : UInt64) : Tells c (c.ipattrTick iter ts) [] := by
  unfold ipattrTick
  dsimp only
  split
  · split
    · exact .silent rfl rfl rfl rfl rfl
    · exact .reg c _
  · split
    · exact .silent rfl rfl rfl rfl rfl
    · exact .refl c

theorem tells_snapped (iter : Iteration) (c : Correlator) (ts : UInt64) : TellsMedia c (snapped iter c ts) := by
  have aged : ∀ t : Correlator, Tells t { t with
      lastFlushUs := some ts, reg := t.reg.pruneHeatmap, turn := t.turn.prune iter
      tcpReasm := t.tcpReasm.prune ts TcpReassembler.idleUs } [] := fun _ => .silent rfl rfl rfl rfl rfl
  exact ((tells_ipattrTick iter c ts).quietly (aged _)).media.trans (.foldl (tells_snapStream ts) _ _)

theorem tells_maybePeriodicFlush (iter : Iteration) (c : Correlator) (ts : UInt64) :
    TellsMedia c (c.maybePeriodicFlush iter ts) := by
  by_cases due : tickerDue (c.ipattrTick iter ts).lastFlushUs ts flushPeriodUs = true
  · rw [maybePeriodicFlush_due iter due]
    have evicted : Tells (snapped iter c ts) ((snapped iter c ts).evictPass iter ts) [] := .reg _ _
    have pruned := evicted.quietly (tells_prune _)
    have idle : ∀ t : Correlator, Tells t (t.pruneIdleIps ts) [] := fun t => .reg t _
    exact (tells_snapped iter c ts).trans (pruned.quietly (idle _)).media
  · have ticked := tells_ipattrTick iter c ts
    unfold maybePeriodicFlush
    simp only [due, Bool.or_false, if_false, Bool.false_eq_true]
    generalize c.ipattrTick iter ts = t at ticked ⊢
    have started : Tells t { t with lastFlushUs := some ts } [] := .silent rfl rfl rfl rfl rfl
    split
    · exact (ticked.quietly started).media
    · exact ticked.media

/-- Where there is room and no call is too old, a flush takes no call away. -/
theorem flushGone_roomy (iter : Iteration) (ts : UInt64) (ttl : c.callTtlSecs = 0) (roomy : Roomy ids c.reg) :
    flushGone iter c ts = [] := by
  have tends := tends_roomy ids
  have kept : Roomy ids (snapped iter c ts).reg :=
    tends.snapStreams iter _ ts (tends.pruneHeatmap _ (tends.ipattrTick iter c ts roomy))
  obtain ⟨_, snap, -⟩ := tells_snapped iter c ts
  have aged : (snapped iter c ts).callTtlSecs = 0 := snap.ttl.trans ttl
  unfold flushGone evictGone unstale
  dsimp only
  generalize snapped iter c ts = t at kept aged ⊢
  have matched : Roomy ids (if t.reg.searchHint.isSome then t.reg.refreshSearchMatches iter else t.reg) := by
    split
    · exact tends.refreshSearchMatches iter _ kept
    · exact kept
  have none_stale : ∀ reg, staleCalls iter reg 0 ts = [] := fun _ => if_pos (.inl rfl)
  split
  · rw [aged, capCalls_roomy (tends.evictStale iter _ 0 ts matched), none_stale, List.append_nil]
  · rfl

end Sipmon.Guarantees.ToldEvents
