import Sipmon.Guarantees.IpConservation
import Sipmon.Guarantees.SentCounters
import Sipmon.Lib.Meter

/-!
# Lost packets of an address, as its streams report them

A stream reports its cumulative loss at every attribution tick and when it leaves
with its call. The loss falls when a late packet arrives, and so does the mark
the next report is measured from. The row counts the reports modulo 2^64.
-/
namespace Sipmon.Guarantees.LossReports
open Source Lib Correlator Stages StreamStages
open IpConservation (beforePrune)
open IpTraffic (cutCalls)
open SentCounters (counter counter_addActive counter_attributeTo)

/-! ## One stream -/

/-- The cumulative loss of a stream. -/
def loss (s : RtpStream) : Nat := s.snapshotStats.lostPackets

/-- The sender of a stream, its loss and how far that is attributed. -/
def standing (s : RtpStream) : Flow5Tuple × Nat × Nat := (s.flow, loss s, s.ipattrLost)

theorem standing_applyClockRate (s : RtpStream) (rate : UInt32) :
    standing (s.applyClockRate rate) = standing s := by
  unfold RtpStream.applyClockRate MediaStatsAccumulator.setClockRate
  split
  · rfl
  · split <;> rfl

theorem standing_reclock (neg : NegotiatedMedia) (s : RtpStream) :
    standing (Correlator.reclock neg s) = standing s := by
  unfold Correlator.reclock
  split
  · split
    · exact standing_applyClockRate s _
    · rfl
  · rfl

theorem standing_sample (s : RtpStream) (ts : UInt64) : standing (s.sample ts) = standing s := by
  unfold RtpStream.sample
  split <;> rfl

/-- A packet may change the loss of its stream; the mark stays. -/
theorem observe_keeps (s : RtpStream) (ts : UInt64) (header : RtpHeader) (len : Nat) :
    (s.observe ts header len).flow = s.flow ∧ (s.observe ts header len).ipattrLost = s.ipattrLost := by
  unfold RtpStream.observe
  dsimp only
  split
  · have clocked := standing_applyClockRate { s with
      firstTsUs := s.firstTsUs.or (some ts), lastTsUs := some ts, bytes := s.bytes + len
      payloadType := s.payloadType.or (some header.payloadType) }
      (rtpClockRateForPayloadType header.payloadType)
    obtain ⟨flow, rest⟩ := Prod.mk.inj clocked
    exact ⟨flow, (Prod.mk.inj rest).2⟩
  · exact ⟨rfl, rfl⟩

theorem openStream_keeps (neg : Option NegotiatedMedia) (leg : Option Leg) (encap : Encap)
    (reverseExists : Bool) (ts : UInt64) (header : RtpHeader) (len : Nat) (s : RtpStream) :
    (openStream neg leg encap reverseExists ts header len s).flow = s.flow ∧
      (openStream neg leg encap reverseExists ts header len s).ipattrLost = s.ipattrLost := by
  unfold openStream
  cases neg with
  | none => exact observe_keeps _ ts header len
  | some neg =>
    have clocked := standing_applyClockRate { s with codec := neg.codecForPt header.payloadType }
      (neg.clockRateForPt header.payloadType)
    obtain ⟨flow, rest⟩ := Prod.mk.inj clocked
    exact ⟨(observe_keeps _ ts header len).1.trans flow,
      (observe_keeps _ ts header len).2.trans (Prod.mk.inj rest).2⟩

/-! ## One address -/

/-- The all-time lost packets of an address as a sender. -/
def lostTx (ip : IpAddr) (reg : Registry) : UInt64 := counter .losses ip reg.ipstats

/-- What a stream has lost since it was attributed last, if the address sends it. -/
def unattributed (ip : IpAddr) (s : RtpStream) : Nat :=
  if s.flow.src.ip = ip then loss s - s.ipattrLost else 0

/-- Attributed or still to be, as the row would count it. -/
def held (ip : IpAddr) (reg : Registry) : UInt64 :=
  lostTx ip reg + .ofNat (FiniteMap.total (unattributed ip) reg.streams)

theorem unattributed_of_standing {s t : RtpStream} (same : standing s = standing t) (ip : IpAddr) :
    unattributed ip s = unattributed ip t := by
  obtain ⟨flow, rest⟩ := Prod.mk.inj same
  obtain ⟨lost, mark⟩ := Prod.mk.inj rest
  rw [unattributed, unattributed, flow, lost, mark]

theorem unattributed_marked (ip : IpAddr) (s : RtpStream) :
    unattributed ip (Registry.markAttributed s) = 0 := by
  have nothing : loss (Registry.markAttributed s) - (Registry.markAttributed s).ipattrLost = 0 :=
    Nat.sub_self _
  unfold unattributed
  rw [nothing, ite_self]

/-! ## Stages that take no packet -/

/-- What is held stays, and every stream was there with the same standing. -/
structure Keeps (ip : IpAddr) (reg after : Registry) : Prop where
  held : held ip after = held ip reg
  stood : ∀ k s, after.streams.lookup k = some s →
    ∃ t, reg.streams.lookup k = some t ∧ standing s = standing t

theorem Keeps.trans {ip : IpAddr} {a b c : Registry} (first : Keeps ip a b) (second : Keeps ip b c) :
    Keeps ip a c := by
  refine ⟨second.held.trans first.held, fun k s present => ?_⟩
  obtain ⟨t, between, same⟩ := second.stood k s present
  obtain ⟨u, before, earlier⟩ := first.stood k t between
  exact ⟨u, before, same.trans earlier⟩

theorem Keeps.of_same {ip : IpAddr} {reg after : Registry} (streams : after.streams = reg.streams)
    (ipstats : after.ipstats = reg.ipstats) : Keeps ip reg after := by
  refine ⟨?_, fun k s present => ⟨s, by rwa [← streams], rfl⟩⟩
  rw [LossReports.held, LossReports.held, lostTx, lostTx, streams, ipstats]

theorem held_flush (ip : IpAddr) (reg : Registry) (key : StreamKey) :
    held ip (reg.flushStreamIpattr key) = held ip reg := by
  unfold Registry.flushStreamIpattr
  cases present : reg.streams.lookup key with
  | none => rfl
  | some s =>
    have rows := counter_attributeTo .losses reg.ipstats (Registry.ipAttr s) ip
    have streams := FiniteMap.total_modify (unattributed ip) key Registry.markAttributed reg.streams
    have own : (if (Registry.ipAttr s).srcIp = ip then SentCounters.Sent.losses.given (Registry.ipAttr s)
        else 0) = .ofNat (unattributed ip s) := (apply_ite UInt64.ofNat _ _ _).symm
    rw [present] at streams
    simp only [Option.map_some, Option.getD_some, Function.comp_apply, unattributed_marked,
      Nat.add_zero] at streams
    simp only [held, lostTx, Registry.updateStream]
    rw [rows, own, UInt64.add_assoc, ← UInt64.ofNat_add, Nat.add_comm (unattributed ip s), streams]

theorem keeps_updateStream (ip : IpAddr) (reg : Registry) (key : StreamKey) {f : RtpStream → RtpStream}
    (same : ∀ s, standing (f s) = standing s) : Keeps ip reg (reg.updateStream key f) := by
  refine ⟨?_, fun k s present => ?_⟩
  · have kept := FiniteMap.total_modify_of_keeps (fun s => unattributed_of_standing (same s) ip) key
      reg.streams
    simp only [held, lostTx, Registry.updateStream, kept]
  · simp only [Registry.updateStream, FiniteMap.lookup_modify] at present
    split at present
    · obtain ⟨t, before, rfl⟩ := Option.map_eq_some_iff.mp present
      exact ⟨t, before, same t⟩
    · exact ⟨s, present, rfl⟩

theorem keeps_dropStream (ip : IpAddr) (reg : Registry) (key : StreamKey) :
    Keeps ip reg (reg.dropStream key) := by
  have streams : (reg.dropStream key).streams = (reg.flushStreamIpattr key).streams.erase key := rfl
  have rows : lostTx ip (reg.dropStream key) = lostTx ip (reg.flushStreamIpattr key) := rfl
  constructor
  · have erased := FiniteMap.total_erase (unattributed ip) key (reg.flushStreamIpattr key).streams
    have nothing : (((reg.flushStreamIpattr key).streams.lookup key).map (unattributed ip)).getD 0 = 0 := by
      rw [lookup_flushStreamIpattr, if_pos rfl]
      cases reg.streams.lookup key with
      | none => rfl
      | some s => exact unattributed_marked ip s
    rw [nothing, Nat.add_zero] at erased
    rw [← held_flush ip reg key]
    unfold held
    rw [rows, streams, erased]
  · intro k s present
    rw [streams, FiniteMap.lookup_erase_iff] at present
    split at present
    · cases present
    · next differs =>
      rw [lookup_flushStreamIpattr, if_neg differs] at present
      exact ⟨s, present, rfl⟩

theorem settles_keeps (ip : IpAddr) : Settles standing (Keeps ip) where
  reclock := standing_reclock
  sample := standing_sample
  timing _ _ _ := rfl
  reversed _ := rfl
  trans := Keeps.trans
  kept := .of_same
  updated reg key _ same := keeps_updateStream ip reg key same
  active reg host delta := by
    refine ⟨?_, fun k s present => ⟨s, present, rfl⟩⟩
    exact congrArg (· + UInt64.ofNat (FiniteMap.total (unattributed ip) reg.streams))
      (counter_addActive .losses reg.ipstats host ip delta)
  dropped := keeps_dropStream ip

/-- No row has moved, and no stream as far as the view shows. -/
structure Steady {β : Type*} (view : RtpStream → β) (reg after : Registry) : Prop where
  rows : ∀ ip, lostTx ip after = lostTx ip reg
  stand : ∀ k, (after.streams.lookup k).map view = (reg.streams.lookup k).map view

theorem attends_steady {β : Type*} {view : RtpStream → β}
    (reclock : ∀ neg s, view (Correlator.reclock neg s) = view s)
    (sample : ∀ (s : RtpStream) ts, view (s.sample ts) = view s)
    (timing : ∀ (s : RtpStream) rtt oneway, view (s.addTiming rtt oneway) = view s)
    (reversed : ∀ s : RtpStream, view { s with reverseSeen := true } = view s) :
    Attends view (Steady view) where
  reclock := reclock
  sample := sample
  timing := timing
  reversed := reversed
  trans first second := ⟨fun ip => (second.rows ip).trans (first.rows ip),
    fun k => (second.stand k).trans (first.stand k)⟩
  kept streams ipstats := ⟨fun ip => by rw [lostTx, lostTx, ipstats], fun k => by rw [streams]⟩
  updated reg key f same := by
    refine ⟨fun _ => rfl, fun k => ?_⟩
    simp only [Registry.updateStream, FiniteMap.lookup_modify]
    split
    · rw [Option.map_map]
      exact congrArg (Option.map · _) (funext same)
    · rfl
  active reg host delta := ⟨fun ip => counter_addActive .losses reg.ipstats host ip delta, fun _ => rfl⟩

theorem attends_standing : Attends standing (Steady standing) :=
  attends_steady standing_reclock standing_sample (fun _ _ _ => rfl) fun _ => rfl

/-! ## Reports -/

/-- Whether a step is an attribution tick. -/
def ticks (c : Correlator) (input : Iteration × Op) : Bool :=
  match input.2 with
  | .flush ts => tickerDue c.lastIpattrUs ts 1000000
  | _ => false

/-- The registry of a step before it cuts streams at the cap. -/
def uncapped (c : Correlator) (input : Iteration × Op) : Registry :=
  uncut (capPoint c input) (step c input).reg

/-- The streams of an address that report in a step: at a tick all of them, else
those that leave with their call. A stream cut at the cap reports nothing. -/
def reporting (ip : IpAddr) (c : Correlator) (input : Iteration × Op) : List (StreamKey × RtpStream) :=
  c.reg.streams.toList.filter fun e =>
    decide (e.2.flow.src.ip = ip) && (ticks c input || decide (e.1 ∉ (uncapped c input).streams))

/-- Neither a clear nor a pass that prunes the row of the address. -/
def SparesRow (ip : IpAddr) (c : Correlator) (input : Iteration × Op) : Prop :=
  match input.2 with
  | .clear => False
  | .flush ts => tickerDue (c.ipattrTick input.1 ts).lastFlushUs ts flushPeriodUs = true →
      ∀ row, (beforePrune input.1 c ts).reg.ipstats.lookup ip = some row →
        0 < row.activeCalls ∨ ts.toNat - ipstatsIdleUs ≤ (row.lastSeenUs.getD 0).toNat
  | _ => True

/-- The stream a step opens. -/
def opens (c : Correlator) : Op → Option StreamKey
  | .rtp _ flow header _ _ =>
    if (c.reg.streams.lookup { flow, ssrc := header.ssrc }).isNone && (callOfFlow c.reg flow).isSome then
      some { flow, ssrc := header.ssrc }
    else none
  | _ => none

/-! ## The end of a step -/

theorem lostTx_pruneIdleIps {ip : IpAddr} {c : Correlator} {ts : UInt64}
    (spared : ∀ row, c.reg.ipstats.lookup ip = some row →
      0 < row.activeCalls ∨ ts.toNat - ipstatsIdleUs ≤ (row.lastSeenUs.getD 0).toNat) :
    lostTx ip (c.pruneIdleIps ts).reg = lostTx ip c.reg := by
  unfold lostTx pruneIdleIps counter
  generalize ts.toNat - ipstatsIdleUs = cutoff at spared ⊢
  dsimp only [IpStatsStore.pruneIdle]
  rw [FiniteMap.lookup_retain]
  cases present : c.reg.ipstats.lookup ip with
  | none => rfl
  | some row =>
    have kept : (decide (0 < row.activeCalls) || decide (cutoff ≤ (row.lastSeenUs.getD 0).toNat)) = true := by
      simpa only [Bool.or_eq_true, decide_eq_true_eq] using spared row present
    rw [Option.filter_some, if_pos kept]

theorem reg_evictPass (iter : Iteration) (c : Correlator) (ts : UInt64) :
    (c.evictPass iter ts).reg = (unstale iter c ts).evictIfNeeded iter := rfl

/-- Past the cap the rows stay and streams only leave. -/
theorem step_uncapped (ip : IpAddr) (c : Correlator) (input : Iteration × Op)
    (spared : SparesRow ip c input) :
    lostTx ip (step c input).reg = lostTx ip (uncapped c input) ∧
      ∀ k s, (step c input).reg.streams.lookup k = some s → (uncapped c input).streams.lookup k = some s := by
  obtain ⟨iter, op⟩ := input
  cases point : capPoint c (iter, op) with
  | none =>
    rw [uncapped, point, uncut_none]
    exact ⟨rfl, fun _ _ present => present⟩
  | some reg =>
    rw [uncapped, point, uncut_some]
    obtain ⟨rows, streams⟩ := evictIfNeeded_cut iter reg
    have ended : ∀ after : Registry, after.streams = (reg.evictIfNeeded iter).streams →
        lostTx ip after = lostTx ip (reg.evictIfNeeded iter) → lostTx ip after = lostTx ip (cutCalls reg) ∧
          ∀ k s, after.streams.lookup k = some s → (cutCalls reg).streams.lookup k = some s := by
      intro after left counted
      refine ⟨counted.trans ?_, fun k s present => streams k s (by rwa [← left])⟩
      rw [lostTx, lostTx, rows]
    have blind : ∀ c : Correlator, c.pruneRemovedBookkeeping.reg.streams = c.reg.streams := fun _ => rfl
    have blindRows : ∀ c : Correlator, lostTx ip c.pruneRemovedBookkeeping.reg = lostTx ip c.reg :=
      fun _ => rfl
    cases op with
    | sip msg =>
      have stepped : step c (iter, .sip msg) = c.ingestSip iter msg := rfl
      rw [stepped]
      exact ended _ (view_ingestSip Registry.streams blind iter point)
        (view_ingestSip (lostTx ip) blindRows iter point)
    | terminal id =>
      have point : terminalPoint c id = some reg := point
      have stepped : step c (iter, .terminal id) = c.onCallTerminal iter id := rfl
      rw [stepped]
      exact ended _ (view_onCallTerminal Registry.streams blind iter point)
        (view_onCallTerminal (lostTx ip) blindRows iter point)
    | flush ts =>
      have unfolded : flushPoint iter c ts = some reg := point
      unfold flushPoint at unfolded
      split at unfolded
      · next due =>
        have pass : step c (iter, .flush ts) = (beforePrune iter c ts).pruneIdleIps ts :=
          maybePeriodicFlush_due iter due
        have evicted := reg_evictPass iter (snapped iter c ts) ts
        rw [Option.some.inj unfolded] at evicted
        have pruned : ∀ c : Correlator, (c.pruneIdleIps ts).reg.streams = c.reg.streams := fun _ => rfl
        rw [pass]
        refine ended _ ?_ ?_
        · rw [pruned, beforePrune, blind, evicted]
        · rw [lostTx_pruneIdleIps (spared due), beforePrune, blindRows, evicted]
      · cases unfolded
    | _ => cases point

/-! ## Attribution ticks -/

/-- The registry of a step once its attribution ticker has run. -/
def ticked (c : Correlator) (input : Iteration × Op) : Registry :=
  match input.2 with
  | .flush ts => (c.ipattrTick input.1 ts).reg
  | _ => c.reg

/-- What a step of the ticker makes of a stream. -/
structure Ticked (due : Bool) (s t : RtpStream) : Prop where
  flow : s.flow = t.flow
  loss : loss s = loss t
  mark : s.ipattrLost = if due then LossReports.loss t else t.ipattrLost

theorem attributeIpStats_keeps (ip : IpAddr) (iter : Iteration) (c : Correlator) :
    held ip (c.attributeIpStats iter).reg = held ip c.reg ∧
      ∀ k s, (c.attributeIpStats iter).reg.streams.lookup k = some s →
        ∃ t, c.reg.streams.lookup k = some t ∧ Ticked true s t := by
  have flushed : ∀ (keys : List StreamKey) (reg : Registry),
      held ip (keys.foldl Registry.flushStreamIpattr reg) = held ip reg ∧
        ∀ k s, (keys.foldl Registry.flushStreamIpattr reg).streams.lookup k = some s →
          ∃ t, reg.streams.lookup k = some t ∧ s.flow = t.flow ∧ loss s = loss t := by
    intro keys
    induction keys with
    | nil => exact fun reg => ⟨rfl, fun k s present => ⟨s, present, rfl, rfl⟩⟩
    | cons key rest ih =>
      intro reg
      obtain ⟨kept, stood⟩ := ih (reg.flushStreamIpattr key)
      refine ⟨kept.trans (held_flush ip reg key), fun k s present => ?_⟩
      obtain ⟨t, between, flow, lost⟩ := stood k s present
      rw [lookup_flushStreamIpattr] at between
      split at between
      · obtain ⟨u, before, rfl⟩ := Option.map_eq_some_iff.mp between
        exact ⟨u, before, flow, lost⟩
      · exact ⟨t, between, flow, lost⟩
  obtain ⟨kept, stood⟩ := flushed (iter.order c.reg.streams.keys) c.reg
  refine ⟨kept, fun k s present => ?_⟩
  obtain ⟨t, before, flow, lost⟩ := stood k s present
  have settled : s.ipattrLost = loss s :=
    marked_attributeIpStats (P := fun s => s.ipattrLost = loss s) (fun _ => rfl) iter c k s present
  exact ⟨t, before, flow, lost, settled.trans lost⟩

theorem ipattrTick_reg (iter : Iteration) (c : Correlator) (ts : UInt64) :
    (c.ipattrTick iter ts).reg =
      if tickerDue c.lastIpattrUs ts 1000000 then (c.attributeIpStats iter).reg else c.reg := by
  unfold ipattrTick
  dsimp only
  split <;> split <;> rfl

theorem ticked_keeps (ip : IpAddr) (c : Correlator) (input : Iteration × Op) :
    held ip (ticked c input) = held ip c.reg ∧
      ∀ k s, (ticked c input).streams.lookup k = some s →
        ∃ t, c.reg.streams.lookup k = some t ∧ Ticked (ticks c input) s t := by
  obtain ⟨iter, op⟩ := input
  have idle : held ip c.reg = held ip c.reg ∧ ∀ k s, c.reg.streams.lookup k = some s →
      ∃ t, c.reg.streams.lookup k = some t ∧ Ticked false s t :=
    ⟨rfl, fun k s present => ⟨s, present, rfl, rfl, rfl⟩⟩
  cases op with
  | flush ts =>
    unfold ticked ticks
    dsimp only
    rw [ipattrTick_reg]
    cases tickerDue c.lastIpattrUs ts 1000000 with
    | true => exact attributeIpStats_keeps ip iter c
    | false => exact idle
  | _ => exact idle

/-! ## One step -/

/-- What a step does to the row of an address and to the marks of the streams. -/
structure Rounds (ip : IpAddr) (c : Correlator) (input : Iteration × Op) : Prop where
  row : lostTx ip (step c input).reg =
    lostTx ip c.reg + .ofNat ((reporting ip c input).map fun e => loss e.2 - e.2.ipattrLost).sum
  stands : ∀ k s, (step c input).reg.streams.lookup k = some s →
    (opens c input.2 = some k ∧ s.ipattrLost = 0) ∨
      (opens c input.2 ≠ some k ∧ ∃ t, c.reg.streams.lookup k = some t ∧ s.flow = t.flow ∧
        s.ipattrLost = if ticks c input then loss t else t.ipattrLost)

theorem sum_reporting (ip : IpAddr) (reports : StreamKey × RtpStream → Bool)
    (streams : List (StreamKey × RtpStream)) :
    ((streams.filter reports).map fun e => unattributed ip e.2).sum =
      ((streams.filter fun e => decide (e.2.flow.src.ip = ip) && reports e).map fun e =>
        loss e.2 - e.2.ipattrLost).sum := by
  induction streams with
  | nil => rfl
  | cons e rest ih =>
    rw [List.filter_cons, List.filter_cons]
    by_cases reported : reports e = true
    · by_cases sent : e.2.flow.src.ip = ip
      · have own : unattributed ip e.2 = loss e.2 - e.2.ipattrLost := if_pos sent
        simp only [reported, sent, decide_true, Bool.and_true, if_true, List.map_cons, List.sum_cons, ih,
          own]
      · have none_ : unattributed ip e.2 = 0 := if_neg sent
        simp only [reported, sent, decide_false, Bool.false_and, Bool.false_eq_true, if_true, if_false,
          List.map_cons, List.sum_cons, ih, none_, Nat.zero_add]
    · simp only [reported, Bool.and_false, Bool.false_eq_true, if_false, ih]

/-- Where the row and what is held back come to the same, the row gains what is no
longer held back. -/
theorem gained_of_conserved {row after : UInt64} {all kept gone : Nat}
    (conserved : after + .ofNat kept = row + .ofNat all) (split : kept + gone = all) :
    after = row + .ofNat gone := by
  rw [← split, Nat.add_comm, UInt64.ofNat_add, ← UInt64.add_assoc] at conserved
  exact (UInt64.add_left_inj _).mp conserved

/-- A step that takes no packet: what is no longer held back has been reported. -/
theorem rounds_of_keeps {ip : IpAddr} {c : Correlator} {input : Iteration × Op}
    (spared : SparesRow ip c input) (closed : opens c input.2 = none)
    (kept : Keeps ip (ticked c input) (uncapped c input)) : Rounds ip c input := by
  obtain ⟨rows, left⟩ := step_uncapped ip c input spared
  obtain ⟨balance, marked⟩ := ticked_keeps ip c input
  have stood : ∀ k s, (uncapped c input).streams.lookup k = some s →
      ∃ t, c.reg.streams.lookup k = some t ∧ Ticked (ticks c input) s t := by
    intro k s present
    obtain ⟨t, between, same⟩ := kept.stood k s present
    obtain ⟨u, before, tick⟩ := marked k t between
    obtain ⟨flow, rest⟩ := Prod.mk.inj same
    obtain ⟨lost, mark⟩ := Prod.mk.inj rest
    exact ⟨u, before, flow.trans tick.flow, lost.trans tick.loss, mark.trans tick.mark⟩
  have conserved : lostTx ip (step c input).reg +
      .ofNat (FiniteMap.total (unattributed ip) (uncapped c input).streams) = held ip c.reg := by
    rw [rows, ← balance, ← kept.held, held]
  refine ⟨?_, fun k s present => .inr ⟨by rw [closed]; exact (Option.some_ne_none k).symm, ?_⟩⟩
  · refine gained_of_conserved conserved ?_
    unfold reporting
    cases due : ticks c input with
    | true =>
      have settled : FiniteMap.total (unattributed ip) (uncapped c input).streams = 0 := by
        refine FiniteMap.total_of_zero fun k s present => ?_
        obtain ⟨t, _, tick⟩ := stood k s present
        have mark := tick.mark
        rw [due, if_pos rfl, ← tick.loss] at mark
        rw [unattributed, mark, Nat.sub_self, ite_self]
      have all := sum_reporting ip (fun _ => true) c.reg.streams.toList
      rw [List.filter_true, ← FiniteMap.total_eq_sum] at all
      simp only [Bool.true_or]
      omega
    | false =>
      have gone := FiniteMap.total_lost (f := unattributed ip) (m := c.reg.streams)
        (n := (uncapped c input).streams) fun k s present => by
          obtain ⟨t, before, tick⟩ := stood k s present
          have mark := tick.mark
          rw [due] at mark
          exact ⟨t, before, by rw [unattributed, unattributed, tick.flow, tick.loss, mark]; rfl⟩
      have reported := sum_reporting ip (fun e => decide (e.1 ∉ (uncapped c input).streams))
        c.reg.streams.toList
      simp only [Bool.false_or]
      omega
  · obtain ⟨t, before, tick⟩ := stood k s (left k s present)
    exact ⟨t, before, tick.flow, tick.mark⟩

/-- A step that keeps every stream reports nothing, unless the ticker is due. -/
theorem reporting_eq_nil {ip : IpAddr} {c : Correlator} {input : Iteration × Op}
    (quiet : ticks c input = false) (point : capPoint c input = none)
    (tracked : ∀ k, k ∈ c.reg.streams → k ∈ (step c input).reg.streams) : reporting ip c input = [] := by
  unfold reporting uncapped
  rw [quiet, point, uncut_none]
  refine List.filter_eq_nil_iff.mpr fun e listed => ?_
  have present := (FiniteMap.mem_toList c.reg.streams e.1 e.2).mp listed
  have there := tracked e.1 (AList.lookup_isSome.mp (Option.isSome_of_eq_some present))
  simp only [there, not_true, decide_false, Bool.or_self, Bool.and_false, Bool.false_eq_true,
    not_false_eq_true]

theorem rounds_of_packet {ip : IpAddr} {c : Correlator} {input : Iteration × Op}
    (quiet : ticks c input = false) (point : capPoint c input = none)
    (tracked : ∀ k, k ∈ c.reg.streams → k ∈ (step c input).reg.streams)
    (row : lostTx ip (step c input).reg = lostTx ip c.reg)
    (stands : ∀ k s, (step c input).reg.streams.lookup k = some s →
      (opens c input.2 = some k ∧ s.ipattrLost = 0) ∨
        (opens c input.2 ≠ some k ∧ ∃ t, c.reg.streams.lookup k = some t ∧ s.flow = t.flow ∧
          s.ipattrLost = t.ipattrLost)) : Rounds ip c input := by
  refine ⟨by rw [row, reporting_eq_nil quiet point tracked]; exact (UInt64.add_zero _).symm, ?_⟩
  rw [quiet]
  exact stands

theorem mem_observeExistingRtp (c : Correlator) (ts : UInt64) (header : RtpHeader) (len : Nat)
    (key : StreamKey) (s : RtpStream) {k : StreamKey} (listed : k ∈ c.reg.streams) :
    k ∈ (c.observeExistingRtp ts header len key s).reg.streams := by
  have steady := attends_standing.observeExistingRtp c ts header len key s
  have same := congrArg Option.isSome (steady.stand k)
  rw [Option.isSome_map, Option.isSome_map] at same
  refine AList.lookup_isSome.mp (same.trans (AList.lookup_isSome.mpr ?_))
  exact (FiniteMap.mem_modify k key _ c.reg.streams).mpr listed

theorem rounds_existing {ip : IpAddr} {c : Correlator} {iter : Iteration} {ts : UInt64} {flow : Flow5Tuple}
    {header : RtpHeader} {len : Nat} {encap : Encap} {s : RtpStream}
    (found : c.reg.streams.lookup { flow, ssrc := header.ssrc } = some s) :
    Rounds ip c (iter, .rtp ts flow header len encap) := by
  have stepped : step c (iter, .rtp ts flow header len encap) =
      c.observeExistingRtp ts header len { flow, ssrc := header.ssrc } s := by
    simp only [step, ingestRtp, found]
  have closed : opens c (.rtp ts flow header len encap) = none := by
    simp only [opens, found, Option.isNone_some, Bool.false_and, Bool.false_eq_true, if_false]
  have steady := attends_standing.observeExistingRtp c ts header len { flow, ssrc := header.ssrc } s
  have stand : ∀ k, ((step c (iter, .rtp ts flow header len encap)).reg.streams.lookup k).map standing =
      (if k = { flow, ssrc := header.ssrc } then
        (c.reg.streams.lookup k).map (·.observe ts header len) else c.reg.streams.lookup k).map standing := by
    intro k
    rw [stepped, steady.stand, ← FiniteMap.lookup_modify]
    rfl
  refine rounds_of_packet rfl rfl (fun k listed => ?_) ?_ fun k t present => ?_
  · rw [stepped]
    exact mem_observeExistingRtp c ts header len _ s listed
  · rw [stepped]
    exact steady.rows ip
  · right
    refine ⟨by rw [closed]; exact (Option.some_ne_none k).symm, ?_⟩
    have moved := stand k
    rw [present, Option.map_some] at moved
    split at moved
    · rw [Option.map_map] at moved
      obtain ⟨u, before, same⟩ := Option.map_eq_some_iff.mp moved.symm
      obtain ⟨flows, rest⟩ := Prod.mk.inj same
      have seen := observe_keeps u ts header len
      exact ⟨u, before, flows.symm.trans seen.1, (Prod.mk.inj rest).2.symm.trans seen.2⟩
    · obtain ⟨u, before, same⟩ := Option.map_eq_some_iff.mp moved.symm
      obtain ⟨flows, rest⟩ := Prod.mk.inj same
      exact ⟨u, before, flows.symm, (Prod.mk.inj rest).2.symm⟩

theorem rounds_opening {ip : IpAddr} {c : Correlator} {iter : Iteration} {ts : UInt64} {flow : Flow5Tuple}
    {header : RtpHeader} {len : Nat} {encap : Encap} {callId : String}
    (absent : c.reg.streams.lookup { flow, ssrc := header.ssrc } = none)
    (owner : callOfFlow c.reg flow = some callId) : Rounds ip c (iter, .rtp ts flow header len encap) := by
  have stepped : step c (iter, .rtp ts flow header len encap) =
      c.openRtp ts flow header len encap callId := by
    simp only [step, ingestRtp, absent, owner]
  have new : opens c (.rtp ts flow header len encap) = some { flow, ssrc := header.ssrc } := by
    simp only [opens, absent, owner, Option.isNone_none, Option.isSome_some, Bool.and_self, if_true]
  have steady := attends_standing.openRtp c ts flow header len encap callId
  have fresh : (opened c ts flow header len encap callId).ipattrLost = 0 := by
    unfold opened
    rw [absent, Option.getD_none]
    exact (openStream_keeps _ _ _ _ ts header len _).2
  have stand : ∀ k, ((step c (iter, .rtp ts flow header len encap)).reg.streams.lookup k).map standing =
      (if k = { flow, ssrc := header.ssrc } then some (opened c ts flow header len encap callId)
        else c.reg.streams.lookup k).map standing := by
    intro k
    rw [stepped, steady.stand, ← FiniteMap.lookup_insert_iff]
  refine rounds_of_packet rfl rfl (fun k listed => ?_) ?_ fun k t present => ?_
  · have before := AList.lookup_isSome.mpr listed
    have same := congrArg Option.isSome (stand k)
    rw [Option.isSome_map, Option.isSome_map] at same
    refine AList.lookup_isSome.mp (same.trans ?_)
    split
    · rfl
    · exact before
  · rw [stepped]
    exact steady.rows ip
  · have moved := stand k
    rw [present, Option.map_some] at moved
    rw [new]
    split at moved
    · next own =>
      left
      obtain ⟨_, rest⟩ := Prod.mk.inj (Option.some.inj moved)
      exact ⟨congrArg some own.symm, (Prod.mk.inj rest).2.trans fresh⟩
    · next other =>
      right
      refine ⟨fun same => other (Option.some.inj same).symm, ?_⟩
      obtain ⟨u, before, same⟩ := Option.map_eq_some_iff.mp moved.symm
      obtain ⟨flows, rest⟩ := Prod.mk.inj same
      exact ⟨u, before, flows.symm, (Prod.mk.inj rest).2.symm⟩

/-- Every step but a clear. -/
theorem rounds (ip : IpAddr) (c : Correlator) (input : Iteration × Op) (spared : SparesRow ip c input) :
    Rounds ip c input := by
  obtain ⟨iter, op⟩ := input
  have still : ∀ {op : Op}, SparesRow ip c (iter, op) → opens c op = none →
      (step c (iter, op)).reg.streams = c.reg.streams → (step c (iter, op)).reg.ipstats = c.reg.ipstats →
      ticked c (iter, op) = c.reg → capPoint c (iter, op) = none → Rounds ip c (iter, op) := by
    intro op spared closed streams ipstats idle point
    refine rounds_of_keeps spared closed ?_
    rw [idle, uncapped, point, uncut_none]
    exact .of_same streams ipstats
  cases op with
  | sip msg => exact rounds_of_keeps spared rfl ((settles_keeps ip).ingestSip iter c msg)
  | terminal id => exact rounds_of_keeps spared rfl ((settles_keeps ip).onCallTerminal iter c id)
  | flush ts => exact rounds_of_keeps spared rfl ((settles_keeps ip).flush iter c ts)
  | rtcp ts flow msg => exact rounds_of_keeps spared rfl ((settles_keeps ip).ingestRtcp c ts flow msg)
  | clear => exact spared.elim
  | search q => exact rounds_of_keeps spared rfl ((settles_keeps ip).setSearchHint iter c.reg q)
  | touchTime ts => exact still spared rfl rfl rfl rfl rfl
  | focus hint => exact still spared rfl rfl rfl rfl rfl
  | takeEvents => exact still spared rfl rfl rfl rfl rfl
  | disableEvlogEmit => exact still spared rfl rfl rfl rfl rfl
  | enableSessionStats => exact still spared rfl rfl rfl rfl rfl
  | rtp ts flow header len encap =>
    cases tracked : c.reg.streams.lookup { flow, ssrc := header.ssrc } with
    | some s => exact rounds_existing tracked
    | none =>
      cases owner : callOfFlow c.reg flow with
      | some callId => exact rounds_opening tracked owner
      | none =>
        have same : step c (iter, .rtp ts flow header len encap) = c := by
          simp only [step, ingestRtp, tracked, owner]
        have closed : opens c (.rtp ts flow header len encap) = none := by
          simp only [opens, owner, Option.isSome_none, Bool.and_false, Bool.false_eq_true, if_false]
        exact still spared closed (by rw [same]) (by rw [same]) rfl rfl

/-! ## Runs -/

/-- A correlator and what the streams from an address have reported so far. A key
opened again is a new stream. -/
structure Monitor where
  c : Correlator
  born : StreamKey → Nat := fun _ => 0
  reports : List ((StreamKey × Nat) × Nat) := []

namespace Monitor

/-- What the streams report in a step. -/
def heard (w : Monitor) (ip : IpAddr) (input : Iteration × Op) : List ((StreamKey × Nat) × Nat) :=
  (reporting ip w.c input).map fun e => ((e.1, w.born e.1), loss e.2)

def step (ip : IpAddr) (w : Monitor) (input : Iteration × Op) : Monitor :=
  { c := w.c.step input
    born := fun k => if opens w.c input.2 = some k then w.born k + 1 else w.born k
    reports := w.reports ++ w.heard ip input }

end Monitor

/-- The row holds what was reported, and every stream is marked at its last report. -/
structure Watched (ip : IpAddr) (w : Monitor) : Prop where
  row : lostTx ip w.c.reg = .ofNat (Meter.run w.reports).counted
  marks : ∀ k s, w.c.reg.streams.lookup k = some s → s.flow.src.ip = ip →
    (Meter.run w.reports).mark (k, w.born k) = s.ipattrLost
  unborn : ∀ k n, w.born k < n → (Meter.run w.reports).mark (k, n) = 0

theorem distinct_heard (w : Monitor) (ip : IpAddr) (input : Iteration × Op) :
    ((w.heard ip input).map Prod.fst).Nodup := by
  have keys : (w.heard ip input).map Prod.fst =
      ((reporting ip w.c input).map Prod.fst).map fun k => (k, w.born k) := by
    rw [Monitor.heard, List.map_map, List.map_map]
    rfl
  have listed : ((reporting ip w.c input).map Prod.fst).Nodup :=
    (FiniteMap.nodup_toList_keys w.c.reg.streams).sublist (List.Sublist.map _ List.filter_sublist)
  rw [keys]
  exact listed.map fun a b same => (Prod.mk.inj same).1

theorem mem_heard_keys {w : Monitor} {ip : IpAddr} {input : Iteration × Op} {k : StreamKey} {n : Nat}
    (listed : (k, n) ∈ (w.heard ip input).map Prod.fst) :
    n = w.born k ∧ (ticks w.c input = true ∨ k ∉ (uncapped w.c input).streams) := by
  obtain ⟨r, member, same⟩ := List.mem_map.mp listed
  obtain ⟨e, reported, rfl⟩ := List.mem_map.mp member
  obtain ⟨rfl, rfl⟩ := Prod.mk.inj same
  have accepted := (List.mem_filter.mp reported).2
  simp only [Bool.and_eq_true, Bool.or_eq_true, decide_eq_true_eq] at accepted
  exact ⟨rfl, accepted.2⟩

theorem run_heard (w : Monitor) (ip : IpAddr) (input : Iteration × Op) :
    Meter.run (w.step ip input).reports = (w.heard ip input).foldl Meter.read (Meter.run w.reports) := by
  rw [Monitor.step, Meter.run, List.foldl_append]
  rfl

section Step

variable {ip : IpAddr} {w : Monitor} {input : Iteration × Op}

/-- The row gains what the streams report over their marks. -/
theorem row_step (round : Rounds ip w.c input) (watched : Watched ip w) :
    lostTx ip (w.step ip input).c.reg = .ofNat (Meter.run (w.step ip input).reports).counted := by
  have distinct := distinct_heard w ip input
  have gains : (w.heard ip input).map (Meter.run w.reports).gain =
      (reporting ip w.c input).map fun e => loss e.2 - e.2.ipattrLost := by
    rw [Monitor.heard, List.map_map]
    refine List.map_congr_left fun e reported => ?_
    obtain ⟨listed, accepted⟩ := List.mem_filter.mp reported
    simp only [Bool.and_eq_true, decide_eq_true_eq] at accepted
    have present := (FiniteMap.mem_toList w.c.reg.streams e.1 e.2).mp listed
    rw [Function.comp_apply, Meter.gain, watched.marks e.1 e.2 present accepted.1]
  have row : lostTx ip (w.step ip input).c.reg = _ := round.row
  rw [row, run_heard, Meter.counted_round distinct, gains, watched.row, UInt64.ofNat_add]

/-- A stream that opens starts with nothing reported. -/
theorem mark_opened (watched : Watched ip w) (k : StreamKey) :
    (Meter.run (w.step ip input).reports).mark (k, w.born k + 1) = 0 := by
  rw [run_heard, Meter.mark_round_other, watched.unborn k _ (Nat.lt_succ_self _)]
  intro listed
  exact Nat.succ_ne_self _ (mem_heard_keys listed).1

/-- In a tick a stream reports all that it has lost. -/
theorem mark_ticked {k : StreamKey} {t : RtpStream} (before : w.c.reg.streams.lookup k = some t)
    (sent : t.flow.src.ip = ip) (due : ticks w.c input = true) :
    (Meter.run (w.step ip input).reports).mark (k, w.born k) = loss t := by
  have member : ((k, w.born k), loss t) ∈ w.heard ip input := by
    refine List.mem_map.mpr ⟨(k, t), List.mem_filter.mpr ⟨?_, ?_⟩, rfl⟩
    · exact (FiniteMap.mem_toList w.c.reg.streams k t).mpr before
    · simp only [sent, due, decide_true, Bool.true_or, Bool.and_self]
  rw [run_heard]
  exact Meter.mark_round (distinct_heard w ip input) _ member

/-- Between the ticks a stream that stays reports nothing. -/
theorem mark_kept {k : StreamKey} (stays : k ∈ (uncapped w.c input).streams) (idle : ticks w.c input = false) :
    (Meter.run (w.step ip input).reports).mark (k, w.born k) = (Meter.run w.reports).mark (k, w.born k) := by
  rw [run_heard, Meter.mark_round_other]
  intro listed
  rcases (mem_heard_keys listed).2 with due | gone
  · rw [idle] at due
    cases due
  · exact gone stays

theorem born_le (k : StreamKey) : w.born k ≤ (w.step ip input).born k := by
  unfold Monitor.step
  dsimp only
  split
  · exact Nat.le_succ _
  · exact Nat.le_refl _

end Step

theorem watched_step {ip : IpAddr} {w : Monitor} (input : Iteration × Op)
    (spared : SparesRow ip w.c input) (watched : Watched ip w) : Watched ip (w.step ip input) := by
  have round := rounds ip w.c input spared
  have left := (step_uncapped ip w.c input spared).2
  constructor
  · exact row_step round watched
  · intro k s present sent
    rcases round.stands k s present with ⟨opened, mark⟩ | ⟨others, t, before, flow, mark⟩
    · have reborn : (w.step ip input).born k = w.born k + 1 := if_pos opened
      rw [reborn, mark, mark_opened watched]
    · have same : (w.step ip input).born k = w.born k := if_neg others
      rw [same, mark]
      rw [flow] at sent
      cases due : ticks w.c input with
      | true => exact mark_ticked before sent due
      | false =>
        have stays : k ∈ (uncapped w.c input).streams :=
          AList.lookup_isSome.mp (Option.isSome_of_eq_some (left k s present))
        rw [mark_kept stays due]
        exact watched.marks k t before sent
  · intro k n later
    have older : w.born k < n := Nat.lt_of_le_of_lt (born_le k) later
    rw [run_heard, Meter.mark_round_other, watched.unborn k n older]
    intro listed
    have now := (mem_heard_keys listed).1
    omega

/-- What the streams from an address report over a run. -/
def reports (ip : IpAddr) (iter : Iteration) (config : Config) (source : String)
    (inputs : List (Iteration × Op)) : List ((StreamKey × Nat) × Nat) :=
  (inputs.foldl (Monitor.step ip) { c := .new iter config source }).reports

theorem c_monitor (ip : IpAddr) (w : Monitor) (inputs : List (Iteration × Op)) :
    (inputs.foldl (Monitor.step ip) w).c = w.c.run inputs := by
  induction inputs generalizing w with
  | nil => rfl
  | cons input rest ih => exact ih (w.step ip input)

theorem watched_run (ip : IpAddr) (iter : Iteration) (config : Config) (source : String)
    (inputs : List (Iteration × Op))
    (spared : Run.Along step (SparesRow ip) (.new iter config source) inputs) :
    Watched ip (inputs.foldl (Monitor.step ip) { c := .new iter config source }) := by
  have start : Watched ip { c := .new iter config source } := by
    refine ⟨rfl, fun k s present => ?_, fun _ _ _ => rfl⟩
    cases present
  have matched : ∀ (c : Correlator) (w : Monitor) (input : Iteration × Op), SparesRow ip c input →
      w.c = c ∧ Watched ip w → (w.step ip input).c = c.step input ∧ Watched ip (w.step ip input) := by
    rintro _ w input spared ⟨rfl, watched⟩
    exact ⟨rfl, watched_step input spared watched⟩
  exact (Run.Along.simulation (R := fun c w => w.c = c ∧ Watched ip w) matched spared ⟨rfl, start⟩).2

/-- The row of an address counts what its streams have reported, modulo 2^64. -/
theorem lostTx_run (ip : IpAddr) (iter : Iteration) (config : Config) (source : String)
    (inputs : List (Iteration × Op))
    (spared : Run.Along step (SparesRow ip) (.new iter config source) inputs) :
    lostTx ip ((Correlator.new iter config source).run inputs).reg =
      .ofNat (Meter.run (reports ip iter config source inputs)).counted := by
  have watched := watched_run ip iter config source inputs spared
  have row := watched.row
  rwa [c_monitor] at row

/-! ## After a tick -/

/-- The current loss of the streams an address sends. -/
def current (ip : IpAddr) (reg : Registry) : Nat :=
  FiniteMap.total (fun s => if s.flow.src.ip = ip then loss s else 0) reg.streams

theorem settled_flush (ip : IpAddr) (iter : Iteration) (c : Correlator) (ts : UInt64)
    (spared : SparesRow ip c (iter, .flush ts)) (due : tickerDue c.lastIpattrUs ts 1000000 = true)
    (k : StreamKey) (s : RtpStream) (present : (step c (iter, .flush ts)).reg.streams.lookup k = some s) :
    s.ipattrLost = loss s := by
  have left := (step_uncapped ip c (iter, .flush ts) spared).2 k s present
  obtain ⟨t, between, same⟩ := ((settles_keeps ip).flush iter c ts).stood k s left
  obtain ⟨u, _, tick⟩ := (ticked_keeps ip c (iter, .flush ts)).2 k t between
  obtain ⟨_, rest⟩ := Prod.mk.inj same
  obtain ⟨lost, mark⟩ := Prod.mk.inj rest
  have ticking : ticks c (iter, .flush ts) = true := due
  have marked := tick.mark
  rw [ticking, if_pos rfl] at marked
  rw [mark, marked, lost, tick.loss]

/-- Streams marked at their loss lose no more than they have reported. -/
theorem current_le_marks {ip : IpAddr} {w : Monitor} (watched : Watched ip w)
    (settled : ∀ k s, w.c.reg.streams.lookup k = some s → s.ipattrLost = loss s) :
    current ip w.c.reg ≤ FiniteMap.total id (Meter.run w.reports).marks := by
  let sent := w.c.reg.streams.toList.filter fun e => decide (e.2.flow.src.ip = ip)
  have summed : current ip w.c.reg = (sent.map fun e => loss e.2).sum := by
    have split : ∀ l : List (StreamKey × RtpStream),
        (l.map fun e => if e.2.flow.src.ip = ip then loss e.2 else 0).sum =
          ((l.filter fun e => decide (e.2.flow.src.ip = ip)).map fun e => loss e.2).sum := by
      intro l
      induction l with
      | nil => rfl
      | cons e rest ih =>
        rw [List.filter_cons, List.map_cons, List.sum_cons, ih]
        by_cases from_ : e.2.flow.src.ip = ip
        · simp only [from_, decide_true, if_true, List.map_cons, List.sum_cons]
        · simp only [from_, decide_false, if_false, Bool.false_eq_true, Nat.zero_add]
    rw [current, FiniteMap.total_eq_sum, split]
  have distinct : (sent.map fun e => (e.1, w.born e.1)).Nodup := by
    have keys : (sent.map Prod.fst).Nodup :=
      (FiniteMap.nodup_toList_keys w.c.reg.streams).sublist (List.Sublist.map _ List.filter_sublist)
    have paired : sent.map (fun e => (e.1, w.born e.1)) =
        (sent.map Prod.fst).map fun k => (k, w.born k) := by
      rw [List.map_map]
      rfl
    rw [paired]
    exact keys.map fun a b same => (Prod.mk.inj same).1
  have bound := FiniteMap.sum_share_le distinct id (Meter.run w.reports).marks
  have shares : (sent.map fun e => (e.1, w.born e.1)).map (FiniteMap.share id (Meter.run w.reports).marks) =
      sent.map fun e => loss e.2 := by
    rw [List.map_map]
    refine List.map_congr_left fun e member => ?_
    obtain ⟨listed, from_⟩ := List.mem_filter.mp member
    have present := (FiniteMap.mem_toList w.c.reg.streams e.1 e.2).mp listed
    have mark := watched.marks e.1 e.2 present (of_decide_eq_true from_)
    rw [settled e.1 e.2 present, Meter.mark] at mark
    rw [Function.comp_apply, FiniteMap.share, Option.map_id]
    exact mark
  rw [shares] at bound
  rwa [summed]

/-- Right after a due attribution tick at least the current losses were reported. -/
theorem current_le_counted (ip : IpAddr) (iter : Iteration) (config : Config) (source : String)
    (inputs : List (Iteration × Op)) (pass : Iteration) (ts : UInt64)
    (spared : Run.Along step (SparesRow ip) (.new iter config source) (inputs ++ [(pass, .flush ts)]))
    (due : tickerDue ((Correlator.new iter config source).run inputs).lastIpattrUs ts 1000000 = true) :
    current ip ((Correlator.new iter config source).run (inputs ++ [(pass, .flush ts)])).reg ≤
      (Meter.run (reports ip iter config source (inputs ++ [(pass, .flush ts)]))).counted := by
  have watched := watched_run ip iter config source _ spared
  have same := c_monitor ip { c := .new iter config source } (inputs ++ [(pass, Op.flush ts)])
  have last := ((Run.along_append _ inputs _).mp spared).2.1
  have settled := settled_flush ip pass ((Correlator.new iter config source).run inputs) ts last due
  have stepped : (Correlator.new iter config source).run (inputs ++ [(pass, .flush ts)]) =
      ((Correlator.new iter config source).run inputs).step (pass, .flush ts) := by
    rw [run, List.foldl_append]
    rfl
  have below := current_le_marks watched (by rw [same, stepped]; exact settled)
  rw [← same]
  exact below.trans (Meter.marks_le_counted _)

end Sipmon.Guarantees.LossReports
