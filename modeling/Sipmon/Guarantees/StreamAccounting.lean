import Mathlib.Data.Nat.ModEq
import Sipmon.Guarantees.SeizureCounts
import Sipmon.Lib.Meter
import Sipmon.Lib.Run

/-!
# Stream snapshots in the session statistics

The accumulator keeps the last snapshot of every stream and adds what the next
one gains to the totals, to the window of the event and to both addresses of the
flow. Its sums wrap: they are compared with the exact ones up to that.
-/
namespace Sipmon.Guarantees.StreamAccounting
open Source Lib Evlog SeizureCounts

/-! ## Figures -/

/-- The cumulative numbers of a snapshot. -/
inductive Figure where
  | packets | lost | bytes
  deriving DecidableEq

namespace Figure

def ofSnap : Figure → StreamSnapEvt → UInt64
  | .packets, e => e.packets
  | .lost, e => e.lost
  | .bytes, e => e.bytes

def ofState : Figure → StreamSnapState → UInt64
  | .packets, s => s.packets
  | .lost, s => s.lost
  | .bytes, s => s.bytes

def ofCounters : Figure → Counters → Nat
  | .packets, c => c.pkts.toNat
  | .lost, c => c.lost.toNat
  | .bytes, c => c.bytes.toNat

end Figure

/-- A stream as the events name it. -/
structure StreamKey where
  callId : String
  stream : StreamId
  deriving DecidableEq

def keyOf (e : StreamSnapEvt) : StreamKey := { callId := e.callId, stream := { ssrc := e.ssrc, flow := e.flow } }

/-- The snapshots among some events. -/
def snaps (evs : List Event) : List StreamSnapEvt :=
  evs.filterMap fun ev => match ev with
    | .streamSnap e => some e
    | _ => none

/-- One figure of every snapshot, as a meter reads it. -/
def readings (fig : Figure) (evs : List Event) : List (StreamKey × Nat) :=
  (snaps evs).map fun e => (keyOf e, (fig.ofSnap e).toNat)

/-! ## Sums -/

/-- A sum of wrapping counters against the exact one: equal modulo 2^64 and no
larger, so the same as long as the exact one is below 2^64. -/
def Wraps (sum exact_ : Nat) : Prop := sum ≤ exact_ ∧ sum ≡ exact_ [MOD 2 ^ 64]

namespace Wraps

theorem refl (n : Nat) : Wraps n n := ⟨Nat.le_refl n, Nat.ModEq.refl n⟩

theorem trans {a b c : Nat} (first : Wraps a b) (second : Wraps b c) : Wraps a c :=
  ⟨first.1.trans second.1, first.2.trans second.2⟩

theorem add_right {a b : Nat} (wraps : Wraps a b) (n : Nat) : Wraps (a + n) (b + n) :=
  ⟨Nat.add_le_add_right wraps.1 n, wraps.2.add_right n⟩

theorem add_left {a b : Nat} (wraps : Wraps a b) (n : Nat) : Wraps (n + a) (n + b) :=
  ⟨Nat.add_le_add_left wraps.1 n, wraps.2.add_left n⟩

theorem cancel_right {a b n : Nat} (wraps : Wraps (a + n) (b + n)) : Wraps a b :=
  ⟨Nat.le_of_add_le_add_right wraps.1, Nat.ModEq.add_right_cancel' n wraps.2⟩

/-- Below 2^64 nothing wraps. -/
theorem eq_of_lt {a b : Nat} (wraps : Wraps a b) (small : b < 2 ^ 64) : a = b :=
  Nat.ModEq.eq_of_lt_of_lt wraps.2 (Nat.lt_of_le_of_lt wraps.1 small) small

end Wraps

/-- One figure over all windows. -/
def windowTotal (fig : Figure) (acc : StatsAcc) : Nat :=
  FiniteMap.total (fun w => fig.ofCounters w.loss) acc.windows

/-- One figure over the rows of all addresses. -/
def addressTotal (fig : Figure) (acc : StatsAcc) : Nat := FiniteMap.total fig.ofCounters acc.ipLoss

/-- What an accumulator has accounted for. -/
@[ext]
structure Account where
  lastSnap : FiniteMap (UInt32 × StreamId) StreamSnapState
  all : Counters
  addresses : FiniteMap IpAddr Counters
  windows : Figure → Nat

def account (acc : StatsAcc) : Account :=
  { lastSnap := acc.lastSnap, all := acc.all, addresses := acc.ipLoss
    windows := fun fig => windowTotal fig acc }

theorem total_upsert {K V : Type*} [DecidableEq K] (f : V → Nat) (k : K) (update : Option V → V)
    (m : FiniteMap K V) : FiniteMap.total f (m.upsert k update) + ((m.lookup k).map f).getD 0 =
      FiniteMap.total f m + f (update (m.lookup k)) := FiniteMap.total_insert f k _ m

theorem windowTotal_inWindow (fig : Figure) (acc : StatsAcc) (ts : UInt64) (update : WindowAcc → WindowAcc) :
    windowTotal fig (acc.inWindow ts update) +
        fig.ofCounters (((acc.windows.lookup (StatsAcc.windowOf ts)).getD {}).loss) =
      windowTotal fig acc +
        fig.ofCounters ((update ((acc.windows.lookup (StatsAcc.windowOf ts)).getD {})).loss) := by
  have moved := total_upsert (fun w => fig.ofCounters w.loss) (StatsAcc.windowOf ts)
    (fun present => update (present.getD {})) acc.windows
  have was : ((acc.windows.lookup (StatsAcc.windowOf ts)).map fun w => fig.ofCounters w.loss).getD 0 =
      fig.ofCounters (((acc.windows.lookup (StatsAcc.windowOf ts)).getD {}).loss) := by
    cases acc.windows.lookup (StatsAcc.windowOf ts) with
    | none => cases fig <;> rfl
    | some w => rfl
  rw [was] at moved
  exact moved

/-- A window update that leaves the traffic alone. -/
theorem account_inWindow (acc : StatsAcc) (ts : UInt64) {update : WindowAcc → WindowAcc}
    (keeps : ∀ w, (update w).loss = w.loss) : account (acc.inWindow ts update) = account acc := by
  refine Account.ext rfl rfl rfl (funext fun fig => ?_)
  have moved := windowTotal_inWindow fig acc ts update
  rw [keeps] at moved
  exact Nat.add_right_cancel moved

/-! ## Events without traffic -/

theorem account_countRequest (acc : StatsAcc) (ts : UInt64) (cid : UInt32) (method : String) :
    account (acc.countRequest ts cid method) = account acc := by
  unfold StatsAcc.countRequest
  repeat' split
  · exact account_inWindow _ _ fun _ => rfl
  all_goals rfl

theorem account_countResponse (acc : StatsAcc) (status : UInt16) :
    account (acc.countResponse status) = account acc := by
  unfold StatsAcc.countResponse
  dsimp only
  split <;> rfl

theorem account_countSipMsg (acc : StatsAcc) (cid : UInt32) (e : SipMsgEvt) :
    account (acc.countSipMsg cid e) = account acc := by
  unfold StatsAcc.countSipMsg
  dsimp only
  generalize heard : StatsAcc.inWindow _ e.tsUs _ = r
  have same : account r = account acc := by
    rw [← heard]
    exact account_inWindow { acc with sipBytes := acc.sipBytes + e.raw.length } e.tsUs fun _ => rfl
  repeat' split
  · exact (account_countRequest r e.tsUs cid _).trans same
  · exact same
  · exact (account_countResponse r _).trans same
  · exact same

theorem account_ingestSipMsg (acc : StatsAcc) (e : SipMsgEvt) :
    account (acc.ingestSipMsg e) = account acc := by
  rw [StatsAcc.ingestSipMsg, noteCall_eq]
  exact account_countSipMsg _ _ e

theorem account_ingestCall (acc : StatsAcc) (e : CallEvt) : account (acc.ingestCall e) = account acc := by
  have outcome : ∀ acc : StatsAcc, account (acc.countOutcome e) = account acc := by
    intro acc
    unfold StatsAcc.countOutcome
    split
    all_goals first | exact account_inWindow _ _ fun _ => rfl | rfl
  have answer : ∀ acc : StatsAcc, account (acc.countAnswer e) = account acc := by
    intro acc
    unfold StatsAcc.countAnswer
    split
    · exact account_inWindow _ _ fun _ => rfl
    · rfl
  have delays : ∀ acc : StatsAcc, account (acc.countDelays e) = account acc := by
    intro acc
    unfold StatsAcc.countDelays
    dsimp only
    repeat' split
    all_goals rfl
  rw [StatsAcc.ingestCall, noteCall_eq]
  dsimp only
  split
  · rfl
  · rw [StatsAcc.countTeardown, delays, answer, outcome]
    exact account_inWindow _ _ fun _ => rfl

/-- An event that is no snapshot accounts for nothing. -/
theorem account_ingest_other (acc : StatsAcc) (ev : Event) (other : snaps [ev] = []) :
    account (acc.ingest ev) = account acc := by
  cases ev with
  | sipMsg e => exact account_ingestSipMsg acc e
  | call e => exact account_ingestCall acc e
  | streamSnap e => cases other
  | rtcpRtt e => exact account_inWindow _ _ fun _ => rfl
  | txn e => rfl
  | healthBucket e => rfl
  | error e => rfl
  | diag e => rfl

/-! ## A snapshot -/

def streamOf (e : StreamSnapEvt) : StreamId := { ssrc := e.ssrc, flow := e.flow }

def stateOf (e : StreamSnapEvt) : StreamSnapState := { packets := e.packets, lost := e.lost, bytes := e.bytes }

/-- The last state of a stream, zero when it is new. -/
def previous (acc : StatsAcc) (cid : UInt32) (stream : StreamId) : StreamSnapState :=
  (acc.lastSnap.lookup (cid, stream)).getD { packets := 0, lost := 0, bytes := 0 }

/-- What a snapshot adds to a figure. -/
def gain (acc : StatsAcc) (cid : UInt32) (e : StreamSnapEvt) (fig : Figure) : UInt64 :=
  satSub (fig.ofSnap e) (fig.ofState (previous acc cid (streamOf e)))

theorem wraps_add (c : Counters) (g : Figure → UInt64) (fig : Figure) :
    Wraps (fig.ofCounters (c.add (g .packets) (g .lost) (g .bytes)))
      (fig.ofCounters c + (g fig).toNat) := by
  have wraps : ∀ a b : UInt64, Wraps (a + b).toNat (a.toNat + b.toNat) := fun a b => by
    rw [UInt64.toNat_add]
    exact ⟨Nat.mod_le _ _, Nat.mod_modEq _ _⟩
  cases fig <;> exact wraps _ _

/-- A row of an address table that takes a gain. -/
theorem wraps_total_add (rows : FiniteMap IpAddr Counters) (ip : IpAddr) (g : Figure → UInt64) (fig : Figure) :
    Wraps (FiniteMap.total fig.ofCounters
        (rows.upsert ip fun present => (present.getD {}).add (g .packets) (g .lost) (g .bytes)))
      (FiniteMap.total fig.ofCounters rows + (g fig).toNat) := by
  have moved := total_upsert fig.ofCounters ip
    (fun present => (present.getD {}).add (g .packets) (g .lost) (g .bytes)) rows
  have was : ((rows.lookup ip).map fig.ofCounters).getD 0 =
      fig.ofCounters ((rows.lookup ip).getD {}) := by
    cases rows.lookup ip with
    | none => cases fig <;> rfl
    | some c => rfl
  rw [was] at moved
  have grown := (wraps_add ((rows.lookup ip).getD {}) g fig).add_left (FiniteMap.total fig.ofCounters rows)
  rw [← moved, Nat.add_comm (fig.ofCounters _), ← Nat.add_assoc] at grown
  exact grown.cancel_right

/-- Everything a snapshot adds up to. -/
structure Gained (cid : UInt32) (e : StreamSnapEvt) (acc after : StatsAcc) : Prop where
  lastSnap : after.lastSnap = acc.lastSnap.insert (cid, streamOf e) (stateOf e)
  all : ∀ fig : Figure, Wraps (fig.ofCounters after.all)
    (fig.ofCounters acc.all + (gain acc cid e fig).toNat)
  windows : ∀ fig, Wraps (windowTotal fig after) (windowTotal fig acc + (gain acc cid e fig).toNat)
  addresses : ∀ fig, Wraps (addressTotal fig after)
    (addressTotal fig acc + 2 * (gain acc cid e fig).toNat)

/-- A snapshot event as the accumulator reads it. -/
def lite (e : StreamSnapEvt) : StreamSnapLite :=
  { callId := e.callId, ssrc := e.ssrc, flow := some e.flow, packets := e.packets, lost := e.lost
    bytes := e.bytes, jitterMs := e.jitterMs, mos := e.mos, rttAvgMs := e.rttAvgMs }

/-- The window of a snapshot takes its gain. -/
theorem wraps_windowTotal (acc : StatsAcc) (ts : UInt64) (g : Figure → UInt64) (update : WindowAcc → WindowAcc)
    (adds : ∀ w, (update w).loss = w.loss.add (g .packets) (g .lost) (g .bytes)) (fig : Figure) :
    Wraps (windowTotal fig (acc.inWindow ts update)) (windowTotal fig acc + (g fig).toNat) := by
  have moved := windowTotal_inWindow fig acc ts update
  rw [adds] at moved
  generalize ((acc.windows.lookup (StatsAcc.windowOf ts)).getD {}).loss = c at moved
  have grown := (wraps_add c g fig).add_left (windowTotal fig acc)
  rw [← moved, Nat.add_comm (fig.ofCounters _), ← Nat.add_assoc] at grown
  exact grown.cancel_right

/-- Both addresses of the flow take the gain. -/
theorem wraps_addressTotal (acc : StatsAcc) (flow : Flow5Tuple) (g : Figure → UInt64) (fig : Figure) :
    Wraps (addressTotal fig (acc.countIpLoss flow (g .packets) (g .lost) (g .bytes)))
      (addressTotal fig acc + 2 * (g fig).toNat) := by
  have source := (wraps_total_add acc.ipLoss flow.src.ip g fig).add_right (g fig).toNat
  have both := (wraps_total_add (acc.ipLoss.upsert flow.src.ip fun present =>
    (present.getD {}).add (g .packets) (g .lost) (g .bytes)) flow.dst.ip g fig).trans source
  rw [Nat.add_assoc, ← Nat.two_mul] at both
  exact both

theorem gained_countSnap (acc : StatsAcc) (cid : UInt32) (ts : UInt64) (e : StreamSnapEvt) :
    Gained cid e acc (acc.countSnap cid ts (lite e)) := by
  generalize named : gain acc cid e = g
  have packets : satSub e.packets (previous acc cid (streamOf e)).packets = g .packets := by rw [← named]; rfl
  have lost : satSub e.lost (previous acc cid (streamOf e)).lost = g .lost := by rw [← named]; rfl
  have bytes : satSub e.bytes (previous acc cid (streamOf e)).bytes = g .bytes := by rw [← named]; rfl
  unfold previous streamOf at packets lost bytes
  have window := wraps_windowTotal { acc with
      lastSnap := acc.lastSnap.insert (cid, streamOf e) (stateOf e)
      lastQuality := acc.lastQuality.insert (cid, streamOf e)
        { packets := e.packets, mos := e.mos, jitterMs := e.jitterMs, rttMs := e.rttAvgMs } } ts g
    (fun w => { w with loss := w.loss.add (g .packets) (g .lost) (g .bytes), calls := insert cid w.calls
                       streams := insert (cid, e.ssrc) w.streams }) fun _ => rfl
  unfold StatsAcc.countSnap lite
  dsimp only [Option.getD_some]
  rw [packets, lost, bytes]
  split
  · refine ⟨rfl, ?_, ?_, ?_⟩ <;> rw [named]
    · exact wraps_add acc.all g
    · exact window
    · exact wraps_addressTotal _ e.flow g
  · next nothing =>
    have zero : ∀ fig, g fig = 0 := by
      have none_ : ¬0 < g .packets ∧ ¬0 < g .lost ∧ ¬0 < g .bytes := by
        simpa only [not_or] using nothing
      have isZero : ∀ n : UInt64, ¬0 < n → n = 0 := fun n le => UInt64.le_zero_iff.mp (UInt64.not_lt.mp le)
      intro fig
      cases fig with
      | packets => exact isZero _ none_.1
      | lost => exact isZero _ none_.2.1
      | bytes => exact isZero _ none_.2.2
    refine ⟨rfl, ?_, ?_, ?_⟩ <;> rw [named]
    · exact wraps_add acc.all g
    · exact window
    · intro fig
      have none_ : (g fig).toNat = 0 := by rw [zero fig]; rfl
      rw [none_]
      exact Wraps.refl _

/-- A snapshot event adds up under the number of its Call-ID. -/
theorem gained_ingest (acc : StatsAcc) (e : StreamSnapEvt) :
    Gained (number acc.interned e.callId) e acc (acc.ingest (.streamSnap e)) := by
  rw [StatsAcc.ingest, StatsAcc.ingestStreamSnap, noteCall_eq]
  have counted := gained_countSnap { acc.noteTs e.tsUs with
    events.streamSnap := acc.events.streamSnap + 1
    interned := grown acc.interned e.callId
    callIds := insert (number acc.interned e.callId) acc.callIds } (number acc.interned e.callId) e.tsUs e
  exact ⟨counted.lastSnap, counted.all, counted.windows, counted.addresses⟩

/-! ## Windows and addresses -/

def accOf (evs : List Event) : StatsAcc := evs.foldl StatsAcc.ingest {}

theorem accOf_append (evs : List Event) (ev : Event) : accOf (evs ++ [ev]) = (accOf evs).ingest ev := by
  rw [accOf, List.foldl_append]
  rfl

theorem snaps_append (evs : List Event) (ev : Event) : snaps (evs ++ [ev]) = snaps evs ++ snaps [ev] :=
  List.filterMap_append

/-- An event is a snapshot or accounts for nothing. -/
theorem snapshot_or_other (ev : Event) : (∃ e, ev = .streamSnap e) ∨ snaps [ev] = [] := by
  cases ev with
  | streamSnap e => exact .inl ⟨e, rfl⟩
  | _ => exact .inr rfl

/-- What an event adds to a figure. -/
def gainOf (fig : Figure) (acc : StatsAcc) : Event → Nat
  | .streamSnap e => (gain acc (number acc.interned e.callId) e fig).toNat
  | _ => 0

/-- What some events add to a figure, without wrapping. -/
def added (fig : Figure) (evs : List Event) : Nat := Run.total StatsAcc.ingest (gainOf fig) {} evs

theorem added_append (fig : Figure) (evs : List Event) (ev : Event) :
    added fig (evs ++ [ev]) = added fig evs + gainOf fig (accOf evs) ev :=
  Run.total_append (gainOf fig) {} evs [ev]

theorem gainOf_other (fig : Figure) (acc : StatsAcc) {ev : Event} (other : snaps [ev] = []) :
    gainOf fig acc ev = 0 := by
  cases ev with
  | streamSnap e => cases other
  | _ => rfl

/-- The totals and the windows hold what was added, the rows of the addresses twice as much. -/
theorem wraps_accOf (evs : List Event) (fig : Figure) :
    Wraps (fig.ofCounters (accOf evs).all) (added fig evs) ∧
      Wraps (windowTotal fig (accOf evs)) (added fig evs) ∧
      Wraps (addressTotal fig (accOf evs)) (2 * added fig evs) := by
  induction evs using List.reverseRecOn with
  | nil => cases fig <;> exact ⟨.refl 0, .refl 0, .refl 0⟩
  | append_singleton evs ev ih =>
    obtain ⟨all, windows, addresses⟩ := ih
    rw [accOf_append, added_append]
    rcases snapshot_or_other ev with ⟨e, rfl⟩ | other
    · have gained := gained_ingest (accOf evs) e
      rw [Nat.mul_add]
      exact ⟨(gained.all fig).trans (all.add_right _), (gained.windows fig).trans (windows.add_right _),
        (gained.addresses fig).trans (addresses.add_right _)⟩
    · have same := account_ingest_other (accOf evs) ev other
      have sums : windowTotal fig ((accOf evs).ingest ev) = windowTotal fig (accOf evs) :=
        congrFun (congrArg Account.windows same) fig
      have rows : ((accOf evs).ingest ev).ipLoss = (accOf evs).ipLoss := congrArg Account.addresses same
      have totals : ((accOf evs).ingest ev).all = (accOf evs).all := congrArg Account.all same
      rw [sums, totals, addressTotal, rows, gainOf_other fig _ other]
      exact ⟨all, windows, addresses⟩

/-! ## Streams -/

/-- The last state of a stream under the name the events give it. -/
def stateAt (interned : FiniteMap String UInt32)
    (lastSnap : FiniteMap (UInt32 × StreamId) StreamSnapState) (k : StreamKey) : Option StreamSnapState :=
  (interned.lookup k.callId).bind fun n => lastSnap.lookup (n, k.stream)

/-- Stored streams have numbers that were given out. -/
def Issued (interned : FiniteMap String UInt32)
    (lastSnap : FiniteMap (UInt32 × StreamId) StreamSnapState) : Prop :=
  ∀ n stream state, lastSnap.lookup (n, stream) = some state → n.toNat < interned.size

theorem size_le_grown (m : FiniteMap String UInt32) (id : String) : m.size ≤ (grown m id).size := by
  unfold grown
  split
  · exact Nat.le_refl _
  · next fresh =>
    rw [size_insert_new fresh]
    exact Nat.le_succ _

theorem lookup_grown_other (m : FiniteMap String UInt32) {id a : String} (other : a ≠ id) :
    (grown m id).lookup a = m.lookup a := by
  unfold grown
  split
  · rfl
  · rw [FiniteMap.lookup_insert_iff, if_neg other]

/-- Naming a Call-ID changes no stream, while there are numbers left. -/
theorem stateAt_grown {interned : FiniteMap String UInt32}
    {lastSnap : FiniteMap (UInt32 × StreamId) StreamSnapState} (issued : Issued interned lastSnap)
    (id : String) (room : (grown interned id).size ≤ 2 ^ 32) (k : StreamKey) :
    stateAt (grown interned id) lastSnap k = stateAt interned lastSnap k := by
  unfold stateAt
  by_cases own : k.callId = id
  · cases fresh : interned.lookup id with
    | some n => rw [own, lookup_grown_of_some fresh, fresh]
    | none =>
      have given : number interned id = UInt32.ofNat interned.size := by rw [number, fresh, Option.getD_none]
      have size : (grown interned id).size = interned.size + 1 := by
        rw [grown, fresh]
        exact size_insert_new fresh _
      have next : (number interned id).toNat = interned.size := by
        rw [given, UInt32.toNat_ofNat']
        exact Nat.mod_eq_of_lt (by omega)
      rw [own, lookup_grown_self, fresh, Option.bind_some, Option.bind_none]
      cases present : lastSnap.lookup (number interned id, k.stream) with
      | none => rfl
      | some state =>
        have below := issued _ _ state present
        omega
  · rw [lookup_grown_other interned own]

/-- A stored snapshot is that of its stream alone. -/
theorem stateAt_insert {interned : FiniteMap String UInt32} (numbered : Numbered interned)
    (lastSnap : FiniteMap (UInt32 × StreamId) StreamSnapState) {n : UInt32} {key : StreamKey}
    (known : interned.lookup key.callId = some n) (state : StreamSnapState) (k : StreamKey) :
    stateAt interned (lastSnap.insert (n, key.stream) state) k =
      if k = key then some state else stateAt interned lastSnap k := by
  unfold stateAt
  cases found : interned.lookup k.callId with
  | none =>
    have other : k ≠ key := by
      rintro rfl
      rw [known] at found
      cases found
    rw [if_neg other]
    rfl
  | some a =>
    rw [Option.bind_some, Option.bind_some, FiniteMap.lookup_insert_iff]
    by_cases own : k = key
    · subst own
      obtain rfl : a = n := Option.some.inj (found.symm.trans known)
      rw [if_pos rfl, if_pos rfl]
    · have other : (a, k.stream) ≠ (n, key.stream) := by
        intro same
        obtain ⟨rfl, stream⟩ := Prod.mk.inj same
        have callId := (numbered key.callId _ known).2 k.callId found
        exact own (by cases k; cases key; simp_all)
      rw [if_neg other, if_neg own]

/-- The meter of a figure over some events. -/
def meter (fig : Figure) (evs : List Event) : Meter StreamKey := .run (readings fig evs)

theorem meter_snapshot (fig : Figure) (evs : List Event) (e : StreamSnapEvt) :
    meter fig (evs ++ [.streamSnap e]) = (meter fig evs).read (keyOf e, (fig.ofSnap e).toNat) := by
  rw [meter, readings, snaps_append, List.map_append, Meter.run, List.foldl_append]
  rfl

theorem meter_other (fig : Figure) (evs : List Event) {ev : Event} (other : snaps [ev] = []) :
    meter fig (evs ++ [ev]) = meter fig evs := by
  rw [meter, readings, snaps_append, other, List.append_nil]
  rfl

/-- The accumulator meters the streams by their names. -/
structure Metered (evs : List Event) : Prop where
  issued : Issued (accOf evs).interned (accOf evs).lastSnap
  marks : ∀ (fig : Figure) k,
    ((stateAt (accOf evs).interned (accOf evs).lastSnap k).map fun s => (fig.ofState s).toNat).getD 0 =
      (meter fig evs).mark k
  counted : ∀ fig, added fig evs = (meter fig evs).counted

theorem interned_accOf (evs : List Event) (ev : Event) : (accOf (evs ++ [ev])).interned =
    match nameOf ev with
    | some id => grown (accOf evs).interned id
    | none => (accOf evs).interned := by
  have grew := (count_spec (figures evs) ev).1
  rw [← figures_append] at grew
  exact grew

theorem metered_snapshot {evs : List Event} (metered : Metered evs) (e : StreamSnapEvt)
    (numbered : Numbered (accOf (evs ++ [.streamSnap e])).interned)
    (room : (accOf (evs ++ [.streamSnap e])).interned.size ≤ 2 ^ 32) :
    Metered (evs ++ [.streamSnap e]) := by
  have interned := interned_accOf evs (.streamSnap e)
  have named : nameOf (.streamSnap e) = some e.callId := rfl
  rw [named] at interned
  dsimp only at interned
  rw [interned] at numbered room
  have gained := gained_ingest (accOf evs) e
  rw [← accOf_append] at gained
  have known := lookup_grown_self (accOf evs).interned e.callId
  have before : ∀ fig : Figure, (fig.ofState (previous (accOf evs)
      (number (accOf evs).interned e.callId) (streamOf e))).toNat = (meter fig evs).mark (keyOf e) := by
    intro fig
    have own : stateAt (grown (accOf evs).interned e.callId) (accOf evs).lastSnap (keyOf e) =
        (accOf evs).lastSnap.lookup (number (accOf evs).interned e.callId, streamOf e) :=
      congrArg (Option.bind · _) known
    rw [← metered.marks fig (keyOf e), ← stateAt_grown metered.issued e.callId room, own, previous]
    cases (accOf evs).lastSnap.lookup (number (accOf evs).interned e.callId, streamOf e) with
    | none => cases fig <;> rfl
    | some s => rfl
  constructor
  · intro n stream state found
    rw [interned]
    rw [gained.lastSnap, FiniteMap.lookup_insert_iff] at found
    split at found
    · next same =>
      obtain ⟨rfl, -⟩ := Prod.mk.inj same
      exact (numbered e.callId _ known).1
    · exact Nat.lt_of_lt_of_le (metered.issued n stream state found) (size_le_grown _ _)
  · intro fig k
    have stored : stateAt (grown (accOf evs).interned e.callId)
        ((accOf evs).lastSnap.insert (number (accOf evs).interned e.callId, streamOf e) (stateOf e)) k =
        if k = keyOf e then some (stateOf e)
          else stateAt (grown (accOf evs).interned e.callId) (accOf evs).lastSnap k :=
      @stateAt_insert _ numbered _ _ (keyOf e) known _ k
    rw [stateAt_grown metered.issued e.callId room] at stored
    rw [interned, gained.lastSnap, meter_snapshot, Meter.mark_read]
    refine (congrArg (fun s : Option StreamSnapState => (s.map fun s => (fig.ofState s).toNat).getD 0)
      stored).trans ?_
    split
    · cases fig <;> rfl
    · exact metered.marks fig k
  · intro fig
    rw [added_append, metered.counted, meter_snapshot, gainOf, gain, satSub_toNat, before]
    rfl

theorem metered_other {evs : List Event} (metered : Metered evs) {ev : Event} (other : snaps [ev] = [])
    (room : (accOf (evs ++ [ev])).interned.size ≤ 2 ^ 32) : Metered (evs ++ [ev]) := by
  have same := account_ingest_other (accOf evs) ev other
  rw [← accOf_append] at same
  have lastSnap : (accOf (evs ++ [ev])).lastSnap = (accOf evs).lastSnap := congrArg Account.lastSnap same
  have interned := interned_accOf evs ev
  have kept : ∀ k, stateAt (accOf (evs ++ [ev])).interned (accOf evs).lastSnap k =
      stateAt (accOf evs).interned (accOf evs).lastSnap k := by
    intro k
    rw [interned] at room ⊢
    split
    · next id named => exact stateAt_grown metered.issued id (by rwa [named] at room) k
    · rfl
  have larger : (accOf evs).interned.size ≤ (accOf (evs ++ [ev])).interned.size := by
    rw [interned]
    split
    · exact size_le_grown _ _
    · exact Nat.le_refl _
  constructor
  · intro n stream state found
    rw [lastSnap] at found
    exact Nat.lt_of_lt_of_le (metered.issued n stream state found) larger
  · intro fig k
    rw [lastSnap, kept, meter_other fig evs other]
    exact metered.marks fig k
  · intro fig
    rw [added_append, gainOf_other fig _ other, meter_other fig evs other]
    exact metered.counted fig

/-- Of at most 2^32 Call-IDs every stream is metered by its name. -/
theorem metered_of_few (evs : List Event) (few : (names evs).toFinset.card ≤ 2 ^ 32) : Metered evs := by
  induction evs using List.reverseRecOn with
  | nil => exact ⟨nofun, fun _ _ => rfl, fun _ => rfl⟩
  | append_singleton evs ev ih =>
    have tallies := tallies_of_few (evs ++ [ev]) few
    have room : (accOf (evs ++ [ev])).interned.size ≤ 2 ^ 32 :=
      (size_le_of_known tallies.known).trans few
    have metered := ih (few_of_append few)
    rcases snapshot_or_other ev with ⟨e, rfl⟩ | other
    · exact metered_snapshot metered e tallies.numbered room
    · exact metered_other metered other room

/-! ## Conservation -/

/-- The last snapshot of every stream. -/
def latest (evs : List Event) : FiniteMap StreamKey StreamSnapEvt :=
  (snaps evs).foldl (fun m e => m.insert (keyOf e) e) FiniteMap.empty

/-- Packets and bytes of a stream never go down. -/
def Cumulative (evs : List Event) : Prop :=
  (snaps evs).Pairwise fun a b => keyOf a = keyOf b → a.packets ≤ b.packets ∧ a.bytes ≤ b.bytes

instance decidableCumulative (evs : List Event) : Decidable (Cumulative evs) :=
  inferInstanceAs (Decidable (List.Pairwise _ (snaps evs)))

/-- The marks of a meter are the last snapshots. -/
theorem marks_meter (fig : Figure) (evs : List Event) : FiniteMap.total id (meter fig evs).marks =
    FiniteMap.total (fun e => (fig.ofSnap e).toNat) (latest evs) := by
  have mapped : ∀ (l : List StreamSnapEvt) (m : Meter StreamKey) (last : FiniteMap StreamKey StreamSnapEvt),
      m.marks = FiniteMap.mapValues (fun e => (fig.ofSnap e).toNat) last →
      ((l.map fun e => (keyOf e, (fig.ofSnap e).toNat)).foldl Meter.read m).marks =
        FiniteMap.mapValues (fun e => (fig.ofSnap e).toNat)
          (l.foldl (fun m e => m.insert (keyOf e) e) last) := by
    intro l
    induction l with
    | nil => exact fun m last same => same
    | cons e rest ih =>
      intro m last same
      refine ih _ _ ?_
      rw [FiniteMap.mapValues_insert, ← same]
      rfl
  rw [meter, readings, Meter.run, mapped (snaps evs) {} FiniteMap.empty rfl, FiniteMap.total, FiniteMap.total,
    FiniteMap.mapValues, List.map_map]
  rfl

theorem rising_readings {evs : List Event} (cumulative : Cumulative evs) :
    Meter.Rising (readings .packets evs) ∧ Meter.Rising (readings .bytes evs) := by
  constructor
  · refine List.pairwise_map.mpr (cumulative.imp fun rise same => ?_)
    exact UInt64.le_iff_toNat_le.mp (rise same).1
  · refine List.pairwise_map.mpr (cumulative.imp fun rise same => ?_)
    exact UInt64.le_iff_toNat_le.mp (rise same).2

/-- Totals, windows and the rows of the addresses account for what the snapshots
added; of at most 2^32 Call-IDs, with cumulative packets and bytes, that is the
sum over the streams of their last snapshots. -/
theorem traffic_conserved (evs : List Event) (cumulative : Cumulative evs) :
    (∀ fig : Figure, Wraps (fig.ofCounters (accOf evs).all) (added fig evs) ∧
        Wraps (windowTotal fig (accOf evs)) (added fig evs) ∧
        Wraps (addressTotal fig (accOf evs)) (2 * added fig evs)) ∧
      ((names evs).toFinset.card ≤ 2 ^ 32 →
        added .packets evs = FiniteMap.total (fun e => e.packets.toNat) (latest evs) ∧
          added .bytes evs = FiniteMap.total (fun e => e.bytes.toNat) (latest evs)) := by
  refine ⟨wraps_accOf evs, fun few => ?_⟩
  have metered := metered_of_few evs few
  obtain ⟨packets, bytes⟩ := rising_readings cumulative
  rw [metered.counted, metered.counted]
  exact ⟨(Meter.counted_of_rising packets).trans (marks_meter .packets evs),
    (Meter.counted_of_rising bytes).trans (marks_meter .bytes evs)⟩

/-- A snapshot of one stream of a call. -/
def sampleSnap (callId : String) (packets : UInt64) : StreamSnapEvt :=
  { tsUs := 1, callId, ssrc := 7
    flow := { proto := .udp, src := ⟨.v4 ⟨10, 0, 0, 1⟩, 4000⟩, dst := ⟨.v4 ⟨10, 0, 0, 2⟩, 5000⟩ }
    codec := none, payloadType := none, packets, lost := 0, expected := packets, lossPct := 0
    jitterMs := none, mos := none, direction := none, bytes := 0, firstTsUs := none, lastTsUs := none
    rttMinMs := none, rttAvgMs := none, rttMaxMs := none, onewayMs := none, leg := none, viaTurn := false }

/-- A stream that grows, and one of another call between its snapshots. -/
def twoStreams : List Event :=
  [.streamSnap (sampleSnap "a" 3), .streamSnap (sampleSnap "b" 5), .streamSnap (sampleSnap "a" 4)]

theorem twoStreams_conserved : (accOf twoStreams).all.pkts.toNat = 9 ∧
    windowTotal .packets (accOf twoStreams) = 9 ∧ addressTotal .packets (accOf twoStreams) = 18 := by
  obtain ⟨sums, streams⟩ := traffic_conserved twoStreams (by decide +kernel)
  obtain ⟨packets, -⟩ := streams (by decide +kernel)
  have nine : added .packets twoStreams = 9 := packets.trans (by decide +kernel)
  obtain ⟨all, windows, addresses⟩ := sums .packets
  rw [nine] at all windows addresses
  exact ⟨all.eq_of_lt (by decide), windows.eq_of_lt (by decide), addresses.eq_of_lt (by decide)⟩

/-! ## Too many calls -/

/-- A Call-ID for every number. -/
def callName (n : Nat) : String := String.ofList (List.replicate n 'a')

theorem callName_injective : Function.Injective callName := by
  intro m n same
  have lengths := congrArg (fun s : String => s.toList.length) same
  simpa [callName] using lengths

/-- One packet in each of `n` calls. -/
def manyCalls (n : Nat) : List Event := (List.range n).map fun i => .streamSnap (sampleSnap (callName i) 1)

theorem manyCalls_succ (n : Nat) :
    manyCalls (n + 1) = manyCalls n ++ [.streamSnap (sampleSnap (callName n) 1)] := by
  rw [manyCalls, List.range_succ, List.map_append]
  rfl

theorem snaps_manyCalls (n : Nat) :
    snaps (manyCalls n) = (List.range n).map fun i => sampleSnap (callName i) 1 := by
  induction n with
  | zero => rfl
  | succ n ih =>
    rw [manyCalls_succ, snaps_append, ih, List.range_succ, List.map_append]
    rfl

theorem names_manyCalls (n : Nat) : names (manyCalls n) = (List.range n).map callName := by
  induction n with
  | zero => rfl
  | succ n ih =>
    rw [manyCalls_succ, names, List.filterMap_append, ← names, ih, List.range_succ, List.map_append]
    rfl

theorem few_manyCalls {n : Nat} (small : n ≤ 2 ^ 32) : (names (manyCalls n)).toFinset.card ≤ 2 ^ 32 := by
  rw [names_manyCalls]
  refine (List.toFinset_card_le _).trans ?_
  rwa [List.length_map, List.length_range]

theorem cumulative_manyCalls (n : Nat) : Cumulative (manyCalls n) := by
  unfold Cumulative
  rw [snaps_manyCalls]
  refine List.pairwise_map.mpr (List.pairwise_of_forall fun i j _ => ?_)
  exact ⟨Nat.le_refl _, Nat.le_refl _⟩

/-- The key of the stream of the `n`-th call. -/
def manyKey (n : Nat) : StreamKey := keyOf (sampleSnap (callName n) 1)

theorem manyKey_ne {m n : Nat} (differ : m ≠ n) : manyKey m ≠ manyKey n := fun same =>
  differ (callName_injective (congrArg StreamKey.callId same))

theorem mark_manyCalls (n m : Nat) :
    (meter .packets (manyCalls n)).mark (manyKey m) = if m < n then 1 else 0 := by
  induction n with
  | zero => rfl
  | succ n ih =>
    rw [manyCalls_succ, meter_snapshot, Meter.mark_read]
    dsimp only
    by_cases last : m = n
    · subst last
      have own : manyKey m = keyOf (sampleSnap (callName m) 1) := rfl
      rw [if_pos own, if_pos (Nat.lt_succ_self m)]
      rfl
    · have other : manyKey m ≠ keyOf (sampleSnap (callName n) 1) := manyKey_ne last
      have bound : m < n + 1 ↔ m < n := by omega
      rw [if_neg other, ih]
      simp only [bound]

/-- The last snapshots of `n` calls show `n` packets. -/
theorem latest_manyCalls (n : Nat) :
    FiniteMap.total (fun e => e.packets.toNat) (latest (manyCalls n)) = n := by
  have marks := marks_meter .packets (manyCalls n)
  refine marks.symm.trans ?_
  clear marks
  induction n with
  | zero => rfl
  | succ n ih =>
    have moved := Meter.total_marks_read (meter .packets (manyCalls n)) (manyKey n, 1)
    have fresh := mark_manyCalls n n
    rw [if_neg (Nat.lt_irrefl n)] at fresh
    rw [fresh, ih] at moved
    rw [manyCalls_succ, meter_snapshot]
    exact moved

/-- The next call has no number yet. -/
theorem fresh_manyCalls {n : Nat} (small : n ≤ 2 ^ 32) :
    (accOf (manyCalls n)).interned.lookup (callName n) = none := by
  refine AList.lookup_eq_none.mpr fun member => ?_
  have known := (tallies_of_few (manyCalls n) (few_manyCalls small)).known (callName n) member
  rw [names_manyCalls] at known
  obtain ⟨i, listed, same⟩ := List.mem_map.mp known
  rw [callName_injective same] at listed
  exact Nat.lt_irrefl n (List.mem_range.mp listed)

theorem interned_manyCalls {n : Nat} (small : n ≤ 2 ^ 32) :
    (accOf (manyCalls n)).interned.size = n ∧
      (0 < n → (accOf (manyCalls n)).interned.lookup (callName 0) = some 0) := by
  induction n with
  | zero => exact ⟨rfl, fun positive => absurd positive (Nat.lt_irrefl 0)⟩
  | succ n ih =>
    obtain ⟨size, first⟩ := ih (by omega)
    have interned := interned_accOf (manyCalls n) (.streamSnap (sampleSnap (callName n) 1))
    rw [← manyCalls_succ] at interned
    have named : nameOf (.streamSnap (sampleSnap (callName n) 1)) = some (callName n) := rfl
    rw [named] at interned
    dsimp only at interned
    have fresh := fresh_manyCalls (n := n) (by omega)
    constructor
    · rw [interned, grown, fresh]
      exact (size_insert_new fresh _).trans (congrArg (· + 1) size)
    · intro _
      rw [interned]
      cases n with
      | zero => rfl
      | succ n => exact lookup_grown_of_some (first (Nat.succ_pos n)) _

/-- A call that gets the number of the first one adds nothing. -/
theorem added_manyCalls {n : Nat} (small : n ≤ 2 ^ 32) (positive : 0 < n) (reused : UInt32.ofNat n = 0) :
    added .packets (manyCalls (n + 1)) = n := by
  have metered := metered_of_few (manyCalls n) (few_manyCalls small)
  obtain ⟨size, first⟩ := interned_manyCalls small
  have given : number (accOf (manyCalls n)).interned (sampleSnap (callName n) 1).callId = 0 := by
    have named : (sampleSnap (callName n) 1).callId = callName n := rfl
    rw [named, number, fresh_manyCalls small, size, Option.getD_none, reused]
  -- the stream of the first call is found in its place
  have taken := metered.marks .packets (manyKey 0)
  have own : stateAt (accOf (manyCalls n)).interned (accOf (manyCalls n)).lastSnap (manyKey 0) =
      (accOf (manyCalls n)).lastSnap.lookup (0, streamOf (sampleSnap (callName n) 1)) :=
    congrArg (Option.bind · _) (first positive)
  rw [mark_manyCalls, if_pos positive, own] at taken
  have nothing : gainOf .packets (accOf (manyCalls n)) (.streamSnap (sampleSnap (callName n) 1)) = 0 := by
    rw [gainOf, gain, satSub_toNat, given, previous]
    cases stored : (accOf (manyCalls n)).lastSnap.lookup (0, streamOf (sampleSnap (callName n) 1)) with
    | none =>
      rw [stored] at taken
      cases taken
    | some state =>
      rw [stored, Option.map_some, Option.getD_some] at taken
      rw [Option.getD_some, taken]
      rfl
  have rising := (rising_readings (cumulative_manyCalls n)).1
  rw [manyCalls_succ, added_append, nothing, Nat.add_zero, metered.counted]
  exact (Meter.counted_of_rising rising).trans ((marks_meter .packets _).trans (latest_manyCalls n))

/-- Two streams of 2^63 packets each. -/
def hugeStreams : List Event :=
  [.streamSnap (sampleSnap "a" 9223372036854775808), .streamSnap (sampleSnap "b" 9223372036854775808)]

/-- The totals are not the exact sums of the streams: two large streams make them
wrap, and after 2^32 Call-IDs a stream is taken for that of another call. -/
theorem totals_miss_streams :
    (¬ ∀ evs, Cumulative evs → (names evs).toFinset.card ≤ 2 ^ 32 →
        (accOf evs).all.pkts.toNat = FiniteMap.total (fun e => e.packets.toNat) (latest evs)) ∧
      ¬ ∀ evs, Cumulative evs →
        (accOf evs).all.pkts.toNat ≡ FiniteMap.total (fun e => e.packets.toNat) (latest evs) [MOD 2 ^ 64] := by
  constructor
  · intro holds
    have equal := holds hugeStreams (by decide +kernel) (by decide +kernel)
    revert equal
    decide +kernel
  · intro holds
    have claimed := holds (manyCalls (2 ^ 32 + 1)) (cumulative_manyCalls _)
    have counted := (wraps_accOf (manyCalls (2 ^ 32 + 1)) .packets).1.2
    rw [added_manyCalls (Nat.le_refl _) (Nat.two_pow_pos 32) (by decide)] at counted
    rw [latest_manyCalls] at claimed
    have wrong : 2 ^ 32 ≡ 2 ^ 32 + 1 [MOD 2 ^ 64] := counted.symm.trans claimed
    exact absurd wrong (by decide)

end Sipmon.Guarantees.StreamAccounting
