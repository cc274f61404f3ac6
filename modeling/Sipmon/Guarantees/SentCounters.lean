import Sipmon.Guarantees.IpTraffic

/-!
# The counters of what an address has sent

An attribution adds to the packets, the bytes and the losses of the sender. The
counters are 64 bits wide and wrap, so what is added is known modulo 2^64.
-/
namespace Sipmon.Guarantees.SentCounters
open Source
open Lib (FiniteMap)

inductive Sent where
  | packets | bytes | losses
  deriving DecidableEq

namespace Sent

/-- The counter in a row of the per-IP store. -/
def row : Sent → IpStats → UInt64
  | packets => IpStats.pktsTx
  | bytes => IpStats.bytesTx
  | losses => IpStats.lostTx

/-- What an attribution gives the sender. -/
def given : Sent → Registry.IpAttr → UInt64
  | packets => Registry.IpAttr.pkts
  | bytes => Registry.IpAttr.bytes
  | losses => Registry.IpAttr.lost

/-- What a summary reports. -/
def reading : Sent → StreamSummary → Nat
  | packets => StreamSummary.packets
  | bytes => StreamSummary.bytes
  | losses => StreamSummary.lost

/-- The part of an attribution that is made with the packets. -/
def withPackets : Sent → Registry.IpAttr → UInt64
  | packets => Registry.IpAttr.pkts
  | bytes => Registry.IpAttr.bytes
  | losses => fun _ => 0

/-- The part that is made with the losses. -/
def withLosses : Sent → Registry.IpAttr → UInt64
  | losses => Registry.IpAttr.lost
  | _ => fun _ => 0

theorem given_eq (f : Sent) (d : Registry.IpAttr) : f.given d = f.withPackets d + f.withLosses d := by
  cases f
  · exact (UInt64.add_zero _).symm
  · exact (UInt64.add_zero _).symm
  · exact (UInt64.zero_add _).symm

end Sent

/-- A counter of an address in the store. -/
def counter (f : Sent) (ip : IpAddr) (store : IpStatsStore) : UInt64 :=
  ((store.lookup ip).map f.row).getD 0

/-! ## One row -/

/-- An update of one row that moves its counter by a number. -/
theorem counter_entry (f : Sent) (store : IpStatsStore) (host ip : IpAddr) {update : IpStats → IpStats}
    {inc : UInt64} (moves : ∀ row, f.row (update row) = f.row row + inc) :
    counter f ip (store.entry host update) = counter f ip store + if host = ip then inc else 0 := by
  unfold counter IpStatsStore.entry
  rw [FiniteMap.lookup_upsert]
  by_cases same : ip = host
  · have blank : f.row (.new host) = 0 := by cases f <;> rfl
    rw [if_pos same, if_pos same.symm, same, Option.map_some, Option.getD_some, moves]
    cases store.lookup host with
    | none => rw [Option.getD_none, blank, Option.map_none, Option.getD_none]
    | some row => rfl
  · rw [if_neg same, if_neg (Ne.symm same), UInt64.add_zero]

/-- An update of one row that keeps its counter. -/
theorem counter_entry_same (f : Sent) (store : IpStatsStore) (host ip : IpAddr)
    {update : IpStats → IpStats} (keeps : ∀ row, f.row (update row) = f.row row) :
    counter f ip (store.entry host update) = counter f ip store := by
  have moves : ∀ row, f.row (update row) = f.row row + 0 := fun row =>
    (keeps row).trans (UInt64.add_zero _).symm
  have moved := counter_entry f store host ip moves
  rwa [ite_self, UInt64.add_zero] at moved

theorem counter_addActive (f : Sent) (store : IpStatsStore) (host ip : IpAddr) (delta : Int) :
    counter f ip (store.addActive host delta) = counter f ip store := by
  refine counter_entry_same f store host ip fun row => ?_
  cases f <;> rfl

theorem row_bump (f : Sent) (row : IpStats) (ts : UInt64) (update : Bucket → Bucket) :
    f.row (row.bump ts update) = f.row row := by cases f <;> rfl

theorem row_addPackets (f : Sent) (row : IpStats) (d : Registry.IpAttr) (dir : Dir) :
    f.row (row.addPackets d.tsUs d.pkts d.bytes dir) =
      f.row row + if dir = .tx then f.withPackets d else 0 := by
  unfold IpStats.addPackets
  split
  · next nothing =>
    have none_ : f.withPackets d = 0 := by
      cases f
      · exact nothing.1
      · exact nothing.2
      · rfl
    rw [none_, ite_self, UInt64.add_zero]
  · cases dir <;> dsimp only <;> rw [row_bump] <;> cases f
    all_goals first
      | rfl
      | exact (UInt64.add_zero _).symm

theorem row_addLost (f : Sent) (row : IpStats) (d : Registry.IpAttr) (dir : Dir) :
    f.row (row.addLost d.tsUs d.lost dir) =
      f.row row + if dir = .tx then f.withLosses d else 0 := by
  unfold IpStats.addLost
  split
  · next nothing =>
    have none_ : f.withLosses d = 0 := by
      cases f
      · rfl
      · rfl
      · exact nothing
    rw [none_, ite_self, UInt64.add_zero]
  · cases dir <;> dsimp only <;> rw [row_bump] <;> cases f
    all_goals first
      | rfl
      | exact (UInt64.add_zero _).symm

/-! ## One attribution -/

/-- The packets of an attribution, made where there are any. -/
theorem counter_packets (f : Sent) (store : IpStatsStore) (d : Registry.IpAttr) (ip : IpAddr) :
    counter f ip (if 0 < d.pkts ∨ 0 < d.bytes then
        (store.observePackets d.srcIp d.tsUs d.pkts d.bytes .tx).observePackets
          d.dstIp d.tsUs d.pkts d.bytes .rx
      else store) = counter f ip store + if d.srcIp = ip then f.withPackets d else 0 := by
  split
  · have sent := counter_entry f store d.srcIp ip (row_addPackets f · d .tx)
    have received := counter_entry f (store.observePackets d.srcIp d.tsUs d.pkts d.bytes .tx) d.dstIp ip
      (row_addPackets f · d .rx)
    simp only [reduceCtorEq, if_false, ite_self, UInt64.add_zero] at received
    exact received.trans sent
  · next nothing =>
    have zero : d.pkts = 0 ∧ d.bytes = 0 := by
      simpa only [UInt64.pos_iff_ne_zero, not_or, not_not] using nothing
    have none_ : f.withPackets d = 0 := by
      cases f
      · exact zero.1
      · exact zero.2
      · rfl
    rw [none_, ite_self, UInt64.add_zero]

/-- The losses of an attribution, made where there are any. -/
theorem counter_losses (f : Sent) (store : IpStatsStore) (d : Registry.IpAttr) (ip : IpAddr) :
    counter f ip (if 0 < d.lost then
        (store.observeLost d.srcIp d.tsUs d.lost .tx).observeLost d.dstIp d.tsUs d.lost .rx
      else store) = counter f ip store + if d.srcIp = ip then f.withLosses d else 0 := by
  split
  · have sent := counter_entry f store d.srcIp ip (row_addLost f · d .tx)
    have received := counter_entry f (store.observeLost d.srcIp d.tsUs d.lost .tx) d.dstIp ip
      (row_addLost f · d .rx)
    simp only [reduceCtorEq, if_false, ite_self, UInt64.add_zero] at received
    exact received.trans sent
  · next nothing =>
    have zero : d.lost = 0 := by
      simpa only [UInt64.pos_iff_ne_zero, not_not] using nothing
    have none_ : f.withLosses d = 0 := by
      cases f
      · rfl
      · rfl
      · exact zero
    rw [none_, ite_self, UInt64.add_zero]

/-- Attribution gives the sender what the stream has gained since. -/
theorem counter_attributeTo (f : Sent) (store : IpStatsStore) (d : Registry.IpAttr) (ip : IpAddr) :
    counter f ip (Registry.attributeTo store d) =
      counter f ip store + if d.srcIp = ip then f.given d else 0 := by
  refine (counter_losses f _ d ip).trans ?_
  rw [counter_packets, UInt64.add_assoc]
  refine congrArg _ ?_
  split
  · exact (f.given_eq d).symm
  · exact UInt64.add_zero 0

/-! ## One imported snapshot -/

def sends (ip : IpAddr) (s : StreamSummary) : Bool := s.flow.any fun flow => decide (flow.src.ip = ip)

/-- A snapshot gives the sender what it gains over the stored one. -/
theorem counter_importStreamSnap (f : Sent) (ip : IpAddr) (reg : Registry) (ts : UInt64)
    (s : StreamSummary) :
    counter f ip (reg.importStreamSnap ts s).ipstats = counter f ip reg.ipstats +
      if sends ip s then
        .ofNat (f.reading s - ((reg.importedStreams.lookup (importKey s)).map f.reading).getD 0)
      else 0 := by
  have kept (reg : Registry) : (reg.addImportedStream s).ipstats = reg.ipstats := by
    unfold Registry.addImportedStream
    dsimp only
    split
    · rfl
    · split <;> rfl
  unfold Registry.importStreamSnap
  dsimp only
  generalize clocked : (if reg.lastUs.getD 0 < ts then _ else reg) = r
  have same : r.importedStreams = reg.importedStreams ∧ r.ipstats = reg.ipstats := by
    rw [← clocked]
    split <;> exact ⟨rfl, rfl⟩
  rw [← same.1, ← same.2]
  unfold sends
  cases s.flow with
  | none =>
    rw [Option.any_none, if_neg Bool.false_ne_true, UInt64.add_zero]
    exact congrArg (counter f ip) (kept r)
  | some flow =>
    dsimp only
    rw [counter_attributeTo, kept, Option.any_some]
    cases f <;> simp only [Sent.given, Sent.reading, decide_eq_true_eq]

end Sipmon.Guarantees.SentCounters
