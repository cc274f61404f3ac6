import Sipmon.Guarantees.LossCounting
import Sipmon.Lib.History

/-!
# The traffic of imported streams

An import adds to the sender what a stream has gained since the summary that is
stored. A stream beyond the cap is never stored, so each of its snapshots counts
from zero again. The totals of an address are the last readings of its streams
exactly if no stream that is not stored comes back after it has carried anything.
The counters are 64 bits wide.
-/
namespace Sipmon.Guarantees.ImportedTotals
open Source
open Lib (FiniteMap)
open Lib.Run (Along)
open LossCounting (Keeps lookup_importStreamSnap imported blank)
open SentCounters (Sent counter counter_importStreamSnap sends)

/-- The two counters of what an address sends. -/
inductive Traffic where
  | packets | bytes

namespace Traffic

def sent : Traffic → Sent
  | packets => .packets
  | bytes => .bytes

def reading (f : Traffic) (s : StreamSummary) : Nat := f.sent.reading s

end Traffic

/-! ## Runs -/

/-- The registry, and the last summary of each stream. -/
structure Ledger where
  reg : Registry
  last : FiniteMap ImportKey StreamSummary := FiniteMap.empty

namespace Ledger

def step (w : Ledger) (snap : UInt64 × StreamSummary) : Ledger :=
  { reg := w.reg.importStreamSnap snap.1 snap.2
    last := w.last.insert (importKey snap.2) snap.2 }

/-- The last readings of the streams an address sent. -/
def sum (f : Traffic) (ip : IpAddr) (w : Ledger) : Nat :=
  FiniteMap.total (fun s => if sends ip s then f.reading s else 0) w.last

/-- No reading falls. -/
def Rises (w : Ledger) (snap : UInt64 × StreamSummary) : Prop :=
  ∀ p, w.last.lookup (importKey snap.2) = some p →
    p.packets ≤ snap.2.packets ∧ p.bytes ≤ snap.2.bytes

/-- A stream that is not stored has carried nothing before. -/
def Renewed (w : Ledger) (snap : UInt64 × StreamSummary) : Prop :=
  snap.2.flow.isSome → importKey snap.2 ∉ w.reg.importedStreams →
    ∀ p ∈ w.last.lookup (importKey snap.2), p.packets = 0 ∧ p.bytes = 0

instance (w : Ledger) (snap : UInt64 × StreamSummary) : Decidable (w.Renewed snap) :=
  inferInstanceAs (Decidable (_ → _ → ∀ p ∈ w.last.lookup (importKey snap.2), _))

/-- What a snapshot of a stream that is not stored repeats. -/
def repeated (f : Traffic) (ip : IpAddr) (w : Ledger) (snap : UInt64 × StreamSummary) : Nat :=
  if sends ip snap.2 ∧ importKey snap.2 ∉ w.reg.importedStreams then
    ((w.last.lookup (importKey snap.2)).map f.reading).getD 0
  else 0

/-- The ledger files each summary under its own stream, and the registry stores no
other summary of a stream than the last one. -/
structure Sound (past : List (UInt64 × StreamSummary)) (w : Ledger) : Prop where
  filed : ∀ key p, w.last.lookup key = some p → importKey p = key ∧ p ∈ past.map Prod.snd
  stored : ∀ key p, w.reg.importedStreams.lookup key = some p → w.last.lookup key = some p

theorem Sound.step {past : List (UInt64 × StreamSummary)} {w : Ledger} (sound : Sound past w)
    (snap : UInt64 × StreamSummary) : Sound (past ++ [snap]) (w.step snap) := by
  constructor
  · intro key p found
    rw [Ledger.step, FiniteMap.lookup_insert_iff] at found
    split at found
    · next own =>
      obtain rfl := Option.some.inj found
      exact ⟨own.symm, by simp⟩
    · obtain ⟨same, member⟩ := sound.filed key p found
      exact ⟨same, by rw [List.map_append]; exact List.mem_append_left _ member⟩
  · intro key p found
    have looked := lookup_importStreamSnap w.reg snap.1 snap.2 key
    rw [Ledger.step, FiniteMap.lookup_insert_iff]
    rw [Ledger.step, looked] at found
    by_cases own : key = importKey snap.2
    · rw [if_pos own]
      split at found
      · exact found
      · next dropped =>
        have listed : importKey snap.2 ∈ w.reg.importedStreams :=
          own ▸ AList.lookup_isSome.mp (Option.isSome_of_eq_some found)
        exact absurd ⟨own, Or.inl listed⟩ dropped
    · rw [if_neg own]
      rw [if_neg fun both => own both.1] at found
      exact sound.stored key p found

theorem sends_congr {a b : StreamSummary} (same : importKey a = importKey b) (ip : IpAddr) :
    sends ip a = sends ip b := by
  have flow : a.flow = b.flow := congrArg ImportKey.flow same
  rw [sends, sends, flow]

/-- What the last readings gain in one import, with what is repeated, is what the
snapshot gains over the stored one. -/
theorem sum_step {past : List (UInt64 × StreamSummary)} {w : Ledger} (sound : Sound past w)
    {snap : UInt64 × StreamSummary} (rises : w.Rises snap) (f : Traffic) (ip : IpAddr) :
    w.sum f ip + (if sends ip snap.2 then
        f.reading snap.2 - ((w.reg.importedStreams.lookup (importKey snap.2)).map f.reading).getD 0
      else 0) = (w.step snap).sum f ip + w.repeated f ip snap := by
  have moved := FiniteMap.total_insert (fun s => if sends ip s then f.reading s else 0)
    (importKey snap.2) snap.2 w.last
  have total : (w.step snap).sum f ip = FiniteMap.total _ (w.last.insert (importKey snap.2) snap.2) := rfl
  rw [total]
  unfold repeated sum
  cases sent : sends ip snap.2 with
  | false =>
    have idle : ((w.last.lookup (importKey snap.2)).map fun s =>
        if sends ip s then f.reading s else 0).getD 0 = 0 := by
      cases known : w.last.lookup (importKey snap.2) with
      | none => rfl
      | some p =>
        have own : sends ip p = false := (sends_congr (sound.filed _ p known).1 ip).trans sent
        simp [own]
    rw [idle, sent] at moved
    simp only [Bool.false_eq_true, false_and, if_false] at moved ⊢
    omega
  | true =>
    cases known : w.last.lookup (importKey snap.2) with
    | none =>
      have absent : w.reg.importedStreams.lookup (importKey snap.2) = none := by
        by_contra present
        obtain ⟨p, found⟩ := Option.ne_none_iff_exists'.mp present
        rw [sound.stored _ p found] at known
        cases known
      rw [known] at moved
      simp only [absent, sent, if_true, Option.map_none, Option.getD_none, ite_self] at moved ⊢
      omega
    | some p =>
      have own : sends ip p = true := (sends_congr (sound.filed _ p known).1 ip).trans sent
      have more : f.reading p ≤ f.reading snap.2 := by
        cases f
        · exact (rises p known).1
        · exact (rises p known).2
      rw [known] at moved
      simp only [sent, own, if_true, true_and, Option.map_some, Option.getD_some] at moved ⊢
      cases present : w.reg.importedStreams.lookup (importKey snap.2) with
      | none =>
        rw [if_pos (AList.lookup_eq_none.mp present), Option.map_none, Option.getD_none]
        omega
      | some q =>
        have same := sound.stored _ q present
        rw [known] at same
        obtain rfl := Option.some.inj same
        have listed : importKey snap.2 ∈ w.reg.importedStreams :=
          AList.lookup_isSome.mp (Option.isSome_of_eq_some present)
        rw [if_neg fun absent => absent listed, Option.map_some, Option.getD_some]
        omega

/-- One import: the counter gains what the last readings gain, and what is repeated. -/
theorem counter_step {past : List (UInt64 × StreamSummary)} {w : Ledger} (sound : Sound past w)
    {snap : UInt64 × StreamSummary} (rises : w.Rises snap) (f : Traffic) (ip : IpAddr) :
    counter f.sent ip (w.step snap).reg.ipstats + .ofNat (w.sum f ip) =
      counter f.sent ip w.reg.ipstats + .ofNat ((w.step snap).sum f ip + w.repeated f ip snap) := by
  have given : counter f.sent ip (w.step snap).reg.ipstats = _ :=
    counter_importStreamSnap f.sent ip w.reg snap.1 snap.2
  rw [given, ← sum_step sound rises, Nat.add_comm, UInt64.ofNat_add, ← UInt64.add_assoc]
  rw [apply_ite UInt64.ofNat]
  rfl

theorem sound_foldl {w : Ledger} (initial : Sound [] w) (snaps : List (UInt64 × StreamSummary)) :
    Sound snaps (snaps.foldl step w) :=
  Lib.Run.history (I := Sound) (D := fun _ _ => True) initial
    (fun _ _ snap _ sound => sound.step snap) fun _ _ _ _ => trivial

/-- A run: the counter gains what the last readings gain, and what is repeated. -/
theorem counter_foldl {past : List (UInt64 × StreamSummary)} {w : Ledger} (sound : Sound past w)
    {snaps : List (UInt64 × StreamSummary)} (rises : Along step Rises w snaps) (f : Traffic) (ip : IpAddr) :
    counter f.sent ip (snaps.foldl step w).reg.ipstats + .ofNat (w.sum f ip) =
      counter f.sent ip w.reg.ipstats + .ofNat ((snaps.foldl step w).sum f ip +
        Lib.Run.total step (repeated f ip) w snaps) := by
  induction snaps generalizing past w with
  | nil => rfl
  | cons snap rest ih =>
    have first := counter_step sound rises.1 f ip
    have others := ih (sound.step snap) rises.2
    rw [UInt64.ofNat_add] at first others ⊢
    rw [List.foldl_cons, Lib.Run.total, UInt64.ofNat_add]
    grind

/-- What is charged to an address is no more than what is read. -/
theorem sum_foldl_le {past : List (UInt64 × StreamSummary)} {w : Ledger} (sound : Sound past w)
    {snaps : List (UInt64 × StreamSummary)} (rises : Along step Rises w snaps) (f : Traffic) (ip : IpAddr) :
    (snaps.foldl step w).sum f ip + Lib.Run.total step (repeated f ip) w snaps ≤
      w.sum f ip + (snaps.map fun snap => f.reading snap.2).sum := by
  induction snaps generalizing past w with
  | nil => exact Nat.le_refl _
  | cons snap rest ih =>
    have first := sum_step sound rises.1 f ip
    have others := ih (sound.step snap) rises.2
    rw [List.foldl_cons, Lib.Run.total, List.map_cons, List.sum_cons]
    split at first <;> omega

theorem reg_foldl (w : Ledger) (snaps : List (UInt64 × StreamSummary)) :
    (snaps.foldl step w).reg = imported w.reg snaps := by
  induction snaps generalizing w with
  | nil => rfl
  | cons snap rest ih => exact ih (w.step snap)

/-- Nothing is repeated to any address exactly if no stream is renewed in vain. -/
theorem repeated_eq_zero_iff (w : Ledger) (snap : UInt64 × StreamSummary) :
    (∀ f ip, w.repeated f ip snap = 0) ↔ w.Renewed snap := by
  constructor
  · intro none_ flow absent p known
    obtain ⟨ends, here⟩ := Option.isSome_iff_exists.mp flow
    have sent : sends ends.src.ip snap.2 = true := by simp [sends, here]
    have packets := none_ .packets ends.src.ip
    have bytes := none_ .bytes ends.src.ip
    rw [repeated, if_pos ⟨sent, absent⟩, known] at packets bytes
    exact ⟨packets, bytes⟩
  · intro renewed f ip
    unfold repeated
    split
    · next both =>
      obtain ⟨ends, here, -⟩ := (Option.any_eq_true _ _).mp both.1
      cases known : w.last.lookup (importKey snap.2) with
      | none => rfl
      | some p =>
        obtain ⟨packets, bytes⟩ := renewed (Option.isSome_of_eq_some here) both.2 p known
        cases f
        · exact packets
        · exact bytes
    · rfl

end Ledger

/-! ## Totals -/

/-- The cumulative packets and bytes of each stream never fall. -/
def Climbs (snaps : List (UInt64 × StreamSummary)) : Prop :=
  snaps.Pairwise fun a b =>
    importKey a.2 = importKey b.2 → a.2.packets ≤ b.2.packets ∧ a.2.bytes ≤ b.2.bytes

/-- The last summary of each stream. -/
def lastSnaps (snaps : List (UInt64 × StreamSummary)) : FiniteMap ImportKey StreamSummary :=
  snaps.foldl (fun last snap => last.insert (importKey snap.2) snap.2) FiniteMap.empty

/-- The sum of the last readings over the streams an address sent. -/
def lastReadings (f : Traffic) (ip : IpAddr) (snaps : List (UInt64 × StreamSummary)) : Nat :=
  FiniteMap.total (fun s => if sends ip s then f.reading s else 0) (lastSnaps snaps)

theorem sum_foldl (f : Traffic) (ip : IpAddr) (reg : Registry) (snaps : List (UInt64 × StreamSummary)) :
    (snaps.foldl Ledger.step { reg }).sum f ip = lastReadings f ip snaps := by
  have ledger : ∀ w : Ledger, (snaps.foldl Ledger.step w).last =
      snaps.foldl (fun last snap => last.insert (importKey snap.2) snap.2) w.last := by
    induction snaps with
    | nil => exact fun w => rfl
    | cons snap rest ih => exact fun w => ih (w.step snap)
  rw [Ledger.sum, ledger]
  rfl

theorem Climbs.rises {snaps : List (UInt64 × StreamSummary)} (climbs : Climbs snaps) {reg : Registry}
    (initial : Ledger.Sound [] { reg }) : Along Ledger.step Ledger.Rises { reg } snaps := by
  refine (Lib.Run.along_iff _ _).mpr fun before snap after split p known => ?_
  obtain ⟨same, member⟩ := (Ledger.sound_foldl initial before).filed _ p known
  obtain ⟨earlier, listed, rfl⟩ := List.mem_map.mp member
  exact Lib.Run.admitted_of_pairwise climbs before snap after split earlier listed same

section Fresh

variable (source : String) (maxCalls maxStreams maxDiagnostics : Nat)

theorem sound_blank : Ledger.Sound [] { reg := blank source maxCalls maxStreams maxDiagnostics } := by
  constructor <;> exact fun key p found => by cases found

/-- All that the snapshots add to a counter: the last readings, and what is repeated. -/
def charged (f : Traffic) (ip : IpAddr) (snaps : List (UInt64 × StreamSummary)) : Nat :=
  lastReadings f ip snaps + Lib.Run.total Ledger.step (Ledger.repeated f ip)
    { reg := blank source maxCalls maxStreams maxDiagnostics } snaps

theorem charged_le {snaps : List (UInt64 × StreamSummary)} (climbs : Climbs snaps) (f : Traffic)
    (ip : IpAddr) :
    charged source maxCalls maxStreams maxDiagnostics f ip snaps ≤
      (snaps.map fun snap => f.reading snap.2).sum := by
  have initial := sound_blank source maxCalls maxStreams maxDiagnostics
  have below := Ledger.sum_foldl_le initial (climbs.rises initial) f ip
  have nothing : Ledger.sum f ip { reg := blank source maxCalls maxStreams maxDiagnostics } = 0 :=
    FiniteMap.total_empty _
  rwa [sum_foldl, nothing, Nat.zero_add] at below

/-- The counter holds what is charged, modulo 2^64. -/
theorem counter_imported {snaps : List (UInt64 × StreamSummary)} (climbs : Climbs snaps) (f : Traffic)
    (ip : IpAddr) :
    counter f.sent ip (imported (blank source maxCalls maxStreams maxDiagnostics) snaps).ipstats =
      .ofNat (charged source maxCalls maxStreams maxDiagnostics f ip snaps) := by
  have initial := sound_blank source maxCalls maxStreams maxDiagnostics
  have balance := Ledger.counter_foldl initial (climbs.rises initial) f ip
  have none_ : counter f.sent ip (blank source maxCalls maxStreams maxDiagnostics).ipstats = 0 := rfl
  have nothing : Ledger.sum f ip { reg := blank source maxCalls maxStreams maxDiagnostics } = 0 :=
    FiniteMap.total_empty _
  rw [Ledger.reg_foldl, sum_foldl, nothing] at balance
  dsimp only at balance
  rw [none_, UInt64.zero_add] at balance
  exact (UInt64.add_zero _).symm.trans balance

theorem counter_imported_iff {snaps : List (UInt64 × StreamSummary)} (climbs : Climbs snaps) (f : Traffic)
    (ip : IpAddr) (fits : charged source maxCalls maxStreams maxDiagnostics f ip snaps < 2 ^ 64) :
    (counter f.sent ip (imported (blank source maxCalls maxStreams maxDiagnostics) snaps).ipstats).toNat =
        lastReadings f ip snaps ↔
      Along Ledger.step (fun w snap => w.repeated f ip snap = 0)
        { reg := blank source maxCalls maxStreams maxDiagnostics } snaps := by
  rw [← Lib.Run.total_eq_zero, counter_imported source maxCalls maxStreams maxDiagnostics climbs,
    UInt64.toNat_ofNat_of_lt' fits, charged]
  omega

/-- Whatever is imported into a fresh registry, in any number of streams whose
readings never fall: what each address has sent is the sum of the last readings of
its streams exactly if every snapshot of a stream that is not stored finds nothing
carried before. What the snapshots add to each counter fits into its 64 bits. -/
theorem imported_totals_iff {snaps : List (UInt64 × StreamSummary)} (climbs : Climbs snaps)
    (fits : ∀ f ip, charged source maxCalls maxStreams maxDiagnostics f ip snaps < 2 ^ 64) :
    (∀ ip,
        (counter .packets ip
            (imported (blank source maxCalls maxStreams maxDiagnostics) snaps).ipstats).toNat =
            lastReadings .packets ip snaps ∧
          (counter .bytes ip
            (imported (blank source maxCalls maxStreams maxDiagnostics) snaps).ipstats).toNat =
            lastReadings .bytes ip snaps) ↔
      Along Ledger.step Ledger.Renewed { reg := blank source maxCalls maxStreams maxDiagnostics } snaps := by
  have each := fun f ip => counter_imported_iff source maxCalls maxStreams maxDiagnostics climbs f ip (fits f ip)
  rw [Lib.Run.along_congr fun w snap => (w.repeated_eq_zero_iff snap).symm]
  constructor
  · intro totals
    refine (Lib.Run.along_iff _ _).mpr fun before snap after split f ip => ?_
    have same : (counter f.sent ip
        (imported (blank source maxCalls maxStreams maxDiagnostics) snaps).ipstats).toNat =
        lastReadings f ip snaps := by
      cases f
      · exact (totals ip).1
      · exact (totals ip).2
    exact (Lib.Run.along_iff _ _).mp ((each f ip).mp same) before snap after split
  · intro along ip
    have same (f : Traffic) := (each f ip).mpr (along.mono fun w snap none_ => none_ f ip)
    exact ⟨same .packets, same .bytes⟩

end Fresh

/-- Snapshots of two streams of one sender, with their cumulative packets. -/
def twoStreams (readings : List (UInt32 × Nat)) : List (UInt64 × StreamSummary) :=
  readings.map fun (ssrc, packets) => (1,
    { callId := some "a", ssrc, flow := some (CallIsolation.mediaFlow 1), codec := none, payloadType := none
      packets, lost := 0, expected := packets, lossPct := ⟨0⟩, jitterMs := none, firstTsUs := none
      lastTsUs := none, rttMinMs := none, rttAvgMs := none, rttMaxMs := none, onewayMs := none
      mos := none, direction := none, leg := none, viaTurn := false, bytes := 160 * packets
      history := [] })

/-- With room for both streams every reading is counted once. -/
theorem imported_totals_stored :
    let snaps := twoStreams [(7, 5), (8, 3), (8, 4), (7, 9)]
    (counter .packets (CallIsolation.mediaFlow 1).src.ip (imported (blank "a.evlog" 1 2 1) snaps).ipstats).toNat =
        lastReadings .packets (CallIsolation.mediaFlow 1).src.ip snaps ∧
      (counter .bytes (CallIsolation.mediaFlow 1).src.ip (imported (blank "a.evlog" 1 2 1) snaps).ipstats).toNat =
        lastReadings .bytes (CallIsolation.mediaFlow 1).src.ip snaps := by
  have climbs : Climbs (twoStreams [(7, 5), (8, 3), (8, 4), (7, 9)]) := by
    unfold Climbs
    decide
  refine (imported_totals_iff "a.evlog" 1 2 1 climbs fun f ip => ?_).mpr (by decide +kernel) _
  refine Nat.lt_of_le_of_lt (charged_le "a.evlog" 1 2 1 climbs f ip) ?_
  cases f <;> decide

/-- The second stream is beyond the cap: its first three packets are counted twice. -/
theorem imported_twice_beyond_cap :
    let snaps := twoStreams [(7, 5), (8, 3), (8, 4)]
    Climbs snaps ∧
      (∀ f ip, charged "a.evlog" 1 1 1 f ip snaps < 2 ^ 64) ∧
      (counter .packets (CallIsolation.mediaFlow 1).src.ip
        (imported (blank "a.evlog" 1 1 1) snaps).ipstats).toNat = 12 ∧
      lastReadings .packets (CallIsolation.mediaFlow 1).src.ip snaps = 9 := by
  have climbs : Climbs (twoStreams [(7, 5), (8, 3), (8, 4)]) := by
    unfold Climbs
    decide
  refine ⟨climbs, fun f ip => Nat.lt_of_le_of_lt (charged_le "a.evlog" 1 1 1 climbs f ip) ?_,
    by decide +kernel, by decide +kernel⟩
  cases f <;> decide

end Sipmon.Guarantees.ImportedTotals
