import Mathlib.Data.List.Infix
import Sipmon.Guarantees.EvlogRecords
import Sipmon.Lib.Run

/-!
# Timestamps of out-of-order events

The writer moves its base back with every late event while the reader only ever
adds deltas. The reader's clock is the running maximum of the written times
exactly when no event climbs from below that maximum.
-/
namespace Sipmon.Guarantees.EvlogClock
open Source Source.Evlog EvlogPayloads EvlogRecords

/-- The maximum of the times written so far. -/
def peak (ts : List UInt64) : UInt64 := ts.foldl max 0

/-- The reader's clock over record `i` is the maximum of the first `i + 1` times. -/
def ClocksAreRunningMax (tz : Int32) (evs : List Event) : Prop :=
  ∀ i < evs.length, ((EvlogReader.new (sessionImage tz evs)).rawReplay.1.map RawRecord.tsUs)[i]? =
    some (peak ((evs.map Event.tsUs).take (i + 1)))

/-- An event later than its predecessor follows a predecessor that stands at the
maximum so far, unless the clock is at the end of the `u64` range anyway. -/
def ClimbsFromPeak (ts : List UInt64) : Prop :=
  ∀ before t after, ts = before ++ t :: after → before.getLastD 0 < t →
    before.getLastD 0 = peak before ∨ peak (before ++ [t]) = 0xffffffffffffffff

/-- The last written time and the maximum so far. -/
def observe (s : UInt64 × UInt64) (t : UInt64) : UInt64 × UInt64 := (t, max s.2 t)

/-- One event keeps the reader's clock on the maximum. -/
def KeepsPeak (s : UInt64 × UInt64) (t : UInt64) : Prop :=
  s.1 < t → s.1 = s.2 ∨ max s.2 t = 0xffffffffffffffff

/-- The running maxima from a maximum `top` on. -/
def peaks : UInt64 → List UInt64 → List UInt64
  | _, [] => []
  | top, t :: rest => max top t :: peaks (max top t) rest

/-- The clock of a reader at the maximum stays there exactly over the events
that keep it. -/
theorem clockAfter_peak_iff (last top : UInt64) (ev : Event) (below : last ≤ top) :
    clockAfter top last ev = max top ev.tsUs ↔ KeepsPeak (last, top) ev.tsUs := by
  have le : last.toNat ≤ top.toNat := below
  have bounds := And.intro top.toNat_lt ev.tsUs.toNat_lt
  rw [← UInt64.toNat_inj, clockAfter, satAdd_toNat, satSub_toNat, UInt64.toNat_max, KeepsPeak,
    UInt64.lt_iff_toNat_lt, ← UInt64.toNat_inj, ← UInt64.toNat_inj, UInt64.toNat_max]
  change _ ↔ (_ → _ ∨ _ = 2 ^ 64 - 1)
  dsimp only
  omega

theorem clocks_eq_peaks_iff (evs : List Event) (last top : UInt64) (below : last ≤ top) :
    clocks top last evs = peaks top (evs.map Event.tsUs) ↔
      Lib.Run.Along observe KeepsPeak (last, top) (evs.map Event.tsUs) := by
  induction evs generalizing last top with
  | nil => simp [clocks, peaks, Lib.Run.Along]
  | cons ev rest ih =>
    have step := clockAfter_peak_iff last top ev below
    have reached : ev.tsUs ≤ max top ev.tsUs := by
      rw [UInt64.le_iff_toNat_le, UInt64.toNat_max]
      exact Nat.le_max_right _ _
    have next := ih ev.tsUs (max top ev.tsUs) reached
    rw [clocks, List.map_cons, peaks, List.cons.injEq, Lib.Run.Along, ← step]
    refine and_congr_right fun now => ?_
    rw [now, next]
    rfl

theorem peaks_getElem? (ts : List UInt64) (top : UInt64) (i : Nat) (bound : i < ts.length) :
    (peaks top ts)[i]? = some ((ts.take (i + 1)).foldl max top) := by
  induction ts generalizing top i with
  | nil => cases bound
  | cons t rest ih =>
    cases i with
    | zero => rfl
    | succ i => exact ih (max top t) i (Nat.lt_of_succ_lt_succ bound)

theorem peaks_length (ts : List UInt64) (top : UInt64) : (peaks top ts).length = ts.length := by
  induction ts generalizing top with
  | nil => rfl
  | cons t rest ih => simp [peaks, ih]

/-- The state `observe` reaches is what `ClimbsFromPeak` says of a prefix. -/
theorem foldl_observe (before : List UInt64) (s : UInt64 × UInt64) :
    before.foldl observe s = (before.getLastD s.1, before.foldl max s.2) := by
  induction before generalizing s with
  | nil => rfl
  | cons t rest ih =>
    rw [List.foldl_cons, ih, List.foldl_cons]
    cases rest <;> simp [observe, List.getLastD]

theorem along_iff_climbsFromPeak (ts : List UInt64) :
    Lib.Run.Along observe KeepsPeak (0, 0) ts ↔ ClimbsFromPeak ts := by
  rw [Lib.Run.along_iff]
  simp only [foldl_observe, KeepsPeak, ClimbsFromPeak, peak, List.foldl_append, List.foldl_cons,
    List.foldl_nil]

theorem clocks_of_session (tz : Int32) (evs : List Event)
    (fits : ∀ ev ∈ evs, (payloadOf ev).length ≤ maxRecordLen) :
    (EvlogReader.new (sessionImage tz evs)).rawReplay.1.map RawRecord.tsUs = clocks 0 0 evs := by
  obtain ⟨offset, reader⟩ := new_header tz (records 0 evs)
  rw [sessionImage_eq, reader]
  exact rawReplay_records evs _ 0 rfl fits

/-- Exactly when the reconstructed timestamps are the running maxima. Every
`Vec` is shorter than `2 ^ 64`. -/
theorem clocks_running_max_iff (tz : Int32) (evs : List Event)
    (vecs : ∀ ev ∈ evs, (payloadOf ev).length < 2 ^ 64) :
    ClocksAreRunningMax tz evs ↔
      (∀ ev ∈ evs, (payloadOf ev).length ≤ maxRecordLen) ∧
        ClimbsFromPeak (evs.map Event.tsUs) := by
  by_cases fits : ∀ ev ∈ evs, (payloadOf ev).length ≤ maxRecordLen
  · rw [← along_iff_climbsFromPeak, ← clocks_eq_peaks_iff evs 0 0 (le_refl 0)]
    unfold ClocksAreRunningMax
    rw [clocks_of_session tz evs fits]
    constructor
    · intro each
      refine ⟨fits, List.ext_getElem? fun i => ?_⟩
      by_cases bound : i < evs.length
      · rw [each i bound, peaks_getElem? _ _ _ (by rwa [List.length_map])]
        rfl
      · rw [List.getElem?_eq_none (by simpa using bound),
          List.getElem?_eq_none (by simpa [peaks_length] using bound)]
    · rintro ⟨_, same⟩ i bound
      rw [same, peaks_getElem? _ _ _ (by rwa [List.length_map])]
      rfl
  · refine ⟨fun each => (fits ?_).elim, fun both => (fits both.1).elim⟩
    intro ev member
    by_contra large
    obtain ⟨offset, reader⟩ := new_header tz (records 0 evs)
    have stops := rawReplay_oversized evs { rest := records 0 evs, lastTs := 0, tzOffsetSecs := offset }
      0 rfl vecs ⟨ev, member, Nat.lt_of_not_le large⟩
    have last := each (evs.length - 1) (by omega)
    rw [sessionImage_eq, reader, List.getElem?_eq_none (by rw [List.length_map]; omega)] at last
    cases last

theorem clocks_running_max_iff_three :
    ClocksAreRunningMax 0 [diagAt 10, diagAt 5, diagAt 10] ↔
      (∀ ev ∈ [diagAt 10, diagAt 5, diagAt 10], (payloadOf ev).length ≤ maxRecordLen) ∧
        ClimbsFromPeak ([diagAt 10, diagAt 5, diagAt 10].map Event.tsUs) :=
  clocks_running_max_iff 0 _ (by decide +kernel)

/-- Times 10, 5, 10 are read back as 10, 10, 15. -/
theorem late_event_shifts_clock : ¬ ∀ tz evs, ClocksAreRunningMax tz evs := by
  intro always
  have third := always 0 [diagAt 10, diagAt 5, diagAt 10] 2 (by decide)
  rw [clocks_of_session _ _ (by decide +kernel)] at third
  have read : (clocks 0 0 [diagAt 10, diagAt 5, diagAt 10])[2]? = some 15 := by decide +kernel
  rw [read] at third
  exact absurd third (by decide)

end Sipmon.Guarantees.EvlogClock
