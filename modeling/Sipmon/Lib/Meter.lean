import Sipmon.Lib.FiniteMap
import Sipmon.Lib.Run

/-!
# Meters with cumulative readings

Each key reports a cumulative number from time to time. A meter counts what a
reading adds to the last one of its key, nothing when it is lower. Readings that
never fall are counted exactly. A reading that climbs after a fall is counted
from where it fell to: the meter exceeds the peaks by exactly these rebounds.
-/
namespace Sipmon.Lib

structure Meter (K : Type*) where
  /-- The last reading of each key. -/
  marks : FiniteMap K Nat := FiniteMap.empty
  /-- The highest reading of each key. -/
  peaks : FiniteMap K Nat := FiniteMap.empty
  counted : Nat := 0

namespace Meter

variable {K : Type*} [DecidableEq K]

def mark (m : Meter K) (k : K) : Nat := (m.marks.lookup k).getD 0
def peak (m : Meter K) (k : K) : Nat := (m.peaks.lookup k).getD 0

/-- What a reading adds. -/
def gain (m : Meter K) (r : K × Nat) : Nat := r.2 - m.mark r.1

/-- The part of a gain below the peak: what was counted before. -/
def rebound (m : Meter K) (r : K × Nat) : Nat := min r.2 (m.peak r.1) - m.mark r.1

def read (m : Meter K) (r : K × Nat) : Meter K :=
  { marks := m.marks.insert r.1 r.2
    peaks := m.peaks.insert r.1 (max r.2 (m.peak r.1))
    counted := m.counted + m.gain r }

def run (readings : List (K × Nat)) : Meter K := readings.foldl read {}

/-- The rebounds along the readings that follow. -/
def rebounds : Meter K → List (K × Nat) → Nat
  | _, [] => 0
  | m, r :: rest => m.rebound r + rebounds (m.read r) rest

theorem mark_read (m : Meter K) (r : K × Nat) (k : K) :
    (m.read r).mark k = if k = r.1 then r.2 else m.mark k := by
  unfold mark read
  dsimp only
  rw [FiniteMap.lookup_insert_iff]
  split <;> rfl

theorem peak_read (m : Meter K) (r : K × Nat) (k : K) :
    (m.read r).peak k = if k = r.1 then max r.2 (m.peak k) else m.peak k := by
  unfold read
  rw [peak]
  dsimp only
  rw [FiniteMap.lookup_insert_iff]
  split
  · next own => rw [own]; rfl
  · rfl

/-- Marks never pass their peaks. -/
def Sound (m : Meter K) : Prop := ∀ k, m.mark k ≤ m.peak k

theorem sound_read {m : Meter K} (sound : m.Sound) (r : K × Nat) : (m.read r).Sound := by
  intro k
  rw [mark_read, peak_read]
  split
  · exact Nat.le_max_left _ _
  · exact sound k

theorem total_marks_read (m : Meter K) (r : K × Nat) :
    FiniteMap.total id (m.read r).marks + m.mark r.1 = FiniteMap.total id m.marks + r.2 := by
  have inserted := FiniteMap.total_insert id r.1 r.2 m.marks
  rwa [Option.map_id] at inserted

theorem total_peaks_read (m : Meter K) (r : K × Nat) :
    FiniteMap.total id (m.read r).peaks + m.peak r.1 =
      FiniteMap.total id m.peaks + max r.2 (m.peak r.1) := by
  have inserted := FiniteMap.total_insert id r.1 (max r.2 (m.peak r.1)) m.peaks
  rwa [Option.map_id] at inserted

/-- The meter counts the peaks and every rebound once more. -/
theorem counted_foldl {m : Meter K} (sound : m.Sound) (readings : List (K × Nat)) :
    (readings.foldl read m).counted + FiniteMap.total id m.peaks =
      m.counted + FiniteMap.total id (readings.foldl read m).peaks + rebounds m readings := by
  induction readings generalizing m with
  | nil => rfl
  | cons r rest ih =>
    have others := ih (sound_read sound r)
    have raised := total_peaks_read m r
    have below := sound r.1
    have first : (m.read r).counted = m.counted + (r.2 - m.mark r.1) := rfl
    have again : rebounds m (r :: rest) =
        min r.2 (m.peak r.1) - m.mark r.1 + rebounds (m.read r) rest := rfl
    rw [List.foldl_cons, again]
    omega

theorem counted_run (readings : List (K × Nat)) :
    (run readings).counted = FiniteMap.total id (run readings).peaks + rebounds {} readings := by
  have balance := counted_foldl (K := K) (m := {}) (fun _ => Nat.le_refl 0) readings
  have none_ : FiniteMap.total id (FiniteMap.empty : FiniteMap K Nat) = 0 := FiniteMap.total_empty id
  rw [none_, Nat.zero_add, Nat.add_zero] at balance
  exact balance

/-- At least the last readings are counted. -/
theorem marks_le_counted (readings : List (K × Nat)) :
    FiniteMap.total id (run readings).marks ≤ (run readings).counted := by
  have kept : ∀ (readings : List (K × Nat)) (m : Meter K), FiniteMap.total id m.marks ≤ m.counted →
      FiniteMap.total id (readings.foldl read m).marks ≤ (readings.foldl read m).counted := by
    intro readings
    induction readings with
    | nil => exact fun m below => below
    | cons r rest ih =>
      intro m below
      refine ih (m.read r) ?_
      have moved := total_marks_read m r
      have first : (m.read r).counted = m.counted + (r.2 - m.mark r.1) := rfl
      omega
  exact kept readings {} (Nat.le_refl 0)

/-! ## Gains from below a peak -/

theorem rebounds_eq_total (m : Meter K) (readings : List (K × Nat)) :
    rebounds m readings = Run.total read rebound m readings := by
  induction readings generalizing m with
  | nil => rfl
  | cons r rest ih => exact congrArg (m.rebound r + ·) (ih (m.read r))

/-- A reading passes the last one of its key only where that was the highest. -/
def GainsFromPeak (readings : List (K × Nat)) : Prop :=
  Run.Along read (fun m r => r.2 ≤ m.mark r.1 ∨ m.peak r.1 ≤ m.mark r.1) {} readings

instance (readings : List (K × Nat)) : Decidable (GainsFromPeak readings) :=
  Run.decidableAlong _ _ _

theorem rebounds_eq_zero (readings : List (K × Nat)) :
    rebounds {} readings = 0 ↔ GainsFromPeak readings := by
  rw [rebounds_eq_total, Run.total_eq_zero]
  refine Run.along_congr (fun m r => ?_) _ readings
  unfold rebound
  omega

/-- A count between the last and the highest readings of all keys. -/
def Between (counted : Nat) (readings : List (K × Nat)) : Prop :=
  FiniteMap.total id (run readings).marks ≤ counted ∧
    counted ≤ FiniteMap.total id (run readings).peaks

instance (counted : Nat) (readings : List (K × Nat)) : Decidable (Between counted readings) :=
  instDecidableAnd

/-- The count stays below the peaks exactly where nothing is gained from below one. -/
theorem between_counted_iff (readings : List (K × Nat)) :
    Between (run readings).counted readings ↔ GainsFromPeak readings := by
  have least := marks_le_counted readings
  have law := counted_run readings
  rw [← rebounds_eq_zero, Between]
  omega

/-! ## A round of readings -/

/-- A round leaves the other keys alone. -/
theorem mark_round_other {readings : List (K × Nat)} {k : K} (absent : k ∉ readings.map Prod.fst)
    (m : Meter K) : (readings.foldl read m).mark k = m.mark k := by
  induction readings generalizing m with
  | nil => rfl
  | cons r rest ih =>
    have differs : k ≠ r.1 := List.ne_of_not_mem_cons absent
    have later : k ∉ rest.map Prod.fst := List.not_mem_of_not_mem_cons absent
    exact (ih later (m.read r)).trans ((mark_read m r k).trans (if_neg differs))

/-- In a round of different keys every key reads its own. -/
theorem mark_round {readings : List (K × Nat)} (distinct : (readings.map Prod.fst).Nodup) (m : Meter K)
    {r : K × Nat} (member : r ∈ readings) : (readings.foldl read m).mark r.1 = r.2 := by
  induction readings generalizing m with
  | nil => cases member
  | cons first rest ih =>
    obtain ⟨fresh, distinct⟩ := List.nodup_cons.mp distinct
    rcases List.mem_cons.mp member with rfl | later
    · rw [List.foldl_cons, mark_round_other fresh, mark_read, if_pos rfl]
    · exact ih distinct (m.read first) later

/-- A round of different keys gains what each gains alone. -/
theorem counted_round {readings : List (K × Nat)} (distinct : (readings.map Prod.fst).Nodup)
    (m : Meter K) : (readings.foldl read m).counted = m.counted + (readings.map m.gain).sum := by
  induction readings generalizing m with
  | nil => rfl
  | cons r rest ih =>
    obtain ⟨fresh, distinct⟩ := List.nodup_cons.mp distinct
    have same : rest.map (m.read r).gain = rest.map m.gain := by
      refine List.map_congr_left fun s member => ?_
      have differs : s.1 ≠ r.1 := fun same => fresh (same ▸ List.mem_map_of_mem member)
      rw [gain, gain, mark_read, if_neg differs]
    have first : (m.read r).counted = m.counted + m.gain r := rfl
    rw [List.foldl_cons, ih distinct, same, first, List.map_cons, List.sum_cons, Nat.add_assoc]

/-! ## Readings that never fall -/

/-- Every reading is at least the last one of its key. -/
def Rising (readings : List (K × Nat)) : Prop :=
  readings.Pairwise fun a b => a.1 = b.1 → a.2 ≤ b.2

/-- Readings that never fall are counted exactly. -/
theorem counted_of_rising {readings : List (K × Nat)} (rising : Rising readings) :
    (run readings).counted = FiniteMap.total id (run readings).marks := by
  have exact_ : ∀ (readings : List (K × Nat)) (m : Meter K),
      m.counted = FiniteMap.total id m.marks → Rising readings →
      (∀ r ∈ readings, m.mark r.1 ≤ r.2) →
      (readings.foldl read m).counted = FiniteMap.total id (readings.foldl read m).marks := by
    intro readings
    induction readings with
    | nil => exact fun m same _ _ => same
    | cons r rest ih =>
      intro m same rising above
      obtain ⟨first, later⟩ := List.pairwise_cons.mp rising
      refine ih (m.read r) ?_ later fun s member => ?_
      · have moved := total_marks_read m r
        have front := above r List.mem_cons_self
        have grown : (m.read r).counted = m.counted + (r.2 - m.mark r.1) := rfl
        omega
      · rw [mark_read]
        split
        · next own => exact first s member own.symm
        · exact above s (List.mem_cons_of_mem r member)
  exact exact_ readings {} rfl rising fun _ _ => Nat.zero_le _

end Meter
end Sipmon.Lib
