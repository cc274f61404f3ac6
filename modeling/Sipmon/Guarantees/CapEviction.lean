import Mathlib.Data.String.Basic
import Sipmon.Lib.Ranking
import Sipmon.Source.Registry

/-!
# Evicting calls at the cap

The excess calls are the first of the unpinned calls in rank order. A terminated
call has the larger first component of a rank, so the calls in progress go
first; the eviction is the intended one exactly where the two classes do not
compete.
-/
namespace Sipmon.Guarantees.CapEviction
open Source Lib

/-! ## The order of the ranks -/

theorem rankLe_trans {a b c : Nat × Nat × String} (first : Registry.rankLe a b = true)
    (second : Registry.rankLe b c = true) : Registry.rankLe a c = true := by
  simp only [Registry.rankLe, Bool.or_eq_true, Bool.and_eq_true, decide_eq_true_eq, beq_iff_eq]
    at first second ⊢
  obtain less | ⟨same, less | ⟨tie, le⟩⟩ := first <;>
    obtain less' | ⟨same', less' | ⟨tie', le'⟩⟩ := second
  · omega
  · omega
  · omega
  · omega
  · exact .inr ⟨by omega, .inl (by omega)⟩
  · exact .inr ⟨by omega, .inl (by omega)⟩
  · omega
  · exact .inr ⟨by omega, .inl (by omega)⟩
  · exact .inr ⟨by omega, .inr ⟨by omega, le.trans le'⟩⟩

theorem rankLe_total (a b : Nat × Nat × String) :
    Registry.rankLe a b = true ∨ Registry.rankLe b a = true := by
  simp only [Registry.rankLe, Bool.or_eq_true, Bool.and_eq_true, decide_eq_true_eq, beq_iff_eq]
  obtain less | same | less := Nat.lt_trichotomy a.1 b.1
  · exact .inl (.inl less)
  · obtain less | tie | less := Nat.lt_trichotomy a.2.1 b.2.1
    · exact .inl (.inr ⟨same, .inl less⟩)
    · obtain le | le := le_total a.2.2 b.2.2
      · exact .inl (.inr ⟨same, .inr ⟨tie, le⟩⟩)
      · exact .inr (.inr ⟨same.symm, .inr ⟨tie.symm, le⟩⟩)
    · exact .inr (.inr ⟨same.symm, .inl less⟩)
  · exact .inr (.inl less)

theorem rankLe_antisymm (a b : Nat × Nat × String) (first : Registry.rankLe a b = true)
    (second : Registry.rankLe b a = true) : a = b := by
  simp only [Registry.rankLe, Bool.or_eq_true, Bool.and_eq_true, decide_eq_true_eq, beq_iff_eq]
    at first second
  obtain less | ⟨same, less | ⟨tie, le⟩⟩ := first
  · omega
  · omega
  · obtain less | ⟨_, less | ⟨_, le'⟩⟩ := second
    · omega
    · omega
    · exact Prod.ext same (Prod.ext tie (le.antisymm le'))

theorem fst_le_of_rankLe {a b : Nat × Nat × String} (le : Registry.rankLe a b = true) : a.1 ≤ b.1 := by
  simp only [Registry.rankLe, Bool.or_eq_true, Bool.and_eq_true, decide_eq_true_eq, beq_iff_eq] at le
  omega

theorem snd_le_of_rankLe {a b : Nat × Nat × String} (le : Registry.rankLe a b = true) (same : a.1 = b.1) :
    a.2.1 ≤ b.2.1 := by
  simp only [Registry.rankLe, Bool.or_eq_true, Bool.and_eq_true, decide_eq_true_eq, beq_iff_eq] at le
  omega

instance : Std.Total fun a b => Registry.rankLe a b = true := ⟨rankLe_total⟩
instance : IsTrans (Nat × Nat × String) fun a b => Registry.rankLe a b = true := ⟨fun _ _ _ => rankLe_trans⟩

/-! ## What leaves -/

/-- The unpinned calls. -/
def evictable (reg : Registry) : List (String × Call) := reg.calls.toList.filter fun e => !reg.pinned e.1

/-- The ranks of the unpinned calls, sorted. -/
def ranks (reg : Registry) : List (Nat × Nat × String) :=
  ((evictable reg).map Registry.evictRank).insertionSort fun a b => Registry.rankLe a b

/-- The calls above the cap. -/
def excess (reg : Registry) : Nat := reg.calls.size - reg.maxCalls

theorem excessCalls_eq (reg : Registry) :
    reg.excessCalls = ((ranks reg).take (excess reg)).map fun rank => rank.2.2 := rfl

theorem mem_evictable (reg : Registry) (id : String) (call : Call) :
    (id, call) ∈ evictable reg ↔ reg.calls.lookup id = some call ∧ reg.pinned id = false := by
  simp [evictable, FiniteMap.mem_toList]

theorem mem_ranks (reg : Registry) (rank : Nat × Nat × String) :
    rank ∈ ranks reg ↔ ∃ id call, reg.calls.lookup id = some call ∧ reg.pinned id = false ∧
      Registry.evictRank (id, call) = rank := by
  rw [ranks, List.mem_insertionSort, List.mem_map]
  constructor
  · rintro ⟨⟨id, call⟩, member, shown⟩
    obtain ⟨tracked, unpinned⟩ := (mem_evictable reg id call).mp member
    exact ⟨id, call, tracked, unpinned, shown⟩
  · rintro ⟨id, call, tracked, unpinned, shown⟩
    exact ⟨(id, call), (mem_evictable reg id call).mpr ⟨tracked, unpinned⟩, shown⟩

theorem ranks_sorted (reg : Registry) :
    (ranks reg).Pairwise fun a b => Registry.rankLe a b = true :=
  List.pairwise_insertionSort _ _

theorem ranks_length (reg : Registry) : (ranks reg).length = (evictable reg).length := by
  rw [ranks, List.length_insertionSort, List.length_map]

/-- A rank names its call once. -/
theorem ranks_nodup (reg : Registry) : ((ranks reg).map fun rank => rank.2.2).Nodup := by
  have sorted := (List.perm_insertionSort (fun a b => Registry.rankLe a b = true)
    ((evictable reg).map Registry.evictRank)).map fun rank => rank.2.2
  have names : ((evictable reg).map Registry.evictRank).map (fun rank => rank.2.2) =
      (evictable reg).map Prod.fst := by
    rw [List.map_map]
    rfl
  rw [names] at sorted
  refine sorted.nodup_iff.mpr ?_
  have listed : ((evictable reg).map Prod.fst).Sublist (reg.calls.toList.map Prod.fst) :=
    List.Sublist.map _ List.filter_sublist
  exact (FiniteMap.nodup_toList_keys reg.calls).sublist listed

/-- An unpinned call is evicted when its rank is among the first. -/
theorem mem_excessCalls {reg : Registry} {id : String} {call : Call}
    (tracked : reg.calls.lookup id = some call) (unpinned : reg.pinned id = false) :
    id ∈ reg.excessCalls ↔ Registry.evictRank (id, call) ∈ (ranks reg).take (excess reg) := by
  rw [excessCalls_eq, List.mem_map]
  constructor
  · rintro ⟨rank, chosen, rfl⟩
    obtain ⟨other, call', tracked', _, rfl⟩ := (mem_ranks reg rank).mp (List.mem_of_mem_take chosen)
    obtain rfl : call' = call := Option.some.inj (tracked'.symm.trans tracked)
    exact chosen
  · exact fun chosen => ⟨_, chosen, rfl⟩

theorem excessCalls_tracked {reg : Registry} {id : String} (gone : id ∈ reg.excessCalls) :
    ∃ call, reg.calls.lookup id = some call ∧ reg.pinned id = false := by
  rw [excessCalls_eq, List.mem_map] at gone
  obtain ⟨rank, chosen, rfl⟩ := gone
  obtain ⟨id, call, tracked, unpinned, rfl⟩ := (mem_ranks reg rank).mp (List.mem_of_mem_take chosen)
  exact ⟨call, tracked, unpinned⟩

theorem calls_dropStreams (keys : List StreamKey) (reg : Registry) :
    (keys.foldl Registry.dropStream reg).calls = reg.calls := by
  induction keys generalizing reg with
  | nil => rfl
  | cons key rest ih =>
    have flushed : (reg.flushStreamIpattr key).calls = reg.calls := by
      unfold Registry.flushStreamIpattr
      split <;> rfl
    exact (ih (reg.dropStream key)).trans flushed

theorem calls_removeCalls (reg : Registry) (ids : List String) :
    (reg.removeCalls ids).calls = FiniteMap.eraseAll ids reg.calls := by
  change (ids.foldl Registry.dropCall reg).calls = _
  induction ids generalizing reg with
  | nil => rfl
  | cons id rest ih =>
    rw [List.foldl_cons, ih]
    exact congrArg (FiniteMap.eraseAll rest) (calls_dropStreams _ _)

theorem calls_evictStreams (keys : List StreamKey) (reg : Registry) :
    (keys.foldl Registry.evictStream reg).calls = reg.calls := by
  induction keys generalizing reg with
  | nil => rfl
  | cons key rest ih => exact ih (reg.evictStream key)

/-- What the cap leaves of the calls. -/
theorem calls_evictIfNeeded (iter : Iteration) (reg : Registry) :
    (reg.evictIfNeeded iter).calls = FiniteMap.eraseAll reg.excessCalls reg.calls := by
  have below : ¬ reg.maxCalls < reg.calls.size → reg.excessCalls = [] := by
    intro below
    have none : excess reg = 0 := by
      unfold excess
      omega
    rw [excessCalls_eq, none]
    rfl
  unfold Registry.evictIfNeeded
  dsimp only
  split
  · split
    · rw [calls_evictStreams, calls_removeCalls]
    · exact calls_removeCalls reg _
  · next under =>
    rw [below under]
    split
    · exact calls_evictStreams _ reg
    · rfl

/-! ## Who goes and who stays -/

/-- The unpinned calls that go before this one. -/
def earlier (reg : Registry) (call : String × Call) : List (String × Call) :=
  (evictable reg).filter fun e =>
    Registry.rankLe (Registry.evictRank e) (Registry.evictRank call) && decide (e.1 ≠ call.1)

theorem ranks_distinct (reg : Registry) : (ranks reg).Nodup := List.Nodup.of_map _ (ranks_nodup reg)

theorem length_earlier (reg : Registry) (call : String × Call) (tracked : call ∈ evictable reg) :
    (Ranking.earlier Registry.rankLe (ranks reg) (Registry.evictRank call)).length =
      (earlier reg call).length := by
  have sorted := List.perm_insertionSort (fun a b => Registry.rankLe a b = true)
    ((evictable reg).map Registry.evictRank)
  rw [ranks, Ranking.length_earlier_perm _ sorted, Ranking.earlier, List.filter_map, List.length_map, earlier]
  congr 1
  refine List.filter_congr fun e listed => ?_
  have own : Registry.evictRank e = Registry.evictRank call ↔ e.1 = call.1 := by
    constructor
    · exact fun same => congrArg (fun rank => rank.2.2) same
    · intro same
      have here := ((mem_evictable reg e.1 e.2).mp listed).1
      have there := ((mem_evictable reg call.1 call.2).mp tracked).1
      rw [same, there] at here
      exact congrArg Registry.evictRank (Prod.ext same (Option.some.inj here).symm)
  simp [own]

/-- An unpinned call goes when fewer unpinned calls than the excess go before it. -/
theorem mem_excessCalls_iff_earlier {reg : Registry} {id : String} {call : Call}
    (tracked : reg.calls.lookup id = some call) (unpinned : reg.pinned id = false) :
    id ∈ reg.excessCalls ↔ (earlier reg (id, call)).length < excess reg := by
  rw [mem_excessCalls tracked unpinned, Ranking.mem_take_iff rankLe_antisymm (ranks_sorted reg)
    (ranks_distinct reg) ((mem_ranks reg _).mpr ⟨id, call, tracked, unpinned, rfl⟩),
    length_earlier reg (id, call) ((mem_evictable reg id call).mpr ⟨tracked, unpinned⟩)]

/-- An unpinned call stays when its rank is not among the first. -/
theorem stays_iff {reg : Registry} {id : String} {call : Call}
    (tracked : reg.calls.lookup id = some call) (unpinned : reg.pinned id = false) :
    id ∉ reg.excessCalls ↔ Registry.evictRank (id, call) ∈ (ranks reg).drop (excess reg) := by
  rw [mem_excessCalls tracked unpinned]
  have listed : Registry.evictRank (id, call) ∈ ranks reg :=
    (mem_ranks reg _).mpr ⟨id, call, tracked, unpinned, rfl⟩
  have distinct := ranks_distinct reg
  rw [← List.take_append_drop (excess reg) (ranks reg)] at listed distinct
  constructor
  · exact fun missing => (List.mem_append.mp listed).resolve_left missing
  · exact fun behind front => (List.nodup_append.mp distinct).2.2 _ front _ behind rfl

/-- Whoever goes ranks before whoever stays. -/
theorem rankLe_of_chosen {reg : Registry} {gone kept : Nat × Nat × String}
    (front : gone ∈ (ranks reg).take (excess reg)) (behind : kept ∈ (ranks reg).drop (excess reg)) :
    Registry.rankLe gone kept = true := by
  have sorted := ranks_sorted reg
  rw [← List.take_append_drop (excess reg) (ranks reg)] at sorted
  exact (List.pairwise_append.mp sorted).2.2 gone front kept behind

/-- A call in progress never ranks behind a terminated one. -/
theorem terminal_le_of_rankLe {a b : String × Call}
    (le : Registry.rankLe (Registry.evictRank a) (Registry.evictRank b) = true) :
    a.2.state.terminal.toNat ≤ b.2.state.terminal.toNat := fst_le_of_rankLe le

/-- Within a class the earlier call ranks first; a call without a time is the latest. -/
theorem inviteTime_le_of_rankLe {a b : String × Call}
    (le : Registry.rankLe (Registry.evictRank a) (Registry.evictRank b) = true)
    (same : a.2.state.terminal = b.2.state.terminal) :
    (Registry.evictRank a).2.1 ≤ (Registry.evictRank b).2.1 :=
  snd_le_of_rankLe le (congrArg Bool.toNat same)

theorem excessCalls_nodup (reg : Registry) : reg.excessCalls.Nodup := by
  rw [excessCalls_eq, List.map_take]
  exact (ranks_nodup reg).sublist (List.take_sublist _ _)

theorem excessCalls_length (reg : Registry) :
    reg.excessCalls.length = min (excess reg) (evictable reg).length := by
  rw [excessCalls_eq, List.length_map, List.length_take, ranks_length]

/-! ## The eviction the cap asks for -/

/-- The excess leaves as far as it is unpinned, terminated calls before calls in
progress, and within a class the oldest first. -/
structure OrderlyEviction (reg after : Registry) : Prop where
  count : after.calls.size + min (excess reg) (evictable reg).length = reg.calls.size
  unchanged : ∀ id call, after.calls.lookup id = some call → reg.calls.lookup id = some call
  pinnedStay : ∀ id, reg.pinned id = true → after.calls.lookup id = reg.calls.lookup id
  liveStay : ∀ live call dead call', reg.calls.lookup live = some call → after.calls.lookup live = none →
    call.state.terminal = false → reg.pinned dead = false → after.calls.lookup dead = some call' →
    call'.state.terminal = false
  oldestFirst : ∀ gone call kept call', reg.calls.lookup gone = some call → after.calls.lookup gone = none →
    reg.pinned kept = false → after.calls.lookup kept = some call' →
    call.state.terminal = call'.state.terminal →
    (Registry.evictRank (gone, call)).2.1 ≤ (Registry.evictRank (kept, call')).2.1

/-- Terminated calls and calls in progress do not compete for the places under the
cap: nobody goes, all unpinned calls go, or the unpinned calls are of one class. -/
def Uncontested (reg : Registry) : Prop :=
  reg.calls.size ≤ reg.maxCalls ∨ (evictable reg).length ≤ reg.calls.size - reg.maxCalls ∨
    (∀ e ∈ evictable reg, e.2.state.terminal = true) ∨ ∀ e ∈ evictable reg, e.2.state.terminal = false

section After

variable (iter : Iteration) (reg : Registry)

theorem evicted_iff {id : String} {call : Call} (tracked : reg.calls.lookup id = some call) :
    (reg.evictIfNeeded iter).calls.lookup id = none ↔ id ∈ reg.excessCalls := by
  rw [calls_evictIfNeeded, FiniteMap.lookup_eraseAll]
  split
  · next gone => exact iff_of_true rfl gone
  · next stays => exact iff_of_false (by rw [tracked]; nofun) stays

theorem kept_iff {id : String} {call : Call} :
    (reg.evictIfNeeded iter).calls.lookup id = some call ↔
      reg.calls.lookup id = some call ∧ id ∉ reg.excessCalls := by
  rw [calls_evictIfNeeded, FiniteMap.lookup_eraseAll]
  split
  · next gone => exact ⟨nofun, fun kept => absurd gone kept.2⟩
  · next stays => exact ⟨fun kept => ⟨kept, stays⟩, And.left⟩

theorem count_evictIfNeeded : (reg.evictIfNeeded iter).calls.size +
    min (excess reg) (evictable reg).length = reg.calls.size := by
  rw [calls_evictIfNeeded, ← excessCalls_length]
  refine FiniteMap.size_eraseAll (excessCalls_nodup reg) fun id gone => ?_
  obtain ⟨call, tracked, _⟩ := excessCalls_tracked gone
  exact AList.lookup_isSome.mp (Option.isSome_of_eq_some tracked)

theorem pinned_evictIfNeeded {id : String} (pin : reg.pinned id = true) :
    (reg.evictIfNeeded iter).calls.lookup id = reg.calls.lookup id := by
  rw [calls_evictIfNeeded, FiniteMap.lookup_eraseAll, if_neg]
  intro gone
  obtain ⟨_, _, unpinned⟩ := excessCalls_tracked gone
  exact Bool.noConfusion (pin.symm.trans unpinned)

/-- A removed call and a kept unpinned one stand in rank order. -/
theorem rankLe_evictIfNeeded {gone kept : String} {call call' : Call}
    (tracked : reg.calls.lookup gone = some call)
    (removed : (reg.evictIfNeeded iter).calls.lookup gone = none) (unpinned : reg.pinned kept = false)
    (stays : (reg.evictIfNeeded iter).calls.lookup kept = some call') :
    Registry.evictRank (gone, call) ∈ (ranks reg).take (excess reg) ∧
      Registry.evictRank (kept, call') ∈ (ranks reg).drop (excess reg) := by
  have chosen := (evicted_iff iter reg tracked).mp removed
  obtain ⟨_, _, free⟩ := excessCalls_tracked chosen
  obtain ⟨tracked', spared⟩ := (kept_iff iter reg).mp stays
  exact ⟨(mem_excessCalls tracked free).mp chosen, (stays_iff tracked' unpinned).mp spared⟩

/-- Where the classes compete, a call in progress goes. -/
theorem live_evicted {live : String} {call : Call} (crowded : 0 < excess reg)
    (tracked : (live, call) ∈ evictable reg) (running : call.state.terminal = false) :
    ∃ id call', reg.calls.lookup id = some call' ∧ id ∈ reg.excessCalls ∧
      call'.state.terminal = false := by
  obtain ⟨present, unpinned⟩ := (mem_evictable reg live call).mp tracked
  by_cases gone : live ∈ reg.excessCalls
  · exact ⟨live, call, present, gone, running⟩
  · have behind := (stays_iff present unpinned).mp gone
    have room : 0 < (ranks reg).length := by
      rw [ranks_length]
      exact List.length_pos_of_mem tracked
    have front : (ranks reg)[0] ∈ (ranks reg).take (excess reg) :=
      List.mem_take_iff_getElem.mpr ⟨0, by omega, rfl⟩
    obtain ⟨id, call', present', free, shown⟩ := (mem_ranks reg _).mp (List.mem_of_mem_take front)
    have chosen := front
    rw [← shown] at chosen
    have le := terminal_le_of_rankLe (rankLe_of_chosen chosen behind)
    refine ⟨id, call', present', (mem_excessCalls present' free).mpr chosen, ?_⟩
    cases ended : call'.state.terminal with
    | false => rfl
    | true =>
      rw [ended, running] at le
      exact absurd le (by decide)

/-- Where the classes compete, a terminated call stays. -/
theorem terminal_kept {dead : String} {call : Call} (spare : excess reg < (evictable reg).length)
    (tracked : (dead, call) ∈ evictable reg) (ended : call.state.terminal = true) :
    ∃ id call', reg.calls.lookup id = some call' ∧ reg.pinned id = false ∧ id ∉ reg.excessCalls ∧
      call'.state.terminal = true := by
  obtain ⟨present, unpinned⟩ := (mem_evictable reg dead call).mp tracked
  by_cases gone : dead ∈ reg.excessCalls
  · have front := (mem_excessCalls present unpinned).mp gone
    have room : excess reg < (ranks reg).length := by
      rw [ranks_length]
      exact spare
    have behind : (ranks reg)[excess reg] ∈ (ranks reg).drop (excess reg) :=
      List.mem_drop_iff_getElem.mpr ⟨0, by omega, rfl⟩
    obtain ⟨id, call', present', free, shown⟩ := (mem_ranks reg _).mp (List.mem_of_mem_drop behind)
    rw [← shown] at behind
    have le := terminal_le_of_rankLe (rankLe_of_chosen front behind)
    refine ⟨id, call', present', free, (stays_iff present' free).mpr behind, ?_⟩
    cases running : call'.state.terminal with
    | true => rfl
    | false =>
      rw [running, ended] at le
      exact absurd le (by decide)
  · exact ⟨dead, call, present, unpinned, gone, ended⟩

/-- The eviction at the cap is orderly exactly where terminated calls and calls in
progress do not compete: otherwise the calls in progress go first. -/
theorem orderly_iff_uncontested : OrderlyEviction reg (reg.evictIfNeeded iter) ↔ Uncontested reg := by
  constructor
  · intro orderly
    by_contra contested
    simp only [Uncontested, not_or, not_le, not_forall] at contested
    obtain ⟨above, spare, ⟨⟨live, call⟩, free, running⟩, ⟨dead, call'⟩, free', ended⟩ := contested
    obtain ⟨gone, c, tracked, chosen, inProgress⟩ := live_evicted reg (by unfold excess; omega) free
      (Bool.not_eq_true _ ▸ running)
    obtain ⟨kept, c', tracked', unpinned, spared, over'⟩ := terminal_kept reg spare free'
      (Bool.not_eq_false _ ▸ ended)
    have alive := orderly.liveStay gone c kept c' tracked ((evicted_iff iter reg tracked).mpr chosen)
      inProgress unpinned ((kept_iff iter reg).mpr ⟨tracked', spared⟩)
    exact Bool.noConfusion (over'.symm.trans alive)
  · intro uncontested
    refine ⟨count_evictIfNeeded iter reg, fun id call kept => ((kept_iff iter reg).mp kept).1,
      fun id pin => pinned_evictIfNeeded iter reg pin, ?_, ?_⟩
    · intro live call dead call' tracked removed running unpinned stays
      obtain ⟨front, behind⟩ := rankLe_evictIfNeeded iter reg tracked removed unpinned stays
      have chosen := (evicted_iff iter reg tracked).mp removed
      obtain ⟨_, _, free⟩ := excessCalls_tracked chosen
      obtain below | all | ended | alive := uncontested
      · have none : excess reg = 0 := Nat.sub_eq_zero_of_le below
        rw [none] at front
        exact absurd front List.not_mem_nil
      · rw [List.drop_eq_nil_of_le (by rw [ranks_length]; exact all)] at behind
        exact absurd behind List.not_mem_nil
      · have over' := ended (live, call) ((mem_evictable reg live call).mpr ⟨tracked, free⟩)
        exact Bool.noConfusion (over'.symm.trans running)
      · exact alive (dead, call')
          ((mem_evictable reg dead call').mpr ⟨((kept_iff iter reg).mp stays).1, unpinned⟩)
    · intro gone call kept call' tracked removed unpinned stays same
      obtain ⟨front, behind⟩ := rankLe_evictIfNeeded iter reg tracked removed unpinned stays
      exact inviteTime_le_of_rankLe (rankLe_of_chosen front behind) same

end After

/-- One call over the cap: an ended call, and a later one that is talking. -/
def crowded : Registry :=
  { Registry.withSource "eth0" with
    calls := (FiniteMap.empty.insert "ended"
      { Call.new "ended" with state := .completed, inviteTs := some 1 }).insert "talking"
      { Call.new "talking" with state := .active, inviteTs := some 2 }
    order := ["ended", "talking"]
    maxCalls := 1 }

/-- The call that is talking goes and the ended one stays. -/
theorem crowded_not_orderly : ¬ ∀ (iter : Iteration) (reg : Registry),
    OrderlyEviction reg (reg.evictIfNeeded iter) := by
  intro orderly
  have gone : (crowded.evictIfNeeded .stored).calls.lookup "talking" = none := by decide +kernel
  have talking : ∃ call, crowded.calls.lookup "talking" = some call ∧ call.state.terminal = false :=
    ⟨_, rfl, rfl⟩
  have ended : ∃ call, (crowded.evictIfNeeded .stored).calls.lookup "ended" = some call ∧
      call.state.terminal = true := ⟨_, rfl, rfl⟩
  obtain ⟨call, tracked, running⟩ := talking
  obtain ⟨call', stays, terminal⟩ := ended
  have alive := (orderly .stored crowded).liveStay "talking" call "ended" call' tracked gone running rfl stays
  exact Bool.noConfusion (terminal.symm.trans alive)

end Sipmon.Guarantees.CapEviction
