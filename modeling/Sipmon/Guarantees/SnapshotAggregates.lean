import Sipmon.Guarantees.SnapshotWindow

/-!
# The aggregates of a snapshot

The averages are taken over all calls and streams; the state counts, and with
them the call total and the ASR, over the calls the snapshot shows.
-/
namespace Sipmon.Guarantees.SnapshotAggregates
open Source Lib Correlator SnapshotWindow Stages
open LogVersions (pins hinted memo)
open SearchPins (Named)

/-- A registry between two steps: its calls enumerated, its search matches distinct and few. -/
structure Listed (reg : Registry) : Prop extends Enumerated reg where
  distinct : reg.searchMatches.Nodup
  few : reg.searchMatches.length ≤ Registry.searchPinMax

/-! ## Reachable registries -/

/-- The search matches are distinct and few. -/
def Pinned (reg : Registry) : Prop :=
  reg.searchMatches.Nodup ∧ reg.searchMatches.length ≤ Registry.searchPinMax

theorem pinned_of_pins {a b : Registry} (same : pins b = pins a) (holds : Pinned a) : Pinned b := by
  have listed : b.searchMatches = a.searchMatches := congrArg (fun p => p.2.1) same
  unfold Pinned
  rw [listed]
  exact holds

theorem pinned_refresh (iter : Iteration) {reg : Registry} (named : Named reg) :
    Pinned (reg.refreshSearchMatches iter) :=
  ⟨SearchPins.nodup_searchMatches iter named, SearchPins.length_searchMatches iter reg⟩

theorem pinned_flush (iter : Iteration) (c : Correlator) (ts : UInt64)
    (named : Named (snapped iter c ts).reg) (holds : Pinned c.reg) :
    Pinned (c.maybePeriodicFlush iter ts).reg := by
  have left := LogVersions.memo_maybePeriodicFlush iter c ts
  have snap := LogVersions.memo_snapped iter c ts
  have start := LogVersions.memo_flushed iter c ts
  have aged : ∀ reg : Registry, pins reg.pruneHeatmap = pins reg := by
    intro reg
    unfold Registry.pruneHeatmap
    split <;> rfl
  split at left
  · refine pinned_of_pins (congrArg Prod.fst left) ?_
    unfold hinted
    split
    · exact pinned_refresh iter named
    · refine pinned_of_pins ((congrArg Prod.fst snap).trans ((aged _).trans (congrArg Prod.fst start))) holds
  · exact pinned_of_pins (congrArg Prod.fst left) holds

theorem pinned_step (c : Correlator) (input : Iteration × Op) (named : Named c.reg)
    (holds : Pinned c.reg) : Pinned (c.step input).reg := by
  obtain ⟨iter, op⟩ := input
  cases op with
  | sip msg => exact pinned_of_pins (LogVersions.onward_ingestSip iter c msg).pins holds
  | rtp ts flow header len encap =>
    exact pinned_of_pins (LogVersions.onward_ingestRtp c ts flow header len encap).pins holds
  | rtcp ts flow msg => exact pinned_of_pins (LogVersions.onward_ingestRtcp c ts flow msg).pins holds
  | terminal id => exact pinned_of_pins (LogVersions.onward_onCallTerminal iter c id).pins holds
  | flush ts =>
    refine pinned_flush iter c ts ?_ holds
    rw [SearchPins.named_iff, CallTable.table_snapped, ← SearchPins.named_iff]
    exact named
  | clear => exact ⟨List.nodup_nil, Nat.zero_le _⟩
  | search q =>
    change Pinned (c.reg.setSearchHint iter q)
    unfold Registry.setSearchHint
    dsimp only
    split
    · exact holds
    · generalize Option.filter _ _ = hint
      have renamed : Named { c.reg with searchHint := hint } := named
      exact pinned_refresh iter renamed
  | _ => exact holds

theorem reachable_pinned (iter : Iteration) (config : Config) (source : String)
    (inputs : List (Iteration × Op)) : Pinned ((Correlator.new iter config source).run inputs).reg := by
  refine (Run.invariant (P := fun c => (RegistryIndex.Settled c ∧ Named c.reg) ∧ Pinned c.reg) ?_ inputs ?_).2
  · exact fun c input holds =>
      ⟨SearchPins.named_step c input holds.1, pinned_step c input holds.1.2 holds.2⟩
  · exact ⟨⟨RegistryIndex.settled_new iter config source, fun _ _ present => nomatch present⟩,
      List.nodup_nil, Nat.zero_le _⟩

/-- Every reachable registry is listed. -/
theorem reachable_listed (iter : Iteration) (config : Config) (source : String)
    (inputs : List (Iteration × Op))
    (fits : ((Correlator.new iter config source).run inputs).reg.order.length ≤ usizeMax) :
    Listed ((Correlator.new iter config source).run inputs).reg where
  toEnumerated := reachable_enumerated iter config source inputs fits
  distinct := (reachable_pinned iter config source inputs).1
  few := (reachable_pinned iter config source inputs).2

/-! ## Counts and averages -/

/-- The numbers of a snapshot. -/
structure SameAggregates (a b : Snapshot) : Prop where
  active : a.active = b.active
  completed : a.completed = b.completed
  failed : a.failed = b.failed
  callsTotal : a.callsTotal = b.callsTotal
  asr : a.asr = b.asr
  avgPddMs : a.avgPddMs = b.avgPddMs
  avgSetupMs : a.avgSetupMs = b.avgSetupMs
  avgJitterMs : a.avgJitterMs = b.avgJitterMs
  avgLossPct : a.avgLossPct = b.avgLossPct
  avgRttMs : a.avgRttMs = b.avgRttMs
  avgMos : a.avgMos = b.avgMos

/-- Every call is in exactly one of the three counts. -/
theorem counts_length (l : List CallSummary) :
    (l.countP fun s => !s.state.terminal) + (l.countP fun s => s.state == .completed) +
      (l.countP fun s => s.state == .failed || s.state == .canceled) = l.length := by
  induction l with
  | nil => rfl
  | cons s rest ih =>
    have one : (if (!s.state.terminal) = true then 1 else 0) +
        (if (s.state == CallState.completed) = true then 1 else 0) +
        (if (s.state == CallState.failed || s.state == CallState.canceled) = true then 1 else 0) = 1 := by
      cases s.state <;> rfl
    simp only [List.countP_cons, List.length_cons]
    omega

/-- The active calls that a snapshot counts. -/
def activeShown (iter : Iteration) (reg : Registry) (limit : Nat) : Nat :=
  (reg.displayed iter limit).countP fun s => !s.state.terminal

theorem callsTotal_eq (iter : Iteration) (reg : Registry) (limit streamLimit : Nat) :
    (reg.snapshotWith iter limit streamLimit).1.callsTotal =
      max (reg.countedCalls (activeShown iter reg limit)) reg.calls.size := rfl

theorem asr_eq (iter : Iteration) (reg : Registry) (limit streamLimit : Nat) :
    (reg.snapshotWith iter limit streamLimit).1.asr =
      if reg.countedCalls (activeShown iter reg limit) = 0 then 0
      else .ofNat reg.completed / .ofNat (reg.countedCalls (activeShown iter reg limit)) * 100 := rfl

section Counts

variable {reg : Registry} (listed : Listed reg) (iter : Iteration) (limit : Nat)
include listed

/-- Every call is shown where the window or the search matches have it. -/
theorem shown_perm (all : ∀ id ∈ reg.order, id ∈ window reg limit ∨ id ∈ reg.searchMatches) :
    (window reg limit ++ outside reg limit).Perm reg.order := by
  refine (List.perm_ext_iff_of_nodup (shown_nodup listed.toEnumerated limit listed.distinct)
    listed.once).mpr fun id => ⟨shown_known listed.toEnumerated limit id, fun ordered => ?_⟩
  refine List.mem_append.mpr ?_
  by_cases inside : id ∈ window reg limit
  · exact .inl inside
  · have matched := (all id ordered).resolve_left inside
    exact .inr (List.mem_filter.mpr ⟨matched, decide_eq_true ⟨inside, (listed.known id).mp ordered⟩⟩)

theorem displayed_listed : reg.displayed iter limit =
    summaries iter reg (window reg limit ++ outside reg limit) :=
  displayed_eq listed.toEnumerated limit iter listed.distinct listed.few

theorem displayed_length : (reg.displayed iter limit).length =
    (window reg limit ++ outside reg limit).length := by
  have ids := callIds_summaries iter listed.named fun id member =>
    (listed.known id).mp (shown_known listed.toEnumerated limit id member)
  rw [displayed_listed listed, ← congrArg List.length ids, List.length_map]

theorem displayed_full : (reg.displayed iter usizeMax).Perm (summaries iter reg reg.order) := by
  rw [displayed_listed listed]
  refine ((shown_perm listed usizeMax fun id ordered => ?_).filterMap _).map _
  rw [window_all listed.toEnumerated]
  exact .inl (List.mem_reverse.mpr ordered)

/-- The aggregates do not depend on the display window exactly where every call is
shown: the window and the search matches have them all. -/
theorem sameAggregates_iff (streamLimit : Nat) :
    SameAggregates (reg.snapshotWith iter limit streamLimit).1 (reg.snapshotFull iter).1 ↔
      ∀ id ∈ reg.order, id ∈ window reg limit ∨ id ∈ reg.searchMatches := by
  constructor
  · intro same id ordered
    have active : (reg.displayed iter limit).countP (fun s => !s.state.terminal) =
        (reg.displayed iter usizeMax).countP fun s => !s.state.terminal := same.active
    have completed : (reg.displayed iter limit).countP (fun s => s.state == .completed) =
        (reg.displayed iter usizeMax).countP fun s => s.state == .completed := same.completed
    have failed : (reg.displayed iter limit).countP (fun s => s.state == .failed || s.state == .canceled) =
        (reg.displayed iter usizeMax).countP fun s => s.state == .failed || s.state == .canceled := same.failed
    have part := counts_length (reg.displayed iter limit)
    have full := counts_length (reg.displayed iter usizeMax)
    have shown := displayed_length listed iter limit
    have everyone := (displayed_full listed iter).length_eq
    have ids := congrArg List.length (callIds_summaries iter listed.named fun id member =>
      (listed.known id).mp member)
    rw [List.length_map] at ids
    -- as many calls are shown as there are, and none twice, so every call is shown
    have perm := (List.subperm_of_subset (shown_nodup listed.toEnumerated limit listed.distinct)
      (shown_known listed.toEnumerated limit)).perm_of_length_le (by omega)
    obtain inside | out := List.mem_append.mp (perm.mem_iff.mpr ordered)
    · exact .inl inside
    · exact .inr (List.mem_filter.mp out).1
  · intro all
    have perm : (reg.displayed iter limit).Perm (reg.displayed iter usizeMax) := by
      refine List.Perm.trans ?_ (displayed_full listed iter).symm
      rw [displayed_listed listed]
      exact ((shown_perm listed limit all).filterMap _).map _
    have active : activeShown iter reg limit = activeShown iter reg usizeMax := perm.countP_eq _
    unfold Registry.snapshotFull
    constructor
    case active => exact active
    case completed => exact perm.countP_eq _
    case failed => exact perm.countP_eq _
    case callsTotal => rw [callsTotal_eq, callsTotal_eq, active]
    case asr => rw [asr_eq, asr_eq, active]
    all_goals rfl

end Counts

theorem listed_twoCalls : Listed twoCalls := reachable_listed .stored {} "eth0" _ (by decide +kernel)

theorem sameAggregates_twoCalls :
    SameAggregates (twoCalls.snapshotWith .stored 2 1000).1 (twoCalls.snapshotFull .stored).1 ↔
      ∀ id ∈ twoCalls.order, id ∈ window twoCalls 2 ∨ id ∈ twoCalls.searchMatches :=
  sameAggregates_iff listed_twoCalls .stored 2 1000

/-- A window of one call counts one of the two calls in progress. -/
theorem window_hides_call : ¬ ∀ (iter : Iteration) (reg : Registry) (limit streamLimit : Nat), Listed reg →
    SameAggregates (reg.snapshotWith iter limit streamLimit).1 (reg.snapshotFull iter).1 := by
  intro holds
  have active : activeShown .stored twoCalls 1 = activeShown .stored twoCalls usizeMax :=
    (holds .stored twoCalls 1 1000 listed_twoCalls).active
  exact absurd active (by decide +kernel)

end Sipmon.Guarantees.SnapshotAggregates
