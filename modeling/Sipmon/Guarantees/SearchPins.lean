import Sipmon.Guarantees.CallTable
import Sipmon.Guarantees.CapEviction
import Sipmon.Guarantees.LogVersions
import Sipmon.Guarantees.RegistryIndex
import Sipmon.Lib.Ranking

/-!
# Search pins over a run

The calls that match the search hint are pinned through a cached list. The
periodic pass refreshes the list before it evicts; a teardown at the cap relies
on the list as it is.
-/
namespace Sipmon.Guarantees.SearchPins
open Source Lib Correlator Stages CapEviction Views RegistryIndex
open CallSignals (sampleMsg Roster roster_applySip)
open LogVersions (pins hinted)
open CallTable (table Table gone table_step table_snapped signaling)

/-! ## The cached list -/

/-- Whether a call matches the hint now. -/
def matchesHint (reg : Registry) (call : Call) : Bool :=
  reg.searchHint.any fun q => Filter.matchesAll call.like (Filter.parse q.toList)

def matchingCalls (reg : Registry) : List Call := reg.calls.values.filter (matchesHint reg)

/-- Every call is stored under its own Call-ID. -/
def Named (reg : Registry) : Prop := ∀ id call, reg.calls.lookup id = some call → call.callId = id

/-- A refresh lists exactly the matching calls, when they are few enough. -/
theorem mem_searchMatches (iter : Iteration) {reg : Registry} (named : Named reg)
    (few : (matchingCalls reg).length ≤ Registry.searchPinMax) (id : String) :
    id ∈ (reg.refreshSearchMatches iter).searchMatches ↔
      ∃ call, reg.calls.lookup id = some call ∧ matchesHint reg call = true := by
  unfold Registry.refreshSearchMatches
  cases hint : reg.searchHint with
  | none => simp [matchesHint, hint]
  | some q =>
    have rule : matchesHint reg = fun call => Filter.matchesAll call.like (Filter.parse q.toList) := by
      funext call
      rw [matchesHint, hint, Option.any_some]
    have length := ((iter.perm reg.calls.values).filter (matchesHint reg)).length_eq
    rw [matchingCalls, ← length] at few
    dsimp only
    rw [← rule, List.take_of_length_le (by rwa [List.length_insertionSort]), List.mem_map]
    constructor
    · rintro ⟨call, listed, rfl⟩
      obtain ⟨stored, hit⟩ := List.mem_filter.mp ((List.mem_insertionSort _).mp listed)
      obtain ⟨k, present⟩ := (FiniteMap.mem_values _ _).mp ((iter.mem_order _ _).mp stored)
      rw [named k call present]
      exact ⟨call, present, hit⟩
    · rintro ⟨call, present, hit⟩
      have stored := (iter.mem_order _ _).mpr ((FiniteMap.mem_values _ _).mpr ⟨id, present⟩)
      exact ⟨call, (List.mem_insertionSort _).mpr (List.mem_filter.mpr ⟨stored, hit⟩), named id call present⟩

theorem nodup_searchMatches (iter : Iteration) {reg : Registry} (named : Named reg) :
    (reg.refreshSearchMatches iter).searchMatches.Nodup := by
  have ids : (reg.calls.values.map Call.callId).Nodup := by
    have keys : reg.calls.values.map Call.callId = reg.calls.toList.map Prod.fst := by
      rw [FiniteMap.values, FiniteMap.toList, List.map_map, List.map_map]
      refine List.map_congr_left fun e listed => ?_
      exact named e.1 e.2 (AList.mem_lookup_iff.mpr listed)
    rw [keys]
    exact FiniteMap.nodup_toList_keys reg.calls
  unfold Registry.refreshSearchMatches
  split
  · exact List.nodup_nil
  · dsimp only
    have ordered := ((iter.perm reg.calls.values).map Call.callId).nodup_iff.mpr ids
    rw [List.map_take]
    refine List.Nodup.sublist (List.take_sublist _ _) ?_
    refine ((List.perm_insertionSort _ _).map Call.callId).nodup_iff.mpr ?_
    exact ordered.sublist (List.filter_sublist.map _)

theorem length_searchMatches (iter : Iteration) (reg : Registry) :
    (reg.refreshSearchMatches iter).searchMatches.length ≤ Registry.searchPinMax := by
  unfold Registry.refreshSearchMatches
  split
  · exact Nat.zero_le _
  · dsimp only
    rw [List.length_map, List.length_take]
    exact Nat.min_le_left _ _

theorem calls_refreshSearchMatches (iter : Iteration) (reg : Registry) :
    (reg.refreshSearchMatches iter).calls = reg.calls := by
  unfold Registry.refreshSearchMatches
  split <;> rfl

theorem order_refreshSearchMatches (iter : Iteration) (reg : Registry) :
    (reg.refreshSearchMatches iter).order = reg.order := by
  unfold Registry.refreshSearchMatches
  split <;> rfl

theorem searchHint_refreshSearchMatches (iter : Iteration) (reg : Registry) :
    (reg.refreshSearchMatches iter).searchHint = reg.searchHint := by
  unfold Registry.refreshSearchMatches
  split <;> next hint => exact hint.symm ▸ rfl

/-! ## Evictions -/

theorem staying_pins : Staying pins where
  tables _ _ _ _ _ _ _ _ _ _ _ _ := rfl

theorem pinned_congr {a b : Registry} (same : pins a = pins b) : a.pinned = b.pinned := by
  simp only [pins, Prod.mk.injEq] at same
  funext id
  unfold Registry.pinned
  rw [same.2.1, same.2.2]

theorem matchesHint_congr {a b : Registry} (same : pins a = pins b) : matchesHint a = matchesHint b := by
  have hint : a.searchHint = b.searchHint := congrArg Prod.fst same
  funext call
  rw [matchesHint, matchesHint, hint]

/-- The TTL takes no pinned call. -/
theorem pinned_evictStale (iter : Iteration) (reg : Registry) (ttlSecs nowUs : UInt64) {id : String}
    (pin : reg.pinned id = true) :
    (reg.evictStale iter ttlSecs nowUs).calls.lookup id = reg.calls.lookup id := by
  unfold Registry.evictStale
  split
  · rfl
  · dsimp only
    rw [calls_removeCalls, FiniteMap.lookup_eraseAll, if_neg]
    intro stale
    obtain ⟨⟨a, call⟩, listed, rfl⟩ := List.mem_map.mp stale
    have idle := (List.mem_filter.mp listed).2
    simp only [Registry.isStale, pin, Bool.not_true, Bool.false_and, Bool.false_eq_true] at idle

theorem lookup_evictStale (iter : Iteration) (reg : Registry) (ttlSecs nowUs : UInt64) {id : String}
    {call : Call} (kept : (reg.evictStale iter ttlSecs nowUs).calls.lookup id = some call) :
    reg.calls.lookup id = some call := by
  unfold Registry.evictStale at kept
  split at kept
  · exact kept
  · dsimp only at kept
    rw [calls_removeCalls, FiniteMap.lookup_eraseAll] at kept
    split at kept
    · cases kept
    · exact kept

/-- The TTL and cap evictions of a step: the registry before and after each. -/
def evictions (c : Correlator) (input : Iteration × Op) : List (Registry × Registry) :=
  match input.2 with
  | .flush ts =>
    if tickerDue (c.ipattrTick input.1 ts).lastFlushUs ts flushPeriodUs then
      let snap := snapped input.1 c ts
      [(hinted input.1 snap, unstale input.1 snap ts),
        (unstale input.1 snap ts, (unstale input.1 snap ts).evictIfNeeded input.1)]
    else []
  | _ => ((capPoint c input).map fun reg => (reg, reg.evictIfNeeded input.1)).toList

theorem getLast?_toList {α : Type*} (o : Option α) : o.toList.getLast? = o := by cases o <;> rfl

theorem calls_pruneRemovedBookkeeping (c : Correlator) :
    c.pruneRemovedBookkeeping.reg.calls = c.reg.calls := rfl

theorem calls_pruneIdleIps (c : Correlator) (ts : UInt64) : (c.pruneIdleIps ts).reg.calls = c.reg.calls := rfl

theorem calls_evictPass (iter : Iteration) (c : Correlator) (ts : UInt64) :
    (c.evictPass iter ts).reg.calls = ((unstale iter c ts).evictIfNeeded iter).calls := rfl

theorem calls_maybePeriodicFlush (iter : Iteration) {c : Correlator} {ts : UInt64}
    (due : tickerDue (c.ipattrTick iter ts).lastFlushUs ts flushPeriodUs = true) :
    (c.maybePeriodicFlush iter ts).reg.calls =
      ((unstale iter (snapped iter c ts) ts).evictIfNeeded iter).calls := by
  rw [maybePeriodicFlush_due iter due, calls_pruneIdleIps, calls_pruneRemovedBookkeeping, calls_evictPass]

/-- The last eviction of a step leaves the calls the step leaves. -/
def LeftByEvictions (c : Correlator) (input : Iteration × Op) : Prop :=
  ∀ e, (evictions c input).getLast? = some e → (c.step input).reg.calls = e.2.calls

theorem calls_of_evictions (c : Correlator) (input : Iteration × Op) : LeftByEvictions c input := by
  intro e last
  obtain ⟨iter, op⟩ := input
  unfold evictions at last
  cases op with
  | flush ts =>
    dsimp only at last
    split at last
    · next due =>
      rw [List.getLast?_cons_cons, List.getLast?_singleton] at last
      rw [← Option.some.inj last]
      exact calls_maybePeriodicFlush iter due
    · exact absurd last nofun
  | sip msg =>
    obtain ⟨reg, point, rfl⟩ := Option.map_eq_some_iff.mp ((getLast?_toList _).symm.trans last)
    exact view_ingestSip Registry.calls calls_pruneRemovedBookkeeping iter point
  | terminal id =>
    obtain ⟨reg, point, rfl⟩ := Option.map_eq_some_iff.mp ((getLast?_toList _).symm.trans last)
    have stepped : c.step (iter, .terminal id) = c.onCallTerminal iter id := rfl
    have point : terminalPoint c id = some reg := point
    rw [stepped, view_onCallTerminal Registry.calls calls_pruneRemovedBookkeeping iter point]
  | _ => exact absurd last nofun

/-- No eviction of the step removes a call that matches the hint. -/
def Spared (c : Correlator) (input : Iteration × Op) : Prop :=
  ∀ e ∈ evictions c input, ∀ id call, e.1.calls.lookup id = some call → matchesHint e.1 call = true →
    e.2.calls.lookup id = some call

/-- The matching calls fit on the cached list. -/
def FewMatches (c : Correlator) (input : Iteration × Op) : Prop :=
  ∀ e ∈ evictions c input, (matchingCalls e.1).length ≤ Registry.searchPinMax

/-- Where a teardown finds too many calls, each matching call is pinned already, or
enough unpinned calls go before it. -/
def Shielded (c : Correlator) (input : Iteration × Op) : Prop :=
  match input.2 with
  | .flush _ => True
  | _ => ∀ reg ∈ capPoint c input, ∀ id call, reg.calls.lookup id = some call →
      matchesHint reg call = true → reg.pinned id = true ∨ excess reg ≤ (earlier reg (id, call)).length

instance (c : Correlator) (input : Iteration × Op) : Decidable (FewMatches c input) :=
  inferInstanceAs (Decidable (∀ e ∈ evictions c input, (matchingCalls e.1).length ≤ Registry.searchPinMax))

/-! ## The two paths -/

/-- The periodic pass spares the matching calls: it has just listed them. -/
theorem spared_flush (iter : Iteration) (c : Correlator) (ts : UInt64)
    (named : Named (snapped iter c ts).reg) (few : FewMatches c (iter, .flush ts)) :
    Spared c (iter, .flush ts) := by
  intro e member
  have limit := few e member
  have fewHinted : tickerDue (c.ipattrTick iter ts).lastFlushUs ts flushPeriodUs = true →
      (matchingCalls (hinted iter (snapped iter c ts))).length ≤ Registry.searchPinMax := by
    intro due
    refine few (_, unstale iter (snapped iter c ts) ts) ?_
    simp only [evictions, due, if_true]
    exact List.mem_cons_self
  unfold evictions at member
  dsimp only at member
  split at member
  · next due =>
    generalize snap_eq : snapped iter c ts = snap at member named fewHinted
    have few := fewHinted due
    have same : pins (unstale iter snap ts) = pins (hinted iter snap) :=
      staying_pins.evictStale iter (hinted iter snap) snap.callTtlSecs ts
    -- a call that matches is on the list the pass has just refreshed
    have listed : ∀ id call, (hinted iter snap).calls.lookup id = some call →
        matchesHint (hinted iter snap) call = true → (hinted iter snap).pinned id = true := by
      intro id call present hit
      unfold hinted at present hit few ⊢
      split at hit
      · next hint =>
        rw [if_pos hint, calls_refreshSearchMatches] at present
        have still := searchHint_refreshSearchMatches iter snap.reg
        have rule : matchesHint (snap.reg.refreshSearchMatches iter) = matchesHint snap.reg := by
          funext call
          rw [matchesHint, matchesHint, still]
        have fewer : (matchingCalls snap.reg).length ≤ Registry.searchPinMax := by
          rw [if_pos hint, matchingCalls, rule, calls_refreshSearchMatches] at few
          exact few
        rw [rule] at hit
        have cached := (mem_searchMatches iter named fewer id).mpr ⟨call, present, hit⟩
        simp only [if_pos hint, Registry.pinned, Bool.or_eq_true, List.contains_iff_mem]
        exact .inl cached
      · next unhinted =>
        rw [Option.not_isSome_iff_eq_none] at unhinted
        simp [matchesHint, unhinted] at hit
    rcases List.mem_cons.mp member with rfl | last
    · intro id call present hit
      exact (pinned_evictStale iter _ _ _ (listed id call present hit)).trans present
    · obtain rfl := List.mem_singleton.mp last
      intro id call present hit
      have before := lookup_evictStale iter _ _ _ present
      rw [matchesHint_congr same] at hit
      have pin := listed id call before hit
      rw [← pinned_congr same] at pin
      exact (pinned_evictIfNeeded iter _ pin).trans present
  · cases member

/-- A teardown spares the matching calls exactly when they are shielded. -/
theorem spared_teardown {c : Correlator} {input : Iteration × Op}
    (other : ∀ ts, input.2 ≠ .flush ts) : Spared c input ↔ Shielded c input := by
  have point : evictions c input =
      ((capPoint c input).map fun reg => (reg, reg.evictIfNeeded input.1)).toList := by
    unfold evictions
    split
    · next ts flush => exact absurd flush (other ts)
    · rfl
  have shield : Shielded c input ↔ ∀ reg ∈ capPoint c input, ∀ id call, reg.calls.lookup id = some call →
      matchesHint reg call = true → reg.pinned id = true ∨ excess reg ≤ (earlier reg (id, call)).length := by
    unfold Shielded
    split
    · next ts flush => exact absurd flush (other ts)
    · rfl
  have one : ∀ (reg : Registry) id call, reg.calls.lookup id = some call →
      ((reg.evictIfNeeded input.1).calls.lookup id = some call ↔
        (reg.pinned id = true ∨ excess reg ≤ (earlier reg (id, call)).length)) := by
    intro reg id call present
    cases pin : reg.pinned id with
    | true => simp [pinned_evictIfNeeded input.1 reg pin, present]
    | false =>
      rw [kept_iff, mem_excessCalls_iff_earlier present pin]
      simp [present]
  rw [shield, Spared, point]
  cases capPoint c input with
  | none => simp
  | some reg =>
    simp only [Option.map_some, Option.toList_some, List.mem_singleton, forall_eq, Option.mem_def,
      Option.some.injEq, forall_eq']
    constructor
    · exact fun spared id call present hit => (one reg id call present).mp (spared id call present hit)
    · exact fun shielded id call present hit => (one reg id call present).mpr (shielded id call present hit)

/-! ## Runs -/

theorem callId_applySip (call : Call) (msg : SipMsg) : (call.applySip msg).callId = call.callId := by
  refine (congrArg Roster.callId (roster_applySip call msg)).trans ?_
  split <;> rfl

/-- The same of the table of the calls. -/
def NamedTable (t : Table) : Prop := ∀ id call, t.call id = some call → call.callId = id

theorem named_iff (c : Correlator) : Named c.reg ↔ NamedTable (table c) := by
  have found : ∀ id, (table c).call id = (c.reg.calls.lookup id).map signaling := fun _ => rfl
  constructor
  · intro named id call present
    rw [found] at present
    obtain ⟨stored, tracked, rfl⟩ := Option.map_eq_some_iff.mp present
    exact named id stored tracked
  · intro named id call tracked
    exact named id (signaling call) (by rw [found, tracked]; rfl)

theorem namedTable_hear {t : Table} (named : NamedTable t) (msg : SipMsg) : NamedTable (t.hear msg) := by
  intro id call present
  change Function.update t.call msg.callId (some _) id = some call at present
  by_cases own : id = msg.callId
  · subst own
    rw [Function.update_self] at present
    rw [← Option.some.inj present]
    change (((t.call msg.callId).getD (.new msg.callId)).applySip msg).callId = msg.callId
    rw [callId_applySip]
    cases known : t.call msg.callId with
    | none => rfl
    | some before => exact named msg.callId before known
  · rw [Function.update_of_ne own] at present
    exact named id call present

theorem namedTable_step {t : Table} (named : NamedTable t) (op : Op) (gone : List String) :
    NamedTable (t.step op gone) := by
  have left : ∀ {s : Table}, NamedTable s → ∀ (P : Prop) [Decidable P] (id : String) call,
      (if P then none else s.call id) = some call → call.callId = id := by
    intro s known P _ id call present
    split at present
    · cases present
    · exact known id call present
  intro id call present
  cases op with
  | sip msg =>
    change ((t.hear msg).latch msg.callId gone).call id = some call at present
    rw [CallTable.Table.latch_call] at present
    exact left (namedTable_hear named msg) _ id call present
  | terminal other =>
    change (t.close other gone).call id = some call at present
    rw [CallTable.Table.close_call] at present
    exact left named _ id call present
  | flush ts => exact left named _ id call present
  | clear => cases present
  | _ => exact named id call present

/-- Between steps the indexes are consistent and every call is under its own name. -/
theorem named_step (c : Correlator) (input : Iteration × Op) (holds : Settled c ∧ Named c.reg) :
    Settled (c.step input) ∧ Named (c.step input).reg := by
  refine ⟨settled_step c input holds.1, (named_iff _).mpr ?_⟩
  rw [table_step holds.1.drained]
  exact namedTable_step ((named_iff c).mp holds.2) _ _

/-- Every reachable state stores each call under its own name. -/
theorem reachable_named (iter : Iteration) (config : Config) (source : String)
    (inputs : List (Iteration × Op)) : Named ((Correlator.new iter config source).run inputs).reg :=
  (Run.invariant named_step inputs
    ⟨settled_new iter config source, fun _ _ present => nomatch present⟩).2

theorem spared_iff_shielded {c : Correlator} {input : Iteration × Op} (named : Named c.reg)
    (few : FewMatches c input) : Spared c input ↔ Shielded c input := by
  obtain ⟨iter, op⟩ := input
  cases op with
  | flush ts =>
    have snap : Named (snapped iter c ts).reg := by
      rw [named_iff, table_snapped, ← named_iff]
      exact named
    exact iff_of_true (spared_flush iter c ts snap few) trivial
  | _ => exact spared_teardown nofun

/-- Along every run the evictions of a step leave what the step leaves. With few enough
matching calls, none of them takes a matching call if and only if each teardown at the cap
finds the matching calls shielded. The periodic pass evicts none of them. -/
theorem spared_along_iff (iter : Iteration) (config : Config) (source : String)
    (inputs : List (Iteration × Op))
    (few : Run.Along step FewMatches (.new iter config source) inputs) :
    Run.Along step LeftByEvictions (.new iter config source) inputs ∧
      (Run.Along step Spared (.new iter config source) inputs ↔
        Run.Along step Shielded (.new iter config source) inputs) := by
  have named : Run.Along step (fun c _ => Named c.reg) (.new iter config source) inputs :=
    Run.along_of_invariant named_step (fun _ _ holds => holds.2) inputs
      ⟨settled_new iter config source, fun id call present => nomatch present⟩
  have known := few.and named
  refine ⟨known.mono fun c input _ => calls_of_evictions c input, ?_, ?_⟩
  · exact fun spared => (known.and spared).mono fun c input holds =>
      (spared_iff_shielded holds.1.2 holds.1.1).mp holds.2
  · exact fun shielded => (known.and shielded).mono fun c input holds =>
      (spared_iff_shielded holds.1.2 holds.1.1).mpr holds.2

/-- A search for a call that is offered, answered and listed by a periodic pass. -/
def searched : List (Iteration × Op) :=
  [(.stored, .search (some "c1")), (.stored, .sip (sampleMsg 1 true (some .invite) none "INVITE" none)),
    (.stored, .flush 2), (.stored, .sip (sampleMsg 3 false none (some 200) "INVITE" (some "b"))),
    (.stored, .flush 6000000)]

theorem searched_spared_iff :
    Run.Along step Spared (.new .stored {} "eth0") searched ↔
      Run.Along step Shielded (.new .stored {} "eth0") searched :=
  (spared_along_iff .stored {} "eth0" searched (by decide +kernel)).2

/-- A search is set, the call it matches begins and fails, and then another one. -/
def outlived : List (Iteration × Op) :=
  [(.stored, .search (some "c1")), (.stored, .sip (sampleMsg 1 true (some .invite) none "INVITE" none)),
    (.stored, .sip (sampleMsg 2 false none (some 486) "INVITE" (some "b"))),
    (.stored, .sip { sampleMsg 3 true (some .invite) none "INVITE" none with callId := "c2" })]

/-- The end of the other call, above a cap of one call. -/
def lastFailure : Iteration × Op :=
  (.stored, .sip { sampleMsg 4 false none (some 486) "INVITE" (some "b") with callId := "c2" })

/-- The teardown of the other call evicts the matching one, which the cached list misses. -/
theorem outlived_evicted : ¬ ∀ (iter : Iteration) (config : Config) (source : String)
    (inputs : List (Iteration × Op)),
    Run.Along step FewMatches (.new iter config source) inputs →
      Run.Along step Spared (.new iter config source) inputs := by
  intro holds
  have few : Run.Along step FewMatches (.new .stored { maxCalls := 1 } "eth0") (outlived ++ [lastFailure]) := by
    decide +kernel
  have spared := holds .stored { maxCalls := 1 } "eth0" (outlived ++ [lastFailure]) few
  have last := (Run.along_iff _ _).mp spared outlived lastFailure [] rfl
  generalize state : outlived.foldl step (.new .stored { maxCalls := 1 } "eth0") = c at last
  have evicted : (capPoint c lastFailure).any (fun reg => (reg.calls.lookup "c1").any (matchesHint reg) &&
      ((reg.evictIfNeeded .stored).calls.lookup "c1").isNone) = true := by
    rw [← state]
    decide +kernel
  obtain ⟨reg, point, removed⟩ := (Option.any_eq_true _ _).mp evicted
  obtain ⟨hit, gone⟩ := Bool.and_eq_true_iff.mp removed
  obtain ⟨call, present, matched⟩ := (Option.any_eq_true _ _).mp hit
  have listed : (reg, reg.evictIfNeeded .stored) ∈ evictions c lastFailure := by
    change _ ∈ ((capPoint c lastFailure).map fun reg => (reg, reg.evictIfNeeded .stored)).toList
    rw [point]
    exact List.mem_cons_self
  have kept := last _ listed "c1" call present matched
  rw [kept] at gone
  exact Bool.noConfusion gone

end Sipmon.Guarantees.SearchPins
