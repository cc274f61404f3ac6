import Sipmon.Guarantees.DialogLegs
import Sipmon.Guarantees.FiledRecords
import Sipmon.Guarantees.SnapshotWindow

/-!
# What the UI is shown

Every published snapshot is consistent in itself: each call and each address is listed
once, and the detail of the focused call tells what the lists tell of that call, with
messages, streams and diagnostics of that call alone.
-/
namespace Sipmon.Guarantees.Publication
open Source Lib Correlator RegistryIndex Deeds FiledRecords
open SearchPins (Named)

/-! ## The lists -/

section Lists

variable (iter : Iteration) {reg : Registry} {c : Correlator}

/-- The search matches that are shown besides the window. -/
theorem matches_shown (cap : Nat) (shown pins : List String) (acc : List CallSummary) :
    ∃ extra : List String, extra.Sublist pins ∧ (∀ id ∈ extra, id ∉ shown ∧ id ∈ reg.calls) ∧
      pins.foldl (reg.showMatch iter cap shown) acc = acc ++ SnapshotWindow.summaries iter reg extra := by
  induction pins generalizing acc with
  | nil => exact ⟨[], .refl _, by simp, (List.append_nil acc).symm⟩
  | cons id rest ih =>
    rw [List.foldl_cons]
    have passed : (∃ extra : List String, extra.Sublist rest ∧ (∀ id ∈ extra, id ∉ shown ∧ id ∈ reg.calls) ∧
        rest.foldl (reg.showMatch iter cap shown) acc = acc ++ SnapshotWindow.summaries iter reg extra) := ih acc
    unfold Registry.showMatch
    split
    · obtain ⟨extra, sub, fresh, same⟩ := passed
      exact ⟨extra, sub.cons id, fresh, same⟩
    · rename_i free
      cases listed : reg.calls.lookup id with
      | none =>
        obtain ⟨extra, sub, fresh, same⟩ := passed
        exact ⟨extra, sub.cons id, fresh, same⟩
      | some call =>
        obtain ⟨extra, sub, fresh, same⟩ := ih (acc ++ [reg.callSummary iter call])
        have known : id ∈ reg.calls := AList.lookup_isSome.mp (Option.isSome_of_eq_some listed)
        have one : SnapshotWindow.summaries iter reg [id] = [reg.callSummary iter call] := by
          simp [SnapshotWindow.summaries, listed]
        refine ⟨id :: extra, sub.cons_cons id, ?_, ?_⟩
        · intro a member
          rcases List.mem_cons.mp member with rfl | later
          · exact ⟨fun inside => free (.inr inside), known⟩
          · exact fresh a later
        · exact same.trans (by
            rw [List.append_assoc, ← one, ← SnapshotWindow.summaries_append, List.singleton_append])

/-- The calls of a snapshot are the summaries of calls that are tracked, each once. -/
theorem displayed_ids (settled : Settled c) (named : Named c.reg) (distinct : c.reg.searchMatches.Nodup) (limit : Nat) :
    ∃ ids : List String, ids.Nodup ∧ (∀ id ∈ ids, id ∈ c.reg.calls) ∧
      c.reg.displayed iter limit = SnapshotWindow.summaries iter c.reg ids := by
  have consistent := settled.kept.consistent
  have tracked : ∀ id ∈ SnapshotWindow.window c.reg limit, id ∈ c.reg.calls := fun id member =>
    (consistent.orderKnown id).mp (List.mem_reverse.mp (List.mem_of_mem_take member))
  have once : (SnapshotWindow.window c.reg limit).Nodup :=
    (List.nodup_reverse.mpr consistent.orderNodup).sublist (List.take_sublist _ _)
  have shown := SnapshotWindow.callIds_summaries iter named tracked
  unfold Registry.displayed
  dsimp only
  rw [SnapshotWindow.recentCalls_eq, shown]
  split
  · exact ⟨_, once, tracked, rfl⟩
  · obtain ⟨extra, sub, fresh, same⟩ := matches_shown iter (min (limit + Registry.searchPinMax) usizeMax)
      (SnapshotWindow.window c.reg limit) c.reg.searchMatches
      (SnapshotWindow.summaries iter c.reg (SnapshotWindow.window c.reg limit))
    refine ⟨SnapshotWindow.window c.reg limit ++ extra, ?_, ?_, ?_⟩
    · refine List.nodup_append.mpr ⟨once, distinct.sublist sub, ?_⟩
      intro a inside b matched same
      exact (fresh b matched).1 (same ▸ inside)
    · intro id member
      rcases List.mem_append.mp member with inside | matched
      · exact tracked id inside
      · exact (fresh id matched).2
    · rw [same, SnapshotWindow.summaries_append]

end Lists

/-- The rows of the address page. -/
theorem rows_once (iter : Iteration) {store : IpStatsStore} (keyed : Keyed store) :
    ((store.rows iter).map IpStats.ip).Nodup := by
  have ips : store.values.map IpStats.ip = store.toList.map Prod.fst := by
    rw [FiniteMap.values, FiniteMap.toList, List.map_map, List.map_map]
    apply List.map_congr_left
    intro e listed
    exact keyed e.1 e.2 (AList.mem_lookup_iff.mpr listed)
  have sorted := (List.perm_insertionSort (fun a b : IpStats => a.ip.rank ≤ b.ip.rank) (iter.order store.values)).map
    IpStats.ip
  have ordered := (iter.perm store.values).map IpStats.ip
  unfold IpStatsStore.rows
  rw [sorted.nodup_iff, ordered.nodup_iff, ips]
  exact FiniteMap.nodup_toList_keys store

/-- The rows of the signaling page: all addresses, then each of them. -/
theorem sipRows_once (iter : Iteration) (store : SipStatsStore) :
    ((store.rows iter).map SipIpRow.ip).Nodup := by
  unfold SipStatsStore.rows
  have perm : ((iter.order store.ips.toList).insertionSort fun a b => busier a b).Perm store.ips.toList :=
    (List.perm_insertionSort _ _).trans (iter.perm _)
  have keys := (perm.map Prod.fst).nodup_iff.mpr (FiniteMap.nodup_toList_keys store.ips)
  rw [List.map_cons, List.map_map, List.nodup_cons]
  constructor
  · simp
  · have wrapped := keys.map (Option.some_injective IpAddr)
    rw [List.map_map] at wrapped
    exact wrapped

/-! ## The detail of a call -/

/-- The row of a call and its detail agree. -/
structure Agrees (f : FocusDetail) (s : CallSummary) : Prop where
  state : f.state = some s.state
  users : f.fromUser = s.fromUser ∧ f.toUser = s.toUser
  times : f.inviteTs = s.inviteTs ∧ f.pddMs = s.pddMs ∧ f.setupMs = s.setupMs ∧ f.ringMs = s.ringMs
  media : f.earlyMedia = s.earlyMedia ∧ f.streams.length = s.streamCount
  hangup : f.hangupBy = s.hangupBy ∧ f.hangupCode = s.hangupCode

/-- What a detail shows, beside the rest of the snapshot. -/
structure Detail (hint : FocusHint) (f : FocusDetail) (p : Published) : Prop where
  call : f.callId = hint.primary
  legs : f.legs.length = f.messages.length
  alone : hint.linked = none → f.messages.length ≤ 1000 ∧ ∀ m ∈ f.messages, m.callId = hint.primary
  merged : ∀ other, hint.linked = some other → f.messages.Pairwise (fun m n => m.tsUs ≤ n.tsUs) ∧
    ∀ e ∈ f.messages.zip f.legs, e.1.callId = if e.2 = 0 then hint.primary else other
  streams : ∀ s ∈ f.streams, s.callId = hint.primary
  diagnostics : f.diagnostics = p.diagnostics.filter fun d => d.callId == hint.primary
  listed : ∀ s ∈ p.calls, s.callId = hint.primary → Agrees f s

theorem mem_trimMsgs {msgs : List SipMsg} {m : SipMsg} (member : m ∈ trimMsgs msgs) : m ∈ msgs :=
  List.mem_of_mem_drop member

theorem length_trimMsgs (msgs : List SipMsg) : (trimMsgs msgs).length ≤ 1000 := by
  unfold trimMsgs Registry.keepLast
  rw [List.length_drop]
  omega

/-- The order of merged messages. -/
def earlier (a b : SipMsg × UInt8) : Prop := a.1.tsUs.toNat ≤ b.1.tsUs.toNat

instance : DecidableRel earlier := fun a b => inferInstanceAs (Decidable (a.1.tsUs.toNat ≤ b.1.tsUs.toNat))

instance : Std.Total earlier := ⟨fun _ _ => Nat.le_total _ _⟩

instance : IsTrans (SipMsg × UInt8) earlier := ⟨fun _ _ _ => Nat.le_trans⟩

theorem mergedLegs_sorted (primary linked : List SipMsg) :
    ((mergedLegs primary linked).map Prod.fst).Pairwise fun m n => m.tsUs ≤ n.tsUs := by
  have sorted : (mergedLegs primary linked).Pairwise earlier := List.pairwise_insertionSort earlier _
  exact (List.pairwise_map.mpr sorted)

/-- A merged message is one of the call of its leg. -/
theorem mergedLegs_owner {primary linked : List SipMsg} {e : SipMsg × UInt8} (member : e ∈ mergedLegs primary linked) :
    (e.2 = 0 ∧ e.1 ∈ primary) ∨ (e.2 = 1 ∧ e.1 ∈ linked) := by
  unfold mergedLegs at member
  rw [(List.perm_insertionSort _ _).mem_iff] at member
  rcases List.mem_append.mp member with first | second
  · obtain ⟨m, inside, rfl⟩ := List.mem_map.mp first
    exact .inl ⟨rfl, inside⟩
  · obtain ⟨m, inside, rfl⟩ := List.mem_map.mp second
    exact .inr ⟨rfl, inside⟩

section Streams

variable (iter : Iteration) {c : Correlator} (id : String)

/-- A rollup that counts each stream under its call counts the streams of the call. -/
theorem rollup_count {step : FiniteMap String (Option F64 × Nat) → RtpStream → FiniteMap String (Option F64 × Nat)}
    (each : ∀ rollup s, (((step rollup s).lookup id).getD (none, 0)).2 =
      ((rollup.lookup id).getD (none, 0)).2 + if s.callId = id then 1 else 0)
    (l : List RtpStream) (rollup : FiniteMap String (Option F64 × Nat)) :
    (((l.foldl step rollup).lookup id).getD (none, 0)).2 =
      ((rollup.lookup id).getD (none, 0)).2 + l.countP fun s => s.callId = id := by
  induction l generalizing rollup with
  | nil => simp
  | cons s rest ih =>
    simp only [List.foldl_cons, ih, each, List.countP_cons, decide_eq_true_eq]
    omega

theorem liveByCall_count (reg : Registry) : (((reg.liveByCall iter).lookup id).getD (none, 0)).2 =
    reg.streams.values.countP fun s => s.callId = id := by
  unfold Registry.liveByCall
  rw [rollup_count id, (iter.perm _).countP_eq]
  · exact Nat.zero_add _
  · intro rollup s
    rw [FiniteMap.lookup_upsert]
    by_cases own : s.callId = id
    · have same : id = s.statsLight.callId := own.symm
      rw [if_pos same, ← same, if_pos own]
      rfl
    · have other : ¬ id = s.statsLight.callId := fun same => own same.symm
      rw [if_neg other, if_neg own]
      rfl

/-- The streams of a call, read through its index. -/
theorem callStreams_perm (settled : Settled c) (id : String) :
    ((c.reg.callStreamKeys id).filterMap c.reg.streams.lookup).Perm
      (c.reg.streams.values.filter fun s => s.callId = id) :=
  settled.kept.consistent.indexed.byCall.rows_perm id

end Streams

section Focused

variable {c : Correlator} (whole : Whole c)
include whole

theorem imported_none (iter : Iteration) (id : String) :
    c.reg.importedForCall id = [] ∧ (c.reg.importedSummaries iter).lookup id = none := by
  have live : c.reg.importedStreams = FiniteMap.empty := whole.live
  constructor
  · unfold Registry.importedForCall
    rw [live]
    exact List.filterMap_eq_nil_iff.mpr fun key _ => rfl
  · have entries : iter.order c.reg.importedStreams.toList = [] := by
      rw [live]
      exact List.Perm.eq_nil (iter.perm _)
    unfold Registry.importedSummaries
    rw [entries]
    rfl

theorem focus_agrees (iter : Iteration) {hint : FocusHint} {f : FocusDetail} (shown : c.reg.focusDetail hint = some f)
    {call : Call} (tracked : c.reg.calls.lookup hint.primary = some call) :
    Agrees f (c.reg.callSummary iter call) := by
  obtain ⟨none_imported, none_summed⟩ := imported_none whole iter hint.primary
  have named : call.callId = hint.primary := (whole.owned hint.primary call tracked).1
  have count := liveByCall_count iter hint.primary c.reg
  have streams := callStreams_perm whole.orderly.settled hint.primary
  unfold Registry.focusDetail at shown
  rw [tracked, Option.map_some] at shown
  obtain rfl := Option.some.inj shown
  have media : ((((c.reg.callStreamKeys hint.primary).filterMap c.reg.streams.lookup).map RtpStream.summary ++
      c.reg.importedForCall hint.primary).length = (c.reg.callSummary iter call).streamCount) := by
    unfold Registry.callSummary Registry.summarize
    rw [named, none_summed, none_imported, List.append_nil, List.length_map, streams.length_eq,
      ← List.countP_eq_length_filter]
    dsimp only
    rw [← count]
    rfl
  exact ⟨rfl, ⟨rfl, rfl⟩, ⟨rfl, rfl, rfl, rfl⟩, ⟨rfl, media⟩, ⟨rfl, rfl⟩⟩

/-- The messages of a detail. -/
theorem focusMessages_own {hint : FocusHint} {call : Call} (tracked : c.reg.calls.lookup hint.primary = some call) :
    (c.reg.focusMessages call hint).2.1.length = (c.reg.focusMessages call hint).1.length ∧
    (hint.linked = none → (c.reg.focusMessages call hint).1.length ≤ 1000 ∧
      ∀ m ∈ (c.reg.focusMessages call hint).1, m.callId = hint.primary) ∧
    ∀ other, hint.linked = some other →
      (c.reg.focusMessages call hint).1.Pairwise (fun m n => m.tsUs ≤ n.tsUs) ∧
      ∀ e ∈ (c.reg.focusMessages call hint).1.zip (c.reg.focusMessages call hint).2.1,
        e.1.callId = if e.2 = 0 then hint.primary else other := by
  have own : ∀ m ∈ trimMsgs call.messages, m.callId = hint.primary := fun m member =>
    (whole.owned hint.primary call tracked).2 m (mem_trimMsgs member)
  have short := length_trimMsgs call.messages
  unfold Registry.focusMessages
  generalize trimMsgs call.messages = primary at own short ⊢
  cases linked : hint.linked with
  | none =>
    refine ⟨DialogLegs.parallel_legs _, fun _ => ⟨short, own⟩, ?_⟩
    intro other is_linked
    cases is_linked
  | some leg =>
    have theirs : ∀ m ∈ ((c.reg.calls.lookup leg).map fun c => trimMsgs c.messages).getD [], m.callId = leg := by
      intro m member
      cases found : c.reg.calls.lookup leg with
      | none => simp [found] at member
      | some other =>
        rw [found, Option.map_some, Option.getD_some] at member
        exact (whole.owned leg other found).2 m (mem_trimMsgs member)
    dsimp only
    generalize ((c.reg.calls.lookup leg).map fun c => trimMsgs c.messages).getD [] = others at theirs ⊢
    refine ⟨by simp [mergeLegMsgs], by simp, ?_⟩
    intro other same
    obtain rfl := Option.some.inj same
    refine ⟨mergedLegs_sorted _ _, ?_⟩
    intro e member
    have merged : e ∈ mergedLegs primary others := by
      simp only [mergeLegMsgs, List.zip_map', Prod.mk.eta, List.map_id'] at member
      exact member
    rcases mergedLegs_owner merged with ⟨leg_zero, mine⟩ | ⟨leg_one, other_leg⟩
    · rw [leg_zero, if_pos rfl]
      exact own e.1 mine
    · rw [leg_one, if_neg (by decide)]
      exact theirs e.1 other_leg

end Focused

/-- A snapshot that is consistent in itself. -/
structure WellFormed (p : Published) : Prop where
  calls : (p.calls.map CallSummary.callId).Nodup
  addresses : (p.ipStats.map IpStats.ip).Nodup
  signaling : (p.sipStats.map SipIpRow.ip).Nodup
  focus : ∀ f, p.focus = some f → ∃ hint, Detail hint f p

theorem wellFormed_blank : WellFormed .blank where
  calls := List.nodup_nil
  addresses := List.nodup_nil
  signaling := List.nodup_nil
  focus := by
    intro f shown
    cases shown

/-- The kept rows of the address page name each address once. -/
def CacheOnce (cache : IpStatsCache) : Prop := ∀ entry, cache = some entry → (entry.2.map IpStats.ip).Nodup

theorem ipRows_once (iter : Iteration) {reg : Registry} {cache : IpStatsCache} (keyed : Keyed reg.ipstats)
    (kept : CacheOnce cache) : ((reg.ipStatsSnapshot iter cache).1.map IpStats.ip).Nodup ∧
      CacheOnce (reg.ipStatsSnapshot iter cache).2 := by
  have fresh := rows_once iter keyed
  have anew : CacheOnce (some ((reg.lastUs.getD 0).toNat / 1000000, reg.ipstats.rows iter)) := by
    intro entry is_entry
    obtain rfl := Option.some.inj is_entry
    exact fresh
  unfold Registry.ipStatsSnapshot
  cases cache with
  | none => exact ⟨fresh, anew⟩
  | some entry =>
    dsimp only
    split
    · exact ⟨kept entry rfl, kept⟩
    · exact ⟨fresh, anew⟩

/-- What the registry publishes is consistent in itself. -/
theorem wellFormed_published (iter : Iteration) {c : Correlator} (whole : Whole c) {cache : IpStatsCache}
    (kept : CacheOnce cache) (limit streamLimit : Nat) :
    WellFormed (c.reg.publishedWith iter cache limit streamLimit).1 := by
  obtain ⟨ids, once, known, shown⟩ :=
    displayed_ids iter whole.orderly.settled (named_of_owned whole.owned) whole.pins limit
  have sorted : (c.reg.snapshotWith iter limit streamLimit).1.calls.Perm
      (SnapshotWindow.summaries iter c.reg ids) := by
    rw [← shown]
    exact List.perm_insertionSort _ _
  constructor
  case calls =>
    change ((c.reg.snapshotWith iter limit streamLimit).1.calls.map CallSummary.callId).Nodup
    rw [(sorted.map CallSummary.callId).nodup_iff,
      SnapshotWindow.callIds_summaries iter (named_of_owned whole.owned) known]
    exact once
  case addresses => exact (ipRows_once iter whole.rows kept).1
  case signaling => exact sipRows_once iter c.reg.sipstats
  case focus =>
    intro f focused
    obtain ⟨hint, -, detail⟩ := Option.bind_eq_some_iff.mp
      (show c.reg.focusHint.bind c.reg.focusDetail = some f from focused)
    obtain ⟨call, tracked, -⟩ := Option.map_eq_some_iff.mp detail
    have own := focusMessages_own whole tracked
    have agrees := fun s => focus_agrees whole s detail tracked
    have streams := callStreams_perm whole.orderly.settled hint.primary
    have imported := (imported_none whole iter hint.primary).1
    have diagnostics := (Lib.VersionedCache.valid_read (fun _ => rfl : ∀ a, id a = a) whole.logs.diagnostics).1
    unfold Registry.focusDetail at detail
    rw [tracked, Option.map_some] at detail
    obtain rfl := Option.some.inj detail
    refine ⟨hint, rfl, own.1, own.2.1, own.2.2, ?_, ?_, ?_⟩
    · intro s member
      rw [imported, List.append_nil] at member
      obtain ⟨stream, listed, rfl⟩ := List.mem_map.mp member
      exact congrArg some (of_decide_eq_true (List.mem_filter.mp (streams.mem_iff.mp listed)).2)
    · change c.reg.diagnostics.filter _ = (c.reg.snapshotWith iter limit streamLimit).1.diagnostics.filter _
      rw [SnapshotCaches.snapshot_diagnostics]
      exact congrArg (List.filter _) diagnostics.symm
    · intro s member same
      have row : s ∈ SnapshotWindow.summaries iter c.reg ids := sorted.mem_iff.mp member
      obtain ⟨id, -, other, found, rfl⟩ := (SnapshotWindow.mem_summaries iter c.reg ids s).mp row
      have named : other.callId = id := (whole.owned id other found).1
      have own_id : id = hint.primary := named.symm.trans same
      rw [own_id, tracked] at found
      obtain rfl := Option.some.inj found
      exact agrees iter

/-! ## Whatever the threads do -/

/-- What the publications of a session rest on, and what the last one shows. -/
structure Sound (m : Monitor) : Prop where
  whole : Whole m.pipe.corr
  cache : CacheOnce m.pipe.ipStatsCache
  shown : WellFormed m.snap

theorem sound_storing {s : Session} {m : Monitor} {t : Turn} (sound : Sound m) {full : Bool} {onward : Onward}
    (stage : m.pipe.stage = .storing full onward) : Sound (m.pipeStep s t) := by
  have corr : (m.pipeStep s t).pipe.corr = (m.pipe.snapshot t.iter full).2.corr := by
    simp only [Monitor.pipeStep, stage]
    cases onward <;> rfl
  have cache : (m.pipeStep s t).pipe.ipStatsCache = (m.pipe.snapshot t.iter full).2.ipStatsCache := by
    simp only [Monitor.pipeStep, stage]
    cases onward <;> rfl
  have snap : (m.pipeStep s t).snap = (m.pipe.snapshot t.iter full).1 := by
    simp only [Monitor.pipeStep, stage]
  cases full with
  | true =>
    have published := wellFormed_published t.iter sound.whole sound.cache usizeMax usizeMax
    have kept := (ipRows_once t.iter sound.whole.rows sound.cache).2
    constructor
    · rw [corr]
      exact whole_publish t.iter usizeMax usizeMax sound.whole
    · rw [cache]
      exact kept
    · rw [snap]
      refine ⟨published.calls, rows_once t.iter sound.whole.rows, published.signaling, fun f focused => ?_⟩
      obtain ⟨hint, d⟩ := published.focus f focused
      exact ⟨hint, d.call, d.legs, d.alone, d.merged, d.streams, d.diagnostics, d.listed⟩
  | false =>
    have published := wellFormed_published t.iter sound.whole sound.cache 500 1000
    have kept := (ipRows_once t.iter sound.whole.rows sound.cache).2
    constructor
    · rw [corr]
      exact whole_publish t.iter 500 1000 sound.whole
    · rw [cache]
      exact kept
    · rw [snap]
      exact published

/-- Elsewhere nothing is published, and the kept rows of the address page change with a clear alone. -/
theorem elsewhere_pipeStep {s : Session} {m : Monitor} {t : Turn} (cache : CacheOnce m.pipe.ipStatsCache)
    (elsewhere : ∀ full onward, m.pipe.stage ≠ .storing full onward) :
    CacheOnce (m.pipeStep s t).pipe.ipStatsCache ∧ (m.pipeStep s t).snap = m.snap := by
  have none_kept : CacheOnce none := by
    intro entry is_entry
    cases is_entry
  cases stage : m.pipe.stage with
  | storing full onward => exact absurd stage (elsewhere full onward)
  | clearing =>
    simp only [Monitor.pipeStep, stage]
    split
    · exact ⟨none_kept, rfl⟩
    · exact ⟨cache, rfl⟩
  | capturing =>
    simp only [Monitor.pipeStep, stage, Pipe.capture]
    split
    · exact ⟨cache, trivial⟩
    · split
      · exact ⟨cache, trivial⟩
      · split
        · exact ⟨cache, trivial⟩
        · exact ⟨cache, trivial⟩
  | quitting | idling =>
    simp only [Monitor.pipeStep, stage]
    split
    · exact ⟨cache, trivial⟩
    · exact ⟨cache, trivial⟩
  | pausing | idleSearch focus | due | dueSearch focus | focusing full onward | searching full onward | ended =>
    simp only [Monitor.pipeStep, stage]
    exact ⟨cache, trivial⟩

theorem whole_monitor {s : Session} {m : Monitor} (act : Monitor.Act) (whole : Whole m.pipe.corr) :
    Whole (m.step s act).pipe.corr := by
  have moved : Whole (held (m.step s act)).1 := by
    rw [held_step s act whole.orderly]
    exact Run.invariant (P := fun now : Correlator × List Evlog.Event => Whole now.1)
      (fun _ d kept => whole_deed s d kept) (deeds s m act) whole
  exact moved

theorem sound_step {s : Session} {m : Monitor} (act : Monitor.Act) (sound : Sound m) : Sound (m.step s act) := by
  have whole := whole_monitor (s := s) act sound.whole
  rcases pipe_or_ui s m act with ⟨t, rfl⟩ | ⟨pipe, snap, -⟩
  · by_cases storing : ∃ full onward, m.pipe.stage = .storing full onward
    · obtain ⟨full, onward, stage⟩ := storing
      exact sound_storing sound stage
    · have elsewhere : ∀ full onward, m.pipe.stage ≠ .storing full onward := fun full onward stage =>
        storing ⟨full, onward, stage⟩
      obtain ⟨cache, snap⟩ := elsewhere_pipeStep (s := s) (t := t) sound.cache elsewhere
      exact ⟨whole, cache, snap ▸ sound.shown⟩
  · exact ⟨whole, pipe ▸ sound.cache, snap ▸ sound.shown⟩

theorem sound_start (iter : Iteration) (s : Session) : Sound (Monitor.start iter s) := by
  have fresh : Whole (Monitor.start iter s).pipe.corr := by
    unfold Monitor.start
    dsimp only
    split
    · exact whole_step (whole_new iter _ _) (.stored, .enableSessionStats)
    · exact whole_new iter _ _
  refine ⟨fresh, ?_, wellFormed_blank⟩
  intro entry is_entry
  cases is_entry

/-- Whatever is captured and whatever the user does, every snapshot that the UI finds is
consistent in itself. -/
theorem published_consistent (iter : Iteration) (s : Session) (acts : List Monitor.Act) :
    WellFormed ((Monitor.start iter s).run s acts).snap :=
  (Run.invariant (P := Sound) (fun _ act sound => sound_step act sound) acts (sound_start iter s)).shown

end Sipmon.Guarantees.Publication
