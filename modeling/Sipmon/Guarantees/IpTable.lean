import Sipmon.Lib.KeptOrder
import Sipmon.Lib.Run
import Sipmon.Source.App

/-!
# The rows of the IP page

The page sorts its rows at most every five seconds and keeps the order in between. Each
frame shows every address of the snapshot once, and as long as the order is kept no two
addresses change places, whatever the snapshots say. Only a key that reaches `next_ip_sort`
changes what the rows are sorted by; any other press of `s` leaves the order alone.
-/
namespace Sipmon.Guarantees.IpTable
open Sipmon.Source
open Lib.FirstSeen (note)

variable {app : App} {rows : List IpStats} {snap again : Published} {widget : App.Widget}
  {now later : Nat} {code : KeyCode} {mods : KeyModifiers}

/-! ## One ordering -/

/-- Whether the rows are sorted anew. -/
def resorts (app : App) (now : Nat) : Bool :=
  app.ipSortOrder.isEmpty || sortRefreshUs ≤ now - app.ipSortLast

/-- The order the rows are laid out by. -/
def laidOut (app : App) (now : Nat) (rows : List IpStats) : List IpAddr :=
  if resorts app now then (sortedRows rows app.ipSort).map IpStats.ip else app.ipSortOrder

theorem orderedRows_eq (distinct : (rows.map IpStats.ip).Nodup) :
    app.orderedRows now rows =
      (((laidOut app now rows).filterMap fun ip => rows.reverse.find? fun s => s.ip == ip) ++
          rows.filter fun s => s.ip ∉ laidOut app now rows,
        { app with
          ipSortOrder := (rows.map IpStats.ip).foldl note (laidOut app now rows)
          ipSortLast := if resorts app now then now else app.ipSortLast }) := by
  have joins : ∀ (rows shown : List IpStats) (app : App), (rows.map IpStats.ip).Nodup →
      rows.foldl (fun (r : List IpStats × App) s =>
        if s.ip ∈ r.2.ipSortOrder then r
        else (r.1 ++ [s], { r.2 with ipSortOrder := r.2.ipSortOrder ++ [s.ip] })) (shown, app) =
      (shown ++ rows.filter fun s => s.ip ∉ app.ipSortOrder,
        { app with ipSortOrder := (rows.map IpStats.ip).foldl note app.ipSortOrder }) := by
    intro rows
    induction rows with
    | nil => simp
    | cons s rest ih =>
      intro shown app distinct
      obtain ⟨fresh, distinct⟩ := List.nodup_cons.mp distinct
      rw [List.foldl_cons]
      by_cases known : s.ip ∈ app.ipSortOrder
      · rw [if_pos known, ih _ _ distinct]
        simp [known, Lib.FirstSeen.note_of_mem known]
      · rw [if_neg known, ih _ _ distinct]
        have others : (rest.filter fun b => b.ip ∉ app.ipSortOrder ++ [s.ip]) =
            rest.filter fun b => b.ip ∉ app.ipSortOrder := by
          apply List.filter_congr
          intro b member
          have : b.ip ≠ s.ip := fun same => fresh (same ▸ List.mem_map_of_mem member)
          simp [this]
        simp only [others, List.map_cons, List.foldl_cons, Lib.FirstSeen.note_of_new known]
        simp [known]
  have sorted : (if app.ipSortOrder.isEmpty || sortRefreshUs ≤ now - app.ipSortLast then
        { app with ipSortOrder := (sortedRows rows app.ipSort).map IpStats.ip, ipSortLast := now }
      else app) =
      { app with
        ipSortOrder := laidOut app now rows
        ipSortLast := if resorts app now then now else app.ipSortLast } := by
    unfold laidOut resorts
    split <;> rfl
  unfold App.orderedRows
  simp only [sorted]
  exact joins rows _ _ distinct

theorem sortedRows_perm (rows : List IpStats) (sort : IpSort) : (sortedRows rows sort).Perm rows := by
  cases sort <;> exact List.perm_insertionSort _ _

/-- A frame's addresses, in the order kept from then on. -/
theorem shown_ips (distinct : (rows.map IpStats.ip).Nodup) :
    (app.orderedRows now rows).1.map IpStats.ip =
      (app.orderedRows now rows).2.ipSortOrder.filter (· ∈ rows.map IpStats.ip) := by
  rw [orderedRows_eq distinct]
  exact Lib.KeptOrder.shown_keys distinct _

theorem laidOut_nodup (distinct : (rows.map IpStats.ip).Nodup) (kept : app.ipSortOrder.Nodup) :
    (laidOut app now rows).Nodup := by
  unfold laidOut
  split
  · exact ((sortedRows_perm rows app.ipSort).map IpStats.ip).nodup_iff.mpr distinct
  · exact kept

theorem ordered_nodup (distinct : (rows.map IpStats.ip).Nodup) (kept : app.ipSortOrder.Nodup) :
    (app.orderedRows now rows).2.ipSortOrder.Nodup := by
  rw [orderedRows_eq distinct]
  exact Lib.FirstSeen.nodup_foldl_note _ (laidOut_nodup distinct kept)

/-- Every address of the snapshot is shown, each once. -/
theorem shown_perm (distinct : (rows.map IpStats.ip).Nodup) (kept : app.ipSortOrder.Nodup) :
    ((app.orderedRows now rows).1.map IpStats.ip).Perm (rows.map IpStats.ip) := by
  rw [shown_ips distinct]
  apply (List.perm_ext_iff_of_nodup ((ordered_nodup distinct kept).filter _) distinct).mpr
  intro ip
  have joined : ip ∈ rows.map IpStats.ip → ip ∈ (app.orderedRows now rows).2.ipSortOrder := by
    intro listed
    rw [orderedRows_eq distinct]
    exact (Lib.FirstSeen.mem_foldl_note _ _ ip).mpr (.inr listed)
  simp only [List.mem_filter, decide_eq_true_eq, and_iff_right_iff_imp]
  exact joined

/-- Ordering the rows does not change what they are ordered by. -/
theorem orderedRows_sort (app : App) (now : Nat) (rows : List IpStats) :
    (app.orderedRows now rows).2.ipSort = app.ipSort := by
  have joins : ∀ (rows shown : List IpStats) (app : App),
      (rows.foldl (fun (r : List IpStats × App) s =>
        if s.ip ∈ r.2.ipSortOrder then r
        else (r.1 ++ [s], { r.2 with ipSortOrder := r.2.ipSortOrder ++ [s.ip] })) (shown, app)).2.ipSort =
        app.ipSort := by
    intro rows
    induction rows with
    | nil => exact fun _ _ => rfl
    | cons s rest ih =>
      intro shown app
      rw [List.foldl_cons]
      split
      · exact ih _ _
      · exact ih _ _
  unfold App.orderedRows
  simp only []
  split
  · exact joins rows _ _
  · exact joins rows _ _

/-! ## What else touches the order -/

/-- The kept order, with the time it was taken at. -/
def keptOrder (app : App) : List IpAddr × Nat := (app.ipSortOrder, app.ipSortLast)

/-- A property of the kept order that ordering the rows keeps. -/
def KeptBy (P : List IpAddr × Nat → Prop) (now : Nat) (snap : Published) : Prop :=
  ∀ app : App, P (keptOrder app) → P (keptOrder (app.orderedRows now snap.ipStats).2)

variable {P : List IpAddr × Nat → Prop}

theorem draw_order (first : KeptBy P now snap) (second : KeptBy P later snap) (holds : P (keptOrder app)) :
    P (keptOrder (app.draw widget snap now later)) := by
  unfold App.draw
  split
  · have anchored : keptOrder (app.anchorOverviewSelection snap) = keptOrder app := by
      unfold App.anchorOverviewSelection
      simp only []
      split
      · rfl
      · split <;> rfl
    exact anchored ▸ holds
  · unfold App.drawCallDetail
    split
    · exact holds
    · simp only []
      split
      · exact holds
      · exact holds
  · exact holds
  · exact holds
  · exact holds
  · unfold App.drawIpStats
    simp only []
    split
    · split
      · exact holds
      · exact second _ holds
    · split
      · exact first _ holds
      · exact second _ (first _ holds)

/-- Drawing does not change what the rows are ordered by. -/
theorem draw_sort : (app.draw widget snap now later).ipSort = app.ipSort := by
  unfold App.draw
  split
  · unfold App.anchorOverviewSelection
    simp only []
    split
    · rfl
    · split <;> rfl
  · unfold App.drawCallDetail
    split
    · rfl
    · simp only []
      split
      · rfl
      · rfl
  · rfl
  · rfl
  · rfl
  · unfold App.drawIpStats
    simp only []
    split
    · split
      · rfl
      · exact orderedRows_sort _ _ _
    · split
      · exact orderedRows_sort app now _
      · exact (orderedRows_sort _ later _).trans (orderedRows_sort app now _)

theorem next_sort_ne (sort : IpSort) : sort.next ≠ sort := by
  cases sort <;> decide

/-- What a key leaves of the kept order: `P` of it, or no order, for another sort. -/
def KeptOrDropped (P : List IpAddr × Nat → Prop) (app after : App) : Prop :=
  P (keptOrder after) ∨ after.ipSort ≠ app.ipSort ∧ after.ipSortOrder = []

theorem ipKey_order (ordering : KeptBy P now snap) (holds : P (keptOrder app)) :
    KeptOrDropped P app (app.ipKey snap now code) := by
  unfold App.ipKey
  split
  · simp only []
    split
    · split
      · exact .inl holds
      · exact .inl holds
    · split
      · exact .inl holds
      · exact .inl holds
  · split
    · simp only []
      split
      · exact .inl (ordering app holds)
      · exact .inl (ordering app holds)
    · exact .inr ⟨next_sort_ne app.ipSort, rfl⟩
    · split
      · exact .inl holds
      · exact .inl holds
    · exact .inl holds
    · split
      · exact .inl holds
      · exact .inl holds

theorem pageKey_order (ordering : KeptBy P now snap) (holds : P (keptOrder app)) :
    KeptOrDropped P app (app.pageKey snap again now code) := by
  unfold App.pageKey
  split
  · unfold App.overviewKey
    split
    · split
      · exact .inl holds
      · exact .inl holds
    · simp only []
      split
      · exact .inl holds
      · exact .inl holds
    · split
      · exact .inl holds
      · exact .inl holds
  · unfold App.callDetailKey
    simp only []
    split
    any_goals apply Or.inl holds
    unfold App.clearBLegLink
    simp only []
    split
    · exact .inl holds
    · exact .inl holds
  · split
    · exact .inl holds
    · exact .inl holds
  · unfold App.eventLogKey
    split
    · exact .inl holds
    · exact .inl holds
  · exact ipKey_order ordering holds
  · unfold App.heatmapKey
    split
    · exact .inl holds
    · exact .inl holds
    · split
      · exact .inl holds
      · exact .inl holds

theorem pickerKey_order (holds : P (keptOrder app)) : P (keptOrder (app.bLegPickerKey snap code)) := by
  unfold App.bLegPickerKey
  simp only []
  split
  · exact holds
  · split
    · exact holds
    · exact holds
  · exact holds
  · exact holds
  · split
    · exact holds
    · exact holds

theorem filterKey_order (holds : P (keptOrder app)) : P (keptOrder (app.filterKey snap again code mods)) := by
  unfold App.filterKey
  split
  any_goals apply holds
  split
  · exact holds
  · exact holds

theorem backKey_order (holds : P (keptOrder app)) : P (keptOrder app.backKey) := by
  unfold App.backKey
  split
  · exact holds
  · split
    · exact holds
    · exact holds

theorem onKey_order {reads : App.KeyReads} (ordering : KeptBy P reads.now reads.snap) (holds : P (keptOrder app)) :
    KeptOrDropped P app (app.onKey reads code mods) := by
  unfold App.onKey
  split
  · exact .inl (pickerKey_order holds)
  split
  · exact .inl (filterKey_order holds)
  split
  · exact .inl holds
  split
  any_goals apply Or.inl holds
  · exact .inl (backKey_order holds)
  · exact .inl (backKey_order holds)
  · split
    · exact .inl holds
    · split
      · exact .inl holds
      · exact .inl holds
  · unfold App.doExport
    split
    · exact .inl holds
    · exact .inl holds
  · exact pageKey_order ordering holds

/-- The snapshots a round orders the rows of, and when. -/
def orderings (r : App.Round) : List (Nat × Published) :=
  [(r.now, r.drawn), (r.later, r.drawn)] ++ r.key.toList.map fun key => (key.reads.now, key.reads.snap)

theorem poll_order {r : App.Round} (ordered : ∀ o ∈ orderings r, KeptBy P o.1 o.2) (holds : P (keptOrder app)) :
    KeptOrDropped P app (app.poll r.key) := by
  unfold App.poll
  split
  · rename_i key read
    split
    · exact onKey_order (ordered (key.reads.now, key.reads.snap) (by simp [orderings, read])) holds
    · exact .inl holds
  · exact .inl holds

/-- Rule for the kept order: what every ordering keeps, a round keeps that sorts by the same
as before; only one that changes the sort drops it. -/
theorem round_order {r : App.Round} (ordered : ∀ o ∈ orderings r, KeptBy P o.1 o.2) (holds : P (keptOrder app)) :
    KeptOrDropped P app (app.round widget r) := by
  have first : KeptBy P r.now r.drawn := ordered (r.now, r.drawn) (by simp [orderings])
  have second : KeptBy P r.later r.drawn := ordered (r.later, r.drawn) (by simp [orderings])
  have drawn : P (keptOrder (app.draw widget r.drawn r.now r.later)) := draw_order first second holds
  have same : (app.draw widget r.drawn r.now r.later).ipSort = app.ipSort := draw_sort
  exact (poll_order ordered drawn).imp id fun dropped => ⟨same ▸ dropped.1, dropped.2⟩

/-- A frame of the table: its own ordering, then that of the heatmap below. -/
theorem table_order (page : app.page = .ipStats) (drill : app.ipDrill = none) (second : KeptBy P later snap)
    (holds : P (keptOrder (app.orderedRows now snap.ipStats).2)) :
    P (keptOrder (app.draw widget snap now later)) := by
  unfold App.draw App.drawIpStats
  simp only [page, drill]
  split
  · exact holds
  · exact second _ holds

/-! ## Every frame -/

/-- The rows of a published table are of different addresses. -/
def Distinct (snap : Published) : Prop := (snap.ipStats.map IpStats.ip).Nodup

instance (snap : Published) : Decidable (Distinct snap) := inferInstanceAs (Decidable (List.Nodup _))

theorem nodup_kept (distinct : Distinct snap) : KeptBy (fun o => o.1.Nodup) now snap :=
  fun _ kept => ordered_nodup distinct kept

theorem run_nodup {rounds : List App.Round} (distinct : ∀ r ∈ rounds, ∀ o ∈ orderings r, Distinct o.2)
    (kept : app.ipSortOrder.Nodup) : (rounds.foldl (App.round widget) app).ipSortOrder.Nodup :=
  (Lib.Run.along_of_forall app distinct).invariant (P := fun app => app.ipSortOrder.Nodup)
    (fun _ _ distinct kept =>
      (round_order (P := fun o => o.1.Nodup) (fun o member => nodup_kept (distinct o member)) kept).elim id
        fun dropped => dropped.2 ▸ List.nodup_nil) kept

/-- Since an order was taken, it was extended at most: it is kept for five seconds. -/
def ExtendedSince (start : List IpAddr × Nat) (o : List IpAddr × Nat) : Prop :=
  start.1 <+: o.1 ∧ o.1.Nodup ∧ (start.1 = [] ∨ o.2 = start.2)

theorem extended_kept {start : List IpAddr × Nat} (distinct : Distinct snap)
    (soon : now - start.2 < sortRefreshUs) : KeptBy (ExtendedSince start) now snap := by
  rintro app ⟨extended, kept, taken⟩
  by_cases empty : start.1 = []
  · exact ⟨empty ▸ List.nil_prefix, ordered_nodup distinct kept, .inl empty⟩
  · have time : app.ipSortLast = start.2 := taken.resolve_left empty
    have filled : app.ipSortOrder ≠ [] := fun none => empty (List.prefix_nil.mp (none ▸ extended))
    have rests : resorts app now = false := by
      simp [resorts, filled, time, soon]
    refine ⟨?_, ordered_nodup distinct kept, ?_⟩
    · simp only [keptOrder, orderedRows_eq distinct, laidOut, rests, Bool.false_eq_true, if_false]
      exact extended.trans (Lib.KeptOrder.prefix_noted _ _)
    · right
      simp only [keptOrder, orderedRows_eq distinct, rests, Bool.false_eq_true, if_false]
      exact time

/-- The addresses the table shows, from the top. -/
def shown (app : App) (r : App.Round) : List IpAddr := (app.orderedRows r.now r.drawn.ipStats).1.map IpStats.ip

/-- Two frames of the table within five seconds of its last sort show the addresses they
share in the same order, and each shows every address of its snapshot once. -/
theorem rows_stable (widget : App.Widget) (before rounds : List App.Round) (first last : App.Round)
    (distinct : ∀ r ∈ before ++ first :: rounds ++ [last], ∀ o ∈ orderings r, Distinct o.2)
    (page : (before.foldl (App.round widget) {}).page = .ipStats)
    (drill : (before.foldl (App.round widget) {}).ipDrill = none)
    (same_sort : Lib.Run.Along (App.round widget) (fun app r => (app.round widget r).ipSort = app.ipSort)
      (before.foldl (App.round widget) {}) (first :: rounds))
    (soon : ∀ r ∈ first :: rounds ++ [last], ∀ o ∈ orderings r,
      o.1 - ((before.foldl (App.round widget) {}).orderedRows first.now first.drawn.ipStats).2.ipSortLast <
        sortRefreshUs) :
    let app := before.foldl (App.round widget) {}
    let later := (first :: rounds).foldl (App.round widget) app
    (shown app first).Perm (first.drawn.ipStats.map IpStats.ip) ∧
    (shown later last).Perm (last.drawn.ipStats.map IpStats.ip) ∧
    (shown app first).filter (· ∈ shown later last) = (shown later last).filter (· ∈ shown app first) := by
  intro app later
  have at_start : app.ipSortOrder.Nodup :=
    run_nodup (fun r member => distinct r (by simp [member])) List.nodup_nil
  have first_rows : Distinct first.drawn := distinct first (by simp) (first.now, first.drawn) (by simp [orderings])
  have last_rows : Distinct last.drawn := distinct last (by simp) (last.now, last.drawn) (by simp [orderings])
  let start := keptOrder (app.orderedRows first.now first.drawn.ipStats).2
  have ordering : ∀ r ∈ first :: rounds ++ [last], ∀ o ∈ orderings r, KeptBy (ExtendedSince start) o.1 o.2 :=
    fun r member o read => extended_kept (distinct r (by simp_all) o read) (soon r member o read)
  have after_first : ExtendedSince start (keptOrder (app.round widget first)) := by
    have drawn : ExtendedSince start (keptOrder (app.draw widget first.drawn first.now first.later)) := by
      apply table_order page drill (ordering first (by simp) (first.later, first.drawn) (by simp [orderings]))
      exact ⟨List.prefix_rfl, ordered_nodup first_rows at_start, .inr rfl⟩
    have same : (app.draw widget first.drawn first.now first.later).ipSort = app.ipSort := draw_sort
    exact (poll_order (ordering first (by simp)) drawn).resolve_right fun dropped =>
      dropped.1 (same_sort.1.trans same.symm)
  have members : Lib.Run.Along (App.round widget) (fun _ r => r ∈ rounds) (app.round widget first) rounds :=
    Lib.Run.along_of_forall _ fun _ member => member
  have along : ExtendedSince start (keptOrder later) :=
    (members.and same_sort.2).invariant (P := fun app => ExtendedSince start (keptOrder app))
      (fun _ r ⟨member, same⟩ extended =>
        (round_order (ordering r (by simp [member])) extended).resolve_right fun dropped => dropped.1 same)
      after_first
  have at_last : ExtendedSince start (keptOrder (later.orderedRows last.now last.drawn.ipStats).2) :=
    ordering last (by simp) (last.now, last.drawn) (by simp [orderings]) later along
  refine ⟨shown_perm first_rows at_start, shown_perm last_rows along.2.1, ?_⟩
  unfold shown
  rw [shown_ips first_rows, shown_ips last_rows]
  exact Lib.KeptOrder.shared_rows at_last.1 at_last.2.1

/-- Two hosts; the second is heard last in the first frame, the first one in the second. -/
theorem rows_stable_twoHosts :
    let host (n : UInt8) : IpAddr := .v4 ⟨10, 0, 0, n⟩
    let heard (n : UInt8) (at_us : UInt64) : IpStats := { ip := host n, lastSeenUs := some at_us }
    let page (rows : List IpStats) : Published := { Published.blank with ipStats := rows }
    let frame (t : Nat) (rows : List IpStats) : App.Round := { drawn := page rows, now := t, later := t, key := none }
    let reads : App.KeyReads := { snap := .blank, again := .blank, now := 0, exported := .ok "" }
    let six : App.KeyPress := { kind := .press, code := .char '6', mods := {}, reads }
    let opened : App.Round := { frame 0 [] with key := some six }
    let first := frame 6000000 [heard 1 10, heard 2 20]
    let last := frame 7000000 [heard 1 30, heard 2 20]
    let app := [opened].foldl (App.round fun _ s => s) {}
    let later := [first].foldl (App.round fun _ s => s) app
    shown app first = [host 2, host 1] ∧
      (shown app first).filter (· ∈ shown later last) = (shown later last).filter (· ∈ shown app first) := by
  intro host heard page frame reads six opened first last app later
  exact ⟨by decide,
    (rows_stable (fun _ s => s) [opened] [] first last (by decide) rfl rfl (by decide) (by decide)).2.2⟩

end Sipmon.Guarantees.IpTable
