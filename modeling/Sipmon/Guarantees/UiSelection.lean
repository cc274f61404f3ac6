import Sipmon.Lib.Run
import Sipmon.Source.App

/-!
# The row a table highlights

The call list is republished while it is read: calls come, go and move. The Overview
keeps its highlight on the selected call, not on its row, and Enter opens the call that
is highlighted.
-/
namespace Sipmon.Guarantees.UiSelection
open Sipmon.Source

variable {app : App} {snap last : Published} {widget : App.Widget} {now later : Nat} {id : String}

/-- What the table widget leaves of a selection: a row of the table stays, no row stays none. -/
structure KeepsRows (widget : App.Widget) : Prop where
  row : ∀ {n i}, i < n → widget n (some i) = some i
  none : ∀ n, widget n none = none

/-- Keys of the Overview that neither select, nor edit the filter, nor leave. -/
def steady : KeyCode → Bool
  | .char c => c ∉ ['c', 'x', '/', 'q', '1', '2', '3', '4', '5', '6']
  | .left | .home | .last | .backspace | .other => true
  | _ => false

/-- The Overview, without the filter bar, with a call selected. -/
structure Anchored (id : String) (app : App) : Prop where
  page : app.page = .overview
  bar : app.filterEditing = false
  picker : app.bLegPicker = false
  selected : app.selectedCall = some id

theorem draw_overview (page : app.page = .overview) :
    app.draw widget snap now later = { app.anchorOverviewSelection snap with
      tableState := widget ((app.anchorOverviewSelection snap).filteredCalls snap).length
        (app.anchorOverviewSelection snap).tableState } := by
  unfold App.draw
  rw [page]

theorem anchor_selected (selected : app.selectedCall = some id) :
    app.anchorOverviewSelection snap = { app with
      tableState := (app.filteredCalls snap).findIdx? fun c => c.callId == id } := by
  unfold App.anchorOverviewSelection
  rw [selected]

theorem anchored_draw (anchored : Anchored id app) : Anchored id (app.draw widget snap now later) := by
  rw [draw_overview anchored.page, anchor_selected anchored.selected]
  exact { anchored with page := anchored.page }

theorem stepOf_steady {code : KeyCode} (quiet : steady code = true) : stepOf code = none := by
  cases code
  case down | up | pageDown | pageUp => exact absurd quiet (by decide)
  all_goals rfl

theorem anchored_page_key (anchored : Anchored id app) {code : KeyCode} (quiet : steady code = true)
    (again : Published) : Anchored id (app.pageKey snap again now code) := by
  unfold App.pageKey
  rw [anchored.page]
  simp only [App.overviewKey]
  split
  · exact absurd quiet (by decide)
  · exact absurd quiet (by decide)
  · rw [stepOf_steady quiet]
    exact anchored

theorem anchored_key (anchored : Anchored id app) {code : KeyCode} (quiet : steady code = true)
    (reads : App.KeyReads) (mods : KeyModifiers) : Anchored id (app.onKey reads code mods) := by
  unfold App.onKey
  rw [if_neg (by simp [anchored.picker]), if_neg (by simp [anchored.bar])]
  split
  · rename_i interrupt
    rw [interrupt.1] at quiet
    exact absurd quiet (by decide)
  split
  · exact absurd quiet (by decide)
  · exact absurd quiet (by decide)
  · rw [if_neg (by simp [anchored.page]), if_neg (by simp [anchored.page])]
    exact anchored
  · exact absurd quiet (by decide)
  · exact absurd quiet (by decide)
  · exact { anchored with page := anchored.page }
  · exact absurd quiet (by decide)
  · exact absurd quiet (by decide)
  · exact absurd quiet (by decide)
  · exact absurd quiet (by decide)
  · exact absurd quiet (by decide)
  · exact absurd quiet (by decide)
  · exact absurd quiet (by decide)
  · unfold App.doExport
    split
    · exact { anchored with page := anchored.page }
    · exact { anchored with page := anchored.page }
  · exact { anchored with page := anchored.page }
  · exact { anchored with page := anchored.page }
  · exact absurd quiet (by decide)
  · exact anchored_page_key anchored quiet _

theorem anchored_round (anchored : Anchored id app) (r : App.Round)
    (quiet : ∀ key ∈ r.key, steady key.code = true) : Anchored id (app.round widget r) := by
  unfold App.round App.poll
  split
  · rename_i key read
    split
    · exact anchored_key (anchored_draw anchored) (quiet key (by simp [read])) _ _
    · exact anchored_draw anchored
  · exact anchored_draw anchored

/-- The row drawn: where the selected call is, if it is listed at all. -/
theorem drawn_row (keeps : KeepsRows widget) (anchored : Anchored id app) :
    let drawn := app.draw widget snap now later
    drawn.tableState = (drawn.filteredCalls snap).findIdx? fun c => c.callId == id := by
  intro drawn
  have frame : drawn = { app with
      tableState := widget (app.filteredCalls snap).length
        ((app.filteredCalls snap).findIdx? fun c => c.callId == id) } := by
    unfold drawn
    rw [draw_overview anchored.page, anchor_selected anchored.selected]
    rfl
  rw [frame]
  cases found : (app.filteredCalls snap).findIdx? fun c => c.callId == id with
  | none => exact (keeps.none _).trans found.symm
  | some i =>
    have bound : i < (app.filteredCalls snap).length := (List.findIdx?_eq_some_iff_getElem.mp found).1
    exact (keeps.row bound).trans found.symm

/-- Enter on the frame that was drawn opens the call at the highlighted row. -/
theorem enter_opens (anchored : Anchored id app)
    (row : app.tableState = (app.filteredCalls snap).findIdx? fun c => c.callId == id)
    (listed : ∃ c ∈ app.filteredCalls snap, c.callId = id) (reads : App.KeyReads) (current : reads.snap = snap)
    (mods : KeyModifiers) : app.onKey reads .enter mods = app.openDetail id := by
  obtain ⟨i, found⟩ : ∃ i, (app.filteredCalls snap).findIdx? (fun c => c.callId == id) = some i := by
    obtain ⟨c, member, same⟩ := listed
    rw [← Option.isSome_iff_exists, List.findIdx?_isSome]
    exact List.any_eq_true.mpr ⟨c, member, by simp [same]⟩
  obtain ⟨bound, same, -⟩ := List.findIdx?_eq_some_iff_getElem.mp found
  have opened : app.onKey reads .enter mods = app.overviewKey reads.snap reads.again .enter := by
    simp [App.onKey, App.pageKey, anchored.page, anchored.bar, anchored.picker]
  rw [opened, current]
  simp [App.overviewKey, row, found, selectedOr0, List.getElem?_eq_getElem bound, eq_of_beq same]

/-- Whatever is published while a call is selected, and whichever keys are pressed that do
not select, the frame highlights that call, and Enter opens it. -/
theorem selection_anchored (widget : App.Widget) (keeps : KeepsRows widget) (app : App) (id : String)
    (anchored : Anchored id app) (rounds : List App.Round)
    (quiet : ∀ r ∈ rounds, ∀ key ∈ r.key, steady key.code = true) (last : Published) (now later : Nat) :
    let drawn := (rounds.foldl (App.round widget) app).draw widget last now later
    drawn.selectedCall = some id ∧
    drawn.tableState = ((drawn.filteredCalls last).findIdx? fun c => c.callId == id) ∧
    ∀ (reads : App.KeyReads) (mods : KeyModifiers), reads.snap = last →
      (∃ c ∈ drawn.filteredCalls last, c.callId = id) →
      let opened := drawn.onKey reads .enter mods
      opened.page = .callDetail ∧ opened.shared.focus = some { primary := id, linked := none } := by
  intro drawn
  have steady_run : Anchored id (rounds.foldl (App.round widget) app) :=
    (Lib.Run.along_of_forall app quiet).invariant (P := Anchored id)
      (fun _ r quiet anchored => anchored_round anchored r quiet) anchored
  have at_frame : Anchored id drawn := anchored_draw steady_run
  have row : drawn.tableState = ((drawn.filteredCalls last).findIdx? fun c => c.callId == id) :=
    drawn_row keeps steady_run
  refine ⟨at_frame.selected, row, fun reads mods current listed => ?_⟩
  intro opened
  have opens : opened = drawn.openDetail id := enter_opens at_frame row listed reads current mods
  rw [opens]
  exact ⟨rfl, rfl⟩

/-- The table widget's own rule: the last row where the table got too short. -/
def clamped (n : Nat) (row : Option Nat) : Option Nat :=
  if n = 0 then none else row.map fun i => min i (n - 1)

theorem clamped_keepsRows : KeepsRows clamped where
  row {n i} bound := by
    have last_row : min i (n - 1) = i := by omega
    simp [clamped, Nat.ne_of_gt (Nat.zero_lt_of_lt bound), last_row]
  none n := by simp [clamped]

def listedCall (callId : String) : CallSummary :=
  { callId, fromUser := none, toUser := none, callerIp := none, callerSrc := none, state := .active
    outcome := .inProgress, inviteTs := none, durationMs := none, pddMs := none, setupMs := none, ringMs := none
    ringCode := none, earlyMedia := false, hangupBy := none, hangupCode := none, pktsSip := 1, pktsRtp := 0
    bestMos := none, warnCount := 0, criticalCount := 0, streamCount := 0, viaTurn := false, ips := [] }

/-- A call comes in above the selected one. -/
theorem selection_anchored_shifted :
    let listed (ids : List String) : Published := { Published.blank with calls := ids.map listedCall }
    let quiet : App.Round := { drawn := listed ["b"], now := 0, later := 0, key := none }
    let start : App := { selectedCall := some "b", tableState := some 0 }
    (([quiet].foldl (App.round clamped) start).draw clamped (listed ["a", "b"]) 0 0).tableState = some 1 := by
  intro listed quiet start
  have anchored : Anchored "b" start := { page := rfl, bar := rfl, picker := rfl, selected := rfl }
  have row := (selection_anchored clamped clamped_keepsRows start "b" anchored [quiet] (by simp [quiet])
    (listed ["a", "b"]) 0 0).2.1
  rw [row]
  decide

end Sipmon.Guarantees.UiSelection
