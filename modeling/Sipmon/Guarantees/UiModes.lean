import Sipmon.Lib.Run
import Sipmon.Source.App

/-!
# What the terminal UI asks of the pipeline, in every mode

The filter bar and the b-leg picker capture the keyboard; the pipeline reads the
pinned query and the focus hint. `Consistent` is what ties the mode, the query and the
hint together. It holds after every round of the loop, whatever the pipeline published
before each frame and each key.
-/
namespace Sipmon.Guarantees.UiModes
open Sipmon.Source
open Text (Chars trim)

variable {app : App} {snap again drawn : Published} {widget : App.Widget} {code : KeyCode}
  {mods : KeyModifiers} {now later : Nat}

/-! ## The fields that matter -/

/-- Where keys go, and what the pipeline is asked for. -/
structure Modes where
  shared : Shared
  page : Page
  filterQuery : Chars
  filterEditing : Bool
  focusPending : Option String
  linkedCallId : Option String
  bLegPicker : Bool
  bLegQuery : Chars
  ipSummaryWindow : Nat
  ipWindowSecs : Nat
  sipWindowSecs : Nat

def modesOf (app : App) : Modes where
  shared := app.shared
  page := app.page
  filterQuery := app.filterQuery
  filterEditing := app.filterEditing
  focusPending := app.focusPending
  linkedCallId := app.linkedCallId
  bLegPicker := app.bLegPicker
  bLegQuery := app.bLegQuery
  ipSummaryWindow := app.ipSummaryWindow
  ipWindowSecs := app.ipWindowSecs
  sipWindowSecs := app.sipWindowSecs

/-- The query the pipeline is to pin: the filter without the blanks around it. -/
def pinned (query : Chars) : Option String :=
  if (trim query).isEmpty then none else some (String.ofList (trim query))

structure Consistent (m : Modes) : Prop where
  /-- The filter bar belongs to the Overview. -/
  editing : m.filterEditing → m.page = .overview
  /-- The picker is an overlay of the Call Detail. -/
  picking : m.bLegPicker → m.page = .callDetail
  /-- The pipeline pins what the filter bar shows. -/
  search : m.shared.search = pinned m.filterQuery
  /-- A query of the picker does not outlive it. -/
  query : m.bLegPicker ∨ m.bLegQuery = []
  /-- A call announced as opening is the one the pipeline is asked for. -/
  pending : ∀ id ∈ m.focusPending, ∃ hint ∈ m.shared.focus, hint.primary = id
  /-- So is a linked b-leg. -/
  linked : ∀ id ∈ m.linkedCallId, ∃ hint ∈ m.shared.focus, hint.linked = some id
  /-- No call is its own b-leg. -/
  apart : ∀ hint ∈ m.shared.focus, hint.linked ≠ some hint.primary
  /-- The windows of the statistics are among those offered. -/
  summary : m.ipSummaryWindow ∈ windows.map Prod.fst
  losses : m.ipWindowSecs ∈ [60, 600, 3600]
  bucket : m.sipWindowSecs ∈ SipIpStats.seriesBuckets

theorem initial : Consistent (modesOf {}) where
  editing := by simp [modesOf]
  picking := by simp [modesOf]
  search := by decide
  query := by simp [modesOf]
  pending := by simp [modesOf]
  linked := by simp [modesOf]
  apart := by simp [modesOf]
  summary := by decide
  losses := by decide
  bucket := by decide

/-! ## The selection -/

theorem anchor_modes : modesOf (app.anchorOverviewSelection snap) = modesOf app := by
  simp only [App.anchorOverviewSelection]
  cases app.selectedCall
  · cases app.tableState <;> rfl
  · rfl

/-- Ordering the IP rows touches the kept order alone. -/
theorem ordered_frame (app : App) (now : Nat) (rows : List IpStats) :
    ∃ order last, (app.orderedRows now rows).2 = { app with ipSortOrder := order, ipSortLast := last } := by
  have grown : ∀ (rows shown : List IpStats) (fresh : App),
      (∃ order last, fresh = { app with ipSortOrder := order, ipSortLast := last }) →
      ∃ order last, (rows.foldl (fun (r : List IpStats × App) s =>
        if s.ip ∈ r.2.ipSortOrder then r
        else (r.1 ++ [s], { r.2 with ipSortOrder := r.2.ipSortOrder ++ [s.ip] })) (shown, fresh)).2 =
          { app with ipSortOrder := order, ipSortLast := last } := by
    intro rows
    induction rows with
    | nil => exact fun _ _ kept => kept
    | cons s rest ih =>
      rintro shown _ ⟨order, last, rfl⟩
      simp only [List.foldl_cons]
      split
      · exact ih _ _ ⟨order, last, rfl⟩
      · exact ih _ _ ⟨order ++ [s.ip], last, rfl⟩
  simp only [App.orderedRows]
  apply grown
  split
  · exact ⟨_, _, rfl⟩
  · exact ⟨_, _, rfl⟩

theorem ordered_modes {rows : List IpStats} : modesOf (app.orderedRows now rows).2 = modesOf app := by
  obtain ⟨order, last, same⟩ := ordered_frame app now rows
  rw [same]
  rfl

/-! ## Frames -/

theorem draw_ip_modes : modesOf (app.drawIpStats widget snap now later) = modesOf app := by
  unfold App.drawIpStats
  cases app.ipDrill with
  | none =>
    simp only []
    split
    · exact ordered_modes
    · exact ordered_modes.trans ordered_modes
  | some ip =>
    simp only []
    split
    · rfl
    · exact ordered_modes

theorem draw_detail_modes :
    modesOf (app.drawCallDetail widget snap) = modesOf app ∨
      modesOf (app.drawCallDetail widget snap) = { modesOf app with focusPending := none } := by
  unfold App.drawCallDetail
  cases snap.focus with
  | none => exact .inl rfl
  | some focus =>
    right
    simp only []
    split
    · rfl
    · rfl

/-- A frame changes the selections, and drops the announcement once the detail is there. -/
theorem draw_modes (app : App) (widget : App.Widget) (snap : Published) (now later : Nat) :
    modesOf (app.draw widget snap now later) = modesOf app ∨
      modesOf (app.draw widget snap now later) = { modesOf app with focusPending := none } := by
  unfold App.draw
  split
  · exact .inl anchor_modes
  · exact draw_detail_modes
  · exact .inl rfl
  · exact .inl rfl
  · exact .inl rfl
  · exact .inl draw_ip_modes

/-! ## The focus hint -/

/-- A detail is opened from a list: no bar, no picker, no b-leg. -/
theorem openDetail_consistent (ok : Consistent (modesOf app)) (bar : app.filterEditing = false)
    (id : String) : Consistent (modesOf (app.openDetail id)) :=
  { ok with
    editing := by simp [modesOf, App.openDetail, App.publishFocus, bar]
    picking := by simp [modesOf, App.openDetail, App.publishFocus]
    query := by simp [modesOf, App.openDetail, App.publishFocus]
    pending := by simp [modesOf, App.openDetail, App.publishFocus]
    linked := by simp [modesOf, App.openDetail, App.publishFocus]
    apart := by simp [modesOf, App.openDetail, App.publishFocus] }

theorem closeDetail_consistent (ok : Consistent (modesOf app)) :
    Consistent (modesOf app.closeDetail) :=
  { ok with
    editing := by simp [modesOf, App.closeDetail]
    picking := by simp [modesOf, App.closeDetail]
    query := by simp [modesOf, App.closeDetail]
    pending := by simp [modesOf, App.closeDetail]
    linked := by simp [modesOf, App.closeDetail]
    apart := by simp [modesOf, App.closeDetail] }

theorem backKey_consistent (ok : Consistent (modesOf app)) : Consistent (modesOf app.backKey) := by
  unfold App.backKey
  split
  · exact closeDetail_consistent ok
  · split
    · exact ok
    · exact ok

/-- Clearing keeps the hint, and forgets what was opening. -/
theorem clearKey_consistent (ok : Consistent (modesOf app)) (picker : app.bLegPicker = false) :
    Consistent (modesOf app.clearKey) :=
  { ok with
    picking := by simp [modesOf, App.clearKey]
    query := by simpa [modesOf, App.clearKey, App.setStatus, picker] using ok.query
    pending := by simp [modesOf, App.clearKey]
    linked := by simp [modesOf, App.clearKey] }

theorem openBLegPicker_consistent (ok : Consistent (modesOf app)) (page : app.page = .callDetail) :
    Consistent (modesOf app.openBLegPicker) :=
  { ok with
    picking := fun _ => page
    query := by simp [modesOf, App.openBLegPicker, App.setStatus] }

/-- `publish_focus` of a call without a b-leg. -/
theorem publish_unlinked (ok : Consistent (modesOf app)) (link : app.linkedCallId = none) (id : String) :
    Consistent (modesOf (app.publishFocus id)) :=
  { ok with
    pending := by simp [modesOf, App.publishFocus]
    linked := by simp [modesOf, App.publishFocus, link]
    apart := by simp [modesOf, App.publishFocus, link] }

theorem clearBLegLink_consistent (ok : Consistent (modesOf app)) (picker : app.bLegPicker = false) :
    Consistent (modesOf app.clearBLegLink) := by
  have unlinked : Consistent (modesOf { app with linkedCallId := none, bLegPicker := false }) :=
    { ok with
      picking := by simp [modesOf]
      query := by simpa [modesOf, picker] using ok.query
      linked := by simp [modesOf] }
  unfold App.clearBLegLink
  simp only []
  split
  · exact publish_unlinked unlinked rfl _
  · exact unlinked

/-- The picker offers every call but the focused one, so no call is linked to itself. -/
theorem bLegPickerKey_consistent (ok : Consistent (modesOf app)) (picker : app.bLegPicker = true) :
    Consistent (modesOf (app.bLegPickerKey snap code)) := by
  unfold App.bLegPickerKey
  simp only []
  split
  · exact { ok with
      picking := by simp [modesOf, App.setStatus]
      query := by simp [modesOf, App.setStatus] }
  · split
    · rename_i c chosen
      have offered : c ∈ bLegCandidates snap (app.pickerPrimary snap) app.bLegQuery := by
        obtain ⟨i, -, at_row⟩ := Option.bind_eq_some_iff.mp chosen
        exact List.mem_of_getElem? at_row
      have other : c.callId ≠ app.pickerPrimary snap := by
        simpa using (List.mem_filter.mp (List.mem_filter.mp offered).1).2
      exact { ok with
        picking := by simp [modesOf, App.setStatus, App.publishFocus]
        query := by simp [modesOf, App.setStatus, App.publishFocus]
        pending := by simp [modesOf, App.setStatus, App.publishFocus]
        linked := by simp [modesOf, App.setStatus, App.publishFocus]
        apart := by simpa [modesOf, App.setStatus, App.publishFocus] using other }
    · exact ok
  · exact { ok with query := .inl picker }
  · exact { ok with query := .inl picker }
  · split
    · exact ok
    · exact ok

/-! ## The filter bar -/

/-- Each key in the bar edits the query or leaves the bar, and pins the outcome. -/
theorem filterKey_consistent (ok : Consistent (modesOf app)) :
    Consistent (modesOf (app.filterKey snap again code mods)) := by
  have edited : ∀ query, Consistent { modesOf app with filterQuery := query, shared.search := pinned query } :=
    fun query => { ok with search := rfl }
  have left : ∀ query, Consistent
      { modesOf app with filterQuery := query, filterEditing := false, shared.search := pinned query } :=
    fun query => { ok with editing := by simp, search := rfl }
  unfold App.filterKey
  split
  · exact ok
  · exact edited _
  · exact left _
  · exact left _
  · exact edited _
  · exact edited _
  · split
    · exact edited _
    · exact edited _

/-! ## The pages -/

theorem cycleIpWindow_consistent (ok : Consistent (modesOf app)) :
    Consistent (modesOf app.cycleIpWindow) :=
  { ok with
    losses := by
      dsimp only [modesOf, App.cycleIpWindow, App.setStatus]
      split <;> simp }

theorem nextOf_mem {vals : List Nat} (some_value : vals ≠ []) (current : Nat) :
    App.nextOf vals current ∈ vals := by
  have bound : ((vals.findIdx? (· == current)).getD 0 + 1) % vals.length < vals.length :=
    Nat.mod_lt _ (List.length_pos_iff.mpr some_value)
  simp [App.nextOf, List.getD, List.getElem?_eq_getElem bound]

theorem cycleIpSummaryWindow_consistent (ok : Consistent (modesOf app)) :
    Consistent (modesOf app.cycleIpSummaryWindow) :=
  { ok with summary := nextOf_mem (by decide) _ }

theorem ipKey_consistent (ok : Consistent (modesOf app)) (bar : app.filterEditing = false) :
    Consistent (modesOf (app.ipKey snap now code)) := by
  have ordered : Consistent (modesOf (app.orderedRows now snap.ipStats).2) := by
    rw [ordered_modes]
    exact ok
  unfold App.ipKey
  split
  · simp only []
    split
    · split
      · exact openDetail_consistent ok bar _
      · exact ok
    · split
      · exact ok
      · exact ok
  · split
    · simp only []
      split
      · exact ordered
      · exact ordered
    · exact ok
    · split
      · exact cycleIpSummaryWindow_consistent ok
      · exact cycleIpWindow_consistent ok
    · exact ok
    · split
      · exact ok
      · exact ok

theorem overviewKey_consistent (ok : Consistent (modesOf app)) (bar : app.filterEditing = false) :
    Consistent (modesOf (app.overviewKey snap again code)) := by
  unfold App.overviewKey
  split
  · split
    · exact ok
    · exact { ok with editing := by simp [modesOf, App.setStatus, App.clampOverviewSelection,
                App.syncOverviewSelection, App.syncSearchPin], search := rfl }
  · simp only []
    split
    · exact openDetail_consistent ok bar _
    · exact ok
  · split
    · exact ok
    · exact ok

theorem callDetailKey_consistent (ok : Consistent (modesOf app)) (page : app.page = .callDetail)
    (picker : app.bLegPicker = false) : Consistent (modesOf (app.callDetailKey snap code)) := by
  unfold App.callDetailKey
  simp only []
  split
  · exact ok
  · exact ok
  · exact ok
  · exact ok
  · exact openBLegPicker_consistent ok page
  · exact clearBLegLink_consistent ok picker
  · exact ok

theorem heatmapKey_consistent (ok : Consistent (modesOf app)) :
    Consistent (modesOf (app.heatmapKey snap code)) := by
  unfold App.heatmapKey
  split
  · exact ok
  · exact { ok with bucket := nextOf_mem (by decide) _ }
  · split
    · exact ok
    · exact ok

theorem eventLogKey_consistent (ok : Consistent (modesOf app)) :
    Consistent (modesOf (app.eventLogKey code)) := by
  unfold App.eventLogKey
  split
  · exact ok
  · exact ok

theorem pageKey_consistent (ok : Consistent (modesOf app)) (bar : app.filterEditing = false)
    (picker : app.bLegPicker = false) : Consistent (modesOf (app.pageKey snap again now code)) := by
  unfold App.pageKey
  split
  · exact overviewKey_consistent ok bar
  · rename_i page
    exact callDetailKey_consistent ok page picker
  · split
    · exact ok
    · exact ok
  · exact eventLogKey_consistent ok
  · exact ipKey_consistent ok bar
  · exact heatmapKey_consistent ok

/-! ## Every key, every frame -/

/-- Leaving for another page needs the bar and the picker closed. -/
theorem page_consistent (ok : Consistent (modesOf app)) (bar : app.filterEditing = false)
    (picker : app.bLegPicker = false) (page : Page) : Consistent (modesOf { app with page }) :=
  { ok with
    editing := by simp [modesOf, bar]
    picking := by simp [modesOf, picker] }

theorem onKey_consistent (ok : Consistent (modesOf app)) (reads : App.KeyReads) :
    Consistent (modesOf (app.onKey reads code mods)) := by
  unfold App.onKey
  split
  · rename_i picker
    exact bLegPickerKey_consistent ok picker
  rename_i picker
  rw [Bool.not_eq_true] at picker
  split
  · exact filterKey_consistent ok
  rename_i bar
  rw [Bool.not_eq_true] at bar
  split
  · exact ok
  have turned : ∀ page, Consistent (modesOf { app with page }) := page_consistent ok bar picker
  split
  · exact backKey_consistent ok
  · exact backKey_consistent ok
  · split
    · exact closeDetail_consistent ok
    · split
      · exact ok
      · exact ok
  · exact turned _
  · exact turned _
  · exact { ok with search := ok.search }
  · exact turned _
  · exact turned _
  · exact turned _
  · exact turned _
  · exact turned _
  · exact turned _
  · exact { turned .overview with editing := fun _ => rfl }
  · unfold App.doExport
    split
    · exact ok
    · exact ok
  · exact ok
  · exact ok
  · exact clearKey_consistent ok picker
  · exact pageKey_consistent ok bar picker

theorem draw_consistent (ok : Consistent (modesOf app)) :
    Consistent (modesOf (app.draw widget snap now later)) := by
  rcases draw_modes app widget snap now later with same | dropped
  · rw [same]
    exact ok
  · rw [dropped]
    exact { ok with pending := by simp }

theorem round_consistent (ok : Consistent (modesOf app)) (r : App.Round) :
    Consistent (modesOf (app.round widget r)) := by
  unfold App.round App.poll
  split
  · split
    · exact onKey_consistent (draw_consistent ok) _
    · exact draw_consistent ok
  · exact draw_consistent ok

theorem runTui_consistent (ok : Consistent (modesOf app)) (rounds : List App.Round) :
    Consistent (modesOf (app.runTui widget rounds)) := by
  induction rounds generalizing app with
  | nil => exact ok
  | cons r rest ih =>
    unfold App.runTui
    simp only []
    split
    · exact round_consistent ok r
    · exact ih (round_consistent ok r)

/-- The modes, the pinned query and the focus hint agree after every round of the loop. -/
theorem run_consistent (widget : App.Widget) (rounds : List App.Round) :
    Consistent (modesOf (App.runTui widget {} rounds)) :=
  runTui_consistent initial rounds

/-! ## An edit of the filter -/

/-- The bar is open since `start`: all that can have changed of what the pipeline sees is
the pinned query. -/
structure EditedSince (start app : App) : Prop where
  bar : app.filterEditing = true
  picker : app.bLegPicker = false
  backup : app.filterBackup = start.filterQuery
  shared : { app.shared with search := start.shared.search } = start.shared
  page : app.page = .overview

variable {start : App}

theorem edit_begins (bar : app.filterEditing = false) (picker : app.bLegPicker = false)
    (reads : App.KeyReads) : EditedSince app (app.onKey reads (.char '/') mods) := by
  have opened : app.onKey reads (.char '/') mods =
      ({ app with page := .overview, filterEditing := true, filterBackup := app.filterQuery } : App).clampOverviewSelection
        reads.snap := by
    simp [App.onKey, bar, picker]
  rw [opened]
  exact { bar := rfl, picker, backup := rfl, shared := rfl, page := rfl }

theorem edit_drawn (edited : EditedSince start app) :
    EditedSince start (app.draw widget snap now later) := by
  have anchored : EditedSince start (app.anchorOverviewSelection snap) := by
    unfold App.anchorOverviewSelection
    simp only []
    split
    · exact { edited with bar := edited.bar }
    · split
      · exact { edited with bar := edited.bar }
      · exact edited
  unfold App.draw
  rw [edited.page]
  exact { anchored with bar := anchored.bar }

/-- A key that leaves the bar open. -/
theorem edit_key (edited : EditedSince start app) (reads : App.KeyReads)
    (still : (app.onKey reads code mods).filterEditing = true) :
    EditedSince start (app.onKey reads code mods) := by
  unfold App.onKey at still ⊢
  simp only [edited.picker, edited.bar, Bool.false_eq_true, if_false, if_true] at still ⊢
  have typed : ∀ query row id search, EditedSince start
      { app with filterQuery := query, tableState := row, selectedCall := id, shared.search := search } :=
    fun _ _ _ _ => { edited with shared := edited.shared }
  unfold App.filterKey at still ⊢
  split
  · exact { edited with bar := edited.bar }
  · exact typed _ _ _ _
  · simp [App.syncSearchPin] at still
  · simp [App.syncSearchPin] at still
  · exact typed _ _ _ _
  · exact typed _ _ _ _
  · split
    · exact typed _ _ _ _
    · exact typed _ _ _ _

theorem edit_round (edited : EditedSince start app) (r : App.Round)
    (still : (app.round widget r).filterEditing = true) : EditedSince start (app.round widget r) := by
  have drawn : EditedSince start (app.draw widget r.drawn r.now r.later) := edit_drawn edited
  unfold App.round App.poll at still ⊢
  cases read : r.key with
  | none => exact drawn
  | some key =>
    rw [read] at still
    simp only [] at still ⊢
    split
    · rename_i taken
      rw [if_pos taken] at still
      exact edit_key drawn key.reads still
    · exact drawn

/-- Escape puts the query back, and the pipeline sees nothing of the edit. -/
theorem edit_ends (ok : Consistent (modesOf start)) (edited : EditedSince start app) (reads : App.KeyReads) :
    let after := app.onKey reads .esc mods
    after.shared = start.shared ∧ after.filterQuery = start.filterQuery ∧ after.filterEditing = false ∧
      after.page = .overview := by
  have escaped : app.onKey reads .esc mods =
      ({ app with filterQuery := app.filterBackup, filterEditing := false } : App).syncSearchPin := by
    simp [App.onKey, App.filterKey, edited.picker, edited.bar]
  intro after
  have search : start.shared.search = pinned app.filterBackup := by
    rw [edited.backup]
    exact ok.search
  have same : after = ({ app with filterQuery := app.filterBackup, filterEditing := false } : App).syncSearchPin :=
    escaped
  rw [same]
  refine ⟨?_, edited.backup, rfl, edited.page⟩
  calc ({ app with filterQuery := app.filterBackup, filterEditing := false } : App).syncSearchPin.shared
      = { app.shared with search := pinned app.filterBackup } := rfl
    _ = { app.shared with search := start.shared.search } := by rw [search]
    _ = start.shared := edited.shared

/-- A frame leaves the bar, the picker, the query and the cells of the pipeline alone. -/
theorem draw_kept (app : App) (widget : App.Widget) (snap : Published) (now later : Nat) :
    let after := app.draw widget snap now later
    after.shared = app.shared ∧ after.filterQuery = app.filterQuery ∧
      after.filterEditing = app.filterEditing ∧ after.bLegPicker = app.bLegPicker := by
  intro after
  rcases draw_modes app widget snap now later with same | dropped
  · exact ⟨congrArg Modes.shared same, congrArg Modes.filterQuery same, congrArg Modes.filterEditing same,
      congrArg Modes.bLegPicker same⟩
  · exact ⟨congrArg Modes.shared dropped, congrArg Modes.filterQuery dropped, congrArg Modes.filterEditing dropped,
      congrArg Modes.bLegPicker dropped⟩

/-- An edit of the filter that ends in Escape, whatever was typed and drawn in between,
leaves the query, the pinned query, the focus hint and the requests to the pipeline as
they were when the bar was opened. -/
theorem edit_rolled_back (widget : App.Widget) (before rounds : List App.Round) (first last : App.Round)
    (bar : (App.runTui widget {} before).filterEditing = false)
    (picker : (App.runTui widget {} before).bLegPicker = false)
    (slash : ∃ mods reads, first.key = some { kind := .press, code := .char '/', mods, reads })
    (still : Lib.Run.Along (App.round widget) (fun app r => (app.round widget r).filterEditing = true)
      ((App.runTui widget {} before).round widget first) rounds)
    (escape : ∃ mods reads, last.key = some { kind := .press, code := .esc, mods, reads }) :
    let app := App.runTui widget {} before
    let after := (first :: rounds ++ [last]).foldl (App.round widget) app
    after.shared = app.shared ∧ after.filterQuery = app.filterQuery ∧ after.filterEditing = false := by
  intro app after
  obtain ⟨how, opening, slash⟩ := slash
  obtain ⟨how_last, closing, escape⟩ := escape
  let drawn := app.draw widget first.drawn first.now first.later
  obtain ⟨shared, query, bar_drawn, picker_drawn⟩ :=
    draw_kept app widget first.drawn first.now first.later
  have ok : Consistent (modesOf drawn) := draw_consistent (runTui_consistent initial before)
  have opened : EditedSince drawn (app.round widget first) := by
    have pressed : app.round widget first = drawn.onKey opening (.char '/') how := by
      simp [App.round, App.poll, slash, App.taken, drawn]
    rw [pressed]
    exact edit_begins (bar_drawn.trans bar) (picker_drawn.trans picker) opening
  have edited : EditedSince drawn (rounds.foldl (App.round widget) (app.round widget first)) :=
    still.invariant (P := EditedSince drawn) (fun _ r open_ edited => edit_round edited r open_) opened
  have closed : after =
      ((rounds.foldl (App.round widget) (app.round widget first)).draw widget last.drawn last.now last.later).onKey
        closing .esc how_last := by
    simp [after, App.round, App.poll, escape, App.taken]
  obtain ⟨same_shared, same_query, shut, -⟩ := edit_ends ok (edit_drawn edited) closing
  rw [closed]
  exact ⟨same_shared.trans shared, same_query.trans query, shut⟩

/-- `/`, a letter, Escape. -/
theorem edit_rolled_back_letter :
    let reads : App.KeyReads := { snap := .blank, again := .blank, now := 0, exported := .ok "" }
    let pressed (code : KeyCode) : App.Round :=
      { drawn := .blank, now := 0, later := 0, key := some { kind := .press, code, mods := {}, reads } }
    ((pressed (.char '/') :: [pressed (.char 'b')] ++ [pressed .esc]).foldl (App.round fun _ s => s) {}).shared =
      (App.runTui (fun _ s => s) {} []).shared :=
  (edit_rolled_back (fun _ s => s) [] [_] _ _ rfl rfl ⟨_, _, rfl⟩ ⟨by decide, trivial⟩ ⟨_, _, rfl⟩).1

end Sipmon.Guarantees.UiModes
