import Sipmon.Source.Focus

/-!
# The terminal UI (`src/ui/app.rs`, `src/ui/ipstats.rs:24-77`, `src/main.rs:1321-1349`)

`App` is what the UI thread keeps and the cells it shares with the pipeline;
`onKey` is one key press, `draw` what a frame leaves behind. A key reads the published
snapshot once, and once more where the selection is clamped after an edit: the pipeline
may have published in between. Lists are shorter than 2^31 rows. The scroll offset of a
table, the recording indicator and the local addresses are left out; the outcome of
writing an export file is an input.
-/
namespace Sipmon.Source
open Text (Chars trim)

/-- `f` on the Overview: one state, or all. -/
inductive CallFilter where
  | all | dialing | ringing | active | completed | failed | canceled
  deriving DecidableEq, Repr

namespace CallFilter

def label : CallFilter → String
  | all => "all"
  | dialing => "dialing"
  | ringing => "ringing"
  | active => "active"
  | completed => "success"
  | failed => "failed"
  | canceled => "canceled"

def «matches» : CallFilter → CallState → Bool
  | all, _ => true
  | dialing, s => s == .dialing
  | ringing, s => s == .ringing
  | active, s => s == .active
  | completed, s => s == .completed
  | failed, s => s == .failed
  | canceled, s => s == .canceled

def next : CallFilter → CallFilter
  | all => dialing
  | dialing => ringing
  | ringing => active
  | active => completed
  | completed => failed
  | failed => canceled
  | canceled => all

end CallFilter

inductive Page where
  | overview | callDetail | heatmap | streams | eventLog | ipStats
  deriving DecidableEq, Repr

namespace Page

/-- `Page::ALL`. -/
def every : List Page := [.overview, .callDetail, .heatmap, .streams, .eventLog, .ipStats]

def index (p : Page) : Nat := every.idxOf p

/-- `cycle_page`. -/
def cycle (p : Page) (fwd : Bool) : Page :=
  let n := every.length
  let i := if fwd then (p.index + 1) % n else (p.index + n - 1) % n
  every.getD i .overview

end Page

inductive IpSort where
  | newest | maxLoss | minLoss
  deriving DecidableEq, Repr

namespace IpSort

def label : IpSort → String
  | newest => "newest"
  | maxLoss => "max-loss"
  | minLoss => "min-loss"

def next : IpSort → IpSort
  | newest => maxLoss
  | maxLoss => minLoss
  | minLoss => newest

end IpSort

inductive SipSort where
  | invites | errors | asr
  deriving DecidableEq, Repr

namespace SipSort

def label : SipSort → String
  | invites => "invites"
  | errors => "errors"
  | asr => "asr"

def next : SipSort → SipSort
  | invites => errors
  | errors => asr
  | asr => invites

end SipSort

/-- The keys the UI tells apart. -/
inductive KeyCode where
  | char (c : Char)
  | esc | enter | backspace | left | right | up | down | home | last | pageUp | pageDown
  | tab | backTab
  | other
  deriving DecidableEq, Repr

structure KeyModifiers where
  control : Bool := false
  deriving DecidableEq, Repr

inductive KeyEventKind where
  | press | repeat_ | release
  deriving DecidableEq, Repr

/-- The cells the UI shares with the pipeline (`Shared`), without the published snapshot. -/
structure Shared where
  pause : Bool := false
  focus : Option FocusHint := none
  search : Option String := none
  quit : Bool := false
  clear : Bool := false
  deriving DecidableEq

structure App where
  shared : Shared := {}
  page : Page := .overview
  filterQuery : Chars := []
  filterEditing : Bool := false
  /-- The query when editing started. -/
  filterBackup : Chars := []
  tableState : Option Nat := none
  focusPending : Option String := none
  selectedCall : Option String := none
  linkedCallId : Option String := none
  bLegPicker : Bool := false
  bLegQuery : Chars := []
  bLegState : Option Nat := none
  filter : CallFilter := .all
  streamsState : Option Nat := none
  eventlogScroll : UInt16 := 0
  rawScroll : Nat := 0
  flowState : Option Nat := none
  shouldQuit : Bool := false
  status : String := ""
  exportPath : Option String := none
  ipTableState : Option Nat := none
  ipSort : IpSort := .newest
  /-- The row order of the last refresh, with the addresses seen since. -/
  ipSortOrder : List IpAddr := []
  /-- When the order was taken, in microseconds. -/
  ipSortLast : Nat := 0
  ipLossOnly : Bool := false
  ipSummaryWindow : Nat := 0
  ipWindowSecs : Nat := 60
  ipDrill : Option IpAddr := none
  ipDrillState : Option Nat := none
  sipTableState : Option Nat := none
  sipSort : SipSort := .invites
  sipWindowSecs : Nat := 60
  privacy : Bool := false

/-! ## Rows -/

/-- `PAGE_ROWS`. -/
def pageRows : Nat := 10

/-- `is_nav_key`: the keys a held key may repeat. -/
def isNavKey : KeyCode → Bool
  | .up | .down | .left | .right | .pageUp | .pageDown | .tab | .backTab | .home | .last => true
  | _ => false

/-- `table_nudge`: without a selection, a step down starts before the first row. -/
def tableNudge (selected : Option Nat) (delta : Int) (len : Nat) : Option Nat :=
  if len = 0 then selected
  else
    let cur : Int := match selected with
      | some i => i
      | none => if 0 < delta then -1 else 0
    some (min (cur + delta).toNat (len - 1))

/-- The steps of the keys that move a selection. -/
def stepOf : KeyCode → Option Int
  | .down => some 1
  | .up => some (-1)
  | .pageDown => some pageRows
  | .pageUp => some (-(pageRows : Int))
  | _ => none

/-- The selected row, else the first one. -/
def selectedOr0 {α : Type} (selected : Option Nat) (rows : List α) : Option Nat :=
  selected.or (if rows.isEmpty then none else some 0)

/-- `b_leg_candidates`. -/
def bLegCandidates (snap : Published) (primary : String) (query : Chars) : List CallSummary :=
  let rules := Filter.parse query
  (snap.calls.filter fun c => c.callId ≠ primary).filter fun c => Filter.matchesAll c.like rules

/-- `calls_for_ip`. -/
def callsForIp (snap : Published) (ip : Option IpAddr) : List CallSummary :=
  match ip with
  | some ip => snap.calls.filter fun c => c.ips.contains ip
  | none => []

/-- `loss_pct_total`. -/
def IpStats.lossPctTotal (s : IpStats) (windowSecs : Nat) : Option F64 :=
  let (pt, lt) := s.window windowSecs .tx
  let (pr, lr) := s.window windowSecs .rx
  if pt + pr = 0 then none else some (F64.ofNat (lt + lr).toNat / F64.ofNat (pt + pr).toNat * 100)

/-- `sorted_rows`. -/
def sortedRows (rows : List IpStats) (sort : IpSort) : List IpStats :=
  let loss := fun s : IpStats => (s.lossPctTotal 0).getD 0
  match sort with
  | .newest => rows.insertionSort fun a b => (b.lastSeenUs.getD 0).toNat ≤ (a.lastSeenUs.getD 0).toNat
  | .maxLoss => rows.insertionSort fun a b => ¬ loss a < loss b
  | .minLoss => rows.insertionSort fun a b => ¬ loss b < loss a

/-- `SORT_REFRESH`. -/
def sortRefreshUs : Nat := 5000000

namespace App

def setStatus (app : App) (s : String) : App := { app with status := s }

/-- `ordered_rows` at a time of the wall clock: the order is kept between refreshes,
new addresses go to its end. -/
def orderedRows (app : App) (now : Nat) (rows : List IpStats) : List IpStats × App :=
  let app := if app.ipSortOrder.isEmpty || sortRefreshUs ≤ now - app.ipSortLast then
      { app with ipSortOrder := (sortedRows rows app.ipSort).map IpStats.ip, ipSortLast := now }
    else app
  let known := app.ipSortOrder.filterMap fun ip => rows.reverse.find? fun s => s.ip == ip
  rows.foldl (fun (shown, app) s =>
    if s.ip ∈ app.ipSortOrder then (shown, app)
    else (shown ++ [s], { app with ipSortOrder := app.ipSortOrder ++ [s.ip] })) (known, app)

/-- `filtered_calls`. -/
def filteredCalls (app : App) (snap : Published) : List CallSummary :=
  let rules := Filter.parse app.filterQuery
  (snap.calls.filter fun c => app.filter.matches c.state).filter fun c => Filter.matchesAll c.like rules

/-! ## Selection -/

/-- `sync_overview_selection`. -/
def syncOverviewSelection (app : App) (snap : Published) : App :=
  { app with selectedCall :=
      (app.tableState.bind fun i => (app.filteredCalls snap)[i]?).map CallSummary.callId }

/-- `clamp_overview_selection`. -/
def clampOverviewSelection (app : App) (snap : Published) : App :=
  let n := (app.filteredCalls snap).length
  let idx := match app.tableState with
    | some i => if i < n then some i else if 0 < n then some 0 else none
    | none => if 0 < n then some 0 else none
  { app with tableState := idx }.syncOverviewSelection snap

/-- `anchor_overview_selection`, on the render path. -/
def anchorOverviewSelection (app : App) (snap : Published) : App :=
  let visible := app.filteredCalls snap
  match app.selectedCall with
  | some id => { app with tableState := visible.findIdx? fun c => c.callId == id }
  | none => match app.tableState with
    | some i => { app with selectedCall := visible[i]?.map CallSummary.callId }
    | none => app

/-- `sync_search_pin`: the trimmed query, none when it is empty. -/
def syncSearchPin (app : App) : App :=
  let q := trim app.filterQuery
  { app with shared.search := if q.isEmpty then none else some (String.ofList q) }

/-- Move the selection of the Overview. -/
def nudgeOverview (app : App) (snap : Published) (delta : Int) : App :=
  { app with tableState := tableNudge app.tableState delta (app.filteredCalls snap).length }
    |>.syncOverviewSelection snap

/-! ## Focus -/

/-- `publish_focus`. -/
def publishFocus (app : App) (primary : String) : App :=
  { app with
    shared.focus := some { primary, linked := app.linkedCallId }
    focusPending := some primary }

/-- `close_detail`. -/
def closeDetail (app : App) : App :=
  { app with
    page := .overview, focusPending := none, linkedCallId := none, bLegPicker := false, bLegQuery := []
    shared.focus := none }

/-- `open_detail`. -/
def openDetail (app : App) (callId : String) : App :=
  let app := { app with selectedCall := some callId, linkedCallId := none, bLegPicker := false, bLegQuery := [] }
  { app.publishFocus callId with page := .callDetail, rawScroll := 0, flowState := some 0 }

/-- `open_b_leg_picker`. -/
def openBLegPicker (app : App) : App :=
  { app with bLegPicker := true, bLegQuery := [], bLegState := some 0 }.setStatus
    "pick b-leg Call-ID (Enter) — Esc cancel"

/-- `clear_b_leg_link`. -/
def clearBLegLink (app : App) : App :=
  let app := { app with linkedCallId := none, bLegPicker := false }
  match app.focusPending.or app.selectedCall with
  | some id => (app.publishFocus id).setStatus "b-leg unlinked"
  | none => app

/-- The call the picker links to. -/
def pickerPrimary (app : App) (snap : Published) : String :=
  (((snap.focus.map FocusDetail.callId).or app.focusPending).or app.selectedCall).getD ""

/-- `b_leg_picker_key`. -/
def bLegPickerKey (app : App) (snap : Published) (code : KeyCode) : App :=
  let primary := app.pickerPrimary snap
  let cands := bLegCandidates snap primary app.bLegQuery
  match code with
  | .esc => { app with bLegPicker := false, bLegQuery := [] }.setStatus "b-leg pick cancelled"
  | .enter =>
    match (selectedOr0 app.bLegState cands).bind fun i => cands[i]? with
    | some c =>
      let app := { app with linkedCallId := some c.callId, bLegPicker := false, bLegQuery := [] }
      (app.publishFocus primary).setStatus ("b-leg linked: " ++ c.callId)
    | none => app
  | .backspace => { app with bLegQuery := app.bLegQuery.dropLast }
  | .char c => { app with bLegQuery := app.bLegQuery ++ [c] }
  | code => match stepOf code with
    | some delta => { app with bLegState := tableNudge app.bLegState delta cands.length }
    | none => app

/-! ## The windows of the statistics pages -/

/-- The value after this one in a table, the second where it is not there. -/
def nextOf (vals : List Nat) (current : Nat) : Nat :=
  vals.getD (((vals.findIdx? (· == current)).getD 0 + 1) % vals.length) 0

/-- `cycle_ip_window`. -/
def cycleIpWindow (app : App) : App :=
  let secs := match app.ipWindowSecs with
    | 60 => 600
    | 600 => 3600
    | _ => 60
  { app with ipWindowSecs := secs }.setStatus ("IP heatmap window = " ++ toString secs ++ "s")

/-- `cycle_ip_summary_window`. -/
def cycleIpSummaryWindow (app : App) : App :=
  let secs := nextOf (windows.map Prod.fst) app.ipSummaryWindow
  let label := ((windows.find? fun w => w.1 == secs).map Prod.snd).getD "all"
  { app with ipSummaryWindow := secs }.setStatus ("IP loss window = " ++ label)

/-- `next_ip_sort`: the order is taken anew at the next draw. -/
def nextIpSort (app : App) : App :=
  let sort := app.ipSort.next
  { app with ipSort := sort, ipSortOrder := [] }.setStatus ("IP sort = " ++ sort.label)

/-- `do_export`, given the path written or the error. -/
def doExport (app : App) (exported : Except String String) : App :=
  match exported with
  | .ok path => { app.setStatus ("exported " ++ path) with exportPath := some path }
  | .error e => app.setStatus ("export failed: " ++ e)

/-! ## Pages -/

/-- The keys of the IP page (`ip_key`): the drill-down of one address, else the table. -/
def ipKey (app : App) (snap : Published) (now : Nat) (code : KeyCode) : App :=
  if app.ipDrill.isSome then
    let calls := callsForIp snap app.ipDrill
    match code with
    | .enter =>
      match (selectedOr0 app.ipDrillState calls).bind fun i => calls[i]? with
      | some c => app.openDetail c.callId
      | none => app
    | code => match stepOf code with
      | some delta => { app with ipDrillState := tableNudge app.ipDrillState delta calls.length }
      | none => app
  else
    match code with
    | .enter =>
      let (rows, app) := app.orderedRows now snap.ipStats
      match (selectedOr0 app.ipTableState rows).bind fun i => rows[i]? with
      | some r =>
        { app with ipDrill := some r.ip, ipDrillState := none }.setStatus
          ("IP " ++ r.ip.display ++ " — calls (Enter to open, Esc back)")
      | none => app
    | .char 's' => app.nextIpSort
    | .char 'w' => if app.ipLossOnly then app.cycleIpSummaryWindow else app.cycleIpWindow
    | .char 'c' =>
      let lossOnly := !app.ipLossOnly
      { app with ipLossOnly := lossOnly }.setStatus
        (if lossOnly then "IP view: loss-only summary" else "IP view: full")
    | code => match stepOf code with
      | some delta => { app with ipTableState := tableNudge app.ipTableState delta snap.ipStats.length }
      | none => app

/-- The keys of the Overview; `again` is read after an edit of the filter. -/
def overviewKey (app : App) (snap again : Published) (code : KeyCode) : App :=
  match code with
  | .char 'c' =>
    if app.filterQuery.isEmpty then app.setStatus "no filter to clear"
    else
      let app := { app with filterQuery := [], filterEditing := false }
      (app.syncSearchPin.clampOverviewSelection again).setStatus "filter cleared"
  | .enter =>
    let visible := app.filteredCalls snap
    match (selectedOr0 app.tableState visible).bind fun i => visible[i]? with
    | some c => app.openDetail c.callId
    | none => app
  | code => match stepOf code with
    | some delta => app.nudgeOverview snap delta
    | none => app

def callDetailKey (app : App) (snap : Published) (code : KeyCode) : App :=
  let flowN := (snap.focus.map fun f => f.messages.length).getD 0
  match code with
  | .down => { app with flowState := tableNudge app.flowState 1 flowN }
  | .up => { app with flowState := tableNudge app.flowState (-1) flowN }
  | .pageDown => { app with rawScroll := min (app.rawScroll + pageRows) usizeMax }
  | .pageUp => { app with rawScroll := app.rawScroll - pageRows }
  | .char 'l' => app.openBLegPicker
  | .char 'L' => app.clearBLegLink
  | _ => app

def eventLogKey (app : App) (code : KeyCode) : App :=
  match stepOf code with
  | some delta =>
    let scroll := min ((app.eventlogScroll.toNat : Int) + delta).toNat 65535
    { app with eventlogScroll := UInt16.ofNat scroll }
  | none => app

def heatmapKey (app : App) (snap : Published) (code : KeyCode) : App :=
  match code with
  | .char 's' =>
    let sort := app.sipSort.next
    { app with sipSort := sort }.setStatus ("SIP sort = " ++ sort.label)
  | .char 'w' =>
    let secs := nextOf SipIpStats.seriesBuckets app.sipWindowSecs
    { app with sipWindowSecs := secs }.setStatus ("ASR bucket = " ++ toString secs ++ "s")
  | code => match stepOf code with
    | some delta => { app with sipTableState := tableNudge app.sipTableState delta (max snap.sipStats.length 1) }
    | none => app

/-- `page_key`. -/
def pageKey (app : App) (snap again : Published) (now : Nat) (code : KeyCode) : App :=
  match app.page with
  | .overview => app.overviewKey snap again code
  | .callDetail => app.callDetailKey snap code
  | .streams => match stepOf code with
    | some delta => { app with streamsState := tableNudge app.streamsState delta snap.streams.length }
    | none => app
  | .eventLog => app.eventLogKey code
  | .ipStats => app.ipKey snap now code
  | .heatmap => app.heatmapKey snap code

/-! ## Keys -/

/-- The keys while the filter bar captures them. -/
def filterKey (app : App) (snap again : Published) (code : KeyCode) (mods : KeyModifiers) : App :=
  match code, mods.control with
  | .char 'c', true => { app with shouldQuit := true }
  | .char 'u', true => ({ app with filterQuery := [] }.clampOverviewSelection again).syncSearchPin
  | .esc, _ => { app with filterQuery := app.filterBackup, filterEditing := false }.syncSearchPin
  | .enter, _ => { app with filterEditing := false }.syncSearchPin
  | .backspace, _ =>
    ({ app with filterQuery := app.filterQuery.dropLast }.clampOverviewSelection again).syncSearchPin
  | .char c, _ => ({ app with filterQuery := app.filterQuery ++ [c] }.clampOverviewSelection again).syncSearchPin
  | code, _ => match stepOf code with
    | some delta => (app.nudgeOverview snap delta).syncSearchPin
    | none => app.syncSearchPin

/-- `q` and Esc: back to the list, out of the drill-down, else quit. -/
def backKey (app : App) : App :=
  if app.page = .callDetail then app.closeDetail
  else if app.page = .ipStats && app.ipDrill.isSome then { app with ipDrill := none }
  else { app with shouldQuit := true }

/-- `x`: ask the pipeline to clear, and drop the anchors of what it will drop. -/
def clearKey (app : App) : App :=
  { ({ app with shared.clear := true }.setStatus "cleared all calls/stats") with
    selectedCall := none, focusPending := none, linkedCallId := none, bLegPicker := false, ipDrill := none }

/-- What a key press reads besides the state of the UI. -/
structure KeyReads where
  snap : Published
  again : Published
  now : Nat
  exported : Except String String

/-- `on_key`. -/
def onKey (app : App) (reads : KeyReads) (code : KeyCode) (mods : KeyModifiers) : App :=
  if app.bLegPicker then app.bLegPickerKey reads.snap code
  else if app.filterEditing then app.filterKey reads.snap reads.again code mods
  else if code = .char 'c' ∧ mods.control then { app with shouldQuit := true }
  else match code with
  | .char 'q' | .esc => app.backKey
  | .left =>
    if app.page = .callDetail then app.closeDetail
    else if app.page = .ipStats && app.ipDrill.isSome then { app with ipDrill := none }
    else app
  | .tab => { app with page := app.page.cycle true }
  | .backTab => { app with page := app.page.cycle false }
  | .char ' ' =>
    let paused := !app.shared.pause
    { app with shared.pause := paused }.setStatus (if paused then "paused" else "resumed")
  | .char '1' => { app with page := .overview }
  | .char '2' => { app with page := .callDetail }
  | .char '3' => { app with page := .heatmap }
  | .char '4' => { app with page := .streams }
  | .char '5' => { app with page := .eventLog }
  | .char '6' => { app with page := .ipStats }
  | .char '/' =>
    { app with page := .overview, filterEditing := true, filterBackup := app.filterQuery }
      |>.clampOverviewSelection reads.snap
  | .char 'e' => app.doExport reads.exported
  | .char 'p' =>
    let privacy := !app.privacy
    { app with privacy }.setStatus
      (if privacy then "privacy on — IPs and numbers masked" else "privacy off")
  | .char 'f' =>
    let filter := app.filter.next
    { app with filter }.setStatus ("filter = " ++ filter.label)
  | .char 'x' => app.clearKey
  | code => app.pageKey reads.snap reads.again reads.now code

/-- The key events `poll` takes: presses, and repeats of the keys that move. -/
def taken (kind : KeyEventKind) (code : KeyCode) : Bool :=
  kind == .press || (kind == .repeat_ && isNavKey code)

/-! ## Drawing -/

/-- A table of `n` rows given the selection; the rest is what the table widget leaves
of it, a parameter. -/
abbrev Widget := Nat → Option Nat → Option Nat

/-- The IP page: the drill-down or the table, and below them the heatmap unless only the
losses are shown. -/
def drawIpStats (widget : Widget) (app : App) (snap : Published) (now later : Nat) : App :=
  let app := match app.ipDrill with
    | some _ => { app with ipDrillState := widget (callsForIp snap app.ipDrill).length app.ipDrillState }
    | none =>
      let (rows, app) := app.orderedRows now snap.ipStats
      { app with ipTableState := widget rows.length app.ipTableState }
  if app.ipLossOnly then app else (app.orderedRows later snap.ipStats).2

/-- The detail of the focused call, with the picker over it when it is open. -/
def drawCallDetail (widget : Widget) (app : App) (snap : Published) : App :=
  match snap.focus with
  | none => app
  | some focus =>
    let app := { app with
      focusPending := none, flowState := widget focus.messages.length app.flowState }
    if app.bLegPicker then
      let cands := bLegCandidates snap focus.callId app.bLegQuery
      { app with bLegState := widget cands.length app.bLegState }
    else app

/-- `render`: what drawing one frame of a published snapshot does to the state. -/
def draw (widget : Widget) (app : App) (snap : Published) (now later : Nat) : App :=
  match app.page with
  | .overview =>
    let app := app.anchorOverviewSelection snap
    { app with tableState := widget (app.filteredCalls snap).length app.tableState }
  | .callDetail => app.drawCallDetail widget snap
  | .heatmap =>
    let all := (snap.sipStats.filter fun r => r.ip.isNone).take 1
    let rows := snap.sipStats.filter fun r => r.ip.isSome
    { app with sipTableState := widget (all ++ rows).length app.sipTableState }
  | .streams => { app with streamsState := widget snap.streams.length app.streamsState }
  | .eventLog => app
  | .ipStats => app.drawIpStats widget snap now later

/-! ## The loop -/

/-- A key event, with what handling it reads. -/
structure KeyPress where
  kind : KeyEventKind
  code : KeyCode
  mods : KeyModifiers
  reads : KeyReads

/-- `poll`, given the key event that came within its timeout. -/
def poll (app : App) (key : Option KeyPress) : App :=
  match key with
  | some k => if taken k.kind k.code then app.onKey k.reads k.code k.mods else app
  | none => app

/-- One round of the loop: the snapshot drawn, when, and the key that followed. -/
structure Round where
  drawn : Published
  now : Nat
  later : Nat
  key : Option KeyPress

def round (widget : Widget) (app : App) (r : Round) : App :=
  (app.draw widget r.drawn r.now r.later).poll r.key

/-- The loop of `run_tui`: rounds until a key quits. -/
def runTui (widget : Widget) (app : App) : List Round → App
  | [] => app
  | r :: rounds =>
    let app := app.round widget r
    if app.shouldQuit then app else app.runTui widget rounds

end App
end Sipmon.Source
