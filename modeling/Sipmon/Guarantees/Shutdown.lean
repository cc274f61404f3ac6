import Sipmon.Guarantees.Recording
import Sipmon.Guarantees.UiModes

/-!
# How a session ends

Only a signal and the end of the UI ask the pipeline to quit, and nothing takes that
back: no key, and no frame the UI draws. A pause does not hold it up. From then on every
step of the pipeline brings it closer to its end, where the last publication shows
everything there is.
-/
namespace Sipmon.Guarantees.Shutdown
open Source Lib UiModes

/-! ## The UI leaves the flag alone -/

section Keys

variable {app : App} {snap again : Published}

theorem quit_picker (code : KeyCode) : (app.bLegPickerKey snap code).shared.quit = app.shared.quit := by
  unfold App.bLegPickerKey
  dsimp only
  split
  · rfl
  · split <;> rfl
  · rfl
  · rfl
  · split <;> rfl

theorem quit_filterKey (code : KeyCode) (mods : KeyModifiers) :
    (app.filterKey snap again code mods).shared.quit = app.shared.quit := by
  unfold App.filterKey
  split
  · rfl
  · rfl
  · rfl
  · rfl
  · rfl
  · rfl
  · split <;> rfl

theorem quit_orderedRows (now : Nat) (rows : List IpStats) :
    (app.orderedRows now rows).2.shared.quit = app.shared.quit := by
  obtain ⟨order, last, same⟩ := ordered_frame app now rows
  rw [same]

theorem quit_ipKey (now : Nat) (code : KeyCode) : (app.ipKey snap now code).shared.quit = app.shared.quit := by
  unfold App.ipKey
  split
  · dsimp only
    split
    · split <;> rfl
    · split <;> rfl
  · split
    · dsimp only
      split
      · exact quit_orderedRows now snap.ipStats
      · exact quit_orderedRows now snap.ipStats
    · rfl
    · split <;> rfl
    · rfl
    · split <;> rfl

theorem quit_overviewKey (code : KeyCode) : (app.overviewKey snap again code).shared.quit = app.shared.quit := by
  unfold App.overviewKey
  split
  · split <;> rfl
  · dsimp only
    split <;> rfl
  · split <;> rfl

theorem quit_callDetailKey (code : KeyCode) : (app.callDetailKey snap code).shared.quit = app.shared.quit := by
  unfold App.callDetailKey
  dsimp only
  split
  · rfl
  · rfl
  · rfl
  · rfl
  · rfl
  · unfold App.clearBLegLink
    dsimp only
    split <;> rfl
  · rfl

theorem quit_pageKey (now : Nat) (code : KeyCode) :
    (app.pageKey snap again now code).shared.quit = app.shared.quit := by
  unfold App.pageKey
  split
  · exact quit_overviewKey code
  · exact quit_callDetailKey code
  · split <;> rfl
  · unfold App.eventLogKey
    split <;> rfl
  · exact quit_ipKey now code
  · unfold App.heatmapKey
    split
    · rfl
    · rfl
    · split <;> rfl

theorem quit_onKey (reads : App.KeyReads) (code : KeyCode) (mods : KeyModifiers) :
    (app.onKey reads code mods).shared.quit = app.shared.quit := by
  have back : app.backKey.shared.quit = app.shared.quit := by
    unfold App.backKey
    split
    · rfl
    · split <;> rfl
  unfold App.onKey
  split
  · exact quit_picker code
  · split
    · exact quit_filterKey code mods
    · split
      · rfl
      · split
        · exact back
        · exact back
        · split
          · rfl
          · split <;> rfl
        · rfl
        · rfl
        · rfl
        · rfl
        · rfl
        · rfl
        · rfl
        · rfl
        · rfl
        · rfl
        · unfold App.doExport
          split <;> rfl
        · rfl
        · rfl
        · rfl
        · exact quit_pageKey reads.now _

theorem quit_poll (key : Option App.KeyPress) : (app.poll key).shared.quit = app.shared.quit := by
  unfold App.poll
  split
  · split
    · exact quit_onKey _ _ _
    · rfl
  · rfl

theorem quit_draw (widget : App.Widget) (now later : Nat) :
    (app.draw widget snap now later).shared.quit = app.shared.quit := by
  rcases draw_modes app widget snap now later with same | same
  · exact congrArg (fun modes : Modes => modes.shared.quit) same
  · exact congrArg (fun modes : Modes => modes.shared.quit) same

end Keys

/-! ## The way out -/

/-- How many steps of the pipeline are left at most, once it has been asked to quit. -/
def left : Stage → Nat
  | .pausing => 18
  | .clearing => 17
  | .focusing _ .capture => 16
  | .searching _ .capture => 15
  | .storing _ .capture => 14
  | .capturing => 13
  | .focusing _ .idle => 12
  | .searching _ .idle => 11
  | .storing _ .idle => 10
  | .idling | .due => 9
  | .idleSearch _ | .dueSearch _ => 8
  | .focusing _ (.noted ..) => 7
  | .searching _ (.noted ..) => 6
  | .storing _ (.noted ..) => 5
  | .quitting => 4
  | .focusing _ .finish => 3
  | .searching _ .finish => 2
  | .storing _ .finish => 1
  | .ended => 0

theorem left_le (stage : Stage) : left stage ≤ 18 := by
  cases stage with
  | focusing full onward | searching full onward | storing full onward => cases onward <;> simp [left]
  | quitting | pausing | clearing | capturing | idling | idleSearch focus | due | dueSearch focus | ended =>
    simp [left]

theorem left_eq_zero {stage : Stage} (none_left : left stage = 0) : stage = .ended := by
  cases stage with
  | ended => rfl
  | focusing full onward | searching full onward | storing full onward => cases onward <;> simp [left] at none_left
  | quitting | pausing | clearing | capturing | idling | idleSearch focus | due | dueSearch focus =>
    simp [left] at none_left

/-- The frames that the pipeline takes in at this step, if it does, are taken in. -/
def returns (s : Session) (m : Monitor) : Monitor.Act → Bool
  | .pipe t => m.pipe.stage ≠ .capturing || (Pipe.ingestAll s.dec m.pipe.corr t.frames).isSome
  | _ => true

theorem left_capture {s : Session} {pipe : Pipe} {t : Turn}
    (all_in : (Pipe.ingestAll s.dec pipe.corr t.frames).isSome) : left (pipe.capture s t).stage ≤ 12 := by
  obtain ⟨corr, taken⟩ := Option.isSome_iff_exists.mp all_in
  unfold Pipe.capture
  rw [taken]
  dsimp only
  split
  · split <;> simp [left]
  · split <;> simp [left]

/-- Asked to quit, the pipeline gets on with every step. -/
theorem left_pipeStep {s : Session} {m : Monitor} {t : Turn} (quit : m.app.shared.quit = true)
    (goes : returns s m (.pipe t) = true) : left (m.pipeStep s t).pipe.stage ≤ left m.pipe.stage - 1 := by
  cases stage : m.pipe.stage with
  | quitting => simp [Monitor.pipeStep, stage, quit, Pipe.finish, left]
  | pausing =>
    simp only [Monitor.pipeStep, stage]
    split <;> simp [left]
  | clearing =>
    simp only [Monitor.pipeStep, stage]
    split <;> simp [left]
  | capturing =>
    simp only [Monitor.pipeStep, stage]
    exact left_capture (by simpa [returns, stage] using goes)
  | idling =>
    simp only [Monitor.pipeStep, stage]
    split <;> simp [left, Pipe.finish]
  | idleSearch focus | dueSearch focus =>
    simp only [Monitor.pipeStep, stage]
    split <;> simp [left]
  | due => simp [Monitor.pipeStep, stage, left]
  | focusing full onward | searching full onward => cases onward <;> simp [Monitor.pipeStep, stage, left]
  | storing full onward => cases onward <;> simp [Monitor.pipeStep, stage, left, Pipe.goOn]
  | ended => simp [Monitor.pipeStep, stage, left]

/-- Whether the action is one of the pipeline. -/
def ofPipe : Monitor.Act → Bool
  | .pipe _ => true
  | _ => false

theorem quit_step {s : Session} {m : Monitor} (act : Monitor.Act) (quit : m.app.shared.quit = true) :
    (m.step s act).app.shared.quit = true := by
  cases act with
  | draw now later =>
    unfold Monitor.step
    dsimp only
    split
    · exact (quit_draw _ _ _).trans quit
    · exact quit
  | key kind code mods again now exported =>
    unfold Monitor.step
    dsimp only
    split
    · exact (quit_poll _).trans quit
    · exact quit
  | leave =>
    unfold Monitor.step
    dsimp only
    split
    · rfl
    · exact quit
  | pipe t =>
    change (m.pipeStep s t).app.shared.quit = true
    unfold Monitor.pipeStep
    dsimp only
    split
    · simp [quit]
    · exact quit
    · split
      · exact quit
      · exact quit
    all_goals exact quit

theorem left_step {s : Session} {m : Monitor} {act : Monitor.Act} (quit : m.app.shared.quit = true)
    (goes : returns s m act = true) :
    left (m.step s act).pipe.stage ≤ left m.pipe.stage - (if ofPipe act then 1 else 0) := by
  cases kind : ofPipe act with
  | true =>
    cases act with
    | pipe t => exact left_pipeStep quit goes
    | draw | key | leave => cases kind
  | false =>
    rcases Deeds.pipe_or_ui s m act with ⟨t, rfl⟩ | ⟨pipe, -⟩
    · cases kind
    · rw [pipe]
      exact Nat.le_refl _

/-- Whatever the UI does in between, so many steps bring the pipeline so much closer. -/
theorem left_run {s : Session} {m : Monitor} {acts : List Monitor.Act} (quit : m.app.shared.quit = true)
    (goes : Run.Along (Monitor.step s) (fun m act => returns s m act = true) m acts) :
    left (m.run s acts).pipe.stage ≤ left m.pipe.stage - acts.countP ofPipe := by
  have kept : ∀ m act, returns s m act = true → m.app.shared.quit = true →
      (m.step s act).app.shared.quit = true := fun _ act _ quit => quit_step act quit
  have counted : ∀ m act, returns s m act = true → m.app.shared.quit = true →
      left (m.step s act).pipe.stage ≤ left m.pipe.stage - if ofPipe act then 1 else 0 :=
    fun _ _ goes quit => left_step quit goes
  exact goes.countdown (P := fun m => m.app.shared.quit = true) (f := fun m => left m.pipe.stage) kept counted quit

/-! ## The last publication -/

/-- What a publication in full shows. -/
def wholeOf (iter : Iteration) (reg : Registry) (cache : IpStatsCache) : Published :=
  { (reg.publishedWith iter cache usizeMax usizeMax).1 with ipStats := reg.ipstats.rows iter }

/-- What was published in full would be published again. -/
theorem wholeOf_again (iter : Iteration) (reg : Registry) (cache later : IpStatsCache) :
    wholeOf iter (reg.snapshotWith iter usizeMax usizeMax).2 later = wholeOf iter reg cache := by
  have twice : ((reg.snapshotWith iter usizeMax usizeMax).2.snapshotWith iter usizeMax usizeMax).1 =
      (reg.snapshotWith iter usizeMax usizeMax).1 := by
    rw [SnapshotCaches.snapshot_registry]
    simp only [Registry.snapshotWith, SnapshotCaches.eventsSnapshot_eq, SnapshotCaches.diagSnapshot_eq,
      SnapshotCaches.bucketsSnapshot_eq]
    simp only [LogVersions.events, LogVersions.diagnostics, LogVersions.heatmap]
    simp only [Lib.VersionedCache.read_again]
    rfl
  unfold wholeOf Registry.publishedWith
  dsimp only
  rw [twice, SnapshotCaches.snapshot_registry]
  rfl

/-- The publication on the way out is one in full, and at the end it has been made. -/
def Closing (m : Monitor) : Prop :=
  match m.pipe.stage with
  | .focusing full .finish | .searching full .finish | .storing full .finish => full = true
  | .ended => ∃ iter, m.snap = wholeOf iter m.pipe.corr.reg m.pipe.ipStatsCache
  | _ => True

theorem closing_storing {s : Session} {m : Monitor} {t : Turn} {full : Bool} {onward : Onward}
    (closing : Closing m) (stage : m.pipe.stage = .storing full onward) : Closing (m.pipeStep s t) := by
  cases onward with
  | finish =>
    have whole : full = true := by simpa only [Closing, stage] using closing
    subst whole
    simp only [Monitor.pipeStep, stage]
    exact ⟨t.iter, (wholeOf_again t.iter m.pipe.corr.reg m.pipe.ipStatsCache _).symm⟩
  | capture | idle | noted pkts focus search =>
    simp only [Monitor.pipeStep, stage]
    trivial

theorem closing_pipeStep {s : Session} {m : Monitor} {t : Turn} (closing : Closing m) :
    Closing (m.pipeStep s t) := by
  cases stage : m.pipe.stage with
  | storing full onward => exact closing_storing closing stage
  | focusing full onward | searching full onward =>
    cases onward with
    | finish =>
      have whole : full = true := by simpa only [Closing, stage] using closing
      simp only [Monitor.pipeStep, stage]
      exact whole
    | capture | idle | noted pkts focus search =>
      simp only [Monitor.pipeStep, stage]
      trivial
  | ended => simpa only [Monitor.pipeStep, stage] using closing
  | quitting | idling =>
    simp only [Monitor.pipeStep, stage, Pipe.finish]
    split
    · simp [Closing]
    · simp [Closing]
  | pausing | clearing | idleSearch focus | dueSearch focus =>
    simp only [Monitor.pipeStep, stage]
    split
    · simp [Closing]
    · simp [Closing]
  | due =>
    simp only [Monitor.pipeStep, stage]
    trivial
  | capturing =>
    simp only [Monitor.pipeStep, stage, Pipe.capture]
    split
    · simp [Closing, stage]
    · split
      · split
        · simp [Closing]
        · simp [Closing]
      · split
        · simp [Closing]
        · simp [Closing]

theorem closing_step {s : Session} {m : Monitor} (act : Monitor.Act) (closing : Closing m) :
    Closing (m.step s act) := by
  rcases Deeds.pipe_or_ui s m act with ⟨t, rfl⟩ | ⟨pipe, snap, -⟩
  · exact closing_pipeStep closing
  · rw [Closing, pipe, snap]
    exact closing

theorem closing_run (iter : Iteration) (s : Session) (acts : List Monitor.Act) :
    Closing ((Monitor.start iter s).run s acts) :=
  Run.invariant (P := Closing) (fun _ act kept => closing_step act kept) acts trivial

/-- The same session with a UI, which pauses the capture, resumes it and quits. -/
def ui : Session := { Recording.wire with withTui := true }

def press (c : Char) : Monitor.Act := .key .press (.char c) {} .blank 0 (.error "")

def uiActs : List Monitor.Act :=
  [.pipe (Recording.reads []), press ' ', .draw 0 0, press ' ', press 'q', .leave]

/-- A frame comes in on the way out. -/
def endActs : List Monitor.Act := List.replicate 18 (.pipe (Recording.reads [Recording.wireFrame 1000]))

end Sipmon.Guarantees.Shutdown
