import Sipmon.Lib.Run
import Sipmon.Source.ReplaySession

/-!
# A replay comes to its end

Every turn of the worker's loop takes a record from the file, so the replay of any file,
whole or damaged, comes to its end after a bounded number of steps of the worker. It is
through with the file unless one of the records before its first framing error announces a
length that panics the decoder: that one ends the program.
-/
namespace Sipmon.Guarantees.ReplayProgress
open Source Lib
open Lib.ByteReader (Bytes)
open Evlog (EvlogReader RawRecord)

/-- The steps to the next record, of a worker that is not at the end of its log. -/
def toRead : ReplayStage → Nat
  | .focusing _ .again => 10
  | .searching _ .again => 9
  | .storing _ .again => 8
  | .quitting => 7
  | .pausing => 6
  | .clearing => 5
  | .focusing _ .read => 4
  | .searching _ .read => 3
  | .storing _ .read => 2
  | .reading => 1
  | _ => 0

/-- Through with the file, or aborted. -/
def atEnd (w : Replayer) : Bool := w.done || w.stage = .aborted

/-- A bound of the steps to the end of the log. -/
def left (w : Replayer) : Nat := if atEnd w then 0 else 10 * w.reader.rest.length + toRead w.stage

/-- A worker is at its end, or on its way to the next record. -/
def UnderWay (w : Replayer) : Prop := atEnd w = true ∨ 0 < toRead w.stage

/-- Whether the worker, in this step, is told to quit or to pause. -/
def heldUp (m : ReplayMonitor) : ReplayMonitor.Act → Bool
  | .work _ => decide (m.worker.stage = .quitting) && m.app.shared.quit ||
      decide (m.worker.stage = .pausing) && m.app.shared.pause
  | _ => false

def ofWorker : ReplayMonitor.Act → Bool
  | .work _ => true
  | _ => false

variable {s : ReplaySession} {m : ReplayMonitor} {t : ReplayTurn}

theorem read_goes (w : Replayer) (t : ReplayTurn) (going : atEnd w = false) :
    UnderWay (w.read s t) ∧ left (w.read s t) ≤ 10 * w.reader.rest.length := by
  obtain ⟨unfinished, running⟩ := Bool.or_eq_false_iff.mp going
  unfold Replayer.read
  rcases next : w.reader.nextRaw with ⟨_ | _ | raw, after⟩
  · simp [unfinished, atEnd, left, UnderWay]
  · simp [unfinished, atEnd, left, UnderWay]
  · have shorter := w.reader.nextRaw_consumes after raw next
    dsimp only
    split
    · simp [atEnd, left, UnderWay]
    · split
      · simp only [atEnd, left, UnderWay, unfinished, toRead]
        constructor
        · simp
        · simp only [reduceCtorEq, decide_false, Bool.or_false, Bool.false_eq_true, if_false]
          omega
      · simp only [atEnd, left, UnderWay, unfinished, toRead]
        constructor
        · simp
        · simp only [reduceCtorEq, decide_false, Bool.or_false, Bool.false_eq_true, if_false]
          omega

theorem done_read {w : Replayer} (done : w.done = true) : (w.read s t).done = true := by
  unfold Replayer.read
  rcases w.reader.nextRaw with ⟨_ | _ | raw, after⟩
  · simp [done]
  · simp [done]
  · dsimp only
    split
    · exact done
    · split <;> exact done

theorem done_work (done : m.worker.done = true) : (m.workerStep s t).worker.done = true := by
  unfold ReplayMonitor.workerStep
  dsimp only
  cases m.worker.stage with
  | clearing =>
    dsimp only
    split <;> exact done
  | reading => exact done_read done
  | storing full onward => cases onward <;> exact done
  | quitting | pausing | idling | idleSearch | focusing | searching | ended | aborted => exact done

theorem workerStep_aborted (stage : m.worker.stage = .aborted) : m.workerStep s t = m := by
  simp [ReplayMonitor.workerStep, stage]

theorem atEnd_work (ends : atEnd m.worker = true) : atEnd (m.workerStep s t).worker = true := by
  rcases Bool.or_eq_true_iff.mp ends with done | stage
  · exact Bool.or_eq_true_iff.mpr (.inl (done_work done))
  · rw [workerStep_aborted (of_decide_eq_true stage)]
    exact ends

theorem work_goes (free : heldUp m (.work t) = false) (way : UnderWay m.worker) :
    UnderWay (m.workerStep s t).worker ∧ left (m.workerStep s t).worker ≤ left m.worker - 1 := by
  by_cases ends : atEnd m.worker = true
  · have still := atEnd_work (s := s) (t := t) ends
    simp [left, UnderWay, still]
  have going : atEnd m.worker = false := Bool.eq_false_iff.mpr ends
  have unfinished := (Bool.or_eq_false_iff.mp going).1
  have ahead : 0 < toRead m.worker.stage := way.resolve_left ends
  cases stage : m.worker.stage with
  | quitting =>
    have stays : m.app.shared.quit = false := by simpa [heldUp, stage] using free
    simp [ReplayMonitor.workerStep, stage, stays, atEnd, left, UnderWay, unfinished, toRead]
  | pausing =>
    have runs : m.app.shared.pause = false := by simpa [heldUp, stage] using free
    simp [ReplayMonitor.workerStep, stage, runs, atEnd, left, UnderWay, unfinished, toRead]
  | clearing =>
    simp only [ReplayMonitor.workerStep, stage]
    split <;> simp [atEnd, left, UnderWay, unfinished, stage, toRead]
  | reading =>
    obtain ⟨way, fewer⟩ := read_goes (s := s) m.worker t going
    have now : left m.worker = 10 * m.worker.reader.rest.length + 1 := by simp [left, going, stage, toRead]
    simp only [ReplayMonitor.workerStep, stage]
    exact ⟨way, by omega⟩
  | focusing full onward =>
    rw [stage] at ahead
    cases onward <;> simp_all [ReplayMonitor.workerStep, atEnd, left, UnderWay, toRead]
  | searching full onward =>
    rw [stage] at ahead
    cases onward <;> simp_all [ReplayMonitor.workerStep, atEnd, left, UnderWay, toRead]
  | storing full onward =>
    rw [stage] at ahead
    cases onward <;>
      simp_all [ReplayMonitor.workerStep, Replayer.snapshot, Replayer.goOn, atEnd, left, UnderWay, toRead]
  | idling | idleSearch | ended | aborted =>
    rw [stage] at ahead
    cases ahead

/-- The UI leaves the worker alone. -/
theorem step_other {act : ReplayMonitor.Act} (other : ofWorker act = false) : (m.step s act).worker = m.worker := by
  unfold ReplayMonitor.step
  split
  · rfl
  · cases act with
    | work t => cases other
    | draw | key | leave =>
      dsimp only
      split <;> rfl

/-- An aborted program does not go on; nor would its worker. -/
theorem step_work (m : ReplayMonitor) (t : ReplayTurn) : m.step s (.work t) = m.workerStep s t := by
  unfold ReplayMonitor.step
  split
  · next stage => exact (workerStep_aborted stage).symm
  · rfl

theorem step_goes {act : ReplayMonitor.Act} (free : heldUp m act = false) (way : UnderWay m.worker) :
    UnderWay (m.step s act).worker ∧
      left (m.step s act).worker ≤ left m.worker - if ofWorker act then 1 else 0 := by
  cases kind : ofWorker act with
  | true =>
    cases act with
    | work t =>
      rw [step_work]
      exact work_goes free way
    | draw | key | leave => cases kind
  | false =>
    rw [step_other kind]
    exact ⟨way, Nat.le_refl _⟩

/-! ## Records that panic the decoder -/

/-- A record whose payload the replay decodes, with a length that has no buffer. -/
def Panics (raw : RawRecord) : Prop :=
  (raw.ty.toNat = 1 ∨ raw.ty.toNat = 8) ∧ ((Evlog.layoutOf raw.ty).walk raw.payload).ending = .panicked

instance (raw : RawRecord) : Decidable (Panics raw) := inferInstanceAs (Decidable (_ ∧ _))

/-- None of the records up to the end of the log, or its first framing error, panics. -/
def Harmless (reader : EvlogReader) : Prop := ∀ raw ∈ reader.rawReplay.1, ¬ Panics raw

theorem replayApply_panics (parse : SipParser) (iter : Iteration) (c : Correlator) (raw : RawRecord) :
    c.replayApply parse iter raw = none ↔ Panics raw := by
  unfold Correlator.replayApply Correlator.decodeOrPanic Panics
  split
  · next ty => simp [ty]
  · next ty =>
    rw [ty]
    split <;> simp
  · next ty =>
    rw [ty]
    split <;> simp
  · next ty => simp [ty]
  · next notMsg _ _ notDiag =>
    simp [show raw.ty.toNat ≠ 1 from notMsg, show raw.ty.toNat ≠ 8 from notDiag]

/-- What has been read of the file tells whether it is harmless: all of it once the worker
is through, a record that panics once it is aborted, else what is ahead decides. -/
def Faces (file : EvlogReader) (w : Replayer) : Prop :=
  if w.done = true then Harmless file
  else if w.stage = .aborted then ¬ Harmless file
  else (Harmless w.reader ↔ Harmless file)

variable {file : EvlogReader} {w after : Replayer}

theorem Faces.aside (faces : Faces file w) (reader : after.reader = w.reader) (done : after.done = w.done)
    (stage : after.stage = .aborted ↔ w.stage = .aborted) : Faces file after := by
  unfold Faces at faces ⊢
  rw [reader, done, if_congr stage rfl rfl]
  exact faces

theorem harmless_of_end {reader : EvlogReader} (none_ahead : reader.rawReplay.1 = []) : Harmless reader := by
  intro raw member
  rw [none_ahead] at member
  cases member

theorem faces_read (faces : Faces file w) (stage : w.stage ≠ .aborted) : Faces file (w.read s t) := by
  unfold Faces at faces
  cases done : w.done with
  | true =>
    rw [if_pos done] at faces
    unfold Faces
    rw [if_pos (done_read done)]
    exact faces
  | false =>
    rw [if_neg (by simp [done]), if_neg stage] at faces
    have replay := w.reader.rawReplay_eq
    unfold Replayer.read
    rcases next : w.reader.nextRaw with ⟨_ | _ | raw, after⟩
    · rw [next] at replay
      simpa [Faces, done] using faces.mp (harmless_of_end (by rw [replay]))
    · rw [next] at replay
      simpa [Faces, done] using faces.mp (harmless_of_end (by rw [replay]))
    · rw [next] at replay
      have ahead : Harmless w.reader ↔ ¬ Panics raw ∧ Harmless after := by
        unfold Harmless
        rw [replay]
        exact List.forall_mem_cons
      dsimp only
      split
      · next stopped =>
        have panics := (replayApply_panics ..).mp stopped
        simp only [Faces, done, Bool.false_eq_true, if_false, if_true]
        exact fun harmless => (ahead.mp (faces.mpr harmless)).1 panics
      · next corr applied =>
        have quiet : ¬ Panics raw := by
          rw [← replayApply_panics, applied]
          nofun
        have onward : Harmless after ↔ Harmless file := by
          rw [← faces, ahead]
          exact (and_iff_right quiet).symm
        split
        · simpa [Faces, done] using onward
        · simpa [Faces, done] using onward

theorem faces_work (faces : Faces file m.worker) : Faces file (m.workerStep s t).worker := by
  cases stage : m.worker.stage with
  | reading =>
    have reads : (m.workerStep s t).worker = m.worker.read s t := by simp [ReplayMonitor.workerStep, stage]
    rw [reads]
    exact faces_read faces (by simp [stage])
  | aborted =>
    rw [workerStep_aborted stage]
    exact faces
  | clearing =>
    simp only [ReplayMonitor.workerStep, stage]
    split
    · exact faces.aside rfl rfl (by simp [stage])
    · exact faces.aside rfl rfl (by simp [stage])
  | storing full onward =>
    simp only [ReplayMonitor.workerStep, stage]
    cases onward <;> exact faces.aside rfl rfl (by simp [stage, Replayer.goOn])
  | quitting | pausing | idling | idleSearch =>
    simp only [ReplayMonitor.workerStep, stage]
    refine faces.aside rfl rfl ?_
    dsimp only
    split <;> simp [stage]
  | focusing | searching =>
    simp only [ReplayMonitor.workerStep, stage]
    exact faces.aside rfl rfl (by simp [stage])
  | ended =>
    simp only [ReplayMonitor.workerStep, stage]
    exact faces

theorem faces_step (act : ReplayMonitor.Act) (faces : Faces file m.worker) :
    Faces file (m.step s act).worker := by
  cases kind : ofWorker act with
  | true =>
    cases act with
    | work t =>
      rw [step_work]
      exact faces_work faces
    | draw | key | leave => cases kind
  | false =>
    rw [step_other kind]
    exact faces

/-- A file of three bytes that are no log. -/
def damaged : ReplaySession where
  parseMessage _ := none
  config := {}
  path := "damaged.evlog"
  file := [1, 200, 255]
  withTui := true
  widget _ selected := selected

/-- A diagnostic that announces the longest Call-ID there is. -/
def hostile : ReplaySession := { damaged with file := [0, 8, 10] ++ List.replicate 9 255 ++ [1] }

def acts (n : Nat) : List ReplayMonitor.Act := .draw 0 0 :: List.replicate n (.work ⟨.stored, true⟩)

end Sipmon.Guarantees.ReplayProgress
