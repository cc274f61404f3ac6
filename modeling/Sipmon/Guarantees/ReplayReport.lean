import Sipmon.Guarantees.ToldEvents

/-!
# The report of a replay

What a replay tells again counts in the report as it did in the session, but for the
diagnostics and the times of the first and the last event.
-/
namespace Sipmon.Guarantees.ReplayReport
open Source Lib ToldEvents
open Evlog (Event)

/-- The events that stand for recorded summaries and round trips count as these do: a
summary that was read back has its flow. -/
theorem ingest_summaryEvt (acc : StatsAcc) (tsUs : UInt64) {s : StreamSummary} {flow : Flow5Tuple}
    (known : s.flow = some flow) :
    acc.ingest (.streamSnap (Correlator.summaryEvt tsUs s)) = acc.ingestStreamSummary tsUs s := by
  simp [StatsAcc.ingest, StatsAcc.ingestStreamSummary, Correlator.summaryEvt, Event.tsUs, known]

theorem ingest_rttEvt (acc : StatsAcc) (tsUs : UInt64) (rttMs : F64) :
    acc.ingest (.rtcpRtt (Correlator.rttEvt tsUs rttMs)) = acc.ingestRtcpRtt tsUs rttMs := rfl

/-- A report without its times and diagnostics. -/
def blur (acc : StatsAcc) : StatsAcc := { acc with startTsUs := none, endTsUs := none, events.diag := 0 }

section
variable (acc : StatsAcc)

theorem blur_inWindow (ts : UInt64) (update : WindowAcc → WindowAcc) :
    blur (acc.inWindow ts update) = (blur acc).inWindow ts update := rfl

theorem blur_intern (id : String) :
    (blur acc).intern id = ((acc.intern id).1, blur (acc.intern id).2) := by
  have same : (blur acc).interned = acc.interned := rfl
  unfold StatsAcc.intern
  rw [same]
  cases acc.interned.lookup id <;> rfl

theorem blur_noteCall (id : String) :
    (blur acc).noteCall id = ((acc.noteCall id).1, blur (acc.noteCall id).2) := by
  unfold StatsAcc.noteCall
  rw [blur_intern]
  rfl

theorem blur_countRequest (ts : UInt64) (cid : UInt32) (method : String) :
    blur (acc.countRequest ts cid method) = (blur acc).countRequest ts cid method := by
  unfold StatsAcc.countRequest
  split
  · rfl
  · split
    · rfl
    · split <;> rfl

theorem blur_countResponse (status : UInt16) :
    blur (acc.countResponse status) = (blur acc).countResponse status := by
  unfold StatsAcc.countResponse
  dsimp only
  split <;> rfl

theorem blur_countSipMsg (cid : UInt32) (e : Evlog.SipMsgEvt) :
    blur (acc.countSipMsg cid e) = (blur acc).countSipMsg cid e := by
  unfold StatsAcc.countSipMsg
  dsimp only
  split
  · cases e.method with
    | none => rfl
    | some method => exact blur_countRequest _ e.tsUs cid method
  · cases e.status with
    | none => rfl
    | some status => exact blur_countResponse _ status

theorem blur_countOutcome (e : Evlog.CallEvt) : blur (acc.countOutcome e) = (blur acc).countOutcome e := by
  unfold StatsAcc.countOutcome
  split <;> rfl

theorem blur_countAnswer (e : Evlog.CallEvt) : blur (acc.countAnswer e) = (blur acc).countAnswer e := by
  unfold StatsAcc.countAnswer
  split <;> rfl

theorem blur_countDelays (e : Evlog.CallEvt) : blur (acc.countDelays e) = (blur acc).countDelays e := by
  unfold StatsAcc.countDelays
  generalize StatsAcc.spanMs e.answerTs e = talk
  generalize StatsAcc.spanMs e.inviteTs e = duration
  generalize e.hangupCode = code
  generalize e.setupMs = setup
  cases code <;> cases setup <;> cases talk <;> cases duration <;> rfl

theorem blur_countTeardown (cid : UInt32) (e : Evlog.CallEvt) :
    blur (acc.countTeardown cid e) = (blur acc).countTeardown cid e := by
  unfold StatsAcc.countTeardown
  dsimp only
  rw [blur_countDelays, blur_countAnswer, blur_countOutcome, blur_inWindow]

theorem blur_countSnap (cid : UInt32) (ts : UInt64) (e : Evlog.StreamSnapLite) :
    blur (acc.countSnap cid ts e) = (blur acc).countSnap cid ts e := by
  unfold StatsAcc.countSnap
  dsimp only
  cases e.flow with
  | none => rfl
  | some flow =>
    dsimp only
    rw [apply_ite blur]
    rfl

end

/-- Two reports that agree but for that. -/
def Alike (a b : StatsAcc) : Prop := blur a = blur b

variable {a b : StatsAcc}

/-- An addition that does not look at the times or the diagnostics. -/
theorem Alike.map (alike : Alike a b) {f : StatsAcc → StatsAcc}
    (blurred : ∀ acc, blur (f acc) = blur (f (blur acc))) : Alike (f a) (f b) := by
  unfold Alike at alike ⊢
  rw [blurred, alike, ← blurred]

/-- The same number is noted for a Call-ID, and what is counted under it. -/
theorem Alike.noted (alike : Alike a b) (id : String) {count : UInt32 → StatsAcc → StatsAcc}
    (blurred : ∀ cid acc, blur (count cid acc) = count cid (blur acc)) :
    Alike (count (a.noteCall id).1 (a.noteCall id).2) (count (b.noteCall id).1 (b.noteCall id).2) := by
  have pairs : ((a.noteCall id).1, blur (a.noteCall id).2) = ((b.noteCall id).1, blur (b.noteCall id).2) := by
    rw [← blur_noteCall, ← blur_noteCall, alike]
  obtain ⟨same, after⟩ := Prod.mk.inj pairs
  unfold Alike
  rw [blurred, blurred, same, after]

theorem blur_endOf (e : Evlog.CallEvt) (cid : UInt32) (acc : StatsAcc) :
    blur (if e.kind ≠ .teardown then acc else acc.countTeardown cid e) =
      if e.kind ≠ .teardown then blur acc else (blur acc).countTeardown cid e := by
  rw [apply_ite blur, blur_countTeardown]

/-- An event counts the same in both. -/
theorem Alike.ingest (alike : Alike a b) (ev : Event) : Alike (a.ingest ev) (b.ingest ev) := by
  cases ev with
  | sipMsg e =>
    have started := alike.map (f := fun acc => { acc.noteTs e.tsUs with events.sip := acc.events.sip + 1 })
      fun _ => rfl
    exact started.noted e.callId fun cid acc => blur_countSipMsg acc cid e
  | call e =>
    have started := alike.map (f := fun acc => { acc.noteTs e.tsUs with events.call := acc.events.call + 1 })
      fun _ => rfl
    exact started.noted e.callId (blur_endOf e)
  | streamSnap e =>
    have started := alike.map (f := fun acc =>
      { acc.noteTs e.tsUs with events.streamSnap := acc.events.streamSnap + 1 }) fun _ => rfl
    exact started.noted e.callId fun cid acc => blur_countSnap acc cid e.tsUs _
  | rtcpRtt e => exact alike.map (f := fun acc => acc.ingestRtcpRtt e.tsUs e.rttMs) fun _ => rfl
  | txn e => exact alike.map (f := fun acc => acc.countTxn e.tsUs) fun _ => rfl
  | healthBucket e => exact alike.map (f := fun acc => acc.countHealth e.bucketUs) fun _ => rfl
  | error e => exact alike.map (f := fun acc => acc.countError e.tsUs) fun _ => rfl
  | diag e => exact alike.map (f := fun acc => acc.countDiag e.tsUs) fun _ => rfl

/-- The end of a call has its own time. -/
def dated : Event → Bool
  | .call e => e.endTs.isSome
  | _ => true

/-- The media counters of a call event do not count. -/
theorem ingestCall_media (acc : StatsAcc) (e : Evlog.CallEvt) :
    acc.ingestCall { e with pktsRtp := 0, pktsRtcp := 0 } = acc.ingestCall e := by
  have delays : ∀ acc, StatsAcc.countDelays acc { e with pktsRtp := 0, pktsRtcp := 0 } = acc.countDelays e := by
    intro acc
    simp only [StatsAcc.countDelays, StatsAcc.spanMs]
  simp only [StatsAcc.ingestCall, StatsAcc.countTeardown, delays]
  rfl

/-- An event counts as what can be told of it again; a diagnostic does not count. -/
theorem alike_told {ev : Event} (own : dated ev = true) (acc : StatsAcc) :
    Alike (acc.ingest ev) ((told ev).toList.foldl StatsAcc.ingest acc) := by
  cases ev with
  | call e =>
    have ends : e.endTs.isSome = true := own
    have again : told (.call e) = some (.call { e with pktsRtp := 0, pktsRtcp := 0 }) := by simp [told, ends]
    rw [again, Option.toList_some, List.foldl_cons, List.foldl_nil]
    exact (congrArg blur (ingestCall_media acc e)).symm
  | _ => rfl

/-- A list of events counts as what can be told of it again. -/
theorem alike_filterMap (evs : List Event) (own : ∀ ev ∈ evs, dated ev = true) (alike : Alike a b) :
    Alike (evs.foldl StatsAcc.ingest a) ((evs.filterMap told).foldl StatsAcc.ingest b) := by
  induction evs generalizing a b with
  | nil => exact alike
  | cons ev rest ih =>
    have later := fun e member => own e (List.mem_cons_of_mem ev member)
    have now : Alike (a.ingest ev) ((told ev).toList.foldl StatsAcc.ingest b) :=
      (alike.ingest ev).trans (alike_told (own ev List.mem_cons_self) b)
    cases again : told ev with
    | none =>
      rw [again] at now
      rw [List.filterMap_cons_none again]
      exact ih later now
    | some other =>
      rw [again] at now
      rw [List.filterMap_cons_some again]
      exact ih later now

/-- What tells the same counts the same. -/
theorem alike_of_told {evs other : List Event} (same : evs.filterMap told = other.filterMap told)
    (own : ∀ ev ∈ evs, dated ev = true) (other_own : ∀ ev ∈ other, dated ev = true) :
    Alike (evs.foldl StatsAcc.ingest {}) (other.foldl StatsAcc.ingest {}) := by
  have first : Alike (evs.foldl StatsAcc.ingest {}) _ := alike_filterMap evs own rfl
  have second : Alike (other.foldl StatsAcc.ingest {}) _ := alike_filterMap other other_own rfl
  rw [same] at first
  exact first.trans second.symm

theorem dated_of_told {evs other : List Event} (same : evs.filterMap told = other.filterMap told)
    (own : ∀ ev ∈ other, dated ev = true) : ∀ ev ∈ evs, dated ev = true := by
  have dated_told : ∀ {ev again}, told ev = some again → dated ev = dated again := by
    intro ev again telling
    cases ev with
    | diag => cases telling
    | sipMsg | txn | call | streamSnap | rtcpRtt | healthBucket | error =>
      obtain rfl := Option.some.inj telling
      rfl
  intro ev member
  cases telling : told ev with
  | none =>
    cases ev with
    | diag => rfl
    | sipMsg | txn | call | streamSnap | rtcpRtt | healthBucket | error => cases telling
  | some again =>
    have among : again ∈ evs.filterMap told := List.mem_filterMap.mpr ⟨ev, member, telling⟩
    rw [same] at among
    obtain ⟨was, inside, first⟩ := List.mem_filterMap.mp among
    rw [dated_told telling, ← dated_told first]
    exact own was inside

end Sipmon.Guarantees.ReplayReport
