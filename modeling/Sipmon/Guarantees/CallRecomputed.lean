import Sipmon.Guarantees.CallClock
import Sipmon.Source.Metrics

/-!
# Metrics kept and metrics recomputed

The machine keeps durations and outcome message by message; `metrics.rs` computes
them from the milestones, the state and the hangup cause that are left.
-/
namespace Sipmon.Guarantees.CallRecomputed
open Lib Source CallSignals CallClock

/-- Kept and recomputed metrics agree; the outcome once the call has ended. -/
structure Agrees (call : Call) : Prop where
  pdd : call.pddMs = computePddMs call
  setup : call.setupMs = computeSetupMs call
  outcome : call.state = .completed ∨ call.state = .failed ∨ call.state = .canceled →
    call.outcome = classifyOutcome call

/-! ## The hangup cause -/

/-- The cause after a message: the code of a final failure, or the Reason of a BYE. -/
def nextCause (cause : Option UInt32) (msg : SipMsg) : Option UInt32 :=
  if msg.isInitialInvite then cause
  else if msg.isRequest then
    if msg.method = some .bye then ((reasonFromRaw msg.raw).map Prod.fst).or cause else cause
  else match msg.status with
    | some code => if 300 ≤ code.toNat then some code.toUInt32 else cause
    | none => cause

theorem onResponse_cause (call : Call) (msg : SipMsg) (code : UInt16) :
    (call.onResponse msg code).hangup.code =
      if 300 ≤ code.toNat then some code.toUInt32 else call.hangup.code := by
  unfold Call.onResponse
  split
  · next provisional =>
    rw [if_neg (by omega)]
    unfold Call.onProvisional
    dsimp only
    repeat' split
    all_goals rfl
  · split
    · rw [if_neg (by omega)]
      unfold Call.onSuccess
      repeat' split
      all_goals rfl
    · split
      · unfold Call.onFailure
        dsimp only
        repeat' split
        all_goals rfl
      · rfl

theorem applySip_cause (call : Call) (msg : SipMsg) :
    (call.applySip msg).hangup.code = nextCause call.hangup.code msg := by
  have prelude : ((call.touch msg).identify msg).hangup = call.hangup := by
    unfold Call.identify Call.touch
    split
    · dsimp only
      split <;> split <;> rfl
    · rfl
  rw [← prelude]
  unfold Call.applySip nextCause
  generalize (call.touch msg).identify msg = c
  dsimp only
  split
  · rfl
  · split
    · unfold Call.onRequest
      split
      · next method =>
        rw [if_pos method]
        unfold Call.onBye
        dsimp only
        cases reasonFromRaw msg.raw <;> rfl
      · next method =>
        have notBye : ¬ msg.method = some .bye := by
          rw [method]
          decide
        simp only [if_neg notBye]
        split <;> rfl
      · next notBye _ =>
        rw [if_neg (fun bye => notBye bye)]
    · cases msg.status with
      | none => rfl
      | some code => exact onResponse_cause c msg code

/-- Only BYE and the final failures touch the cause. -/
theorem nextCause_frame {cause : Option UInt32} {msg : SipMsg} (notBye : signal msg ≠ .bye)
    (notDone : signal msg ≠ .byeDone) (notFailed : ¬ (signal msg).fails) : nextCause cause msg = cause := by
  unfold nextCause
  split
  · rfl
  · next notInitial =>
    split
    · next request =>
      refine if_neg fun method => notBye ?_
      rw [signal, if_neg notInitial, if_pos request, method]
      rfl
    · next notRequest =>
      have response : msg.isRequest = false := Bool.eq_false_iff.mpr notRequest
      split
      · next code status =>
        refine if_neg fun final => ?_
        cases isBye : msg.cseqIs "BYE" with
        | true => exact notDone ((signal_byeDone_iff msg).mpr ⟨response, isBye, code, status, by omega⟩)
        | false => exact notFailed ((signal_fails_iff msg).mpr ⟨response, isBye, code, status, final⟩)
      · rfl

/-- A refusal leaves its code as the cause, and the code decides the outcome. -/
theorem nextCause_refusal {cause : Option UInt32} {msg : SipMsg} {client : Bool}
    (refused : signal msg = .refusal client) :
    failedOutcome (nextCause cause msg) = if client then .rejected else .failed := by
  have fails : (signal msg).fails := by
    rw [refused]
    trivial
  obtain ⟨response, notBye, code, status, final⟩ := (signal_fails_iff msg).mp fails
  have notInitial : msg.isInitialInvite = false := by
    rw [SipMsg.isInitialInvite, response, Bool.and_false, Bool.false_and]
  have kept : nextCause cause msg = some code.toUInt32 := by
    unfold nextCause
    simp [notInitial, response, status, final]
  rw [signal_response msg code response status] at refused
  unfold responseSignal at refused
  rw [if_neg (by omega), if_neg (by omega), notBye, if_neg Bool.false_ne_true, if_neg (by omega)] at refused
  split at refused
  · cases refused
  · next not487 =>
    injection refused with range
    rw [kept, ← range]
    have number : code.toUInt32.toNat = code.toNat := rfl
    unfold failedOutcome
    dsimp only
    rw [number]
    by_cases inRange : 400 ≤ code.toNat ∧ code.toNat < 500
    · rw [if_pos inRange, if_pos (decide_eq_true inRange)]
    · rw [if_neg inRange, if_neg fun same => not487 (by rw [← number, same]; rfl),
        if_neg (by rwa [decide_eq_true_eq])]

/-! ## One message -/

/-- The outcome a closing message must find. -/
def closingOutcome (call : Call) (unanswered : Outcome) : Outcome :=
  if call.answerTs.isSome then .answered else unanswered

/-- The message does not make what is kept differ from what is left. -/
def Consistent (call : Call) (msg : SipMsg) : Prop :=
  match signal msg with
  | .dial => call.inviteTs = none → call.answerTs = none
  | .provisional _ => (milestones call).early → call.tryingTs = none → call.ringingTs = none →
      call.inviteTs ≠ none
  | .cancel => call.state ≠ .completed → call.state ≠ .failed → call.outcome = .canceled
  | .bye => call.state = .failed → call.outcome = failedOutcome (nextCause call.hangup.code msg)
  | .byeDone => call.outcome = closingOutcome call (failedOutcome (nextCause call.hangup.code msg))
  | .refusal client => ¬ (milestones call).early →
      call.outcome = closingOutcome call (if client then .rejected else .failed)
  | .success | .terminated | .nothing => True

instance (call : Call) (msg : SipMsg) : Decidable (Consistent call msg) := by
  unfold Consistent
  cases signal msg <;> dsimp only <;> infer_instance

/-- A provisional that is stamped has left a post-dial delay. -/
def Measured (m : Milestones) : Prop := m.pddMs = none → m.tryingTs = none ∧ m.ringingTs = none

theorem measured_advance {m : Milestones} (measured : Measured m) (ts : UInt64) (sig : Signal) :
    Measured (m.advance ts sig) := by
  intro unset
  rw [advance_pddMs] at unset
  split at unset
  · cases unset
  · next first =>
    obtain ⟨trying, ringing⟩ := measured unset
    have notFirst : ∀ rings, sig = .provisional rings → ¬ m.early :=
      fun rings sent early => first ⟨⟨rings, sent⟩, early, trying, ringing⟩
    have frame : (m.advance ts sig).tryingTs = m.tryingTs ∧ (m.advance ts sig).ringingTs = m.ringingTs := by
      cases sig with
      | provisional rings =>
        rw [Milestones.advance, if_neg (notFirst rings rfl)]
        exact ⟨rfl, rfl⟩
      | _ =>
        unfold Milestones.advance
        dsimp only
        repeat' split
        all_goals exact ⟨rfl, rfl⟩
    rw [frame.1, frame.2]
    exact ⟨trying, ringing⟩

theorem measured_applySip (call : Call) (msg : SipMsg) (measured : Measured (milestones call)) :
    Measured (milestones (call.applySip msg)) := by
  rw [applySip_milestones]
  exact measured_advance measured _ _

/-! ## The three metrics on the milestones -/

def pddOf (m : Milestones) : Option UInt32 := do
  let invite ← m.inviteTs
  let provisional ← match m.tryingTs, m.ringingTs with
    | some t, some r => some (min t r)
    | some t, none => some t
    | none, some r => some r
    | none, none => none
  return Call.msSince provisional invite

def setupOf (m : Milestones) : Option UInt32 := do
  let invite ← m.inviteTs
  let answer ← m.answerTs
  return Call.msSince answer invite

/-- Only the INVITE and its provisionals move what the post-dial delay is made of. -/
theorem advance_pdd_frame (m : Milestones) (ts : UInt64) (sig : Signal) (notDial : sig ≠ .dial)
    (notProvisional : ∀ rings, sig ≠ .provisional rings) :
    (m.advance ts sig).pddMs = m.pddMs ∧ pddOf (m.advance ts sig) = pddOf m := by
  cases sig with
  | dial => exact absurd rfl notDial
  | provisional rings => exact absurd rfl (notProvisional rings)
  | success =>
    unfold Milestones.advance
    dsimp only
    split <;> exact ⟨rfl, rfl⟩
  | cancel =>
    unfold Milestones.advance
    dsimp only
    split <;> exact ⟨rfl, rfl⟩
  | refusal client =>
    unfold Milestones.advance
    dsimp only
    split <;> exact ⟨rfl, rfl⟩
  | _ => exact ⟨rfl, rfl⟩

theorem advance_setup_frame (m : Milestones) (ts : UInt64) (sig : Signal) (notDial : sig ≠ .dial)
    (notSuccess : sig ≠ .success) :
    (m.advance ts sig).setupMs = m.setupMs ∧ setupOf (m.advance ts sig) = setupOf m := by
  cases sig with
  | dial => exact absurd rfl notDial
  | success => exact absurd rfl notSuccess
  | provisional rings =>
    unfold Milestones.advance
    dsimp only
    repeat' split
    all_goals exact ⟨rfl, rfl⟩
  | cancel =>
    unfold Milestones.advance
    dsimp only
    split <;> exact ⟨rfl, rfl⟩
  | refusal client =>
    unfold Milestones.advance
    dsimp only
    split <;> exact ⟨rfl, rfl⟩
  | _ => exact ⟨rfl, rfl⟩

/-- The earlier of the two provisionals that are stamped. -/
theorem pddOf_eq (m : Milestones) :
    pddOf m = m.inviteTs.bind fun inv =>
      (match m.tryingTs, m.ringingTs with
        | some t, some r => some (min t r)
        | some t, none => some t
        | none, some r => some r
        | none, none => none).map fun p => Call.msSince p inv := by
  unfold pddOf
  cases m.inviteTs <;> cases m.tryingTs <;> cases m.ringingTs <;> rfl

/-- A later provisional does not displace the earlier one. -/
theorem min_passed {t ts : UInt64} (le : t ≤ ts) : min t ts = t ∧ min ts t = t := by
  constructor
  · exact if_pos le
  · change (if ts ≤ t then ts else t) = t
    split
    · next ge => exact UInt64.le_antisymm ge le
    · rfl

theorem later_provisional {m : Milestones} {ts : UInt64} (within : Within ts m) {rings : Bool}
    (notFirst : ¬ (m.early ∧ m.tryingTs = none ∧ m.ringingTs = none)) :
    pddOf (m.advance ts (.provisional rings)) = pddOf m := by
  by_cases early : m.early
  · rw [pddOf_eq, pddOf_eq]
    cases trying : m.tryingTs with
    | none =>
      cases ringing : m.ringingTs with
      | none => exact absurd ⟨early, trying, ringing⟩ notFirst
      | some r =>
        have le := (min_passed (within.ringing r ringing)).2
        cases rings <;> simp [Milestones.advance, early, trying, ringing, le]
    | some t =>
      have le := (min_passed (within.trying t trying)).1
      cases ringing : m.ringingTs <;> cases rings <;>
        simp [Milestones.advance, early, trying, ringing, le]
  · rw [Milestones.advance, if_neg early]

theorem pdd_advance_iff {m : Milestones} {ts : UInt64} (within : Within ts m) (measured : Measured m)
    (kept : m.pddMs = pddOf m) (sig : Signal) :
    (m.advance ts sig).pddMs = pddOf (m.advance ts sig) ↔
      (∀ rings, sig = .provisional rings → m.early → m.tryingTs = none → m.ringingTs = none →
        m.inviteTs ≠ none) := by
  by_cases dial : sig = .dial
  · subst dial
    refine ⟨fun _ rings other => (by cases other), fun _ => ?_⟩
    cases invite : m.inviteTs with
    | some t => simpa [Milestones.advance, pddOf, invite] using kept
    | none =>
      have unset : m.pddMs = none := by
        rw [kept, pddOf_eq, invite]
        rfl
      obtain ⟨trying, ringing⟩ := measured unset
      simp [Milestones.advance, pddOf, invite, trying, ringing, unset]
  · by_cases provisional : ∃ rings, sig = .provisional rings
    · obtain ⟨rings, rfl⟩ := provisional
      by_cases first : m.early ∧ m.tryingTs = none ∧ m.ringingTs = none
      · obtain ⟨early, trying, ringing⟩ := first
        cases invite : m.inviteTs <;> cases rings <;>
          simp [Milestones.advance, pddOf, early, invite, trying, ringing]
      · refine ⟨fun _ _ _ early trying ringing => absurd ⟨early, trying, ringing⟩ first, fun _ => ?_⟩
        rw [advance_pddMs, if_neg fun both => first both.2, later_provisional within first]
        exact kept
    · obtain ⟨keeps, recomputes⟩ := advance_pdd_frame m ts sig dial
        fun rings sent => provisional ⟨rings, sent⟩
      rw [keeps, recomputes]
      exact ⟨fun _ rings sent => absurd ⟨rings, sent⟩ provisional, fun _ => kept⟩

theorem setup_advance_iff {m : Milestones} (kept : m.setupMs = setupOf m) (ts : UInt64) (sig : Signal) :
    (m.advance ts sig).setupMs = setupOf (m.advance ts sig) ↔
      (sig = .dial → m.inviteTs = none → m.answerTs = none) := by
  by_cases dial : sig = .dial
  · subst dial
    cases invite : m.inviteTs with
    | some t =>
      refine ⟨fun _ _ unset => (by cases unset), fun _ => ?_⟩
      simpa [Milestones.advance, setupOf, invite] using kept
    | none =>
      have unset : m.setupMs = none := by
        rw [kept, setupOf, invite]
        rfl
      cases answer : m.answerTs <;> simp [Milestones.advance, setupOf, invite, answer, unset]
  · refine ⟨fun _ sent => absurd sent dial, fun _ => ?_⟩
    by_cases success : sig = .success
    · subst success
      cases answer : m.answerTs with
      | some a => simpa [Milestones.advance, setupOf, answer] using kept
      | none =>
        have unset : m.setupMs = none := by
          rw [kept, setupOf, answer]
          cases m.inviteTs <;> rfl
        cases invite : m.inviteTs <;> simp [Milestones.advance, setupOf, invite, answer, unset]
    · obtain ⟨keeps, recomputes⟩ := advance_setup_frame m ts sig dial success
      rw [keeps, recomputes]
      exact kept

/-- The outcome the state and the cause stand for. -/
def outcomeOf (state : CallState) (cause : Option UInt32) : Outcome :=
  match state with
  | .completed => .answered
  | .canceled => .canceled
  | .failed => failedOutcome cause
  | .dialing | .ringing | .active => .inProgress

def ended (state : CallState) : Prop := state = .completed ∨ state = .failed ∨ state = .canceled

/-- The outcome of an ended call is the one its state and cause stand for. -/
def Fits (m : Milestones) (cause : Option UInt32) : Prop :=
  ended m.state → m.outcome = outcomeOf m.state cause

theorem agrees_iff (call : Call) : Agrees call ↔ (milestones call).pddMs = pddOf (milestones call) ∧
    (milestones call).setupMs = setupOf (milestones call) ∧ Fits (milestones call) call.hangup.code :=
  ⟨fun agrees => ⟨agrees.pdd, agrees.setup, agrees.outcome⟩, fun ⟨pdd, setup, fits⟩ => ⟨pdd, setup, fits⟩⟩

theorem fits_of_early {m : Milestones} (early : m.early) (cause : Option UInt32) : Fits m cause := by
  intro closes
  rcases early with state | state <;> rw [state] at closes <;> simp [ended] at closes

/-- A closed call fits when it was answered, or failed for the cause it is left with. -/
theorem fits_closed (m : Milestones) (ts : UInt64) (cause : Option UInt32) :
    Fits { m with state := m.closed, endTs := m.endTs.or (some ts) } cause ↔
      m.outcome = if m.answerTs.isSome then .answered else failedOutcome cause := by
  unfold Fits Milestones.closed
  cases m.answerTs <;> simp [ended, outcomeOf]

theorem fits_advance_iff {call : Call} {msg : SipMsg}
    (fits : Fits (milestones call) call.hangup.code) :
    Fits ((milestones call).advance msg.tsUs (signal msg)) (nextCause call.hangup.code msg) ↔
      match signal msg with
      | .cancel => call.state ≠ .completed → call.state ≠ .failed → call.outcome = .canceled
      | .bye => call.state = .failed → call.outcome = failedOutcome (nextCause call.hangup.code msg)
      | .byeDone => call.outcome = closingOutcome call (failedOutcome (nextCause call.hangup.code msg))
      | .refusal client => ¬ (milestones call).early →
          call.outcome = closingOutcome call (if client then .rejected else .failed)
      | _ => True := by
  have frame := @nextCause_frame call.hangup.code msg
  cases sent : signal msg with
  | dial =>
    simp only [iff_true]
    exact fits_of_early (Or.inl rfl) _
  | provisional rings =>
    rw [frame (by simp [sent]) (by simp [sent]) (by simp [sent, Signal.fails])]
    simp only [iff_true, Milestones.advance]
    split
    · next early =>
      cases rings with
      | true => exact fits_of_early (Or.inr rfl) _
      | false => exact fits_of_early early _
    · exact fits
  | success =>
    rw [frame (by simp [sent]) (by simp [sent]) (by simp [sent, Signal.fails])]
    simp only [iff_true, Milestones.advance]
    split
    · exact fun closes => by simp [ended] at closes
    · exact fits
  | nothing =>
    rw [frame (by simp [sent]) (by simp [sent]) (by simp [sent, Signal.fails])]
    simp only [iff_true]
    exact fits
  | cancel =>
    rw [frame (by simp [sent]) (by simp [sent]) (by simp [sent, Signal.fails])]
    simp only [Milestones.advance]
    split
    · next done => exact ⟨fun _ notCompleted notFailed => (done.elim notCompleted notFailed).elim, fun _ => fits⟩
    · next running =>
      rw [not_or] at running
      exact ⟨fun after _ _ => after (Or.inr (Or.inr rfl)), fun kept _ => kept running.1 running.2⟩
  | terminated =>
    simp only [iff_true]
    exact fun _ => rfl
  | bye =>
    constructor
    · intro after failing
      have kept := after (Or.inr (Or.inl failing))
      rwa [show ((milestones call).advance msg.tsUs .bye).state = .failed from failing] at kept
    · intro kept closes
      change call.outcome = outcomeOf call.state _
      have before : call.outcome = outcomeOf call.state call.hangup.code := fits closes
      rcases closes with state | state | state
      · rw [before, show call.state = .completed from state]
        rfl
      · rw [kept state, show call.state = .failed from state]
        rfl
      · rw [before, show call.state = .canceled from state]
        rfl
  | byeDone => exact fits_closed _ _ _
  | refusal client =>
    have stands := @nextCause_refusal call.hangup.code _ _ sent
    simp only [Milestones.advance]
    split
    · next early =>
      exact ⟨fun _ late => absurd early late, fun _ _ => stands.symm⟩
    · next late =>
      rw [fits_closed, stands]
      exact ⟨fun kept _ => kept, fun kept => kept late⟩

theorem agrees_applySip_iff {call : Call} {msg : SipMsg} (within : Within msg.tsUs (milestones call))
    (measured : Measured (milestones call)) (agrees : Agrees call) :
    Agrees (call.applySip msg) ↔ Consistent call msg := by
  obtain ⟨pdd, setup, fits⟩ := (agrees_iff call).mp agrees
  rw [agrees_iff, applySip_milestones, applySip_cause, pdd_advance_iff within measured pdd,
    setup_advance_iff setup, fits_advance_iff fits]
  unfold Consistent
  cases signal msg <;> simp <;> rfl

/-- Along messages in time order, kept and recomputed metrics agree exactly while
every message is consistent. -/
theorem recomputed_agrees_iff (callId : String) (msgs : List SipMsg) (sorted : Sorted msgs) :
    Run.Along Call.applySip (fun call msg => Agrees (call.applySip msg)) (Call.new callId) msgs ↔
      Run.Along Call.applySip Consistent (Call.new callId) msgs := by
  have admitted : Run.Along Call.applySip
      (fun call msg => Within msg.tsUs (milestones call) ∧ Measured (milestones call)) (Call.new callId) msgs :=
    (sorted_within sorted callId).and
      (Run.along_of_invariant (P := fun call => Measured (milestones call)) measured_applySip (fun _ _ measured => measured) msgs
        fun _ => ⟨rfl, rfl⟩)
  refine admitted.kept_iff (fun call msg given agrees => agrees_applySip_iff given.1 given.2 agrees) ?_
  exact ⟨rfl, rfl, fun ended => by rcases ended with h | h | h <;> cases h⟩

/-- A call refused while it rings, with a late retransmission of its INVITE's 100. -/
def refusedCall : List SipMsg :=
  [sampleMsg 1000000 true (some .invite) none "INVITE" none,
    sampleMsg 1100000 false none (some 100) "INVITE" none,
    sampleMsg 1200000 false none (some 180) "INVITE" (some "b"),
    sampleMsg 1300000 false none (some 486) "INVITE" (some "b"),
    sampleMsg 1400000 false none (some 100) "INVITE" none]

theorem refusedCall_agrees :
    Run.Along Call.applySip (fun call msg => Agrees (call.applySip msg)) (Call.new "c1") refusedCall :=
  (recomputed_agrees_iff "c1" refusedCall (by decide)).mpr (by decide +kernel)

/-- A call whose caller gives up: the state is canceled, the kept outcome still in progress. -/
def givenUp : List SipMsg :=
  [sampleMsg 1000000 true (some .invite) none "INVITE" none,
    sampleMsg 1100000 true (some .cancel) none "CANCEL" none]

theorem given_up_disagrees :
    Sorted givenUp ∧
      ¬ Run.Along Call.applySip (fun call msg => Agrees (call.applySip msg)) (Call.new "c1") givenUp := by
  refine ⟨by decide, fun always => ?_⟩
  have final := always.2.1.outcome (Or.inr (Or.inr (by decide +kernel)))
  exact absurd final (by decide +kernel)

end Sipmon.Guarantees.CallRecomputed
