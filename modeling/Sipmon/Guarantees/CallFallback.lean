import Sipmon.Guarantees.CallSignals
import Sipmon.Lib.Run
import Sipmon.Source.Replay

/-!
# Calls replayed from recorded summaries

The record of a message has no CSeq method. The machine then takes every 1xx and
2xx for one to the INVITE, which matters only for the responses to other requests.
-/
namespace Sipmon.Guarantees.CallFallback
open Lib Source CallSignals

/-- The message a replay rebuilds from the record of `msg`. -/
def replayed (parseMessage : SipParser) (msg : SipMsg) : SipMsg :=
  evtToSipmsg parseMessage (Correlator.sipMsgEvt msg)

/-- The stored raw does not parse again. -/
def Unparsed (parseMessage : SipParser) (msg : SipMsg) : Prop :=
  parseSip parseMessage none msg.tsUs msg.flow msg.raw = none

instance (parseMessage : SipParser) (msg : SipMsg) : Decidable (Unparsed parseMessage msg) :=
  inferInstanceAs (Decidable (_ = none))

/-- The same state, outcome and milestone times. -/
structure SameCourse (a b : Call) : Prop where
  state : a.state = b.state
  outcome : a.outcome = b.outcome
  inviteTs : a.inviteTs = b.inviteTs
  tryingTs : a.tryingTs = b.tryingTs
  ringingTs : a.ringingTs = b.ringingTs
  answerTs : a.answerTs = b.answerTs
  byeTs : a.byeTs = b.byeTs
  endTs : a.endTs = b.endTs

/-- The milestones without the durations derived from them. -/
def course (m : Milestones) : Milestones := { m with pddMs := none, setupMs := none, ringMs := none }

theorem sameCourse_iff (a b : Call) :
    SameCourse a b ↔ course (milestones a) = course (milestones b) := by
  constructor
  · intro same
    simp [course, milestones, same.1, same.2, same.3, same.4, same.5, same.6, same.7, same.8]
  · intro same
    simp only [course, milestones, Milestones.mk.injEq] at same
    obtain ⟨state, outcome, invite, trying, ringing, answer, bye, ending, -⟩ := same
    exact ⟨state, outcome, invite, trying, ringing, answer, bye, ending⟩

/-- The durations never act back. -/
theorem course_advance (m : Milestones) (ts : UInt64) (sig : Signal) :
    course (m.advance ts sig) = course ((course m).advance ts sig) := by
  cases sig with
  | provisional rings =>
    by_cases early : m.early
    · have same : (course m).early := early
      rw [Milestones.advance, if_pos early, Milestones.advance, if_pos same]
      cases rings <;> rfl
    · have same : ¬ (course m).early := early
      rw [Milestones.advance, if_neg early, Milestones.advance, if_neg same]
      rfl
  | success => cases answer : m.answerTs <;> simp [Milestones.advance, course, answer]
  | cancel =>
    by_cases done : m.state = .completed ∨ m.state = .failed
    · simp [Milestones.advance, course, done]
    · simp [Milestones.advance, course, done]
  | refusal client =>
    by_cases early : m.early
    · have same : (course m).early := early
      rw [Milestones.advance, if_pos early, Milestones.advance, if_pos same]
      rfl
    · have same : ¬ (course m).early := early
      rw [Milestones.advance, if_neg early, Milestones.advance, if_neg same]
      rfl
  | _ => rfl

/-! ## What the summary means -/

theorem parseMethod_name (m : Method) : parseMethod m.name = m := by
  cases m <;> decide

theorem replayed_eq {parseMessage : SipParser} {msg : SipMsg} (unparsed : Unparsed parseMessage msg) :
    replayed parseMessage msg = summaryMsg (Correlator.sipMsgEvt msg) := by
  have failed : parseSip parseMessage none (Correlator.sipMsgEvt msg).tsUs (Correlator.sipMsgEvt msg).flow
      (Correlator.sipMsgEvt msg).raw = none := unparsed
  rw [replayed, evtToSipmsg, failed, Option.getD_none]

/-- For all the machine reads, the summary is the message without its CSeq method. -/
theorem signal_summary (msg : SipMsg) :
    signal (summaryMsg (Correlator.sipMsgEvt msg)) = signal { msg with cseqMethod := none } := by
  have method : (summaryMsg (Correlator.sipMsgEvt msg)).method = msg.method := by
    simp [summaryMsg, Correlator.sipMsgEvt, Function.comp_def, parseMethod_name]
  unfold signal SipMsg.isInitialInvite
  rw [method]
  rfl

/-- The ways a guess differs from what the message meant. -/
def Mistaken (meant guess : Signal) : Prop :=
  (meant = .nothing ∧ ∃ rings, guess = .provisional rings) ∨
    (meant = .byeDone ∧ (guess = .success ∨ guess = .terminated ∨ ∃ client, guess = .refusal client))

/-- Without the method, a response is read as one to the INVITE. -/
theorem responseSignal_unknown (msg : SipMsg) {other : SipMsg} (unknown : other.cseqMethod = none) (n : Nat) :
    responseSignal other n = responseSignal msg n ∨ Mistaken (responseSignal msg n) (responseSignal other n) := by
  have invite : other.cseqInviteOrUnknown = true := by simp [SipMsg.cseqInviteOrUnknown, unknown]
  have notBye : other.cseqIs "BYE" = false := by simp [SipMsg.cseqIs, unknown]
  unfold responseSignal
  by_cases low : n < 100
  · simp [low]
  · by_cases informational : n < 200
    · cases known : msg.cseqInviteOrUnknown with
      | true => simp [low, informational, invite]
      | false =>
        apply Or.inr
        apply Or.inl
        simp [low, informational, invite]
    · cases isBye : msg.cseqIs "BYE" with
      | false => simp [low, informational, notBye]
      | true =>
        apply Or.inr
        apply Or.inr
        by_cases ok : n < 300
        · simp [low, informational, notBye, ok]
        · by_cases terminated : n = 487
          · simp [notBye, terminated]
          · simp [low, informational, notBye, ok, terminated]

theorem signal_unknown (msg : SipMsg) :
    signal { msg with cseqMethod := none } = signal msg ∨
      Mistaken (signal msg) (signal { msg with cseqMethod := none }) := by
  have initial : SipMsg.isInitialInvite { msg with cseqMethod := none } = msg.isInitialInvite := rfl
  unfold signal
  rw [initial]
  by_cases dial : msg.isInitialInvite = true
  · simp only [dial, if_true, true_or]
  · by_cases request : msg.isRequest = true
    · simp only [dial, request, if_true, if_false, Bool.false_eq_true, true_or]
    · simp only [dial, request, if_false, Bool.false_eq_true]
      cases msg.status with
      | none => exact Or.inl rfl
      | some code => exact responseSignal_unknown msg rfl code.toNat

/-- Taking the second signal for the first leaves the call on its course. -/
def Harmless (m : Milestones) : Signal → Signal → Prop
  -- a 1xx to another request, taken for one to the INVITE
  | .nothing, .provisional rings =>
    m.early → if rings then m.state = .ringing ∧ m.ringingTs ≠ none else m.tryingTs ≠ none
  -- the 2xx to a BYE, taken for the answer
  | .byeDone, .success => m.state = .completed ∧ m.answerTs ≠ none ∧ m.endTs ≠ none
  -- a refused BYE, taken for a refused INVITE
  | .byeDone, .terminated => False
  | .byeDone, .refusal client =>
    m.early → m.answerTs = none ∧ m.outcome = if client then .rejected else .failed
  | _, _ => True

/-- A second stamp leaves alone just what is stamped already. -/
theorem stamp_iff (t : Option UInt64) (ts : UInt64) : some (t.getD ts) = t ↔ ¬ t = none := by
  cases t <;> simp

instance (m : Milestones) (meant guess : Signal) : Decidable (Harmless m meant guess) := by
  unfold Harmless
  split <;> infer_instance

theorem course_advance_iff (m : Milestones) (ts : UInt64) {meant guess : Signal}
    (reading : guess = meant ∨ Mistaken meant guess) :
    course (m.advance ts guess) = course (m.advance ts meant) ↔ Harmless m meant guess := by
  rcases reading with rfl | ⟨rfl, rings, rfl⟩ | ⟨rfl, rfl | rfl | ⟨client, rfl⟩⟩
  · cases guess <;> simp [Harmless]
  · by_cases early : m.early
    · cases rings with
      | true => simp [Milestones.advance, course, Harmless, early, stamp_iff, @eq_comm _ CallState.ringing]
      | false => simp [Milestones.advance, course, Harmless, early, stamp_iff]
    · simp [Milestones.advance, course, Harmless, early]
  · cases answer : m.answerTs with
    | none =>
      simp [Milestones.advance, course, Harmless, answer]
    | some a =>
      simp [Milestones.advance, course, Harmless, answer, Milestones.closed]
      cases ending : m.endTs <;> simp
  · simp only [Harmless, iff_false]
    intro same
    have state := congrArg Milestones.state same
    simp only [Milestones.advance, course, Milestones.closed] at state
    split at state <;> cases state
  · by_cases early : m.early
    · cases answer : m.answerTs <;>
        simp [Milestones.advance, course, Harmless, early, Milestones.closed, answer, eq_comm]
    · simp [Milestones.advance, course, Harmless, early]

/-- The guess is as good as the CSeq method the record has lost. -/
def Spared (call : Call) (msg : SipMsg) : Prop :=
  Harmless (milestones call) (signal msg) (signal { msg with cseqMethod := none })

instance (call : Call) (msg : SipMsg) : Decidable (Spared call msg) :=
  inferInstanceAs (Decidable (Harmless _ _ _))

theorem replayed_course_iff {parseMessage : SipParser} {a b : Call} {msg : SipMsg}
    (unparsed : Unparsed parseMessage msg) (same : SameCourse a b) :
    SameCourse (a.applySip msg) (b.applySip (replayed parseMessage msg)) ↔ Spared a msg := by
  have before := (sameCourse_iff a b).mp same
  rw [sameCourse_iff, applySip_milestones, applySip_milestones, replayed_eq unparsed, signal_summary,
    show (summaryMsg (Correlator.sipMsgEvt msg)).tsUs = msg.tsUs from rfl,
    course_advance (milestones b), ← before, ← course_advance (milestones a), eq_comm]
  exact course_advance_iff _ _ (signal_unknown msg)

/-- After every message, the call replayed from summaries is where the recorded
one was, exactly while every message is spared. -/
theorem replay_faithful_iff (parseMessage : SipParser) (callId : String) (msgs : List SipMsg)
    (unparsed : ∀ msg ∈ msgs, Unparsed parseMessage msg) :
    (∀ n, SameCourse ((msgs.take n).foldl Call.applySip (Call.new callId))
        (((msgs.map (replayed parseMessage)).take n).foldl Call.applySip (Call.new callId))) ↔
      Run.Along Call.applySip Spared (Call.new callId) msgs := by
  have admitted : Run.Along Call.applySip (fun _ msg => Unparsed parseMessage msg) (Call.new callId) msgs :=
    Run.along_of_forall _ unparsed
  have initial : SameCourse (Call.new callId) (Call.new callId) := (sameCourse_iff _ _).mpr rfl
  have carried : ∀ a b msg, Unparsed parseMessage msg → SameCourse a b →
      (SameCourse (a.applySip msg) (b.applySip (replayed parseMessage msg)) ↔ Spared a msg) :=
    fun a b msg fails same => replayed_course_iff fails same
  simp only [← List.map_take, List.foldl_map]
  exact Run.Along.lockstep_iff carried admitted initial

/-- A call refused while it rings, none of its text kept. -/
def refused : List SipMsg :=
  [sampleMsg 1000 true (some .invite) none "INVITE" none,
    sampleMsg 2000 false none (some 100) "INVITE" none,
    sampleMsg 3000 false none (some 180) "INVITE" (some "b"),
    sampleMsg 4000 false none (some 486) "INVITE" (some "b")]

theorem refused_replays : SameCourse (refused.foldl Call.applySip (Call.new "c1"))
    ((refused.map (replayed fun _ => none)).foldl Call.applySip (Call.new "c1")) :=
  (replay_faithful_iff (fun _ => none) "c1" refused (by decide +kernel)).mpr (by decide +kernel) 4

/-- A call answered and hung up, none of its text kept. -/
def hungUp : List SipMsg :=
  [sampleMsg 1000 true (some .invite) none "INVITE" none,
    sampleMsg 2000 false none (some 200) "INVITE" (some "b"),
    sampleMsg 3000 true (some .bye) none "BYE" (some "b"),
    sampleMsg 4000 false none (some 200) "BYE" (some "b")]

/-- The 200 to its BYE no longer ends it. -/
theorem hung_up_never_ends :
    (∀ msg ∈ hungUp, Unparsed (fun _ => none) msg) ∧
      (hungUp.foldl Call.applySip (Call.new "c1")).state = .completed ∧
      ((hungUp.map (replayed fun _ => none)).foldl Call.applySip (Call.new "c1")).state = .active ∧
      ¬ SameCourse (hungUp.foldl Call.applySip (Call.new "c1"))
        ((hungUp.map (replayed fun _ => none)).foldl Call.applySip (Call.new "c1")) := by
  have completed : (hungUp.foldl Call.applySip (Call.new "c1")).state = .completed := by decide +kernel
  have active : ((hungUp.map (replayed fun _ => none)).foldl Call.applySip (Call.new "c1")).state = .active := by
    decide +kernel
  refine ⟨by decide +kernel, completed, active, fun same => ?_⟩
  have states := same.state
  rw [completed, active] at states
  cases states

end Sipmon.Guarantees.CallFallback
