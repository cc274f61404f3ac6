import Sipmon.Guarantees.CallSignals
import Sipmon.Lib.Run

/-!
# Who may answer a call, and who may take the answer back

The comment over the 2xx arm reads "2xx to INVITE (or assume INVITE when CSeq
method unknown)", but the arm excludes BYE only. The request and failure arms
do not look at the established state. Both results below give the exact
messages that break the rule, along every message sequence of a call.
-/
namespace Sipmon.Guarantees.CallAnswer
open Source CallSignals

/-- A 2xx response whose CSeq method is INVITE or unknown. -/
def InviteSuccess (msg : SipMsg) : Prop :=
  msg.isRequest = false ∧ msg.cseqInviteOrUnknown = true ∧
    ∃ code, msg.status = some code ∧ 200 ≤ code.toNat ∧ code.toNat < 300

/-! ## Answering -/

/-- The methods whose 200 must leave a call alone. -/
def otherMethods : List Method :=
  [.prack, .update, .cancel, .info, .options, .message, .subscribe, .register]

/-- A 200 response of another transaction. -/
def OtherOk (msg : SipMsg) : Prop :=
  msg.isRequest = false ∧ msg.status = some 200 ∧
    ∃ method ∈ otherMethods, msg.cseqIs method.name = true

def NewlyAnswered (before after : Call) : Prop :=
  after.answerTs ≠ before.answerTs ∨
    (after.outcome = .answered ∧ before.outcome ≠ .answered) ∨
    (after.state = .active ∧ before.state ≠ .active)

/-- One step of the rule that only an INVITE 2xx answers. -/
def AnsweredByInvite (call : Call) (msg : SipMsg) : Prop :=
  (NewlyAnswered call (call.applySip msg) → InviteSuccess msg) ∧
    (OtherOk msg → (call.applySip msg).answerTs = call.answerTs ∧
      (call.applySip msg).outcome = call.outcome ∧ (call.applySip msg).state = call.state)

/-- A 2xx of a known transaction other than INVITE and BYE while no answer is recorded. -/
def ForeignSuccess (call : Call) (msg : SipMsg) : Prop :=
  call.answerTs = none ∧ msg.isRequest = false ∧ msg.cseqIs "BYE" = false ∧
    msg.cseqInviteOrUnknown = false ∧
    ∃ code, msg.status = some code ∧ 200 ≤ code.toNat ∧ code.toNat < 300

/-- Only a 2xx outside the BYE transaction moves an unset answer. -/
theorem advance_answer_frame (m : Milestones) (ts : UInt64) (sig : Signal)
    (quiet : sig = .success → m.answerTs ≠ none) :
    (m.advance ts sig).answerTs = m.answerTs ∧
      ((m.advance ts sig).outcome = .answered → m.outcome = .answered) ∧
      ((m.advance ts sig).state = .active → m.state = .active) := by
  cases sig with
  | success =>
    have answered : ¬ m.answerTs.isNone = true := by simpa using quiet rfl
    simp [Milestones.advance, answered]
  | provisional rings =>
    unfold Milestones.advance
    dsimp only
    repeat' split
    all_goals simp
  | refusal client =>
    unfold Milestones.advance Milestones.closed
    dsimp only
    repeat' split
    all_goals simp
  | byeDone =>
    unfold Milestones.advance Milestones.closed
    dsimp only
    split <;> simp
  | cancel =>
    unfold Milestones.advance
    dsimp only
    split <;> simp
  | _ => simp [Milestones.advance]

theorem applySip_answer_frame (call : Call) (msg : SipMsg)
    (quiet : signal msg = .success → call.answerTs ≠ none) :
    ¬ NewlyAnswered call (call.applySip msg) := by
  have simulated := applySip_milestones call msg
  obtain ⟨answer, outcome, state⟩ :=
    advance_answer_frame (milestones call) msg.tsUs (signal msg) quiet
  rw [← simulated] at answer outcome state
  rintro (changed | ⟨now, was⟩ | ⟨now, was⟩)
  · exact changed answer
  · exact was (outcome now)
  · exact was (state now)

theorem otherMethods_distinct : ∀ method ∈ otherMethods,
    Text.eqIgnoreAsciiCase method.name "BYE" = false ∧
      Text.eqIgnoreAsciiCase method.name "INVITE" = false := by
  decide +kernel

theorem cseqIs_other (msg : SipMsg) (method : Method) (member : method ∈ otherMethods)
    (is : msg.cseqIs method.name = true) :
    msg.cseqIs "BYE" = false ∧ msg.cseqInviteOrUnknown = false := by
  obtain ⟨notBye, notInvite⟩ := otherMethods_distinct method member
  unfold SipMsg.cseqIs SipMsg.cseqInviteOrUnknown at *
  cases cseq : msg.cseqMethod with
  | none => simp [cseq] at is
  | some text =>
    simp only [cseq, Option.any_some, Option.all_some] at is ⊢
    rw [Text.eqIgnoreAsciiCase_left is, Text.eqIgnoreAsciiCase_left is]
    exact ⟨notBye, notInvite⟩

theorem answeredByInvite_iff (call : Call) (msg : SipMsg) :
    AnsweredByInvite call msg ↔ ¬ ForeignSuccess call msg := by
  constructor
  · rintro ⟨onlyInvite, _⟩ ⟨unanswered, response, notBye, notInvite, code, status, range⟩
    have success : signal msg = .success :=
      (signal_success_iff msg).mpr ⟨response, notBye, code, status, range⟩
    have answered : (call.applySip msg).answerTs = some msg.tsUs := by
      have simulated := congrArg Milestones.answerTs (applySip_milestones call msg)
      rw [success] at simulated
      simpa [milestones, Milestones.advance, unanswered] using simulated
    have invite := onlyInvite (Or.inl (by rw [answered, unanswered]; simp))
    exact absurd invite.2.1 (by simp [notInvite])
  · intro domestic
    have quiet : signal msg = .success → msg.cseqInviteOrUnknown = false →
        call.answerTs ≠ none := by
      intro success notInvite unanswered
      obtain ⟨response, notBye, final⟩ := (signal_success_iff msg).mp success
      exact domestic ⟨unanswered, response, notBye, notInvite, final⟩
    constructor
    · intro newly
      by_contra notInvite
      refine applySip_answer_frame call msg ?_ newly
      intro success
      obtain ⟨response, _, final⟩ := (signal_success_iff msg).mp success
      refine quiet success ?_
      by_contra invite
      exact notInvite ⟨response, by simpa using invite, final⟩
    · rintro ⟨response, status, method, member, is⟩
      obtain ⟨notBye, notInvite⟩ := cseqIs_other msg method member is
      have success : signal msg = .success :=
        (signal_success_iff msg).mpr ⟨response, notBye, 200, status, by decide, by decide⟩
      have answered : ¬ (milestones call).answerTs.isNone = true := by
        simpa [milestones] using quiet success notInvite
      have simulated := applySip_milestones call msg
      rw [success, Milestones.advance, if_neg answered] at simulated
      exact ⟨congrArg Milestones.answerTs simulated, congrArg Milestones.outcome simulated,
        congrArg Milestones.state simulated⟩

/-- Along every message sequence of a call, the rule holds exactly as long as no
2xx of a foreign transaction meets an unanswered call. -/
theorem answered_only_by_invite_iff (callId : String) (msgs : List SipMsg) :
    Lib.Run.Along Call.applySip AnsweredByInvite (Call.new callId) msgs ↔
      Lib.Run.Along Call.applySip (fun call msg => ¬ ForeignSuccess call msg)
        (Call.new callId) msgs :=
  Lib.Run.along_congr answeredByInvite_iff _ _

/-- The 200 to an early PRACK answers the call. -/
theorem prack_ok_answers : ¬ ∀ callId msgs,
    Lib.Run.Along Call.applySip AnsweredByInvite (Call.new callId) msgs := by
  intro always
  have step := (always "c1" [sampleMsg 1 false none (some 200) "PRACK" none]).1
  have state := (step.2 ⟨rfl, rfl, .prack, by decide, by decide +kernel⟩).2.2
  exact absurd state (by decide +kernel)

/-! ## Staying established -/

/-- A BYE request, or a response of the BYE transaction. -/
def ByeTransaction (msg : SipMsg) : Prop :=
  (msg.isRequest = true ∧ msg.method = some .bye) ∨
    (msg.isRequest = false ∧ msg.cseqIs "BYE" = true)

/-- At every step from an active call whose INVITE was answered, other than a
step of the BYE transaction, the messages satisfy `P` on the call before it. -/
def WhileEstablished (P : Call → SipMsg → Prop) (callId : String) (msgs : List SipMsg) : Prop :=
  ∀ before msg after, msgs = before ++ msg :: after →
    (before.foldl Call.applySip (Call.new callId)).state = .active →
    (∃ answer ∈ before, InviteSuccess answer) → ¬ ByeTransaction msg →
    P (before.foldl Call.applySip (Call.new callId)) msg

/-- The call is still active and answered after the message. -/
def StaysEstablished (call : Call) (msg : SipMsg) : Prop :=
  (call.applySip msg).state = .active ∧ (call.applySip msg).outcome = .answered

/-- An initial INVITE, a CANCEL, or a final failure of any transaction. -/
def Disturbs (msg : SipMsg) : Prop :=
  msg.isInitialInvite = true ∨ (msg.isRequest = true ∧ msg.method = some .cancel) ∨
    (msg.isRequest = false ∧ ∃ code, msg.status = some code ∧ 300 ≤ code.toNat)

/-- An active call has been answered. -/
def ActiveIsAnswered (m : Milestones) : Prop :=
  m.state = .active → m.outcome = .answered ∧ m.answerTs.isSome = true

theorem advance_activeIsAnswered (m : Milestones) (ts : UInt64) (sig : Signal)
    (invariant : ActiveIsAnswered m) : ActiveIsAnswered (m.advance ts sig) := by
  intro active
  cases sig with
  | success =>
    unfold Milestones.advance at active ⊢
    dsimp only at active ⊢
    split
    · exact ⟨rfl, rfl⟩
    · next answered =>
      rw [if_neg answered] at active
      exact invariant active
  | refusal client =>
    unfold Milestones.advance Milestones.closed at active
    dsimp only at active
    repeat' split at active
    all_goals cases active
  | byeDone =>
    unfold Milestones.advance Milestones.closed at active
    dsimp only at active
    split at active <;> cases active
  | provisional rings =>
    by_cases early : m.early
    · unfold Milestones.advance at active
      dsimp only at active
      rw [if_pos early] at active
      rcases early with dialing | ringing <;> split at active <;> simp_all
    · have same : m.advance ts (.provisional rings) = m := if_neg early
      rw [same] at active ⊢
      exact invariant active
  | cancel =>
    unfold Milestones.advance at active ⊢
    dsimp only at active ⊢
    split at active <;> simp_all [ActiveIsAnswered]
  | dial => cases active
  | terminated => cases active
  | bye => exact invariant active
  | nothing => exact invariant active

theorem reachable_activeIsAnswered (callId : String) (msgs : List SipMsg) :
    ActiveIsAnswered (milestones (msgs.foldl Call.applySip (Call.new callId))) := by
  refine Lib.Run.invariant (P := fun call => ActiveIsAnswered (milestones call)) ?_ msgs ?_
  · intro call msg invariant
    rw [applySip_milestones]
    exact advance_activeIsAnswered _ _ _ invariant
  · intro active
    cases active

/-- What keeps an active call active. -/
theorem advance_active_iff (m : Milestones) (ts : UInt64) (sig : Signal) (active : m.state = .active)
    (invariant : ActiveIsAnswered m) :
    ((m.advance ts sig).state = .active ∧ (m.advance ts sig).outcome = .answered) ↔
      sig ≠ .dial ∧ sig ≠ .cancel ∧ sig ≠ .byeDone ∧ ¬ sig.fails := by
  obtain ⟨outcome, answered⟩ := invariant active
  have late : ¬ m.early := by simp [Milestones.early, active]
  cases sig with
  | success => simp [Milestones.advance, Option.isSome_iff_ne_none.mp answered, active, outcome,
      Signal.fails]
  | refusal client => simp [Milestones.advance, late, Milestones.closed, answered, Signal.fails]
  | byeDone => simp [Milestones.advance, Milestones.closed, answered]
  | provisional rings => simp [Milestones.advance, late, active, outcome, Signal.fails]
  | _ => simp [Milestones.advance, active, outcome, Signal.fails]

/-- Outside the BYE transaction the disturbing messages are those whose signal
takes an active call elsewhere. -/
theorem undisturbed_iff (msg : SipMsg) (notBye : ¬ ByeTransaction msg) :
    (signal msg ≠ .dial ∧ signal msg ≠ .cancel ∧ signal msg ≠ .byeDone ∧ ¬ (signal msg).fails) ↔
      ¬ Disturbs msg := by
  have notByeDone : signal msg ≠ .byeDone := by
    intro done
    obtain ⟨response, isBye, _⟩ := (signal_byeDone_iff msg).mp done
    exact notBye (Or.inr ⟨response, isBye⟩)
  have fails : (signal msg).fails ↔
      msg.isRequest = false ∧ ∃ code, msg.status = some code ∧ 300 ≤ code.toNat := by
    rw [signal_fails_iff]
    constructor
    · rintro ⟨response, _, final⟩
      exact ⟨response, final⟩
    · rintro ⟨response, final⟩
      refine ⟨response, ?_, final⟩
      by_contra isBye
      exact notBye (Or.inr ⟨response, by simpa using isBye⟩)
  rw [Disturbs, ← fails, ← signal_cancel_iff, ← signal_dial_iff]
  tauto

/-- An established call stays established exactly until one of the disturbing
messages, whatever came before. -/
theorem stays_established_iff (callId : String) (msgs : List SipMsg) :
    WhileEstablished StaysEstablished callId msgs ↔
      WhileEstablished (fun _ msg => ¬ Disturbs msg) callId msgs := by
  refine forall_congr' fun before => forall_congr' fun msg => forall_congr' fun after =>
    imp_congr_right fun _ => imp_congr_right fun active => imp_congr_right fun _ =>
    imp_congr_right fun notBye => ?_
  have invariant := reachable_activeIsAnswered callId before
  have simulated := applySip_milestones (before.foldl Call.applySip (Call.new callId)) msg
  have stays := advance_active_iff _ msg.tsUs (signal msg) active invariant
  rw [← simulated] at stays
  exact stays.trans (undisturbed_iff msg notBye)

/-- A rejected re-INVITE ends an established call. -/
theorem reinvite_rejection_completes : ¬ ∀ callId msgs,
    WhileEstablished StaysEstablished callId msgs := by
  intro always
  let invite := sampleMsg 1 true (some .invite) none "INVITE" none
  let ok := sampleMsg 2 false none (some 200) "INVITE" (some "b")
  let reinvite := sampleMsg 3 true (some .invite) none "INVITE" (some "b")
  let rejection := sampleMsg 4 false none (some 488) "INVITE" (some "b")
  have answered : InviteSuccess ok := ⟨rfl, by decide +kernel, 200, rfl, by decide, by decide⟩
  have notBye : ¬ ByeTransaction rejection := by
    rintro (⟨request, _⟩ | ⟨_, isBye⟩)
    · cases request
    · exact absurd isBye (by decide +kernel)
  have step := always "c1" [invite, ok, reinvite, rejection] [invite, ok, reinvite] rejection [] rfl
    (by decide +kernel) ⟨ok, by simp, answered⟩ notBye
  exact absurd step.1 (by decide +kernel)

end Sipmon.Guarantees.CallAnswer
