import Sipmon.Guarantees.CallSignals
import Sipmon.Lib.Run

/-!
# Retransmissions

UDP repeats any message at any later point. A milestone time is written once and
survives its copies; the state and the outcome are assigned again by every copy.
`Settled` says for each kind of message which calls a copy leaves alone.
-/
namespace Sipmon.Guarantees.CallRetransmission
open Source CallSignals

/-- The calls on which a copy stamped `ts` has no effect. -/
def Settled (m : Milestones) (ts : UInt64) : Signal → Prop
  | .dial => m.state = .dialing
  | .bye | .success | .nothing => True
  | .cancel => m.state = .completed ∨ m.state = .failed ∨
      (m.state = .canceled ∧ m.endTs = some ts)
  | .provisional true => m.state ≠ .dialing
  | .provisional false => m.early → m.tryingTs.isSome = true
  | .byeDone => m.state = m.closed
  | .terminated => m.state = .canceled ∧ m.outcome = .canceled
  | .refusal _ => ¬ m.early ∧ m.state = m.closed

/-- The time that a message of this kind has written. -/
def Stamped (m : Milestones) : Signal → Prop
  | .dial => m.inviteTs.isSome = true
  | .bye => m.byeTs.isSome = true
  | .success => m.answerTs.isSome = true
  | .byeDone | .refusal _ => m.endTs.isSome = true
  | _ => True

/-- Times are written once and kept. -/
structure Keeps (before after : Milestones) : Prop where
  invite : before.inviteTs.isSome = true → after.inviteTs.isSome = true
  bye : before.byeTs.isSome = true → after.byeTs.isSome = true
  answer : before.answerTs.isSome = true → after.answerTs.isSome = true
  ended : before.endTs.isSome = true → after.endTs.isSome = true

theorem advance_keeps (m : Milestones) (ts : UInt64) (sig : Signal) : Keeps m (m.advance ts sig) := by
  cases sig with
  | _ =>
    unfold Milestones.advance
    dsimp only
    repeat' split
    all_goals constructor <;> simp_all

theorem advance_stamps (m : Milestones) (ts : UInt64) (sig : Signal) :
    Stamped (m.advance ts sig) sig := by
  cases sig with
  | success =>
    unfold Milestones.advance Stamped
    dsimp only
    split <;> simp_all [Option.isSome_iff_ne_none]
  | refusal client =>
    unfold Milestones.advance Stamped
    dsimp only
    split <;> simp
  | _ => simp [Milestones.advance, Stamped]

theorem Stamped.keep {before after : Milestones} (keeps : Keeps before after) {sig : Signal}
    (stamped : Stamped before sig) : Stamped after sig := by
  cases sig with
  | dial => exact keeps.invite stamped
  | bye => exact keeps.bye stamped
  | success => exact keeps.answer stamped
  | byeDone => exact keeps.ended stamped
  | refusal client => exact keeps.ended stamped
  | _ => trivial

/-- A ringing call knows since when. -/
def RingingIsStamped (m : Milestones) : Prop := m.state = .ringing → m.ringingTs.isSome = true

theorem advance_ringingIsStamped (m : Milestones) (ts : UInt64) (sig : Signal)
    (invariant : RingingIsStamped m) : RingingIsStamped (m.advance ts sig) := by
  intro ringing
  cases sig with
  | provisional rings =>
    by_cases early : m.early
    · unfold Milestones.advance at ringing ⊢
      dsimp only at ringing ⊢
      rw [if_pos early] at ringing ⊢
      cases rings with
      | true => simp
      | false => exact invariant ringing
    · have same : m.advance ts (.provisional rings) = m := if_neg early
      rw [same] at ringing ⊢
      exact invariant ringing
  | success =>
    unfold Milestones.advance at ringing ⊢
    dsimp only at ringing ⊢
    split at ringing <;> simp_all [RingingIsStamped]
  | cancel =>
    unfold Milestones.advance at ringing ⊢
    dsimp only at ringing ⊢
    split at ringing <;> simp_all [RingingIsStamped]
  | byeDone =>
    unfold Milestones.advance Milestones.closed at ringing
    dsimp only at ringing
    split at ringing <;> cases ringing
  | refusal client =>
    unfold Milestones.advance Milestones.closed at ringing
    dsimp only at ringing
    repeat' split at ringing
    all_goals cases ringing
  | dial => cases ringing
  | terminated => cases ringing
  | bye => exact invariant ringing
  | nothing => exact invariant ringing

theorem or_some_of_isSome {α : Type} {a : Option α} (b : α) (present : a.isSome = true) :
    a.or (some b) = a := by
  cases a with
  | none => cases present
  | some a => rfl

/-- A copy of a provisional response: only the first of its kind in an early
call writes, and the 18x moves a dialing call. -/
theorem advance_provisional_eq_self_iff (m : Milestones) (ts : UInt64) (rings : Bool)
    (invariant : RingingIsStamped m) :
    m.advance ts (.provisional rings) = m ↔ Settled m ts (.provisional rings) := by
  unfold Milestones.advance
  dsimp only
  by_cases early : m.early
  · rw [if_pos early]
    cases rings with
    | true =>
      rw [if_pos rfl]
      rcases early with dialing | ringing
      · simp [Settled, Milestones.ext_iff, dialing]
      · have stamped := invariant ringing
        simp [Settled, ringing, Milestones.ext_iff, or_some_of_isSome ts stamped,
          Option.isSome_iff_ne_none.mp stamped]
    | false =>
      cases trying : m.tryingTs with
      | none => simp [Settled, early, trying, Milestones.ext_iff]
      | some v => simp [Settled, trying, Milestones.ext_iff]
  · rw [if_neg early]
    cases rings with
    | true =>
      have notDialing : m.state ≠ .dialing := fun dialing => early (Or.inl dialing)
      simp [Settled, notDialing]
    | false => simp [Settled, early]

/-- A copy of a message that has been seen leaves a settled call alone, and no other. -/
theorem advance_eq_self_iff (m : Milestones) (ts : UInt64) (sig : Signal) (seen : Stamped m sig)
    (invariant : RingingIsStamped m) : m.advance ts sig = m ↔ Settled m ts sig := by
  cases sig with
  | provisional rings => exact advance_provisional_eq_self_iff m ts rings invariant
  | dial =>
    simp only [Milestones.advance, or_some_of_isSome ts seen, Settled]
    constructor
    · intro same
      exact (congrArg Milestones.state same).symm
    · rintro dialing
      rw [← dialing]
  | bye => simp only [Milestones.advance, or_some_of_isSome ts seen, Settled]
  | cancel =>
    unfold Milestones.advance Settled
    dsimp only
    by_cases finished : m.state = .completed ∨ m.state = .failed
    · rw [if_pos finished]
      tauto
    · rw [if_neg finished]
      have notFinished := not_or.mp finished
      simp only [notFinished.1, notFinished.2, false_or]
      constructor
      · intro same
        exact ⟨(congrArg Milestones.state same).symm, (congrArg Milestones.endTs same).symm⟩
      · rintro ⟨canceled, ended⟩
        rw [← canceled, ← ended]
  | success =>
    have stamped : m.answerTs.isSome = true := seen
    have answered : ¬ m.answerTs.isNone = true := by
      simpa [Option.isSome_iff_ne_none] using stamped
    simp only [Milestones.advance, if_neg answered, Settled]
  | byeDone =>
    simp only [Milestones.advance, or_some_of_isSome ts seen, Settled]
    constructor
    · intro same
      exact (congrArg Milestones.state same).symm
    · intro closed
      rw [← closed]
  | terminated =>
    simp only [Milestones.advance, Settled]
    constructor
    · intro same
      exact ⟨(congrArg Milestones.state same).symm, (congrArg Milestones.outcome same).symm⟩
    · rintro ⟨canceled, outcome⟩
      rw [← canceled, ← outcome]
  | refusal client =>
    simp only [Milestones.advance, or_some_of_isSome ts seen, Settled]
    by_cases early : m.early
    · rw [if_pos early]
      constructor
      · intro same
        have failed := congrArg Milestones.state same
        rcases early with dialing | ringing
        · cases dialing.symm.trans failed.symm
        · cases ringing.symm.trans failed.symm
      · rintro ⟨late, _⟩
        exact (late early).elim
    · rw [if_neg early]
      constructor
      · intro same
        exact ⟨early, (congrArg Milestones.state same).symm⟩
      · rintro ⟨_, closed⟩
        rw [← closed]
  | nothing => simp only [Milestones.advance, Settled]

/-- Exactly when a copy of an earlier message changes nothing, for every history
and whatever the copy's timestamp. -/
theorem retransmission_iff (callId : String) (history : List SipMsg) (msg : SipMsg) (ts : UInt64)
    (member : msg ∈ history) :
    milestones ((history.foldl Call.applySip (Call.new callId)).applySip { msg with tsUs := ts }) =
        milestones (history.foldl Call.applySip (Call.new callId)) ↔
      Settled (milestones (history.foldl Call.applySip (Call.new callId))) ts (signal msg) := by
  have invariant : RingingIsStamped (milestones (history.foldl Call.applySip (Call.new callId))) := by
    refine Lib.Run.invariant (P := fun call => RingingIsStamped (milestones call)) ?_ history ?_
    · intro call later ringing
      rw [applySip_milestones]
      exact advance_ringingIsStamped _ _ _ ringing
    · intro ringing
      cases ringing
  have seen : Stamped (milestones (history.foldl Call.applySip (Call.new callId))) (signal msg) := by
    refine Lib.Run.after_mem (P := fun call => Stamped (milestones call) (signal msg)) ?_ ?_
      member _
    · intro call
      rw [applySip_milestones]
      exact advance_stamps _ _ _
    · intro call later stamped
      rw [applySip_milestones]
      exact stamped.keep (advance_keeps _ _ _)
  rw [applySip_milestones]
  exact advance_eq_self_iff _ ts (signal msg) seen invariant

/-- An INVITE request and the 180 that answers it. -/
def invite : SipMsg := sampleMsg 10 true (some .invite) none "INVITE" none
def ringing : SipMsg := sampleMsg 20 false none (some 180) "INVITE" (some "b")

theorem retransmission_iff_ringing :
    milestones (([invite, ringing].foldl Call.applySip (Call.new "c1")).applySip
          { ringing with tsUs := 30 }) =
        milestones ([invite, ringing].foldl Call.applySip (Call.new "c1")) ↔
      Settled (milestones ([invite, ringing].foldl Call.applySip (Call.new "c1"))) 30
        (signal ringing) :=
  retransmission_iff "c1" [invite, ringing] ringing 30 (by decide)

/-- A retransmitted INVITE takes a ringing call back to dialing. -/
theorem repeated_invite_redials : ¬ ∀ (callId : String) (history : List SipMsg) (msg : SipMsg)
    (ts : UInt64), msg ∈ history → msg.tsUs ≤ ts →
    milestones ((history.foldl Call.applySip (Call.new callId)).applySip { msg with tsUs := ts }) =
      milestones (history.foldl Call.applySip (Call.new callId)) := by
  intro always
  have same := always "c1" [invite, ringing] invite 30 (by decide) (by decide)
  exact absurd (congrArg Milestones.state same) (by decide +kernel)

end Sipmon.Guarantees.CallRetransmission
