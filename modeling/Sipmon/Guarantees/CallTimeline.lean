import Sipmon.Guarantees.CallClock
import Sipmon.Source.Timeline

/-!
# Milestones in order, and the timeline drawn from them

The renderer turns each pair of milestones into a slice of the bar. A pair in
the wrong order is a slice that starts behind its end, and drawing it panics.
-/
namespace Sipmon.Guarantees.CallTimeline
open Lib Lib.Rounding Source CallSignals CallClock

/-- Where both are set, the first is not later than the second. -/
def Before (a b : Option UInt64) : Prop := ∀ x ∈ a, ∀ y ∈ b, x ≤ y

theorem before_none (b : Option UInt64) : Before none b := fun x member => by cases member

theorem before_some_none (x : UInt64) : Before (some x) none := fun _ _ y member => by cases member

theorem before_some_iff (x y : UInt64) : x ≤ y ↔ Before (some x) (some y) := by
  simp [Before]

instance : (a b : Option UInt64) → Decidable (Before a b)
  | none, b => .isTrue (before_none b)
  | some x, none => .isTrue (before_some_none x)
  | some x, some y => decidable_of_iff (x ≤ y) (before_some_iff x y)

/-- `invite ≤ trying`, `invite ≤ ringing ≤ answer` and `answer ≤ bye ≤ end` among the set ones. -/
structure Ordered (m : Milestones) : Prop where
  inviteTrying : Before m.inviteTs m.tryingTs
  inviteRinging : Before m.inviteTs m.ringingTs
  inviteAnswer : Before m.inviteTs m.answerTs
  ringingAnswer : Before m.ringingTs m.answerTs
  answerBye : Before m.answerTs m.byeTs
  answerEnd : Before m.answerTs m.endTs
  byeEnd : Before m.byeTs m.endTs

/-! ## Columns -/

theorem f64_mono {x y : ℚ} (le : x ≤ y) : f64 x ≤ f64 y := nearest_mono 52 le
theorem f64_nonneg (x : ℚ) : 0 ≤ f64 x := nearest_nonneg 52 x

/-- A later offset has no earlier column: every rounding on the way is monotone. -/
theorem column_mono {a b : Nat} (le : a ≤ b) (total barW : Nat) : column a total barW ≤ column b total barW := by
  unfold column
  dsimp only
  have offsets : f64 a ≤ f64 b := f64_mono (by exact_mod_cast le)
  have shares : f64 (f64 a / f64 total) ≤ f64 (f64 b / f64 total) :=
    f64_mono (div_le_div_of_nonneg_right offsets (f64_nonneg _))
  have scaled : f64 (f64 (f64 a / f64 total) * f64 barW) ≤ f64 (f64 (f64 b / f64 total) * f64 barW) :=
    f64_mono (mul_le_mul_of_nonneg_right shares (f64_nonneg _))
  have rounded := Int.toNat_le_toNat (Int.floor_le_floor (add_le_add_left scaled (1 / 2)))
  exact min_le_min_right barW rounded

theorem columns_ordered {p : Phase} (le : p.start ≤ p.stop) (anchor : UInt64) (total barW : Nat) :
    (phaseColumns p anchor total barW).1 ≤ (phaseColumns p anchor total barW).2 :=
  column_mono (Nat.sub_le_sub_right (UInt64.le_iff_toNat_le.mp le) _) total barW

theorem mem_phase {label : String} {start stop : Option UInt64} {p : Phase}
    (member : p ∈ Focus.phase label start stop) (ordered : Before start stop) : p.start ≤ p.stop := by
  unfold Focus.phase at member
  split at member
  · next a b =>
    rw [List.mem_singleton.mp member]
    exact ordered a rfl b rfl
  · cases member

/-- The first provisional is the earlier of two times behind the INVITE. -/
theorem provisional_after {call : Call} (ordered : Ordered (milestones call)) :
    Before call.inviteTs (Focus.ofCall call).provisional := by
  intro x invite y first
  unfold Focus.provisional Focus.ofCall at first
  dsimp only at first
  split at first
  · next t r trying ringing =>
    cases first
    change x ≤ if t ≤ r then t else r
    split
    · exact ordered.inviteTrying x invite t trying
    · exact ordered.inviteRinging x invite r ringing
  · next t trying _ =>
    cases first
    exact ordered.inviteTrying x invite _ trying
  · next r _ ringing =>
    cases first
    exact ordered.inviteRinging x invite _ ringing
  · cases first

/-- Ordered milestones make every drawn line start no later than it stops. -/
theorem drawn_ordered {call : Call} (ordered : Ordered (milestones call)) {p : Phase}
    (member : p ∈ (Focus.ofCall call).drawn) (barW : Nat) :
    let focus := Focus.ofCall call
    (phaseColumns p focus.anchor (saturatingSub focus.ending focus.anchor) barW).1 ≤
      (phaseColumns p focus.anchor (saturatingSub focus.ending focus.anchor) barW).2 := by
  dsimp only
  unfold Focus.drawn Focus.phases at member
  simp only [List.mem_append] at member
  rcases member with (((provisional | ring) | setup) | talk) | total
  · refine columns_ordered (mem_phase provisional fun x invite y first => ?_) _ _ _
    exact provisional_after ordered x invite y first
  · exact columns_ordered (mem_phase ring ordered.ringingAnswer) _ _ _
  · exact columns_ordered (mem_phase setup ordered.inviteAnswer) _ _ _
  · refine columns_ordered (mem_phase talk fun x answer y last => ?_) _ _ _
    change y ∈ (call.byeTs <|> call.endTs) at last
    cases bye : call.byeTs with
    | none =>
      rw [bye] at last
      exact ordered.answerEnd x answer y last
    | some b =>
      rw [bye] at last
      cases last
      exact ordered.answerBye x answer y bye
  · split at total
    · rw [List.mem_singleton.mp total]
      have origin : saturatingSub (Focus.ofCall call).anchor (Focus.ofCall call).anchor = 0 := Nat.sub_self _
      exact column_mono (origin ▸ Nat.zero_le _) _ _
    · cases total

theorem mapM_isSome {α β : Type} {f : α → Option β} {xs : List α} (each : ∀ x ∈ xs, (f x).isSome) :
    (xs.mapM f).isSome := by
  induction xs with
  | nil => rfl
  | cons x xs ih =>
    obtain ⟨y, first⟩ := Option.isSome_iff_exists.mp (each x List.mem_cons_self)
    obtain ⟨ys, rest⟩ := Option.isSome_iff_exists.mp (ih fun z member => each z (List.mem_cons_of_mem x member))
    rw [List.mapM_cons, first, rest]
    rfl

theorem renderTimeline_isSome {focus : Focus}
    (valid : ∀ p ∈ focus.drawn, ∀ barW,
      (phaseColumns p focus.anchor (saturatingSub focus.ending focus.anchor) barW).1 ≤
        (phaseColumns p focus.anchor (saturatingSub focus.ending focus.anchor) barW).2)
    (width : UInt16) : (renderTimeline width focus).isSome := by
  have each : ∀ p ∈ focus.drawn,
      (timelineLine p focus.anchor (saturatingSub focus.ending focus.anchor) (barWidth width)).isSome := by
    intro p member
    have slice := valid p member (barWidth width)
    unfold timelineLine
    split
    · dsimp only
      rw [Option.isSome_map]
      unfold fillBar
      rw [if_pos ⟨slice, Nat.min_le_right _ _⟩]
      rfl
    · rfl
  unfold renderTimeline
  dsimp only
  exact mapM_isSome each

/-! ## One message -/

/-- What the message sets for the first time is not later than what is set already. -/
def InTurn (m : Milestones) (ts : UInt64) : Signal → Prop
  | .dial => m.inviteTs = none →
    Before (some ts) m.tryingTs ∧ Before (some ts) m.ringingTs ∧ Before (some ts) m.answerTs
  | .provisional rings => m.early → rings = true → m.ringingTs = none → Before (some ts) m.answerTs
  | .success => m.answerTs = none → Before (some ts) m.byeTs ∧ Before (some ts) m.endTs
  | .bye => m.byeTs = none → Before (some ts) m.endTs
  | _ => True

instance (m : Milestones) (ts : UInt64) : (sig : Signal) → Decidable (InTurn m ts sig)
  | .dial => inferInstanceAs (Decidable (m.inviteTs = none → _ ∧ _ ∧ _))
  | .provisional rings => inferInstanceAs (Decidable (m.early → rings = true → m.ringingTs = none → _))
  | .success => inferInstanceAs (Decidable (m.answerTs = none → _ ∧ _))
  | .bye => inferInstanceAs (Decidable (m.byeTs = none → _))
  | .cancel | .byeDone | .terminated | .refusal _ | .nothing => .isTrue trivial

section OneMessage

variable {m : Milestones} {ts : UInt64} {t u : Option UInt64}

/-- What is behind the clock comes before the time of the message. -/
theorem before_now (behind : ∀ x ∈ t, x ≤ ts) : Before t (some ts) := by
  intro x member y now
  cases now
  exact behind x member

theorem before_filled (behind : ∀ x ∈ t, x ≤ ts) (before : Before t u) : Before t (u.or (some ts)) := by
  cases u with
  | none => exact before_now behind
  | some _ => exact before

theorem ordered_dial_iff (ordered : Ordered m) : Ordered (m.advance ts .dial) ↔ InTurn m ts .dial := by
  simp only [Milestones.advance, InTurn]
  cases invite : m.inviteTs with
  | some t =>
    have same : Ordered { m with inviteTs := some t, state := .dialing } := by
      rw [← invite]
      exact ⟨ordered.1, ordered.2, ordered.3, ordered.4, ordered.5, ordered.6, ordered.7⟩
    exact ⟨fun _ unset => (by cases unset), fun _ => same⟩
  | none =>
    refine ⟨fun after _ => ⟨after.1, after.2, after.3⟩, fun turn => ?_⟩
    obtain ⟨trying, ringing, answer⟩ := turn rfl
    exact ⟨trying, ringing, answer, ordered.4, ordered.5, ordered.6, ordered.7⟩

theorem ordered_bye_iff (within : Within ts m) (ordered : Ordered m) :
    Ordered (m.advance ts .bye) ↔ InTurn m ts .bye := by
  simp only [Milestones.advance, InTurn]
  cases bye : m.byeTs with
  | some t =>
    have same : Ordered { m with byeTs := some t } := by
      rw [← bye]
      exact ordered
    exact ⟨fun _ unset => (by cases unset), fun _ => same⟩
  | none =>
    refine ⟨fun after _ => after.7, fun turn => ?_⟩
    exact ⟨ordered.1, ordered.2, ordered.3, ordered.4, before_now within.answer, ordered.6, turn rfl⟩

theorem ordered_success_iff (within : Within ts m) (ordered : Ordered m) :
    Ordered (m.advance ts .success) ↔ InTurn m ts .success := by
  simp only [Milestones.advance, InTurn]
  by_cases unanswered : m.answerTs = none
  · rw [if_pos (by rw [unanswered]; rfl)]
    refine ⟨fun after _ => ⟨after.5, after.6⟩, fun turn => ?_⟩
    obtain ⟨bye, ending⟩ := turn unanswered
    exact ⟨ordered.1, ordered.2, before_now within.invite, before_now within.ringing, bye, ending, ordered.7⟩
  · rw [if_neg (by rwa [Option.isNone_iff_eq_none])]
    exact ⟨fun _ none => absurd none unanswered, fun _ => ordered⟩

theorem ordered_provisional_iff (within : Within ts m) (ordered : Ordered m) (rings : Bool) :
    Ordered (m.advance ts (.provisional rings)) ↔ InTurn m ts (.provisional rings) := by
  simp only [Milestones.advance, InTurn]
  by_cases early : m.early
  · rw [if_pos early]
    cases rings with
    | true =>
      rw [if_pos rfl]
      cases ringing : m.ringingTs with
      | some t =>
        have invited : Before m.inviteTs (some t) := ringing ▸ ordered.2
        have answered : Before (some t) m.answerTs := ringing ▸ ordered.4
        refine ⟨fun _ _ _ unset => (by cases unset), fun _ => ?_⟩
        exact ⟨ordered.1, invited, ordered.3, answered, ordered.5, ordered.6, ordered.7⟩
      | none =>
        refine ⟨fun after _ _ _ => after.4, fun turn => ?_⟩
        exact ⟨ordered.1, before_now within.invite, ordered.3, turn early rfl rfl, ordered.5, ordered.6, ordered.7⟩
    | false =>
      rw [if_neg Bool.false_ne_true]
      refine ⟨fun _ _ no => (by cases no), fun _ => ?_⟩
      exact ⟨before_filled within.invite ordered.1, ordered.2, ordered.3, ordered.4, ordered.5, ordered.6, ordered.7⟩
  · rw [if_neg early]
    exact ⟨fun _ yes => absurd yes early, fun _ => ordered⟩

/-- An end that is set now, or stays as it is, keeps the order. -/
theorem Ordered.filled (within : Within ts m) (ordered : Ordered m) (state : CallState) (outcome : Outcome) :
    Ordered { m with state, outcome, endTs := m.endTs.or (some ts) } :=
  ⟨ordered.1, ordered.2, ordered.3, ordered.4, ordered.5, before_filled within.answer ordered.6,
    before_filled within.bye ordered.7⟩

theorem ordered_advance_iff (within : Within ts m) (ordered : Ordered m) (sig : Signal) :
    Ordered (m.advance ts sig) ↔ InTurn m ts sig := by
  cases sig with
  | dial => exact ordered_dial_iff ordered
  | bye => exact ordered_bye_iff within ordered
  | success => exact ordered_success_iff within ordered
  | provisional rings => exact ordered_provisional_iff within ordered rings
  | cancel =>
    simp only [Milestones.advance, InTurn, iff_true]
    split
    · exact ordered
    · exact ⟨ordered.1, ordered.2, ordered.3, ordered.4, ordered.5, before_now within.answer, before_now within.bye⟩
  | byeDone =>
    simp only [Milestones.advance, InTurn, iff_true]
    exact ordered.filled within m.closed m.outcome
  | refusal client =>
    simp only [Milestones.advance, InTurn, iff_true]
    split
    · exact ordered.filled within .failed _
    · exact ordered.filled within m.closed m.outcome
  | terminated =>
    simp only [Milestones.advance, InTurn, iff_true]
    exact ⟨ordered.1, ordered.2, ordered.3, ordered.4, ordered.5, ordered.6, ordered.7⟩
  | nothing =>
    simp only [Milestones.advance, InTurn, iff_true]
    exact ordered

end OneMessage

/-- What a call must look like to be drawn. -/
structure Presentable (call : Call) : Prop where
  ordered : Ordered (milestones call)
  columns : let focus := Focus.ofCall call
    ∀ p ∈ focus.drawn, ∀ barW,
      (phaseColumns p focus.anchor (saturatingSub focus.ending focus.anchor) barW).1 ≤
        (phaseColumns p focus.anchor (saturatingSub focus.ending focus.anchor) barW).2
  drawn : ∀ width, (renderTimeline width (Focus.ofCall call)).isSome

theorem presentable_iff (call : Call) : Presentable call ↔ Ordered (milestones call) := by
  refine ⟨fun presentable => presentable.ordered, fun ordered => ?_⟩
  have columns : ∀ p ∈ (Focus.ofCall call).drawn, ∀ barW, _ := fun p member barW =>
    drawn_ordered ordered member barW
  exact ⟨ordered, columns, renderTimeline_isSome columns⟩

/-- Along messages in time order, the milestones stay ordered and the timeline
can be drawn exactly while every message comes in turn. -/
theorem milestones_ordered_iff (callId : String) (msgs : List SipMsg) (sorted : Sorted msgs) :
    Run.Along Call.applySip (fun call msg => Presentable (call.applySip msg)) (Call.new callId) msgs ↔
      Run.Along Call.applySip (fun call msg => InTurn (milestones call) msg.tsUs (signal msg))
        (Call.new callId) msgs := by
  refine (sorted_within sorted callId).kept_iff (P := Presentable) (fun call msg within presentable => ?_) ?_
  · rw [presentable_iff, applySip_milestones]
    exact ordered_advance_iff within presentable.ordered _
  · rw [presentable_iff]
    constructor <;> exact fun x member => by cases member

/-- A call that rings, is answered and hung up. -/
def hungUp : List SipMsg :=
  [sampleMsg 1000000 true (some .invite) none "INVITE" none,
    sampleMsg 1100000 false none (some 180) "INVITE" (some "b"),
    sampleMsg 1200000 false none (some 200) "INVITE" (some "b"),
    sampleMsg 1300000 true (some .bye) none "BYE" (some "b"),
    sampleMsg 1300500 false none (some 200) "BYE" (some "b")]

theorem hungUp_presentable :
    Run.Along Call.applySip (fun call msg => Presentable (call.applySip msg)) (Call.new "c1") hungUp :=
  (milestones_ordered_iff "c1" hungUp (by decide)).mpr (by decide +kernel)

/-- A call whose BYE crosses the 200 to its INVITE. -/
def crossedBye : List SipMsg :=
  [sampleMsg 1000000 true (some .invite) none "INVITE" none,
    sampleMsg 1100000 true (some .bye) none "BYE" (some "b"),
    sampleMsg 1200000 false none (some 200) "INVITE" (some "b"),
    sampleMsg 1300000 false none (some 200) "BYE" (some "b")]

/-- Its talk phase fills columns 10 to 5 of 15, which panics. -/
theorem crossed_bye_panics :
    Sorted crossedBye ∧
      renderTimeline 40 (Focus.ofCall (crossedBye.foldl Call.applySip (Call.new "c1"))) = none ∧
      ¬ Run.Along Call.applySip (fun call msg => Presentable (call.applySip msg)) (Call.new "c1")
        crossedBye := by
  have panics : renderTimeline 40 (Focus.ofCall (crossedBye.foldl Call.applySip (Call.new "c1"))) = none := by
    decide +kernel
  refine ⟨by decide, panics, fun always => ?_⟩
  have drawn := (Run.along_iff _ _).mp always (crossedBye.take 3)
    (sampleMsg 1300000 false none (some 200) "BYE" (some "b")) [] rfl
  have final := drawn.drawn 40
  rw [show Call.applySip _ _ = crossedBye.foldl Call.applySip (Call.new "c1") from rfl, panics] at final
  cases final

end Sipmon.Guarantees.CallTimeline
