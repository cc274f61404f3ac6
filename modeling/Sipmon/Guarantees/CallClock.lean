import Sipmon.Guarantees.CallSignals
import Sipmon.Lib.Run

/-!
# The clock of a call

`apply_sip` measures three durations by plain `u64` subtraction. A message may
be stamped before the milestone it is measured from; the subtraction then
underflows, which a debug build panics on and a release build wraps. The model
of `apply_sip` wraps; here it is taken once more as the debug build runs it.
-/
namespace Sipmon.Guarantees.CallClock
open Lib Source CallSignals

/-! ## The debug build -/

/-- A duration whose subtraction is checked: `none` is the panic. -/
def msChecked (now start : UInt64) : Option UInt32 :=
  if start ≤ now then some (Call.msSince now start) else none

/-- `if let Some(t) = start` around a checked duration; `kept` stays where there is none. -/
def msFrom (now : UInt64) (start : Option UInt64) (kept : Option UInt32) : Option (Option UInt32) :=
  match start with
  | some t => (msChecked now t).map some
  | none => some kept

def onProvisionalChecked (call : Call) (msg : SipMsg) (code : UInt16) : Option Call := do
  let call ← if call.tryingTs.isNone && call.ringingTs.isNone then
      (msChecked msg.tsUs (call.inviteTs.getD msg.tsUs)).map fun ms => { call with pddMs := some ms }
    else some call
  return if (180 ≤ code.toNat ∧ code.toNat < 190) ∨ code = 183 then
    { call with
      ringingTs := call.ringingTs.or (some msg.tsUs)
      ringCode := call.ringCode.or (some code)
      earlyMedia := call.earlyMedia || (code == 183 && msg.hasSdp)
      state := .ringing }
  else if 100 ≤ code.toNat ∧ call.tryingTs.isNone = true then
    { call with tryingTs := some msg.tsUs }
  else call

def onSuccessChecked (call : Call) (msg : SipMsg) : Option Call :=
  if msg.cseqIs "BYE" then
    some { call with endTs := call.endTs.or (some msg.tsUs), state := call.closedState }
  else if call.answerTs.isNone then do
    let setupMs ← msFrom msg.tsUs call.inviteTs call.setupMs
    let ringMs ← msFrom msg.tsUs call.ringingTs call.ringMs
    return { call with answerTs := some msg.tsUs, setupMs, ringMs, state := .active
                       outcome := .answered }
  else some call

def onResponseChecked (call : Call) (msg : SipMsg) (code : UInt16) : Option Call :=
  if (100 ≤ code.toNat ∧ code.toNat < 200) ∧ msg.cseqInviteOrUnknown = true ∧
      (call.state = .dialing ∨ call.state = .ringing) then
    onProvisionalChecked call msg code
  else if 200 ≤ code.toNat ∧ code.toNat < 300 then onSuccessChecked call msg
  else if 300 ≤ code.toNat then some (call.onFailure msg code)
  else some call

/-- `apply_sip` as a debug build runs it. -/
def applySipChecked (call : Call) (msg : SipMsg) : Option Call :=
  let call := (call.touch msg).identify msg
  if msg.isInitialInvite then some (call.dial msg)
  else if msg.isRequest then some (call.onRequest msg)
  else match msg.status with
    | some code => onResponseChecked call msg code
    | none => some call

/-! ## What one message asks of the clock -/

/-- A time that is set is not after `now`. -/
def Behind (start : Option UInt64) (now : UInt64) : Prop := ∀ t ∈ start, t ≤ now

-- decided by the one time there is, not by trying every `u64`
instance decidableBehind (now : UInt64) : (start : Option UInt64) → Decidable (Behind start now)
  | none => .isTrue fun _ member => nomatch member
  | some t => decidable_of_iff (t ≤ now) (by simp [Behind])

/-- The first provisional is not stamped before the INVITE, the answer neither
before the INVITE nor before the ringing. -/
def Timely (m : Milestones) (ts : UInt64) : Signal → Prop
  | .provisional _ => m.early → m.tryingTs = none → m.ringingTs = none → Behind m.inviteTs ts
  | .success => m.answerTs = none → Behind m.inviteTs ts ∧ Behind m.ringingTs ts
  | _ => True

instance decidableTimely (m : Milestones) (ts : UInt64) : (sig : Signal) → Decidable (Timely m ts sig)
  | .provisional _ => inferInstanceAs (Decidable
      (m.early → m.tryingTs = none → m.ringingTs = none → Behind m.inviteTs ts))
  | .success => inferInstanceAs (Decidable
      (m.answerTs = none → Behind m.inviteTs ts ∧ Behind m.ringingTs ts))
  | .dial | .bye | .cancel | .byeDone | .terminated | .refusal _ | .nothing => .isTrue trivial

theorem msFrom_eq (now : UInt64) (start : Option UInt64) (kept : Option UInt32) :
    msFrom now start kept =
      if Behind start now then some ((start.map (Call.msSince now)).or kept) else none := by
  cases start with
  | none => exact (if_pos fun t member => nomatch member).symm
  | some t =>
    unfold msFrom msChecked Behind
    by_cases behind : t ≤ now <;> simp [behind]

theorem onProvisionalChecked_eq (call : Call) (msg : SipMsg) (code : UInt16) :
    onProvisionalChecked call msg code =
      if call.tryingTs = none → call.ringingTs = none → Behind call.inviteTs msg.tsUs then
        some (call.onProvisional msg code)
      else none := by
  unfold onProvisionalChecked Call.onProvisional msChecked
  by_cases first : call.tryingTs = none ∧ call.ringingTs = none
  · obtain ⟨trying, ringing⟩ := first
    cases invite : call.inviteTs with
    | none => simp [trying, ringing, Behind]
    | some inv => by_cases behind : inv ≤ msg.tsUs <;> simp [trying, ringing, behind, Behind]
  · have later : ¬ (call.tryingTs.isNone && call.ringingTs.isNone) = true := by
      rwa [Bool.and_eq_true, Option.isNone_iff_eq_none, Option.isNone_iff_eq_none]
    have free : call.tryingTs = none → call.ringingTs = none → Behind call.inviteTs msg.tsUs :=
      fun trying ringing => absurd ⟨trying, ringing⟩ first
    rw [if_neg later, if_neg later, if_pos free]
    rfl

theorem onSuccessChecked_eq (call : Call) (msg : SipMsg) : onSuccessChecked call msg =
    if msg.cseqIs "BYE" = false → call.answerTs = none →
        Behind call.inviteTs msg.tsUs ∧ Behind call.ringingTs msg.tsUs then
      some (call.onSuccess msg)
    else none := by
  unfold onSuccessChecked Call.onSuccess
  rw [msFrom_eq, msFrom_eq]
  cases bye : msg.cseqIs "BYE" with
  | true => simp
  | false =>
    rw [if_neg Bool.false_ne_true, if_neg Bool.false_ne_true]
    by_cases first : call.answerTs = none
    · have unset : call.answerTs.isNone = true := Option.isNone_iff_eq_none.mpr first
      rw [if_pos unset, if_pos unset]
      by_cases invite : Behind call.inviteTs msg.tsUs
      · rw [if_pos invite]
        by_cases ringing : Behind call.ringingTs msg.tsUs
        · rw [if_pos ringing]
          exact (if_pos fun _ _ => ⟨invite, ringing⟩).symm
        · rw [if_neg ringing]
          exact (if_neg fun all => ringing (all rfl first).2).symm
      · rw [if_neg invite]
        exact (if_neg fun all => invite (all rfl first).1).symm
    · have set : ¬ call.answerTs.isNone = true := mt Option.isNone_iff_eq_none.mp first
      rw [if_neg set, if_neg set, if_pos fun _ unset => absurd unset first]

theorem onResponseChecked_eq (call : Call) (msg : SipMsg) (code : UInt16) :
    onResponseChecked call msg code =
      if Timely (milestones call) msg.tsUs (responseSignal msg code.toNat) then
        some (call.onResponse msg code)
      else none := by
  unfold onResponseChecked Call.onResponse
  by_cases provisional : (100 ≤ code.toNat ∧ code.toNat < 200) ∧ msg.cseqInviteOrUnknown = true ∧
      (call.state = .dialing ∨ call.state = .ringing)
  · have ⟨informational, invite, early⟩ := provisional
    have sig : responseSignal msg code.toNat =
        .provisional (decide (180 ≤ code.toNat ∧ code.toNat < 190)) := by
      rw [responseSignal, if_neg (by omega), if_pos informational.2, if_pos invite]
    rw [if_pos provisional, if_pos provisional, sig, onProvisionalChecked_eq]
    exact if_congr ⟨fun timely _ => timely, fun timely => timely early⟩ rfl rfl
  · rw [if_neg provisional, if_neg provisional]
    by_cases ok : 200 ≤ code.toNat ∧ code.toNat < 300
    · have sig : responseSignal msg code.toNat = if msg.cseqIs "BYE" then .byeDone else .success := by
        rw [responseSignal, if_neg (by omega), if_neg (by omega), if_pos ok.2]
      rw [if_pos ok, if_pos ok, sig, onSuccessChecked_eq]
      refine if_congr ?_ rfl rfl
      cases msg.cseqIs "BYE" with
      | true => exact ⟨fun _ => trivial, fun _ no => absurd no (by decide)⟩
      | false => exact ⟨fun timely => timely rfl, fun timely _ => timely⟩
    · have free : Timely (milestones call) msg.tsUs (responseSignal msg code.toNat) := by
        unfold responseSignal
        split
        · trivial
        · split
          · split
            · exact fun early => absurd ⟨⟨by omega, by omega⟩, by assumption, early⟩ provisional
            · trivial
          · repeat' split
            all_goals first | trivial | omega
      rw [if_neg ok, if_neg ok, if_pos free, apply_ite some]

/-- The debug build does what the model of `apply_sip` does where the message is timely,
and panics elsewhere. -/
theorem applySipChecked_eq (call : Call) (msg : SipMsg) : applySipChecked call msg =
    if Timely (milestones call) msg.tsUs (signal msg) then some (call.applySip msg) else none := by
  unfold applySipChecked Call.applySip signal
  rw [← milestones_prelude call msg]
  dsimp only
  generalize (call.touch msg).identify msg = known
  by_cases dials : msg.isInitialInvite = true
  · simp only [if_pos dials]
    exact (if_pos trivial).symm
  · simp only [if_neg dials]
    by_cases request : msg.isRequest = true
    · simp only [if_pos request]
      refine (if_pos ?_).symm
      unfold requestSignal
      split <;> trivial
    · simp only [if_neg request]
      cases msg.status with
      | none => exact (if_pos trivial).symm
      | some code => exact onResponseChecked_eq known msg code

/-- The first provisional sets the post-dial delay. -/
theorem advance_pddMs (m : Milestones) (ts : UInt64) (sig : Signal) :
    (m.advance ts sig).pddMs =
      if (∃ rings, sig = .provisional rings) ∧ m.early ∧ m.tryingTs = none ∧ m.ringingTs = none then
        some (Call.msSince ts (m.inviteTs.getD ts))
      else m.pddMs := by
  cases sig with
  | provisional rings =>
    unfold Milestones.advance
    by_cases early : m.early
    · cases trying : m.tryingTs <;> cases ringing : m.ringingTs <;> cases rings <;> simp [early]
    · simp [early]
  | success =>
    unfold Milestones.advance
    dsimp only
    split <;> simp
  | cancel =>
    unfold Milestones.advance
    dsimp only
    split <;> simp
  | refusal client =>
    unfold Milestones.advance
    dsimp only
    split <;> simp
  | _ => simp [Milestones.advance]

/-! ## The messages before -/

/-- The stamp of the first message with the signal; the messages stand newest first. -/
def firstTs (sig : Signal) : List SipMsg → Option UInt64
  | [] => none
  | msg :: past => (firstTs sig past).or (if signal msg = sig then some msg.tsUs else none)

/-- Nothing has settled the INVITE since it was last sent: no CANCEL, no first 2xx, no
failure and no response to BYE. -/
def waits : List SipMsg → Bool
  | [] => true
  | msg :: past => match signal msg with
    | .dial => true
    | .success => (firstTs .success past).isSome && waits past
    | .cancel | .byeDone | .terminated | .refusal _ => false
    | .bye | .provisional _ | .nothing => waits past

/-- The provisional responses that came while the INVITE waited. -/
def provisionals : List SipMsg → List SipMsg
  | [] => []
  | msg :: past => match signal msg with
    | .provisional _ => if waits past then msg :: provisionals past else provisionals past
    | _ => provisionals past

/-- The first provisional response is stamped no earlier than the first INVITE, the first
2xx no earlier than the first INVITE and the first ringing. -/
def InOrder (past : List SipMsg) (msg : SipMsg) : Prop :=
  match signal msg with
  | .provisional _ => waits past = true → provisionals past = [] →
      Behind (firstTs .dial past) msg.tsUs
  | .success => firstTs .success past = none →
      Behind (firstTs .dial past) msg.tsUs ∧
        Behind (firstTs (.provisional true) (provisionals past)) msg.tsUs
  | _ => True

/-- The messages so far tell what the milestones are. -/
structure Tells (past : List SipMsg) (m : Milestones) : Prop where
  early : m.early ↔ waits past = true
  invite : m.inviteTs = firstTs .dial past
  started : m.tryingTs = none ∧ m.ringingTs = none ↔ provisionals past = []
  ringing : m.ringingTs = firstTs (.provisional true) (provisionals past)
  answer : m.answerTs = firstTs .success past

theorem tells_new (callId : String) : Tells [] (milestones (Call.new callId)) :=
  ⟨⟨fun _ => rfl, fun _ => Or.inl rfl⟩, rfl, ⟨fun _ => rfl, fun _ => ⟨rfl, rfl⟩⟩, rfl, rfl⟩

theorem firstTs_same {sig : Signal} {msg : SipMsg} (same : signal msg = sig) (past : List SipMsg) :
    firstTs sig (msg :: past) = (firstTs sig past).or (some msg.tsUs) := by
  rw [firstTs, if_pos same]

theorem firstTs_other {sig : Signal} {msg : SipMsg} (other : signal msg ≠ sig) (past : List SipMsg) :
    firstTs sig (msg :: past) = firstTs sig past := by
  rw [firstTs, if_neg other, Option.or_none]

theorem provisionals_other {msg : SipMsg} (other : ∀ rings, signal msg ≠ .provisional rings)
    (past : List SipMsg) : provisionals (msg :: past) = provisionals past := by
  rw [provisionals]
  split
  · next rings sig => exact absurd sig (other rings)
  · rfl

/-- A message that starts no measurement and sets no milestone the measurements ask for. -/
theorem Tells.frame {past : List SipMsg} {m next : Milestones} (tells : Tells past m) {msg : SipMsg}
    (notDial : signal msg ≠ .dial) (notProvisional : ∀ rings, signal msg ≠ .provisional rings)
    (notSuccess : signal msg ≠ .success) (early : next.early ↔ waits (msg :: past) = true)
    (times : next.inviteTs = m.inviteTs ∧ next.tryingTs = m.tryingTs ∧
      next.ringingTs = m.ringingTs ∧ next.answerTs = m.answerTs) : Tells (msg :: past) next := by
  obtain ⟨invite, trying, ringing, answer⟩ := times
  refine ⟨early, ?_, ?_, ?_, ?_⟩
  · rw [invite, firstTs_other notDial, tells.invite]
  · rw [trying, ringing, provisionals_other notProvisional, tells.started]
  · rw [ringing, provisionals_other notProvisional, tells.ringing]
  · rw [answer, firstTs_other notSuccess, tells.answer]

theorem tells_dial {past : List SipMsg} {m : Milestones} (tells : Tells past m) {msg : SipMsg}
    (sig : signal msg = .dial) : Tells (msg :: past) (m.advance msg.tsUs .dial) where
  early := ⟨fun _ => by rw [waits, sig], fun _ => Or.inl rfl⟩
  invite := by
    rw [firstTs_same sig, ← tells.invite]
    rfl
  started := by
    rw [provisionals_other (by simp [sig])]
    exact tells.started
  ringing := by
    rw [provisionals_other (by simp [sig])]
    exact tells.ringing
  answer := by
    rw [firstTs_other (by simp [sig])]
    exact tells.answer

theorem tells_provisional {past : List SipMsg} {m : Milestones} (tells : Tells past m) {msg : SipMsg}
    {rings : Bool} (sig : signal msg = .provisional rings) :
    Tells (msg :: past) (m.advance msg.tsUs (.provisional rings)) := by
  have stays : waits (msg :: past) = waits past := by rw [waits, sig]
  have list : provisionals (msg :: past) =
      if waits past then msg :: provisionals past else provisionals past := by
    rw [provisionals, sig]
  have dialed : firstTs .dial (msg :: past) = firstTs .dial past := firstTs_other (by simp [sig]) past
  have answered : firstTs .success (msg :: past) = firstTs .success past :=
    firstTs_other (by simp [sig]) past
  unfold Milestones.advance
  dsimp only
  by_cases early : m.early
  · have waiting : waits past = true := tells.early.mp early
    rw [if_pos early]
    rw [if_pos waiting] at list
    cases rings with
    | true =>
      refine ⟨⟨fun _ => stays.trans waiting, fun _ => Or.inr rfl⟩, ?_, ?_, ?_, ?_⟩
      · exact tells.invite.trans dialed.symm
      · simp [list]
      · rw [list, firstTs_same sig, ← tells.ringing]
        rfl
      · exact tells.answer.trans answered.symm
    | false =>
      refine ⟨⟨fun _ => stays.trans waiting, fun _ => early⟩, ?_, ?_, ?_, ?_⟩
      · exact tells.invite.trans dialed.symm
      · simp [list]
      · rw [list, firstTs_other (by simp [sig]), ← tells.ringing]
        rfl
      · exact tells.answer.trans answered.symm
  · have settled : ¬ waits past = true := mt tells.early.mpr early
    rw [if_neg early]
    rw [if_neg settled] at list
    refine ⟨?_, ?_, ?_, ?_, ?_⟩
    · rw [stays, tells.early]
    · rw [dialed, tells.invite]
    · rw [list, tells.started]
    · rw [list, tells.ringing]
    · rw [answered, tells.answer]

theorem tells_success {past : List SipMsg} {m : Milestones} (tells : Tells past m) {msg : SipMsg}
    (sig : signal msg = .success) : Tells (msg :: past) (m.advance msg.tsUs .success) := by
  have stays : waits (msg :: past) = ((firstTs .success past).isSome && waits past) := by
    rw [waits, sig]
  have list : provisionals (msg :: past) = provisionals past := provisionals_other (by simp [sig]) past
  have dialed : firstTs .dial (msg :: past) = firstTs .dial past := firstTs_other (by simp [sig]) past
  have answered := firstTs_same sig past
  rw [← tells.answer] at stays answered
  unfold Milestones.advance
  cases answer : m.answerTs with
  | none =>
    rw [answer] at stays answered
    refine ⟨⟨nofun, fun waiting => ?_⟩, ?_, ?_, ?_, ?_⟩
    · exact absurd (stays.symm.trans waiting) Bool.false_ne_true
    · exact tells.invite.trans dialed.symm
    · rw [list]
      exact tells.started
    · rw [list]
      exact tells.ringing
    · exact answered.symm
  | some t =>
    rw [answer] at stays answered
    refine ⟨?_, ?_, ?_, ?_, ?_⟩
    · rw [stays]
      exact tells.early
    · exact tells.invite.trans dialed.symm
    · rw [list]
      exact tells.started
    · rw [list]
      exact tells.ringing
    · exact answer.trans answered.symm

theorem tells_advance {past : List SipMsg} {m : Milestones} (tells : Tells past m) (msg : SipMsg) :
    Tells (msg :: past) (m.advance msg.tsUs (signal msg)) := by
  have closed : ¬ (m.closed = .dialing ∨ m.closed = .ringing) := by
    unfold Milestones.closed
    split <;> decide
  cases sig : signal msg with
  | dial => exact tells_dial tells sig
  | provisional rings => exact tells_provisional tells sig
  | success => exact tells_success tells sig
  | bye =>
    refine tells.frame (by simp [sig]) (by simp [sig]) (by simp [sig]) ?_ ⟨rfl, rfl, rfl, rfl⟩
    rw [waits, sig]
    exact tells.early
  | cancel =>
    have settled : ¬ (m.advance msg.tsUs .cancel).early := by
      unfold Milestones.advance
      dsimp only
      split
      · next ended => rcases ended with completed | failed <;> simp [*]
      · simp
    refine tells.frame (by simp [sig]) (by simp [sig]) (by simp [sig]) ?_ ?_
    · rw [waits, sig]
      exact iff_of_false settled Bool.false_ne_true
    · unfold Milestones.advance
      dsimp only
      split <;> exact ⟨rfl, rfl, rfl, rfl⟩
  | byeDone =>
    refine tells.frame (by simp [sig]) (by simp [sig]) (by simp [sig]) ?_ ⟨rfl, rfl, rfl, rfl⟩
    rw [waits, sig]
    exact iff_of_false closed Bool.false_ne_true
  | terminated =>
    refine tells.frame (by simp [sig]) (by simp [sig]) (by simp [sig]) ?_ ⟨rfl, rfl, rfl, rfl⟩
    rw [waits, sig]
    exact iff_of_false nofun Bool.false_ne_true
  | refusal client =>
    have settled : ¬ (m.advance msg.tsUs (.refusal client)).early := by
      unfold Milestones.advance
      dsimp only
      split
      · simp
      · exact closed
    refine tells.frame (by simp [sig]) (by simp [sig]) (by simp [sig]) ?_ ?_
    · rw [waits, sig]
      exact iff_of_false settled Bool.false_ne_true
    · unfold Milestones.advance
      dsimp only
      split <;> exact ⟨rfl, rfl, rfl, rfl⟩
  | nothing =>
    refine tells.frame (by simp [sig]) (by simp [sig]) (by simp [sig]) ?_ ⟨rfl, rfl, rfl, rfl⟩
    rw [waits, sig]
    exact tells.early

theorem timely_iff_inOrder {past : List SipMsg} {m : Milestones} (tells : Tells past m) (msg : SipMsg) :
    Timely m msg.tsUs (signal msg) ↔ InOrder past msg := by
  unfold InOrder
  cases signal msg with
  | provisional rings =>
    unfold Timely
    rw [tells.early, tells.invite, ← tells.started]
    exact forall_congr' fun _ => and_imp.symm
  | success =>
    unfold Timely
    rw [tells.answer, tells.invite, tells.ringing]
  | _ => exact Iff.rfl

/-- Along every message sequence, in whatever order it is stamped, the debug build ends
where `apply_sip` ends or panics, and it does not panic exactly while the messages that
start a measurement come in order. -/
theorem subtractions_in_range_iff (callId : String) (msgs : List SipMsg) :
    (∀ call, msgs.foldlM applySipChecked (Call.new callId) = some call →
      call = msgs.foldl Call.applySip (Call.new callId)) ∧
    ((msgs.foldlM applySipChecked (Call.new callId)).isSome = true ↔
      Run.Along (fun past msg => msg :: past) InOrder [] msgs) := by
  have kept : ∀ past call msg, Tells past (milestones call) →
      Tells (msg :: past) (milestones (Call.applySip call msg)) := by
    intro past call msg tells
    rw [applySip_milestones]
    exact tells_advance tells msg
  have told := Run.along_iff_history kept (fun past call msg tells => timely_iff_inOrder tells msg)
    msgs (tells_new callId)
  rw [Run.foldlM_guarded applySipChecked_eq, ← told]
  split <;> simp_all

/-- A 180 that overtook its INVITE: the post-dial delay is measured backwards. -/
theorem overtaken_invite_underflows : ¬ ∀ (callId : String) (msgs : List SipMsg),
    (msgs.foldlM applySipChecked (Call.new callId)).isSome = true := by
  intro always
  exact absurd (always "c1" [sampleMsg 100 true (some .invite) none "INVITE" none,
    sampleMsg 50 false none (some 180) "INVITE" (some "b")]) (by decide +kernel)

/-! ## Messages in time order -/

/-- Every milestone that is set lies no later than `now`. -/
structure Within (now : UInt64) (m : Milestones) : Prop where
  invite : ∀ t ∈ m.inviteTs, t ≤ now
  trying : ∀ t ∈ m.tryingTs, t ≤ now
  ringing : ∀ t ∈ m.ringingTs, t ≤ now
  answer : ∀ t ∈ m.answerTs, t ≤ now
  bye : ∀ t ∈ m.byeTs, t ≤ now
  ending : ∀ t ∈ m.endTs, t ≤ now

/-- A milestone keeps its time or takes the time of the message. -/
theorem advance_times (m : Milestones) (ts : UInt64) (sig : Signal) :
    let next := m.advance ts sig
    (next.inviteTs = m.inviteTs ∨ next.inviteTs = some ts) ∧
      (next.tryingTs = m.tryingTs ∨ next.tryingTs = some ts) ∧
      (next.ringingTs = m.ringingTs ∨ next.ringingTs = some ts) ∧
      (next.answerTs = m.answerTs ∨ next.answerTs = some ts) ∧
      (next.byeTs = m.byeTs ∨ next.byeTs = some ts) ∧
      (next.endTs = m.endTs ∨ next.endTs = some ts) := by
  have first : ∀ t : Option UInt64, some (t.getD ts) = t ∨ t.getD ts = ts := by
    intro t
    cases t <;> simp
  unfold Milestones.advance
  dsimp only
  repeat' split
  all_goals simp [first]

theorem within_or {now ts : UInt64} {old new : Option UInt64} (before : ∀ t ∈ old, t ≤ now)
    (later : now ≤ ts) (moved : new = old ∨ new = some ts) : ∀ t ∈ new, t ≤ ts := by
  intro t member
  rcases moved with kept | stamped
  · rw [kept] at member
    exact UInt64.le_trans (before t member) later
  · rw [stamped] at member
    cases member
    exact UInt64.le_refl _

theorem within_advance {now ts : UInt64} {m : Milestones} (within : Within now m) (later : now ≤ ts)
    (sig : Signal) : Within ts (m.advance ts sig) := by
  obtain ⟨invite, trying, ringing, answer, bye, ending⟩ := advance_times m ts sig
  exact ⟨within_or within.invite later invite, within_or within.trying later trying,
    within_or within.ringing later ringing, within_or within.answer later answer,
    within_or within.bye later bye, within_or within.ending later ending⟩

theorem Within.mono {now later : UInt64} {m : Milestones} (within : Within now m) (le : now ≤ later) :
    Within later m :=
  ⟨fun t member => UInt64.le_trans (within.invite t member) le,
    fun t member => UInt64.le_trans (within.trying t member) le,
    fun t member => UInt64.le_trans (within.ringing t member) le,
    fun t member => UInt64.le_trans (within.answer t member) le,
    fun t member => UInt64.le_trans (within.bye t member) le,
    fun t member => UInt64.le_trans (within.ending t member) le⟩

/-- The messages of a call in time order. -/
abbrev Sorted (msgs : List SipMsg) : Prop := msgs.Pairwise fun early late => early.tsUs ≤ late.tsUs

/-- Messages in time order find every milestone behind them. -/
theorem along_within {msgs : List SipMsg} (sorted : Sorted msgs) (call : Call)
    (behind : ∀ msg ∈ msgs, Within msg.tsUs (milestones call)) :
    Run.Along Call.applySip (fun call msg => Within msg.tsUs (milestones call)) call msgs := by
  induction msgs generalizing call with
  | nil => trivial
  | cons msg rest ih =>
    obtain ⟨first, later⟩ := List.pairwise_cons.mp sorted
    have now := behind msg List.mem_cons_self
    refine ⟨now, ih later _ fun next member => ?_⟩
    rw [applySip_milestones]
    exact (within_advance now (UInt64.le_refl _) _).mono (first next member)

theorem within_new (callId : String) (now : UInt64) : Within now (milestones (Call.new callId)) := by
  refine ⟨?_, ?_, ?_, ?_, ?_, ?_⟩ <;> exact fun t member => by cases member

theorem sorted_within {msgs : List SipMsg} (sorted : Sorted msgs) (callId : String) :
    Run.Along Call.applySip (fun call msg => Within msg.tsUs (milestones call)) (Call.new callId) msgs :=
  along_within sorted (Call.new callId) fun msg _ => within_new callId msg.tsUs

/-- Messages in time order never panic the debug build. -/
theorem sorted_returns {msgs : List SipMsg} (sorted : Sorted msgs) (callId : String) :
    msgs.foldlM applySipChecked (Call.new callId) = some (msgs.foldl Call.applySip (Call.new callId)) := by
  have timely : Run.Along Call.applySip (fun call msg => Timely (milestones call) msg.tsUs (signal msg))
      (Call.new callId) msgs := by
    refine (sorted_within sorted callId).mono fun call msg within => ?_
    cases signal msg with
    | provisional rings => exact fun _ _ _ => within.invite
    | success => exact fun _ => ⟨within.invite, within.ringing⟩
    | _ => trivial
  rw [Run.foldlM_guarded applySipChecked_eq, if_pos timely]

end Sipmon.Guarantees.CallClock
