import Mathlib.Data.Option.Basic
import Sipmon.Source.CallMachine

/-!
# The call machine on its milestones

The state, the outcome, the milestone times and the durations of a call form a
machine of their own: a message acts on them only through its signal and its
timestamp. `applySip_milestones` connects the two; results about states, times
and outcomes are proved on the small machine.
-/
namespace Sipmon.Guarantees.CallSignals
open Source Source.Call

@[ext]
structure Milestones where
  state : CallState
  outcome : Outcome
  inviteTs : Option UInt64
  tryingTs : Option UInt64
  ringingTs : Option UInt64
  answerTs : Option UInt64
  byeTs : Option UInt64
  endTs : Option UInt64
  pddMs : Option UInt32
  setupMs : Option UInt32
  ringMs : Option UInt32
  deriving DecidableEq

def milestones (call : Call) : Milestones :=
  { state := call.state, outcome := call.outcome, inviteTs := call.inviteTs
    tryingTs := call.tryingTs, ringingTs := call.ringingTs, answerTs := call.answerTs
    byeTs := call.byeTs, endTs := call.endTs, pddMs := call.pddMs, setupMs := call.setupMs
    ringMs := call.ringMs }

/-- What a message means to the call. -/
inductive Signal where
  /-- An INVITE request without To tag. -/
  | dial
  | bye
  | cancel
  /-- A 1xx of the INVITE; `rings` for the codes 180 to 189. -/
  | provisional (rings : Bool)
  /-- A 2xx whose CSeq method is not BYE. -/
  | success
  /-- A final response to BYE. -/
  | byeDone
  /-- A 487 whose CSeq method is not BYE. -/
  | terminated
  /-- Any other final failure; `client` for the codes 400 to 499. -/
  | refusal (client : Bool)
  | nothing
  deriving DecidableEq, Repr

def requestSignal : Option Method → Signal
  | some .bye => .bye
  | some .cancel => .cancel
  | _ => .nothing

def responseSignal (msg : SipMsg) (code : Nat) : Signal :=
  if code < 100 then .nothing
  else if code < 200 then
    if msg.cseqInviteOrUnknown then .provisional (decide (180 ≤ code ∧ code < 190)) else .nothing
  else if msg.cseqIs "BYE" then .byeDone
  else if code < 300 then .success
  else if code = 487 then .terminated
  else .refusal (decide (400 ≤ code ∧ code < 500))

def signal (msg : SipMsg) : Signal :=
  if msg.isInitialInvite then .dial
  else if msg.isRequest then requestSignal msg.method
  else match msg.status with
    | some code => responseSignal msg code.toNat
    | none => .nothing

namespace Milestones

/-- Before the final response to the INVITE. -/
abbrev early (m : Milestones) : Prop := m.state = .dialing ∨ m.state = .ringing

/-- The state a final response leaves behind. -/
def closed (m : Milestones) : CallState := if m.answerTs.isSome then .completed else .failed

def advance (m : Milestones) (ts : UInt64) : Signal → Milestones
  | .dial => { m with inviteTs := m.inviteTs.or (some ts), state := .dialing }
  | .bye => { m with byeTs := m.byeTs.or (some ts) }
  | .cancel =>
    if m.state = .completed ∨ m.state = .failed then m
    else { m with state := .canceled, endTs := some ts }
  | .provisional rings =>
    if m.early then
      let pddMs := if m.tryingTs.isNone && m.ringingTs.isNone then
          some (msSince ts (m.inviteTs.getD ts)) else m.pddMs
      if rings then { m with pddMs, ringingTs := m.ringingTs.or (some ts), state := .ringing }
      else { m with pddMs, tryingTs := m.tryingTs.or (some ts) }
    else m
  | .success =>
    if m.answerTs.isNone then
      { m with answerTs := some ts
               setupMs := (m.inviteTs.map (msSince ts)).or m.setupMs
               ringMs := (m.ringingTs.map (msSince ts)).or m.ringMs
               state := .active, outcome := .answered }
    else m
  | .byeDone => { m with state := m.closed, endTs := m.endTs.or (some ts) }
  | .terminated => { m with state := .canceled, outcome := .canceled }
  | .refusal client =>
    if m.early then
      { m with state := .failed, outcome := if client then .rejected else .failed
               endTs := m.endTs.or (some ts) }
    else { m with state := m.closed, endTs := m.endTs.or (some ts) }
  | .nothing => m

end Milestones

/-! ## Refinement -/

theorem milestones_prelude (call : Call) (msg : SipMsg) :
    milestones ((call.touch msg).identify msg) = milestones call := by
  unfold Call.identify Call.touch
  split
  · dsimp only
    split <;> split <;> rfl
  · rfl

theorem milestones_onBye (call : Call) (msg : SipMsg) :
    milestones (call.onBye msg) = (milestones call).advance msg.tsUs .bye := by
  unfold Call.onBye
  dsimp only
  split <;> rfl

theorem milestones_onRequest (call : Call) (msg : SipMsg) :
    milestones (call.onRequest msg) =
      (milestones call).advance msg.tsUs (requestSignal msg.method) := by
  unfold Call.onRequest
  split
  · next method => rw [method, milestones_onBye]; rfl
  · next method =>
    rw [method]
    unfold requestSignal Milestones.advance
    split <;> simp_all [milestones]
  · next notBye notCancel =>
    unfold requestSignal
    split <;> simp_all [Milestones.advance]

theorem milestones_onProvisional (call : Call) (msg : SipMsg) (code : UInt16)
    (informational : 100 ≤ code.toNat) (early : call.state = .dialing ∨ call.state = .ringing) :
    milestones (call.onProvisional msg code) = (milestones call).advance msg.tsUs
      (.provisional (decide (180 ≤ code.toNat ∧ code.toNat < 190))) := by
  have rings : ((180 ≤ code.toNat ∧ code.toNat < 190) ∨ code = 183) ↔
      (180 ≤ code.toNat ∧ code.toNat < 190) :=
    or_iff_left_of_imp (by rintro rfl; decide)
  have stays : (milestones call).early := early
  unfold Call.onProvisional Milestones.advance
  dsimp only
  rw [if_pos stays]
  by_cases ringing : 180 ≤ code.toNat ∧ code.toNat < 190
  · rw [if_pos (rings.mpr ringing), if_pos (decide_eq_true ringing)]
    split <;> simp_all [milestones]
  · rw [if_neg (mt rings.mp ringing), if_neg (fun yes => ringing (of_decide_eq_true yes))]
    cases trying : call.tryingTs <;> cases ringingTs : call.ringingTs <;>
      simp [milestones, trying, ringingTs, informational]

theorem milestones_onSuccess (call : Call) (msg : SipMsg) :
    milestones (call.onSuccess msg) = (milestones call).advance msg.tsUs
      (if msg.cseqIs "BYE" then .byeDone else .success) := by
  unfold Call.onSuccess
  split
  · rfl
  · unfold Milestones.advance
    split <;> simp_all [milestones]

theorem milestones_onFailure (call : Call) (msg : SipMsg) (code : UInt16) :
    milestones (call.onFailure msg code) = (milestones call).advance msg.tsUs
      (if msg.cseqIs "BYE" then .byeDone else if code.toNat = 487 then .terminated
        else .refusal (decide (400 ≤ code.toNat ∧ code.toNat < 500))) := by
  have is487 : code = 487 ↔ code.toNat = 487 := by
    rw [← UInt16.toNat_inj]
    rfl
  unfold Call.onFailure
  dsimp only
  split
  · rfl
  · by_cases request : code = 487
    · rw [if_pos request, if_pos (is487.mp request)]
      rfl
    · rw [if_neg request, if_neg (mt is487.mpr request)]
      unfold Milestones.advance
      by_cases early : call.state = .dialing ∨ call.state = .ringing
      · have stays : (milestones call).early := early
        simp only [if_pos early, if_pos stays]
        split <;> simp_all [milestones]
      · have stays : ¬ (milestones call).early := early
        simp only [if_neg early, if_neg stays]
        rfl

theorem milestones_onResponse (call : Call) (msg : SipMsg) (code : UInt16) :
    milestones (call.onResponse msg code) =
      (milestones call).advance msg.tsUs (responseSignal msg code.toNat) := by
  unfold Call.onResponse responseSignal
  by_cases informational : 100 ≤ code.toNat ∧ code.toNat < 200
  · rw [if_neg (show ¬ code.toNat < 100 by omega), if_pos informational.2]
    by_cases invite : msg.cseqInviteOrUnknown = true
    · rw [if_pos invite]
      by_cases early : call.state = .dialing ∨ call.state = .ringing
      · rw [if_pos ⟨informational, invite, early⟩]
        exact milestones_onProvisional call msg code informational.1 early
      · rw [if_neg (fun all => early all.2.2), if_neg (by omega), if_neg (by omega)]
        have late : ¬ (milestones call).early := early
        exact (if_neg late).symm
    · rw [if_neg (fun all => invite all.2.1), if_neg (by omega), if_neg (by omega), if_neg invite]
      rfl
  · rw [if_neg (fun all => informational all.1)]
    by_cases low : code.toNat < 100
    · rw [if_pos low, if_neg (by omega), if_neg (by omega)]
      rfl
    · rw [if_neg low, if_neg (show ¬ code.toNat < 200 by omega)]
      by_cases ok : code.toNat < 300
      · rw [if_pos (show 200 ≤ code.toNat ∧ code.toNat < 300 by omega), if_pos ok]
        exact milestones_onSuccess call msg
      · rw [if_neg (fun both => ok both.2), if_pos (show 300 ≤ code.toNat by omega), if_neg ok]
        exact milestones_onFailure call msg code

/-- The call machine acts on the milestones as the small machine does. -/
theorem applySip_milestones (call : Call) (msg : SipMsg) :
    milestones (call.applySip msg) = (milestones call).advance msg.tsUs (signal msg) := by
  unfold Call.applySip signal
  rw [← milestones_prelude call msg]
  dsimp only
  split
  · rfl
  · split
    · exact milestones_onRequest _ msg
    · cases msg.status with
      | some code => exact milestones_onResponse _ msg code
      | none => rfl

/-! ## What the machine leaves alone -/

/-- The identity of a call, the addresses its initial INVITE stores, and what it collects
outside the machine. -/
structure Roster where
  callId : String
  inviteKey : Option IpAddr
  inviteSrc : Option SocketAddr
  activeIps : List IpAddr
  ips : List IpAddr
  messages : List SipMsg
  negotiated : NegotiatedMedia

def roster (call : Call) : Roster :=
  { callId := call.callId, inviteKey := call.inviteKey, inviteSrc := call.inviteSrc
    activeIps := call.activeIps, ips := call.ips, messages := call.messages
    negotiated := call.negotiated }

theorem roster_prelude (call : Call) (msg : SipMsg) :
    roster ((call.touch msg).identify msg) = roster call := by
  unfold Call.identify
  dsimp only
  repeat' split
  all_goals rfl

theorem roster_onRequest (call : Call) (msg : SipMsg) : roster (call.onRequest msg) = roster call := by
  unfold Call.onRequest Call.onBye
  dsimp only
  repeat' split
  all_goals rfl

theorem roster_onResponse (call : Call) (msg : SipMsg) (code : UInt16) :
    roster (call.onResponse msg code) = roster call := by
  unfold Call.onResponse Call.onProvisional Call.onSuccess Call.onFailure
  dsimp only
  repeat' split
  all_goals rfl

/-- Only an initial INVITE writes the roster. -/
theorem roster_applySip (call : Call) (msg : SipMsg) : roster (call.applySip msg) =
    if msg.isInitialInvite then roster (call.dial msg) else roster call := by
  have prelude := roster_prelude call msg
  unfold Call.applySip
  dsimp only
  generalize (call.touch msg).identify msg = known at prelude ⊢
  split
  · simp only [roster, Roster.mk.injEq] at prelude
    simp only [roster, Call.dial, prelude]
  · split
    · exact (roster_onRequest known msg).trans prelude
    · split
      · exact (roster_onResponse known msg _).trans prelude
      · exact prelude

/-! ## Reading a signal off a message -/

theorem isInitialInvite_iff (msg : SipMsg) : msg.isInitialInvite = true ↔
    msg.method = some .invite ∧ msg.isRequest = true ∧ msg.toTag = none := by
  simp [SipMsg.isInitialInvite, and_assoc]

theorem signal_dial_iff (msg : SipMsg) : signal msg = .dial ↔ msg.isInitialInvite = true := by
  unfold signal requestSignal responseSignal
  repeat' split
  all_goals simp_all

theorem signal_cancel_iff (msg : SipMsg) :
    signal msg = .cancel ↔ msg.isRequest = true ∧ msg.method = some .cancel := by
  have initial := isInitialInvite_iff msg
  unfold signal requestSignal responseSignal
  repeat' split
  all_goals simp_all

/-- A response is classified by its status code. -/
theorem signal_response (msg : SipMsg) (code : UInt16) (response : msg.isRequest = false)
    (status : msg.status = some code) : signal msg = responseSignal msg code.toNat := by
  have notInitial : ¬ msg.isInitialInvite = true := by
    simp [isInitialInvite_iff, response]
  rw [signal, if_neg notInitial, if_neg (by simp [response]), status]

/-- Only a response with a status code has a response signal. -/
theorem response_of_signal (msg : SipMsg) (notDial : signal msg ≠ .dial)
    (notBye : signal msg ≠ .bye) (notCancel : signal msg ≠ .cancel)
    (something : signal msg ≠ .nothing) :
    msg.isRequest = false ∧ ∃ code, msg.status = some code := by
  have notInitial := mt (signal_dial_iff msg).mpr notDial
  have request : ∀ method, requestSignal method = .bye ∨ requestSignal method = .cancel ∨
      requestSignal method = .nothing := by
    intro method
    unfold requestSignal
    split <;> simp
  rw [signal, if_neg notInitial] at notBye notCancel something
  by_cases isRequest : msg.isRequest = true
  · rw [if_pos isRequest] at notBye notCancel something
    rcases request msg.method with bye | cancel | nothing
    · exact (notBye bye).elim
    · exact (notCancel cancel).elim
    · exact (something nothing).elim
  · rw [if_neg isRequest] at something
    refine ⟨by simpa using isRequest, ?_⟩
    cases status : msg.status with
    | some code => exact ⟨code, rfl⟩
    | none =>
      rw [status] at something
      exact (something rfl).elim

theorem responseSignal_success_iff (msg : SipMsg) (n : Nat) : responseSignal msg n = .success ↔
    msg.cseqIs "BYE" = false ∧ 200 ≤ n ∧ n < 300 := by
  unfold responseSignal
  repeat' split
  all_goals simp_all
  all_goals omega

/-- The signals of a final failure outside the BYE transaction. -/
def Signal.fails : Signal → Prop
  | .terminated | .refusal _ => True
  | _ => False

instance decidableFails : (s : Signal) → Decidable s.fails
  | .terminated | .refusal _ => .isTrue trivial
  | .dial | .bye | .cancel | .provisional _ | .success | .byeDone | .nothing => .isFalse nofun

theorem responseSignal_fails_iff (msg : SipMsg) (n : Nat) : (responseSignal msg n).fails ↔
    msg.cseqIs "BYE" = false ∧ 300 ≤ n := by
  unfold responseSignal
  repeat' split
  all_goals simp_all [Signal.fails]
  all_goals omega

theorem signal_success_iff (msg : SipMsg) : signal msg = .success ↔
    msg.isRequest = false ∧ msg.cseqIs "BYE" = false ∧
      ∃ code, msg.status = some code ∧ 200 ≤ code.toNat ∧ code.toNat < 300 := by
  constructor
  · intro success
    obtain ⟨response, code, status⟩ := response_of_signal msg (by simp [success])
      (by simp [success]) (by simp [success]) (by simp [success])
    rw [signal_response msg code response status, responseSignal_success_iff] at success
    exact ⟨response, success.1, code, status, success.2⟩
  · rintro ⟨response, notBye, code, status, range⟩
    rw [signal_response msg code response status, responseSignal_success_iff]
    exact ⟨notBye, range⟩

theorem responseSignal_byeDone_iff (msg : SipMsg) (n : Nat) : responseSignal msg n = .byeDone ↔
    msg.cseqIs "BYE" = true ∧ 200 ≤ n := by
  unfold responseSignal
  repeat' split
  all_goals simp_all
  intro _
  omega

theorem signal_byeDone_iff (msg : SipMsg) : signal msg = .byeDone ↔
    msg.isRequest = false ∧ msg.cseqIs "BYE" = true ∧
      ∃ code, msg.status = some code ∧ 200 ≤ code.toNat := by
  constructor
  · intro done
    obtain ⟨response, code, status⟩ := response_of_signal msg (by simp [done])
      (by simp [done]) (by simp [done]) (by simp [done])
    rw [signal_response msg code response status, responseSignal_byeDone_iff] at done
    exact ⟨response, done.1, code, status, done.2⟩
  · rintro ⟨response, isBye, code, status, range⟩
    rw [signal_response msg code response status, responseSignal_byeDone_iff]
    exact ⟨isBye, range⟩

theorem signal_fails_iff (msg : SipMsg) : (signal msg).fails ↔
    msg.isRequest = false ∧ msg.cseqIs "BYE" = false ∧
      ∃ code, msg.status = some code ∧ 300 ≤ code.toNat := by
  constructor
  · intro failed
    obtain ⟨response, code, status⟩ : msg.isRequest = false ∧ ∃ code, msg.status = some code := by
      apply response_of_signal
      all_goals intro other
      all_goals rw [other] at failed
      all_goals exact failed
    rw [signal_response msg code response status, responseSignal_fails_iff] at failed
    exact ⟨response, failed.1, code, status, failed.2⟩
  · rintro ⟨response, notBye, code, status, range⟩
    rw [signal_response msg code response status, responseSignal_fails_iff]
    exact ⟨notBye, range⟩

/-- A message of one small call, for runs on fixed inputs. -/
def sampleMsg (tsUs : UInt64) (isRequest : Bool) (method : Option Method) (status : Option UInt16)
    (cseqMethod : String) (toTag : Option String) : SipMsg :=
  { tsUs, isRequest, method, status, toTag, cseqMethod := some cseqMethod
    flow := { proto := .udp, src := ⟨.v4 ⟨10, 0, 0, 1⟩, 5060⟩, dst := ⟨.v4 ⟨10, 0, 0, 2⟩, 5060⟩ }
    callId := "c1", cseq := some 1, branch := none, fromTag := none, fromUri := none, toUri := none
    raw := [], contactAddr := none, routeCount := 0, recordRouteCount := 0, hasSdp := false }

end Sipmon.Guarantees.CallSignals
