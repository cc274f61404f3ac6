import Sipmon.Guarantees.Carried

/-!
# The records of the calls across a step

Apart from the call that a message reaches, a step only counts on a call, notes the
addresses of its media, or removes it. So what counting keeps of every call, a step
keeps of all but that one.
-/
namespace Sipmon.Guarantees.CallRecords
open Source Lib Correlator Stages RegistryShape
open Carried (Carries Counting Tends)

/-- Every tracked call satisfies `P`. -/
def Each (P : String → Call → Prop) (reg : Registry) : Prop :=
  ∀ id call, reg.calls.lookup id = some call → P id call

/-- Counting on a call does not leave `P`. -/
def Closed (P : String → Call → Prop) : Prop :=
  ∀ {update : Call → Call}, Counting update → ∀ id call, P id call → P id (update call)

variable {P : String → Call → Prop}

theorem each_of_same {a b : Registry} (same : b.calls = a.calls) (each : Each P a) : Each P b :=
  fun id call found => each id call (by rwa [same] at found)

theorem tends_each (closed : Closed P) : Tends fun a b => Each P a → Each P b where
  refl _ := id
  trans first second each := second (first each)
  tables _ _ _ _ _ _ _ _ _ _ := each_of_same rfl
  erased reg id each a call found := by
    rw [FiniteMap.lookup_erase_iff] at found
    split at found
    · exact nomatch found
    · exact each a call found
  counted reg id update counting each a call found := by
    rw [Registry.updateCall, FiniteMap.lookup_modify] at found
    split at found
    · obtain ⟨was, listed, rfl⟩ := Option.map_eq_some_iff.mp found
      exact closed counting a was (each a was listed)
    · exact each a call found
  event reg line := by
    unfold Registry.pushEvent
    exact each_of_same rfl
  diagnostic reg d := by
    unfold Registry.pushDiagnostic
    exact each_of_same rfl
  cell _ _ := each_of_same rfl
  aged _ _ := each_of_same rfl
  searched _ _ _ := each_of_same rfl

/-! ## A message -/

/-- The call of a message before it arrives. -/
def addressed (c : Correlator) (msg : SipMsg) : Call :=
  (c.reg.calls.lookup msg.callId).getD (.new msg.callId)

/-- The call once the message has reached it. -/
def heard (c : Correlator) (msg : SipMsg) : Call :=
  receive msg ((sdpOf msg).map NegotiatedMedia.ofSession) (addressed c msg)

theorem lookup_stored (c : Correlator) (msg : SipMsg) (id : String) :
    (Carries.stored c msg).reg.calls.lookup id =
      if id = msg.callId then some (heard c msg) else c.reg.calls.lookup id := by
  have observed : (c.observeSip msg).reg.calls = c.reg.calls := by
    unfold observeSip
    dsimp only
    split <;> rfl
  rw [Carries.stored, CallTable.lookup_storeMessage, observed]
  rfl

/-! ## A step -/

/-- The call that the message of a step is for. -/
def addressee (input : Iteration × Op) : Option String :=
  match input.2 with
  | .sip msg => some msg.callId
  | _ => none

theorem each_other (closed : Closed P) (c : Correlator) (input : Iteration × Op)
    (quiet : addressee input = none) (each : Each P c.reg) : Each P (step c input).reg := by
  have tends := tends_each closed
  obtain ⟨iter, op⟩ := input
  cases op with
  | sip msg => exact nomatch quiet
  | rtp ts flow header len encap => exact tends.ingestRtp c ts flow header len encap each
  | rtcp ts flow msg => exact tends.ingestRtcp c ts flow msg each
  | terminal id => exact tends.onCallTerminal iter c id each
  | flush ts => exact tends.flush iter c ts (fun _ _ _ => each_of_same rfl) each
  | clear => exact fun _ _ found => nomatch found
  | search q => exact tends.setSearchHint iter c.reg q each
  | touchTime | focus | takeEvents | disableEvlogEmit | enableSessionStats => exact each

/-- After a step every call satisfies `P`, when those that no message reaches did before,
and the one that a message reaches does with it. -/
theorem each_step (closed : Closed P) (c : Correlator) (input : Iteration × Op)
    (others : ∀ id call, addressee input ≠ some id → c.reg.calls.lookup id = some call → P id call)
    (own : ∀ msg, input.2 = .sip msg → P msg.callId (heard c msg)) : Each P (step c input).reg := by
  cases quiet : addressee input with
  | none =>
    refine each_other closed c input quiet fun id call found => others id call ?_ found
    simp [quiet]
  | some _ =>
    obtain ⟨iter, op⟩ := input
    cases op with
    | sip msg =>
      refine (tends_each closed).ingestSip iter c msg fun id call found => ?_
      rw [lookup_stored] at found
      split at found
      · next same =>
        obtain rfl := Option.some.inj found
        exact same ▸ own msg rfl
      · next other =>
        exact others id call (fun same => other (Option.some.inj same).symm) found
    | rtp | rtcp | terminal | flush | clear | touchTime | focus | search | takeEvents
    | disableEvlogEmit | enableSessionStats => exact nomatch quiet

end Sipmon.Guarantees.CallRecords
