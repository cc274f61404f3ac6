import Sipmon.Guarantees.TeardownLedger
import Sipmon.Lib.Run

/-!
# One teardown per call

The ledger of a call stays with the call as long as nothing disturbs a call
that has ended: then one Teardown is written, it says what the call finally
amounts to, and the call is counted once.
-/
namespace Sipmon.Guarantees.Teardown
open Source Lib CallSignals TeardownLedger

/-! ## Signals after the end -/

/-- A signal that changes what a terminated call amounts to. -/
def disturbs (m : Milestones) : Signal → Prop
  | .dial => True
  | .success => m.answerTs = none
  | .byeDone | .refusal _ => m.state ≠ m.closed
  | .terminated => ¬ (m.state = .canceled ∧ m.outcome = .canceled)
  | _ => False

/-- A signal that ends a call that has not ended. -/
def ends : Signal → Prop
  | .cancel | .byeDone | .terminated | .refusal _ => True
  | _ => False

instance decidableEnds : (s : Signal) → Decidable (ends s)
  | .cancel | .byeDone | .terminated | .refusal _ => .isTrue trivial
  | .dial | .bye | .provisional _ | .success | .nothing => .isFalse nofun

theorem stateCode_inj {a b : CallState} (same : Correlator.stateCode a = Correlator.stateCode b) :
    a = b := by
  cases a <;> cases b <;> first | rfl | exact absurd same (by decide)

theorem outcomeCode_inj {a b : Outcome}
    (same : Correlator.outcomeCode a = Correlator.outcomeCode b) : a = b := by
  cases a <;> cases b <;> first | rfl | exact absurd same (by decide)

theorem verdict_inj {a b : Milestones} : verdict a = verdict b ↔
    a.state = b.state ∧ a.outcome = b.outcome ∧ a.answerTs = b.answerTs := by
  constructor
  · intro same
    obtain ⟨state, outcome, answerTs⟩ := Verdict.mk.inj same
    exact ⟨stateCode_inj state, outcomeCode_inj outcome, answerTs⟩
  · rintro ⟨state, outcome, answerTs⟩
    rw [verdict, state, outcome, answerTs]
    rfl

theorem not_early {m : Milestones} (terminal : m.state.terminal = true) : ¬ m.early := by
  rintro (dialing | ringing)
  · rw [dialing] at terminal
    exact absurd terminal (by decide)
  · rw [ringing] at terminal
    exact absurd terminal (by decide)

theorem closed_terminal (m : Milestones) : m.closed.terminal = true := by
  unfold Milestones.closed
  split <;> rfl

/-- On a terminated call a signal keeps the verdict exactly when it does not disturb it. -/
theorem verdict_advance_iff {m : Milestones} (terminal : m.state.terminal = true) (ts : UInt64)
    (sig : Signal) : verdict (m.advance ts sig) = verdict m ↔ ¬ disturbs m sig := by
  have late := not_early terminal
  rw [verdict_inj]
  cases sig with
  | dial =>
    have undialed : CallState.dialing ≠ m.state := fun same => late (.inl same.symm)
    simp [disturbs, Milestones.advance, undialed]
  | bye | nothing => simp [disturbs, Milestones.advance]
  | cancel =>
    simp only [disturbs, Milestones.advance, not_false_eq_true, iff_true]
    split
    · exact ⟨rfl, rfl, rfl⟩
    · next open_ =>
      refine ⟨?_, rfl, rfl⟩
      cases state : m.state <;> simp_all [CallState.terminal]
  | provisional rings => simp [disturbs, Milestones.advance, if_neg late]
  | success =>
    cases answer : m.answerTs with
    | none => simp [disturbs, Milestones.advance, answer]
    | some t => simp [disturbs, Milestones.advance, answer]
  | byeDone => simp [disturbs, Milestones.advance, eq_comm]
  | terminated => simp [disturbs, Milestones.advance, eq_comm]
  | refusal client => simp [disturbs, Milestones.advance, if_neg late, eq_comm]

/-- A call that has not ended is ended by exactly the ending signals. -/
theorem advance_terminal_iff {m : Milestones} (running : m.state.terminal = false) (ts : UInt64)
    (sig : Signal) : (m.advance ts sig).state.terminal = true ↔ ends sig := by
  have notDone : ¬ (m.state = .completed ∨ m.state = .failed) := by
    rintro (done | failed)
    · rw [done] at running
      exact absurd running (by decide)
    · rw [failed] at running
      exact absurd running (by decide)
  cases sig with
  | dial => simp [ends, Milestones.advance, CallState.terminal]
  | bye | nothing => simp [ends, Milestones.advance, running]
  | cancel => simp [ends, Milestones.advance, if_neg notDone, CallState.terminal]
  | provisional rings =>
    simp only [ends, iff_false, Milestones.advance, Bool.not_eq_true]
    split
    · split
      · rfl
      · exact running
    · exact running
  | success =>
    simp only [ends, iff_false, Milestones.advance, Bool.not_eq_true]
    split
    · rfl
    · exact running
  | byeDone => simp [ends, Milestones.advance, closed_terminal]
  | terminated => simp [ends, Milestones.advance, CallState.terminal]
  | refusal client =>
    simp only [ends, iff_true, Milestones.advance]
    split
    · rfl
    · exact closed_terminal m

/-- A signal that makes an ended call live again. -/
def revives (m : Milestones) : Signal → Prop
  | .dial => True
  | .success => m.answerTs = none
  | _ => False

/-- A call that has ended stays ended unless it is revived. -/
theorem advance_ended_iff {m : Milestones} (terminal : m.state.terminal = true) (ts : UInt64)
    (sig : Signal) : (m.advance ts sig).state.terminal = true ↔ ¬ revives m sig := by
  have late := not_early terminal
  cases sig with
  | dial => simp [revives, Milestones.advance, CallState.terminal]
  | bye | nothing => simp [revives, Milestones.advance, terminal]
  | cancel =>
    simp only [revives, not_false_eq_true, iff_true, Milestones.advance]
    split
    · exact terminal
    · rfl
  | provisional rings => simp [revives, Milestones.advance, if_neg late, terminal]
  | success =>
    cases answer : m.answerTs with
    | none => simp [revives, Milestones.advance, answer, CallState.terminal]
    | some t => simp [revives, Milestones.advance, answer, terminal]
  | byeDone => simp [revives, Milestones.advance, closed_terminal]
  | terminated => simp [revives, Milestones.advance, CallState.terminal]
  | refusal client => simp [revives, Milestones.advance, if_neg late, closed_terminal]

/-! ## The ledger follows the call -/

/-- How often a call in this state counts as completed. -/
def completedCount (state : CallState) : Nat := if state = .completed then 1 else 0

/-- How often a call in this state counts as failed. -/
def failedCount (state : CallState) : Nat := if state = .failed ∨ state = .canceled then 1 else 0

/-- The ledger of a call whose messages have led to `m`. -/
structure Tracks (stays : Bool) (l : Ledger) (m : Milestones) : Prop where
  verdicts : l.verdicts = if m.state.terminal then [verdict m] else []
  completed : l.completed = completedCount m.state
  failed : l.failed = failedCount m.state
  running : m.state.terminal = false → l.call.getD fresh = m ∧ l.latched = false
  kept : m.state.terminal = true → stays = true → l.call = some m ∧ l.latched = true
  dropped : m.state.terminal = true → stays = false →
    (l.call.getD fresh).state.terminal = false ∧ l.latched = false

/-- What a message must not do to a call that has ended. -/
def Quiet (stays : Bool) (m : Milestones) (sig : Signal) : Prop :=
  m.state.terminal = true → ¬ disturbs m sig ∧ (stays = true ∨ ¬ ends sig)

theorem counts_running {state : CallState} (running : state.terminal = false) :
    completedCount state = 0 ∧ failedCount state = 0 := by
  cases state <;> simp_all [CallState.terminal, completedCount, failedCount]

/-- A call that runs ends at most once with a message. -/
theorem Tracks.record_running {stays : Bool} {l : Ledger} {m : Milestones} (msg : SipMsg)
    (tracks : Tracks stays l m) (running : m.state.terminal = false) :
    Tracks stays (l.record stays msg) (m.advance msg.tsUs (signal msg)) := by
  obtain ⟨call, latched⟩ := tracks.running running
  have verdicts : l.verdicts = [] := by simpa [running] using tracks.verdicts
  obtain ⟨uncompleted, unfailed⟩ := counts_running running
  have completed := tracks.completed.trans uncompleted
  have failed := tracks.failed.trans unfailed
  unfold Ledger.record
  dsimp only
  rw [call, latched]
  generalize m.advance msg.tsUs (signal msg) = n
  cases ends : n.state.terminal with
  | true =>
    simp only [Bool.not_false, Bool.and_self, if_pos]
    refine ⟨?_, ?_, ?_, ?_, ?_, ?_⟩
    · simp [Ledger.close, verdicts, ends]
    · simp [Ledger.close, completed, completedCount]
    · simp only [Ledger.close, failed, failedCount]
      cases state : n.state <;> simp_all [CallState.terminal]
    · simp [ends]
    · rintro _ rfl
      exact ⟨rfl, rfl⟩
    · rintro _ rfl
      exact ⟨rfl, rfl⟩
  | false =>
    simp only [Bool.false_and, Bool.false_eq_true, if_false]
    obtain ⟨uncompleted, unfailed⟩ := counts_running ends
    exact ⟨by simp [verdicts, ends], completed.trans uncompleted.symm, failed.trans unfailed.symm,
      fun _ => ⟨rfl, rfl⟩, fun yes => by simp [ends] at yes, fun yes => by simp [ends] at yes⟩

/-- A quiet message does not close the ledger of an ended call again. -/
theorem Tracks.unclosed {stays : Bool} {l : Ledger} {m : Milestones} {msg : SipMsg} (tracks : Tracks stays l m)
    (ended : m.state.terminal = true) (calm : stays = true ∨ ¬ ends (signal msg)) :
    (((l.call.getD fresh).advance msg.tsUs (signal msg)).state.terminal && !l.latched) = false := by
  cases keep : stays with
  | true => simp [(tracks.kept ended keep).2]
  | false =>
    obtain ⟨running, _⟩ := tracks.dropped ended keep
    have still := mt (advance_terminal_iff running msg.tsUs (signal msg)).mp
      (calm.resolve_left (by simp [keep]))
    simp [Bool.not_eq_true _ ▸ still]

theorem Tracks.record_ended {stays : Bool} {l : Ledger} {m : Milestones} (msg : SipMsg)
    (tracks : Tracks stays l m) (ended : m.state.terminal = true) (undisturbed : ¬ disturbs m (signal msg))
    (calm : stays = true ∨ ¬ ends (signal msg)) :
    Tracks stays (l.record stays msg) (m.advance msg.tsUs (signal msg)) := by
  have same := (verdict_advance_iff ended msg.tsUs (signal msg)).mpr undisturbed
  have state := (verdict_inj.mp same).1
  have unclosed := tracks.unclosed ended calm
  unfold Ledger.record
  dsimp only
  rw [unclosed, if_neg Bool.false_ne_true]
  refine ⟨?_, ?_, ?_, ?_, ?_, ?_⟩
  · rw [state, same]
    exact tracks.verdicts
  · rw [state]
    exact tracks.completed
  · rw [state]
    exact tracks.failed
  · rw [state, ended]
    intro no
    cases no
  · intro _ keep
    obtain ⟨call, latched⟩ := tracks.kept ended keep
    exact ⟨by simp [call], latched⟩
  · intro _ keep
    obtain ⟨running, latched⟩ := tracks.dropped ended keep
    rw [latched, Bool.not_false, Bool.and_true] at unclosed
    exact ⟨unclosed, latched⟩

theorem record_tracks {stays : Bool} {l : Ledger} {m : Milestones} (msg : SipMsg)
    (tracks : Tracks stays l m) (quiet : Quiet stays m (signal msg)) :
    Tracks stays (l.record stays msg) (m.advance msg.tsUs (signal msg)) := by
  cases ended : m.state.terminal with
  | false => exact tracks.record_running msg ended
  | true =>
    obtain ⟨undisturbed, calm⟩ := quiet ended
    exact tracks.record_ended msg ended undisturbed calm

/-- A message that is not quiet leaves a second or a stale Teardown. -/
theorem quiet_of_single {stays : Bool} {l : Ledger} {m : Milestones} (msg : SipMsg)
    (tracks : Tracks stays l m) (single : (l.record stays msg).verdicts.length ≤ 1)
    (agrees : ∀ v ∈ (l.record stays msg).verdicts, v = verdict (m.advance msg.tsUs (signal msg))) :
    Quiet stays m (signal msg) := by
  intro ended
  have written : l.verdicts = [verdict m] := by simpa [ended] using tracks.verdicts
  have remains : verdict m ∈ (l.record stays msg).verdicts := by
    unfold Ledger.record
    dsimp only
    split <;> simp [Ledger.close, written]
  refine ⟨(verdict_advance_iff ended msg.tsUs _).mp (agrees _ remains).symm, ?_⟩
  by_contra loud
  obtain ⟨drops, ending⟩ := not_or.mp loud
  obtain ⟨running, latched⟩ := tracks.dropped ended (Bool.eq_false_of_not_eq_true drops)
  have closes := (advance_terminal_iff running msg.tsUs (signal msg)).mpr (not_not.mp ending)
  unfold Ledger.record at single
  simp [closes, latched, Ledger.close, written] at single

/-! ## Reading the condition off a message -/

/-- A message that changes the state, the outcome or the answer time of a
terminated call: an initial INVITE, a first answer, a final response to BYE or a
refusal that does not match how the call ended, a 487 to a call not canceled. -/
def Disturbs (call : Call) (msg : SipMsg) : Prop :=
  msg.isInitialInvite = true ∨
    msg.isRequest = false ∧ ∃ code, msg.status = some code ∧ 200 ≤ code.toNat ∧
      if msg.cseqIs "BYE" then call.state ≠ call.closedState
      else if code.toNat < 300 then call.answerTs = none
      else if code.toNat = 487 then ¬ (call.state = .canceled ∧ call.outcome = .canceled)
      else call.state ≠ call.closedState

/-- A message that ends any call that has not ended: a CANCEL, a final response
to BYE, a final failure. -/
def Ends (msg : SipMsg) : Prop :=
  msg.isRequest = true ∧ msg.method = some .cancel ∨
    msg.isRequest = false ∧ ∃ code, msg.status = some code ∧ 200 ≤ code.toNat ∧
      (msg.cseqIs "BYE" = true ∨ 300 ≤ code.toNat)

/-- After its end a call is left undisturbed; where it is not retained, nothing
that would end a call follows. -/
def Undisturbed (config : Config) (call : Call) (msg : SipMsg) : Prop :=
  call.state.terminal = true → ¬ Disturbs call msg ∧ (retained config = true ∨ ¬ Ends msg)

theorem isInitialInvite_request {msg : SipMsg} (initial : msg.isInitialInvite = true) :
    msg.isRequest = true ∧ msg.method = some .invite :=
  ⟨((isInitialInvite_iff msg).mp initial).2.1, ((isInitialInvite_iff msg).mp initial).1⟩

/-- A final response in terms of its code. -/
theorem responseSignal_final (msg : SipMsg) {n : Nat} (final : 200 ≤ n) :
    responseSignal msg n = if msg.cseqIs "BYE" then .byeDone else if n < 300 then .success
      else if n = 487 then .terminated else .refusal (decide (400 ≤ n ∧ n < 500)) := by
  unfold responseSignal
  rw [if_neg (by omega), if_neg (by omega)]

/-- A response that is not final neither disturbs nor ends a call. -/
theorem responseSignal_early (msg : SipMsg) {n : Nat} (early : n < 200) (m : Milestones) :
    ¬ disturbs m (responseSignal msg n) ∧ ¬ ends (responseSignal msg n) := by
  unfold responseSignal
  simp only [early, if_true]
  repeat' split
  all_goals exact ⟨id, id⟩

theorem disturbs_signal_iff (call : Call) (msg : SipMsg) :
    disturbs (milestones call) (signal msg) ↔ Disturbs call msg := by
  unfold Disturbs signal
  by_cases initial : msg.isInitialInvite = true
  · simp [initial, disturbs]
  · rw [if_neg initial, or_iff_right initial]
    by_cases request : msg.isRequest = true
    · rw [if_pos request]
      simp only [request, Bool.true_eq_false, false_and, iff_false]
      unfold requestSignal
      split <;> exact id
    · rw [if_neg request]
      simp only [Bool.eq_false_of_not_eq_true request, true_and]
      cases status : msg.status with
      | none => simp [disturbs]
      | some code =>
        simp only [Option.some.injEq, exists_eq_left']
        by_cases final : 200 ≤ code.toNat
        · rw [responseSignal_final msg final]
          simp only [final, true_and]
          split
          · rfl
          · split
            · rfl
            · split <;> rfl
        · simp only [final, false_and, iff_false]
          exact (responseSignal_early msg (by omega) _).1

theorem ends_signal_iff (msg : SipMsg) : ends (signal msg) ↔ Ends msg := by
  unfold Ends signal
  by_cases initial : msg.isInitialInvite = true
  · simp [initial, ends, isInitialInvite_request initial]
  · rw [if_neg initial]
    by_cases request : msg.isRequest = true
    · rw [if_pos request]
      simp only [request, true_and, Bool.true_eq_false, false_and, or_false]
      unfold requestSignal
      split
      · simp_all [ends]
      · simp_all [ends]
      · next notCancel => exact ⟨False.elim, notCancel⟩
    · rw [if_neg request]
      simp only [Bool.eq_false_of_not_eq_true request, Bool.false_eq_true, false_and, false_or,
        true_and]
      cases status : msg.status with
      | none => simp [ends]
      | some code =>
        simp only [Option.some.injEq, exists_eq_left']
        by_cases final : 200 ≤ code.toNat
        · rw [responseSignal_final msg final]
          simp only [final, true_and]
          split
          · next bye => simp [ends, bye]
          · next notBye =>
            split
            · next ok =>
              have below : ¬ 300 ≤ code.toNat := by omega
              simp [ends, notBye, below]
            · next failed =>
              have range : 300 ≤ code.toNat := by omega
              split <;> simp [ends, range]
        · simp only [final, false_and, iff_false]
          exact (responseSignal_early msg (by omega) (milestones (.new ""))).2

theorem quiet_iff (config : Config) (call : Call) (msg : SipMsg) :
    Quiet (retained config) (milestones call) (signal msg) ↔ Undisturbed config call msg := by
  unfold Quiet Undisturbed
  rw [disturbs_signal_iff, ends_signal_iff]
  rfl

/-! ## Runs of one call -/

/-- The SIP of one call, ingested message by message. -/
def ingestAll (c : Correlator) (inputs : List (Iteration × SipMsg)) : Correlator :=
  inputs.foldl (fun c input => c.ingestSip input.1 input.2) c

/-- At most one Teardown for `id`, which says what `final` amounts to, and the
counters count the call once, in the class of its state. -/
structure OneTeardown (id : String) (final : Call) (c : Correlator) : Prop where
  single : (teardowns id c.pendingEvents).length ≤ 1
  agrees : ∀ e ∈ teardowns id c.pendingEvents, e.state = Correlator.stateCode final.state ∧
    e.outcome = Correlator.outcomeCode final.outcome ∧ e.answerTs = final.answerTs
  completed : c.reg.completed = completedCount final.state
  failed : c.reg.failed = failedCount final.state

theorem agrees_iff (id : String) (final : Call) (c : Correlator) :
    (∀ e ∈ teardowns id c.pendingEvents, e.state = Correlator.stateCode final.state ∧
      e.outcome = Correlator.outcomeCode final.outcome ∧ e.answerTs = final.answerTs) ↔
    ∀ v ∈ (ledger id c).verdicts, v = verdict (milestones final) := by
  simp only [ledger, List.forall_mem_map, verdictOf, verdict, Verdict.mk.injEq]
  rfl

theorem oneTeardown_of_tracks {id : String} {final : Call} {c : Correlator} {stays : Bool}
    (tracks : Tracks stays (ledger id c) (milestones final)) : OneTeardown id final c where
  single := by
    have same := congrArg List.length tracks.verdicts
    simp only [ledger, List.length_map] at same
    rw [same]
    split <;> simp
  agrees := by
    rw [agrees_iff, tracks.verdicts]
    split <;> simp
  completed := tracks.completed
  failed := tracks.failed

theorem quiet_of_oneTeardown {config : Config} {id : String} {call : Call} {l : Ledger}
    {msg : SipMsg} {c : Correlator} (tracks : Tracks (retained config) l (milestones call))
    (recorded : ledger id c = l.record (retained config) msg)
    (one : OneTeardown id (call.applySip msg) c) :
    Quiet (retained config) (milestones call) (signal msg) := by
  refine quiet_of_single msg tracks ?_ ?_
  · rw [← recorded]
    simpa [ledger] using one.single
  · rw [← recorded, ← applySip_milestones]
    exact (agrees_iff id _ c).mp one.agrees

/-- Every prefix has one teardown exactly when every step leaves the ended call alone. -/
theorem prefixes_iff {config : Config} {id : String} (inputs : List (Iteration × SipMsg))
    (own : ∀ input ∈ inputs, input.2.callId = id) {call : Call} {c : Correlator}
    (solo : (setting c).Solo config id)
    (tracks : Tracks (retained config) (ledger id c) (milestones call)) :
    (∀ before after, inputs = before ++ after →
      OneTeardown id ((before.map Prod.snd).foldl Call.applySip call) (ingestAll c before)) ↔
      Run.Along Call.applySip (Undisturbed config) call (inputs.map Prod.snd) := by
  induction inputs generalizing call c with
  | nil =>
    refine iff_of_true ?_ trivial
    intro before after split
    obtain ⟨rfl, _⟩ := List.append_eq_nil_iff.mp split.symm
    exact oneTeardown_of_tracks tracks
  | cons input rest ih =>
    obtain ⟨iter, msg⟩ := input
    have one := ingestSip_ledger iter solo (own (iter, msg) List.mem_cons_self)
    have ownRest : ∀ input ∈ rest, input.2.callId = id := fun input member =>
      own input (List.mem_cons_of_mem _ member)
    have next : Quiet (retained config) (milestones call) (signal msg) →
        Tracks (retained config) (ledger id (c.ingestSip iter msg))
          (milestones (call.applySip msg)) := by
      intro quiet
      rw [one.2, applySip_milestones]
      exact record_tracks msg tracks quiet
    constructor
    · intro each
      have quiet := quiet_of_oneTeardown tracks one.2 (each [(iter, msg)] rest rfl)
      refine ⟨(quiet_iff config call msg).mp quiet, (ih ownRest one.1 (next quiet)).mp ?_⟩
      rintro before after rfl
      exact each ((iter, msg) :: before) after rfl
    · rintro ⟨undisturbed, along⟩ before after split
      cases before with
      | nil => exact oneTeardown_of_tracks tracks
      | cons first before =>
        obtain ⟨rfl, rfl⟩ := List.cons.inj split
        have tracked := next ((quiet_iff config call msg).mpr undisturbed)
        exact (ih ownRest one.1 tracked).mpr along before after rfl

theorem solo_new (iter : Iteration) (config : Config) (source id : String) :
    (setting (.new iter config source)).Solo config id where
  only _ present := (AList.notMem_empty _ present).elim
  streams := rfl
  streamIndex := rfl
  removed := rfl
  focusHint := rfl
  searchMatches := rfl
  maxCalls := rfl
  keepTerminated := rfl
  emitEvlog := rfl

theorem tracks_new (iter : Iteration) (config : Config) (source id : String) :
    Tracks (retained config) (ledger id (.new iter config source)) (milestones (.new id)) where
  verdicts := rfl
  completed := rfl
  failed := rfl
  running _ := ⟨rfl, rfl⟩
  kept ended := nomatch ended
  dropped ended := nomatch ended

/-- For every configuration, every Call-ID and every sequence of its SIP
messages: each prefix leaves one agreeing Teardown and a call counted once,
exactly when no message disturbs the call after its end and, where ended calls
are not retained, none would end a call again. -/
theorem one_teardown_iff (iter : Iteration) (config : Config) (source id : String)
    (inputs : List (Iteration × SipMsg)) (own : ∀ input ∈ inputs, input.2.callId = id) :
    (∀ before after, inputs = before ++ after →
      OneTeardown id ((before.map Prod.snd).foldl Call.applySip (.new id))
        (ingestAll (.new iter config source) before)) ↔
      Run.Along Call.applySip (Undisturbed config) (.new id) (inputs.map Prod.snd) :=
  prefixes_iff inputs own (solo_new iter config source id) (tracks_new iter config source id)

/-- An INVITE challenged by a 407, sent again with credentials and answered. -/
def challenged : List SipMsg :=
  [sampleMsg 1 true (some .invite) none "INVITE" none,
    sampleMsg 2 false none (some 407) "INVITE" (some "b"),
    sampleMsg 3 true (some .invite) none "INVITE" none,
    sampleMsg 4 false none (some 200) "INVITE" (some "b")]

/-- The challenge is reported and counted as the failure of a call that is then
answered: the latch keeps its first Teardown. -/
theorem challenged_call_disagrees :
    (challenged.Pairwise fun a b => a.tsUs ≤ b.tsUs) ∧ (∀ msg ∈ challenged, msg.callId = "c1") ∧
      ¬ OneTeardown "c1" (challenged.foldl Call.applySip (.new "c1"))
        (ingestAll (.new .stored {} "eth0") (challenged.map fun msg => (.stored, msg))) := by
  refine ⟨by decide, by decide, fun one => ?_⟩
  have counted : (ingestAll (.new .stored {} "eth0")
      (challenged.map fun msg => (.stored, msg))).reg.failed = 1 := by decide +kernel
  have active : (challenged.foldl Call.applySip (.new "c1")).state = .active := by decide +kernel
  have failed := one.failed
  rw [counted, active] at failed
  exact absurd failed (by decide)

/-- A call that is set up and hung up meets the condition with every prefix. -/
theorem one_teardown_iff_hung_up :
    let sent := [sampleMsg 1 true (some .invite) none "INVITE" none,
      sampleMsg 2 false none (some 200) "INVITE" (some "b"),
      sampleMsg 3 true (some .bye) none "BYE" (some "b"),
      sampleMsg 4 false none (some 200) "BYE" (some "b")]
    let inputs := sent.map fun msg => (Iteration.stored, msg)
    (∀ before after, inputs = before ++ after →
      OneTeardown "c1" ((before.map Prod.snd).foldl Call.applySip (.new "c1"))
        (ingestAll (.new .stored {} "eth0") before)) ↔
      Run.Along Call.applySip (Undisturbed {}) (.new "c1") (inputs.map Prod.snd) :=
  one_teardown_iff .stored {} "eth0" "c1" _ (by decide)

end Sipmon.Guarantees.Teardown
