import Sipmon.Guarantees.CallTable
import Sipmon.Guarantees.SeizureCounts

/-!
# Ratios of a recorded run

The report divides outcomes by seizures. It stays within bounds as long as the
correlator tears down only calls that were seized, each of them once, and never
reports an answered call as refused.
-/
namespace Sipmon.Guarantees.SaneRatios
open Source Lib RegistryIndex CallSignals CallTable SeizureCounts Correlator
open Evlog (Event)
open Teardown (ends)

/-- The events fed to the session statistics. -/
def fed (c : Correlator) : List Event := c.sessionStats.getD []

/-! ## Signaling events -/

theorem endings_signals (evs : List Event) : endings (evs.filterMap signalEvent) = endings evs := by
  rw [endings, List.filterMap_filterMap, endings]
  refine List.filterMap_congr fun ev _ => ?_
  cases ev <;> rfl

theorem seizures_signals (evs : List Event) :
    seizures (evs.filterMap signalEvent) = seizures evs := by
  rw [seizures, List.filterMap_filterMap, seizures]
  refine List.filterMap_congr fun ev _ => ?_
  cases ev <;> rfl

/-- The signaling events fed to the statistics. -/
def heard (t : Table) : List Event := t.stats.getD []

theorem heard_table (c : Correlator) : heard (table c) = (fed c).filterMap signalEvent := by
  unfold heard fed table
  cases c.sessionStats <;> rfl

theorem sane_fed_iff (c : Correlator) : Sane (heard (table c)) ↔ Sane (fed c) := by
  rw [heard_table]
  constructor
  · intro sane
    obtain ⟨once, seized, apart⟩ := sane
    rw [endings_signals] at once seized apart
    rw [seizures_signals] at seized
    exact ⟨once, seized, apart⟩
  · intro sane
    refine ⟨?_, ?_, ?_⟩
    · rw [endings_signals]
      exact sane.once
    · rw [endings_signals, seizures_signals]
      exact sane.seized
    · rw [endings_signals]
      exact sane.apart

/-! ## Sane steps -/

/-- A message that ends its call: one that has not ended, if it is tracked. -/
def EndsCall (c : Correlator) (msg : SipMsg) : Prop :=
  ends (signal msg) ∧ ∀ call ∈ c.reg.calls.lookup msg.callId, call.state.terminal = false

/-- What keeps the ratios sane when a message ends its call. -/
structure SaneEnd (c : Correlator) (msg : SipMsg) : Prop where
  /-- An INVITE request of the call has been counted. -/
  seized : msg.callId ∈ seizures (fed c)
  /-- No Teardown of the call has been counted. -/
  once : msg.callId ∉ (endings (fed c)).map Ending.callId
  /-- An answered call that is being dialed again is not refused. -/
  apart : ∀ call ∈ c.reg.calls.lookup msg.callId, call.answerTs.isSome = true →
    (milestones call).early → (signal msg).fails →
      delivered (classifyFail (msg.status.map UInt16.toUInt32)) = false

/-- A step that keeps the ratios sane. The statistics are switched on once, and
terminal handling comes from the messages. -/
def SaneStep (c : Correlator) (input : Iteration × Op) : Prop :=
  match input.2 with
  | .sip msg => EndsCall c msg → SaneEnd c msg
  | .terminal id => ∀ call ∈ c.reg.calls.lookup id, call.state.terminal = false
  | .enableSessionStats => False
  | _ => True

instance (c : Correlator) (msg : SipMsg) : Decidable (EndsCall c msg) :=
  inferInstanceAs (Decidable (ends (signal msg) ∧
    ∀ call ∈ c.reg.calls.lookup msg.callId, call.state.terminal = false))

instance (c : Correlator) (msg : SipMsg) : Decidable (SaneEnd c msg) :=
  decidable_of_iff
    (msg.callId ∈ seizures (fed c) ∧ msg.callId ∉ (endings (fed c)).map Ending.callId ∧
      ∀ call ∈ c.reg.calls.lookup msg.callId, call.answerTs.isSome = true →
        (milestones call).early → (signal msg).fails →
          delivered (classifyFail (msg.status.map UInt16.toUInt32)) = false)
    ⟨fun ⟨seized, once, apart⟩ => ⟨seized, once, apart⟩,
      fun ⟨seized, once, apart⟩ => ⟨seized, once, apart⟩⟩

instance decidableSaneStep (c : Correlator) :
    (input : Iteration × Op) → Decidable (SaneStep c input)
  | (_, .sip msg) => inferInstanceAs (Decidable (EndsCall c msg → SaneEnd c msg))
  | (_, .terminal id) => inferInstanceAs (Decidable
      (∀ call ∈ c.reg.calls.lookup id, call.state.terminal = false))
  | (_, .enableSessionStats) => .isFalse id
  | (_, .rtp ..) | (_, .rtcp ..) | (_, .flush _) | (_, .clear) | (_, .touchTime _) | (_, .focus _)
  | (_, .search _) | (_, .takeEvents) | (_, .disableEvlogEmit) => .isTrue trivial

/-! ## A Teardown -/

theorem hangup_of_fails (call : Call) (msg : SipMsg) (failed : (signal msg).fails) :
    (call.applySip msg).hangup.code = msg.status.map UInt16.toUInt32 := by
  obtain ⟨response, _, code, status, final⟩ := (signal_fails_iff msg).mp failed
  have notInitial : msg.isInitialInvite = false := by
    rw [SipMsg.isInitialInvite, response, Bool.and_false, Bool.false_and]
  have notProvisional : ¬ (100 ≤ code.toNat ∧ code.toNat < 200) := fun range => by omega
  have notSuccess : ¬ (200 ≤ code.toNat ∧ code.toNat < 300) := fun range => by omega
  rw [Call.applySip, notInitial, response, status]
  simp only [Bool.false_eq_true, if_false, Call.onResponse, notProvisional, notSuccess, false_and,
    if_pos final]
  unfold Call.onFailure
  dsimp only
  repeat' split
  all_goals rfl

/-- The Teardown event of a call, as the statistics read it. -/
def endingFor (id : String) (call : Call) : Ending :=
  { callId := id, state := stateCode call.state, answered := call.answerTs.isSome
    code := call.hangup.code }

theorem endingOf_teardown (id : String) (call : Call) (lastUs : Option UInt64) :
    endingOf (.call (teardownEvt id call lastUs)) = some (endingFor id call) := rfl

theorem failed_of_refused {id : String} {call : Call} (refused : (endingFor id call).refused = true) :
    call.state = .failed ∧ delivered (classifyFail call.hangup.code) = true := by
  obtain ⟨state, cause⟩ := Bool.and_eq_true_iff.mp refused
  refine ⟨?_, cause⟩
  exact Teardown.stateCode_inj (decide_eq_true_eq.mp state)

/-- A message that ends a call leaves it failed and answered only by refusing it
while it is dialed again. -/
theorem apart_after {t : Table} {msg : SipMsg} (live : (before t msg).state.terminal = false)
    (ending : ends (signal msg))
    (guarded : (before t msg).answerTs.isSome = true → (milestones (before t msg)).early →
      (signal msg).fails → delivered (classifyFail (msg.status.map UInt16.toUInt32)) = false) :
    ¬ ((endingFor msg.callId (after t msg)).answered = true ∧
      (endingFor msg.callId (after t msg)).refused = true) := by
  rintro ⟨answered, refused⟩
  obtain ⟨failed, cause⟩ := failed_of_refused refused
  have moved := milestones_after t msg
  have state : ((milestones (before t msg)).advance msg.tsUs (signal msg)).state = .failed :=
    (congrArg Milestones.state moved).symm.trans failed
  have answer : ((milestones (before t msg)).advance msg.tsUs (signal msg)).answerTs.isSome = true := by
    rw [← moved]
    exact answered
  have closed : (milestones (before t msg)).answerTs.isSome = true →
      (milestones (before t msg)).closed ≠ .failed := by
    intro some_ failed
    rw [Milestones.closed, if_pos some_] at failed
    cases failed
  cases sig : signal msg with
  | cancel =>
    rw [sig] at state
    simp only [Milestones.advance] at state
    split at state
    · have stays : (before t msg).state = .failed := state
      rw [stays] at live
      cases live
    · cases state
  | byeDone =>
    rw [sig] at state answer
    exact closed answer state
  | terminated =>
    rw [sig] at state
    cases state
  | refusal client =>
    rw [sig] at state answer
    unfold Milestones.advance at state answer
    dsimp only at state answer
    by_cases early : (milestones (before t msg)).early
    · rw [if_pos early] at answer
      have failing : (signal msg).fails := by
        rw [sig]
        trivial
      have code := hangup_of_fails (before t msg) msg failing
      have same : (after t msg).hangup.code = msg.status.map UInt16.toUInt32 := code
      rw [same, guarded answer early failing] at cause
      cases cause
    · rw [if_neg early] at state answer
      exact closed answer state
  | dial | bye | provisional | success | nothing =>
    rw [sig] at ending
    exact ending

/-! ## Steps -/

theorem seizures_append (evs : List Event) (ev : Event) {id : String} (known : id ∈ seizures evs) :
    id ∈ seizures (evs ++ [ev]) := by
  rw [seizures, List.filterMap_append]
  exact List.mem_append_left _ known

theorem sane_append {evs : List Event} (sane : Sane evs) {ev : Event} (silent : endingOf ev = none) :
    Sane (evs ++ [ev]) := by
  have same : endings (evs ++ [ev]) = endings evs := by
    rw [endings, List.filterMap_append, List.filterMap_cons_none silent, List.filterMap_nil,
      List.append_nil]
    rfl
  exact ⟨same ▸ sane.once, fun e member => seizures_append evs ev (sane.seized e (same ▸ member)),
    same ▸ sane.apart⟩

/-- One more Teardown of a seized call that had none. -/
theorem sane_teardown {evs : List Event} (sane : Sane evs) {ev : Event} {e : Ending}
    (ending : endingOf ev = some e) (seized : e.callId ∈ seizures evs)
    (once : e.callId ∉ (endings evs).map Ending.callId)
    (apart : ¬ (e.answered = true ∧ e.refused = true)) : Sane (evs ++ [ev]) := by
  have more : endings (evs ++ [ev]) = endings evs ++ [e] := by
    rw [endings, List.filterMap_append, List.filterMap_cons_some ending]
    rfl
  refine ⟨?_, fun a member => ?_, fun a member => ?_⟩
  · rw [more, List.map_append, List.map_singleton]
    exact List.Nodup.append sane.once (List.nodup_singleton _) (List.disjoint_singleton.mpr once)
  · rw [more] at member
    rcases List.mem_append.mp member with old | new
    · exact seizures_append evs ev (sane.seized a old)
    · obtain rfl := List.mem_singleton.mp new
      exact seizures_append evs ev seized
  · rw [more] at member
    rcases List.mem_append.mp member with old | new
    · exact sane.apart a old
    · obtain rfl := List.mem_singleton.mp new
      exact apart

/-- What holds of every sane run. -/
structure Holds (c : Correlator) : Prop where
  settled : Settled c
  latched : Latched (table c)
  running : (table c).stats.isSome = true
  sane : Sane (heard (table c))

theorem heard_push {t : Table} (running : t.stats.isSome = true) (ev : Event) :
    heard (t.push ev) = heard t ++ [ev] := by
  obtain ⟨evs, stats⟩ := Option.isSome_iff_exists.mp running
  rw [heard, heard, Table.push, stats]
  rfl

theorem sane_message {c : Correlator} (holds : Holds c) (msg : SipMsg)
    (guarded : EndsCall c msg → SaneEnd c msg) (gone : List String) :
    Sane (heard (((table c).hear msg).latch msg.callId gone)) := by
  have found : (table c).call msg.callId = (c.reg.calls.lookup msg.callId).map signaling := rfl
  have reached : heard ((table c).hear msg) = heard (table c) ++ [.sipMsg (sipMsgEvt msg)] :=
    heard_push (t := { table c with call := _ }) holds.running _
  have listening : Sane (heard ((table c).hear msg)) := by
    rw [reached]
    exact sane_append holds.sane rfl
  unfold Table.latch
  split
  · next passes =>
    obtain ⟨live, ending, _⟩ := (ends_hear_iff holds.latched msg).mp passes
    have tracked : ∀ call ∈ c.reg.calls.lookup msg.callId, before (table c) msg = signaling call :=
      fun call member => by
        have present : c.reg.calls.lookup msg.callId = some call := member
        rw [before, found, present]
        rfl
    have sane := guarded ⟨ending, fun call member => by
      rw [tracked call member] at live
      exact live⟩
    have terminal : (after (table c) msg).state.terminal = true := by
      have state : (after (table c) msg).state = _ :=
        congrArg Milestones.state (milestones_after (table c) msg)
      rw [state]
      exact (Teardown.advance_terminal_iff live msg.tsUs (signal msg)).mpr ending
    have stats : ((table c).hear msg).stats.isSome = true := by
      obtain ⟨evs, fed⟩ := Option.isSome_iff_exists.mp holds.running
      rw [Table.hear, Table.push, fed]
      rfl
    rw [Table.close_terminal (t := { (table c).hear msg with
      done := insert msg.callId ((table c).hear msg).done }) (hear_own (table c) msg) terminal]
    refine (heard_push (t := { (table c).hear msg with
      done := insert msg.callId ((table c).hear msg).done }) stats _).symm ▸ ?_
    refine sane_teardown listening (endingOf_teardown _ _ _) ?_ ?_ (apart_after live ending ?_)
    · refine reached ▸ seizures_append _ _ ?_
      rw [heard_table, seizures_signals]
      exact sane.seized
    · have same : endings (heard ((table c).hear msg)) = endings (fed c) := by
        rw [reached, endings, List.filterMap_append, List.filterMap_cons_none rfl, List.filterMap_nil,
          List.append_nil, heard_table]
        exact endings_signals (fed c)
      exact same ▸ sane.once
    · intro answered early failing
      cases present : c.reg.calls.lookup msg.callId with
      | none =>
        rw [before, found, present] at answered
        cases answered
      | some call =>
        have same := tracked call present
        rw [same] at answered early
        exact sane.apart call present answered early failing
  · exact listening

theorem push_running {t : Table} (running : t.stats.isSome = true) (ev : Event) :
    (t.push ev).stats.isSome = true := by
  rw [Table.push, Option.isSome_map]
  exact running

theorem close_running {t : Table} (running : t.stats.isSome = true) (id : String)
    (gone : List String) : (t.close id gone).stats.isSome = true := by
  unfold Table.close
  split
  · split
    · exact push_running running _
    · exact running
  · exact running

theorem step_running {t : Table} (running : t.stats.isSome = true) (op : Op) (gone : List String) :
    (t.step op gone).stats.isSome = true := by
  cases op with
  | sip msg =>
    have reached : (t.hear msg).stats.isSome = true := push_running (t := { t with call := _ }) running _
    change ((t.hear msg).latch msg.callId gone).stats.isSome = true
    unfold Table.latch
    split
    · exact close_running (t := { t.hear msg with done := insert msg.callId (t.hear msg).done })
        reached _ _
    · exact reached
  | terminal id => exact close_running running id gone
  | clear => exact (Option.isSome_map ..).trans running
  | enableSessionStats => rfl
  | flush | rtp | rtcp | touchTime | focus | search | takeEvents | disableEvlogEmit => exact running

theorem holds_step (c : Correlator) (input : Iteration × Op) (guarded : SaneStep c input)
    (holds : Holds c) : Holds (step c input) := by
  have latched := latched_step holds.latched input.2 (gone c input)
  have running := step_running holds.running input.2 (gone c input)
  have sane : Sane (heard ((table c).step input.2 (gone c input))) := by
    obtain ⟨iter, op⟩ := input
    cases op with
    | sip msg => exact sane_message holds msg guarded _
    | terminal id =>
      have found : (table c).call id = (c.reg.calls.lookup id).map signaling := rfl
      have live : (table c).ended id = false := by
        rw [Table.ended, found]
        cases present : c.reg.calls.lookup id with
        | none => rfl
        | some call => exact guarded call present
      rw [Table.step, Table.close_live live]
      exact holds.sane
    | clear =>
      have nothing : heard ((table c).step .clear (gone c (iter, .clear))) = [] := by
        obtain ⟨evs, stats⟩ := Option.isSome_iff_exists.mp holds.running
        rw [heard, Table.step, stats]
        rfl
      rw [nothing]
      exact sane_nil
    | enableSessionStats => exact guarded.elim
    | flush | rtp | rtcp | touchTime | focus | search | takeEvents | disableEvlogEmit =>
      exact holds.sane
  rw [← table_step holds.settled.drained] at latched running sane
  exact ⟨settled_step c input holds.settled, latched, running, sane⟩

/-! ## Runs -/

/-- A correlator that feeds a session report. -/
def reporting (iter : Iteration) (config : Config) (source : String) : Correlator :=
  (Correlator.new iter config source).enableSessionStats

/-- The report of what the statistics were fed. -/
def report (iter : Iteration) (c : Correlator) (file : String) (bytes : Nat)
    (tzOffsetSecs : Option Int32) (topIps : Nat) : EvlogStats :=
  ((fed c).foldl StatsAcc.ingest {}).finish iter file bytes tzOffsetSecs topIps

/-- In every run whose steps are sane, of at most `2 ^ 32` Call-IDs, no outcome
figure of the report exceeds its seizures. -/
theorem ratios_along (iter : Iteration) (config : Config) (source : String)
    (inputs : List (Iteration × Op)) (file : String) (bytes : Nat) (tzOffsetSecs : Option Int32)
    (topIps : Nat) (guarded : Run.Along step SaneStep (reporting iter config source) inputs)
    (few : (names (fed ((reporting iter config source).run inputs))).toFinset.card ≤ 2 ^ 32) :
    let r := report iter ((reporting iter config source).run inputs) file bytes tzOffsetSecs topIps
    r.reliability.answered ≤ r.reliability.seizures ∧
      r.calls.completed + r.calls.failed + r.calls.canceled ≤ r.reliability.seizures ∧
      r.reliability.answered + r.reliability.notfound + r.reliability.reject +
        r.reliability.busy ≤ r.reliability.seizures := by
  have start : Holds (reporting iter config source) :=
    ⟨settled_step _ (iter, .enableSessionStats) (settled_new iter config source), fun id call found => (nomatch found), rfl,
      sane_nil⟩
  have sane := (sane_fed_iff _).mp (guarded.invariant holds_step start).sane
  obtain ⟨answered, outcomes, delivered⟩ := figures_le few sane
  have grouped : ∀ a n r b : Nat, a + n + r + b = a + (n + r + b) := fun a n r b => by omega
  exact ⟨answered, outcomes, (grouped _ _ _ _).trans_le delivered⟩

/-- An INVITE that is answered, the BYE and its answer. -/
def answeredCall : List (Iteration × Op) :=
  [(.stored, .sip (sampleMsg 1 true (some .invite) none "INVITE" none)),
    (.stored, .sip (sampleMsg 2 false none (some 200) "INVITE" (some "b"))),
    (.stored, .sip (sampleMsg 3 true (some .bye) none "BYE" (some "b"))),
    (.stored, .sip (sampleMsg 4 false none (some 200) "BYE" (some "b")))]

theorem ratios_answeredCall :
    let r := report .stored ((reporting .stored {} "eth0").run answeredCall) "" 0 none 50
    r.reliability.answered ≤ r.reliability.seizures :=
  (ratios_along .stored {} "eth0" answeredCall "" 0 none 50 (by decide +kernel) (by decide +kernel)).1

/-! ## A refused registration -/

/-- A REGISTER and the 401 that challenges it. -/
def challenged : List (Iteration × Op) :=
  [(.stored, .sip (sampleMsg 1 true (some .register) none "REGISTER" none)),
    (.stored, .sip (sampleMsg 2 false none (some 401) "REGISTER" (some "b")))]

/-- The challenge counts as a failed call, without any seizure. -/
theorem challenge_counted :
    let r := report .stored ((reporting .stored {} "eth0").run challenged) "" 0 none 50
    r.reliability.seizures = 0 ∧ r.calls.completed + r.calls.failed + r.calls.canceled = 1 ∧
      r.reliability.reject = 1 := by
  decide +kernel

end Sipmon.Guarantees.SaneRatios
