import Sipmon.Guarantees.ActiveGauge
import Sipmon.Guarantees.Teardown

/-!
# Active calls, counted

The gauge of an address should count the live calls whose INVITE it sent or
received. It rises with every initial INVITE and falls only where a call ends
for the first time, so each step that keeps it right is one whose calls come,
end and leave in step with that.
-/
namespace Sipmon.Guarantees.ActiveCalls
open Source Lib Views RegistryIndex Stages CallSignals CallTable ActiveGauge Correlator
open Teardown (ends revives advance_terminal_iff advance_ended_iff)

/-! ## What the activeCalls should count -/

/-- The addresses a call counts on, those of its first INVITE: none once it has ended. -/
def held (call : Call) : List IpAddr := if call.state.terminal then [] else call.activeIps

/-- The live calls an address takes part in, with multiplicity. -/
def due (c : Correlator) (ip : IpAddr) : Nat :=
  FiniteMap.total (fun call => (held call).count ip) c.reg.calls

/-- Every gauge counts its live calls. -/
def Gauged (c : Correlator) : Prop := ∀ ip, activeCalls c ip = due c ip

/-- What an entry of the table adds to a gauge. -/
def weight (ip : IpAddr) (entry : Option Call) : Nat :=
  (entry.map fun call => (held call).count ip).getD 0

theorem share_weight (c : Correlator) (ip : IpAddr) (id : String) :
    FiniteMap.share (fun call => (held call).count ip) c.reg.calls id =
      weight ip ((table c).call id) := by
  have found : (table c).call id = (c.reg.calls.lookup id).map signaling := rfl
  rw [found, FiniteMap.share, weight]
  cases c.reg.calls.lookup id <;> rfl

theorem weight_ended {t : Table} {id : String} {call : Call} (found : t.call id = some call)
    (ended : call.state.terminal = true) (ip : IpAddr) : weight ip (t.call id) = 0 := by
  simp only [found, weight, held, ended, Option.map_some, Option.getD_some, if_true, List.count_nil]

/-- Entries that add the same to every gauge. -/
theorem due_congr (c after : Correlator)
    (same : ∀ id ip, weight ip ((table after).call id) = weight ip ((table c).call id)) :
    due after = due c := by
  funext ip
  refine FiniteMap.total_congr fun id => ?_
  rw [share_weight, share_weight, same]

theorem due_shift {c after : Correlator} (id : String)
    (same : ∀ a, a ≠ id → ∀ ip, weight ip ((table after).call a) = weight ip ((table c).call a))
    (ip : IpAddr) :
    due after ip + weight ip ((table c).call id) = due c ip + weight ip ((table after).call id) := by
  have shifted := FiniteMap.total_shift (f := fun call => (held call).count ip) id
    (m := after.reg.calls) (n := c.reg.calls) (fun a other => by
      rw [share_weight, share_weight, same a other ip])
  rwa [share_weight, share_weight] at shifted

/-! ## Steps that keep the activeCalls right -/

/-- The calls a step evicts. -/
def evictedCalls (c : Correlator) (input : Iteration × Op) : List String :=
  match input.2 with
  | .flush ts => flushGone input.1 c ts
  | _ => ((capPoint c input).map capCalls).getD []

/-- None of the calls that are evicted is counted on a gauge. -/
def EvictsUncounted (c : Correlator) (input : Iteration × Op) (own : Option String) : Prop :=
  ∀ id ∈ evictedCalls c input, own ≠ some id →
    ∀ call ∈ c.reg.calls.lookup id, held call = []

/-- A message whose call rises, ends and leaves in step with the gauge. -/
structure SteadyMessage (c : Correlator) (msg : SipMsg) : Prop where
  /-- An INVITE opens its call, or one that has ended and counted the same addresses. -/
  invite : signal msg = .dial → ∀ call ∈ c.reg.calls.lookup msg.callId,
    call.activeIps = [] ∨ call.state.terminal = true ∧ call.activeIps.Perm (invitees msg)
  /-- The counters have room for it. -/
  room : signal msg = .dial → ∀ ip ∈ invitees msg, activeCalls c ip + (invitees msg).count ip ≤ ceiling
  /-- No late answer revives a call that has been released. -/
  answer : signal msg = .success → ∀ call ∈ c.reg.calls.lookup msg.callId,
    call.state.terminal = true → call.activeIps = [] ∨ call.answerTs.isSome = true
  /-- No revived call ends a second time. -/
  once : ends (signal msg) → ∀ call ∈ c.reg.calls.lookup msg.callId,
    call.state.terminal = false → call.activeIps = [] ∨ msg.callId ∉ c.terminalDone

instance (c : Correlator) (msg : SipMsg) : Decidable (SteadyMessage c msg) :=
  decidable_of_iff
    ((signal msg = .dial → ∀ call ∈ c.reg.calls.lookup msg.callId,
        call.activeIps = [] ∨ call.state.terminal = true ∧ call.activeIps.Perm (invitees msg)) ∧
      (signal msg = .dial → ∀ ip ∈ invitees msg, activeCalls c ip + (invitees msg).count ip ≤ ceiling) ∧
      (signal msg = .success → ∀ call ∈ c.reg.calls.lookup msg.callId,
        call.state.terminal = true → call.activeIps = [] ∨ call.answerTs.isSome = true) ∧
      (ends (signal msg) → ∀ call ∈ c.reg.calls.lookup msg.callId,
        call.state.terminal = false → call.activeIps = [] ∨ msg.callId ∉ c.terminalDone))
    ⟨fun ⟨invite, room, answer, once⟩ => ⟨invite, room, answer, once⟩,
      fun ⟨invite, room, answer, once⟩ => ⟨invite, room, answer, once⟩⟩

instance (c : Correlator) (input : Iteration × Op) (own : Option String) :
    Decidable (EvictsUncounted c input own) :=
  inferInstanceAs (Decidable (∀ id ∈ evictedCalls c input, own ≠ some id →
    ∀ call ∈ c.reg.calls.lookup id, held call = []))

/-- A step that keeps the gauges right. -/
def Steady (c : Correlator) (input : Iteration × Op) : Prop :=
  match input.2 with
  | .sip msg => SteadyMessage c msg ∧ EvictsUncounted c input (some msg.callId)
  | .terminal id => (∀ ip ∈ released c id, activeCalls c ip = 0) ∧ EvictsUncounted c input none
  | .flush _ => EvictsUncounted c input none
  | _ => True

instance decidableSteady (c : Correlator) : (input : Iteration × Op) → Decidable (Steady c input)
  | (iter, .sip msg) => inferInstanceAs (Decidable
      (SteadyMessage c msg ∧ EvictsUncounted c (iter, .sip msg) (some msg.callId)))
  | (iter, .terminal id) => inferInstanceAs (Decidable
      ((∀ ip ∈ released c id, activeCalls c ip = 0) ∧ EvictsUncounted c (iter, .terminal id) none))
  | (iter, .flush ts) => inferInstanceAs (Decidable (EvictsUncounted c (iter, .flush ts) none))
  | (_, .rtp ..) | (_, .rtcp ..) | (_, .clear) | (_, .touchTime _) | (_, .focus _)
  | (_, .search _) | (_, .takeEvents) | (_, .disableEvlogEmit) | (_, .enableSessionStats) =>
    .isTrue trivial

/-! ## A message -/

theorem activeIps_applySip (call : Call) (msg : SipMsg) : (call.applySip msg).activeIps =
    if msg.isInitialInvite ∧ call.activeIps = [] then invitees msg else call.activeIps := by
  refine (congrArg Roster.activeIps (roster_applySip call msg)).trans ?_
  cases msg.isInitialInvite with
  | true => simp only [if_true, roster, Call.dial, true_and, List.isEmpty_iff, invitees]
  | false => simp only [Bool.false_eq_true, if_false, false_and, roster]

theorem gauge_ingestSip (iter : Iteration) (c : Correlator) (msg : SipMsg)
    (capped : ∀ ip, activeCalls (received c msg) ip ≤ ceiling) (ip : IpAddr) :
    activeCalls (c.ingestSip iter msg) ip =
      if ((table c).hear msg).ends msg.callId then
        activeCalls (received c msg) ip - (after (table c) msg).activeIps.count ip
      else activeCalls (received c msg) ip := by
  rw [ingestSip_received, ← table_received]
  unfold latchTerminal
  rw [latch_guard]
  split
  · have closed := gauge_onCallTerminal iter { received c msg with
      terminalDone := insert msg.callId (received c msg).terminalDone } msg.callId capped ip
    have found : (table (received c msg)).call msg.callId = some (after (table c) msg) := by
      rw [table_received, hear_own]
    have freed : released { received c msg with
        terminalDone := insert msg.callId (received c msg).terminalDone } msg.callId =
        (after (table c) msg).activeIps := by
      change (((table (received c msg)).call msg.callId).map Call.activeIps).getD [] = _
      rw [found]
      rfl
    rw [closed, freed]
    rfl
  · rfl

/-- The call of a message is tracked, or starts with nothing to count. -/
theorem before_cases (c : Correlator) (msg : SipMsg) :
    (∃ call, c.reg.calls.lookup msg.callId = some call ∧
      (table c).call msg.callId = some (before (table c) msg) ∧
      before (table c) msg = signaling call) ∨
    (before (table c) msg).activeIps = [] ∧ (before (table c) msg).state.terminal = false ∧
      (table c).call msg.callId = none := by
  have found : (table c).call msg.callId = (c.reg.calls.lookup msg.callId).map signaling := rfl
  unfold before
  rw [found]
  cases c.reg.calls.lookup msg.callId with
  | none => exact .inr ⟨rfl, rfl, rfl⟩
  | some call => exact .inl ⟨call, rfl, rfl, rfl⟩

theorem weight_before (c : Correlator) (msg : SipMsg) (ip : IpAddr) :
    weight ip ((table c).call msg.callId) = (held (before (table c) msg)).count ip := by
  rcases before_cases c msg with ⟨call, _, found, _⟩ | ⟨nothing, live, absent⟩
  · rw [found]
    rfl
  · rw [absent, held, live, nothing]
    rfl

/-- What an ended call gives up is what it counted. -/
theorem held_of_terminal {call : Call} (ended : call.state.terminal = true) : held call = [] := by
  rw [held, if_pos ended]

theorem held_of_live {call : Call} (live : call.state.terminal = false) :
    held call = call.activeIps := by
  rw [held, live, if_neg Bool.false_ne_true]

/-- The calls other than its own that leave with a message. -/
theorem mem_evictedCalls_sip (iter : Iteration) {c : Correlator} {msg : SipMsg} {id : String}
    (passes : ((table c).hear msg).ends msg.callId = true) (leaves : id ∈ sipGone c msg)
    (other : id ≠ msg.callId) : id ∈ evictedCalls c (iter, .sip msg) := by
  have guard := latch_guard (received c msg) msg.callId
  rw [table_received, passes] at guard
  have point : sipPoint c msg = terminalPoint { received c msg with
      terminalDone := insert msg.callId (received c msg).terminalDone } msg.callId := by
    unfold sipPoint
    dsimp only
    rw [if_pos guard]
  change id ∈ ((sipPoint c msg).map capCalls).getD []
  rw [point]
  unfold sipGone terminalGone retireGone at leaves
  split at leaves
  · exact leaves
  · exact absurd (List.mem_singleton.mp leaves) other

theorem weight_uncounted {c : Correlator} {id : String}
    (uncounted : ∀ call ∈ c.reg.calls.lookup id, held call = []) (ip : IpAddr) :
    weight ip ((table c).call id) = 0 := by
  have found : (table c).call id = (c.reg.calls.lookup id).map signaling := rfl
  rw [found]
  cases present : c.reg.calls.lookup id with
  | none => rfl
  | some call =>
    change (held call).count ip = 0
    rw [uncounted call present, List.count_nil]

/-- A message moves what a gauge should count by what it does to its own call. -/
theorem due_ingestSip (iter : Iteration) {c : Correlator} (drained : c.reg.removed = []) {msg : SipMsg}
    (spares : EvictsUncounted c (iter, .sip msg) (some msg.callId)) (ip : IpAddr) :
    due (c.ingestSip iter msg) ip + (held (before (table c) msg)).count ip =
      due c ip + (held (after (table c) msg)).count ip := by
  have moved := table_ingestSip iter drained msg
  have others : ∀ a, a ≠ msg.callId → ∀ ip, weight ip ((table (c.ingestSip iter msg)).call a) =
      weight ip ((table c).call a) := by
    intro a other ip
    rw [moved, Table.latch_call, hear_other _ _ other]
    split
    · next leaves =>
      have evicted := mem_evictedCalls_sip iter leaves.1 leaves.2 other
      have own : some msg.callId ≠ some a := fun same => other (Option.some.inj same).symm
      exact (weight_uncounted (spares a evicted own) ip).symm
    · rfl
  have own : weight ip ((table (c.ingestSip iter msg)).call msg.callId) =
      (held (after (table c) msg)).count ip := by
    rw [moved, Table.latch_call, hear_own]
    split
    · next leaves =>
      have terminal : ((table c).hear msg).ended msg.callId = true :=
        (Bool.and_eq_true_iff.mp leaves.1).1
      rw [Table.ended, hear_own] at terminal
      rw [held_of_terminal terminal]
      rfl
    · rfl
  have shifted := due_shift msg.callId others ip
  rwa [weight_before, own] at shifted

/-- What holds between steps. -/
structure Holds (c : Correlator) : Prop where
  settled : Settled c
  latched : Latched (table c)
  capped : ∀ ip, activeCalls c ip ≤ ceiling
  gauged : Gauged c

/-- What a steady message does to the gauges before a call ends. -/
theorem gauge_heard {c : Correlator} {msg : SipMsg} (steady : SteadyMessage c msg)
    (capped : ∀ ip, activeCalls c ip ≤ ceiling) (ip : IpAddr) :
    activeCalls (received c msg) ip ≤ ceiling ∧ activeCalls (received c msg) ip =
      if msg.isInitialInvite then activeCalls c ip + (invitees msg).count ip else activeCalls c ip := by
  have room : msg.isInitialInvite = true → activeCalls c ip + (invitees msg).count ip ≤ ceiling := by
    intro initial
    by_cases invited : ip ∈ invitees msg
    · exact steady.room ((signal_dial_iff msg).mpr initial) ip invited
    · rw [List.count_eq_zero_of_not_mem invited]
      exact capped ip
  have raised := gauge_received c msg ip room
  refine ⟨?_, raised⟩
  rw [raised]
  split
  · next initial => exact room initial
  · exact capped ip

theorem state_after (c : Correlator) (msg : SipMsg) : (after (table c) msg).state =
    ((milestones (before (table c) msg)).advance msg.tsUs (signal msg)).state :=
  congrArg Milestones.state (milestones_after (table c) msg)

/-- An INVITE raises the gauges of its two addresses as it should. -/
theorem gauged_dial {c : Correlator} {msg : SipMsg} (steady : SteadyMessage c msg)
    (initial : msg.isInitialInvite = true) (ip : IpAddr) :
    (held (after (table c) msg)).count ip =
      (held (before (table c) msg)).count ip + (invitees msg).count ip ∧
      (after (table c) msg).state.terminal = false := by
  have dial := (signal_dial_iff msg).mpr initial
  have dialing : (after (table c) msg).state = .dialing := by
    rw [state_after, dial]
    rfl
  have live : (after (table c) msg).state.terminal = false := by rw [dialing]; rfl
  have counted : (after (table c) msg).activeIps = if (before (table c) msg).activeIps = [] then
      invitees msg else (before (table c) msg).activeIps := by
    refine (activeIps_applySip (before (table c) msg) msg).trans ?_
    simp only [initial, true_and]
  refine ⟨?_, live⟩
  rw [held_of_live live, counted]
  rcases before_cases c msg with ⟨call, tracked, _, same⟩ | ⟨nothing, running, _⟩
  · rcases steady.invite dial call tracked with none | ⟨ended, permuted⟩
    · have nothing : (before (table c) msg).activeIps = [] := by rw [same]; exact none
      have uncounted : held (before (table c) msg) = [] := by rw [held, nothing, ite_self]
      rw [if_pos nothing, uncounted, List.count_nil, Nat.zero_add]
    · have terminal : (before (table c) msg).state.terminal = true := by rw [same]; exact ended
      have addresses : (before (table c) msg).activeIps.Perm (invitees msg) := by
        rw [same]
        exact permuted
      rw [held_of_terminal terminal, List.count_nil, Nat.zero_add]
      split
      · rfl
      · exact addresses.count_eq ip
  · rw [if_pos nothing, held_of_live running, nothing, List.count_nil, Nat.zero_add]

/-- What holds of the tracked call of a message holds where it is shown, unless there is
nothing to count. -/
theorem known_before {c : Correlator} {msg : SipMsg} {P : Call → Prop}
    (each : ∀ call ∈ c.reg.calls.lookup msg.callId, P call) (shown : ∀ call, P call → P (signaling call)) :
    P (before (table c) msg) ∨ (before (table c) msg).activeIps = [] := by
  rcases before_cases c msg with ⟨call, present, _, same⟩ | ⟨nothing, _, _⟩
  · exact .inl (same ▸ shown call (each call present))
  · exact .inr nothing

/-- An ended call is latched. -/
theorem latched_before {c : Correlator} {msg : SipMsg} (latched : Latched (table c))
    (ended : (before (table c) msg).state.terminal = true) : msg.callId ∈ c.terminalDone := by
  rcases before_cases c msg with ⟨_, _, found, _⟩ | ⟨_, running, _⟩
  · exact latched msg.callId _ found ended
  · rw [running] at ended
    cases ended

/-- An ended call that goes live again, other than by an INVITE, has nothing to count. -/
theorem silent_of_revived {c : Correlator} {msg : SipMsg} (steady : SteadyMessage c msg)
    (notDial : signal msg ≠ .dial) (ended : (before (table c) msg).state.terminal = true)
    (halted : (after (table c) msg).state.terminal = false) : (before (table c) msg).activeIps = [] := by
  have revived : revives (milestones (before (table c) msg)) (signal msg) := by
    by_contra calm
    have stays := (advance_ended_iff (m := milestones (before (table c) msg)) ended msg.tsUs (signal msg)).mpr calm
    rw [← state_after, halted] at stays
    cases stays
  cases kind : signal msg with
  | dial => exact absurd kind notDial
  | success =>
    rw [kind] at revived
    have unanswered : (before (table c) msg).answerTs = none := revived
    rcases known_before (P := fun call => call.state.terminal = true → call.activeIps = [] ∨
      call.answerTs.isSome = true) (steady.answer kind) (fun _ known => known) with known | nothing
    · rcases known ended with nothing | answered
      · exact nothing
      · rw [unanswered] at answered
        cases answered
    · exact nothing
  | bye | cancel | provisional | byeDone | terminated | refusal | nothing =>
    rw [kind] at revived
    exact revived.elim

/-- A latched call that ends has nothing to count. -/
theorem silent_of_latched {c : Correlator} {msg : SipMsg} (steady : SteadyMessage c msg)
    (live : (before (table c) msg).state.terminal = false) (halted : (after (table c) msg).state.terminal = true)
    (latched : msg.callId ∈ c.terminalDone) : (before (table c) msg).activeIps = [] := by
  have turn := advance_terminal_iff (m := milestones (before (table c) msg)) live msg.tsUs (signal msg)
  rw [← state_after] at turn
  rcases known_before (P := fun call => call.state.terminal = false → call.activeIps = [] ∨
    msg.callId ∉ c.terminalDone) (steady.once (turn.mp halted)) (fun _ known => known) with known | nothing
  · exact (known live).resolve_right fun out => out latched
  · exact nothing

/-- Any other message counts its call until it ends, and then releases it once. -/
theorem gauged_other {c : Correlator} {msg : SipMsg} (steady : SteadyMessage c msg)
    (latched : Latched (table c)) (notInitial : msg.isInitialInvite = false) (ip : IpAddr) :
    (held (before (table c) msg)).count ip = (held (after (table c) msg)).count ip +
      if ((table c).hear msg).ends msg.callId then (after (table c) msg).activeIps.count ip else 0 := by
  have notDial : signal msg ≠ .dial := fun dial => by
    rw [(signal_dial_iff msg).mp dial] at notInitial
    cases notInitial
  have counted : (after (table c) msg).activeIps = (before (table c) msg).activeIps := by
    refine (activeIps_applySip (before (table c) msg) msg).trans ?_
    simp only [notInitial, Bool.false_eq_true, false_and, if_false]
  have gate : ((table c).hear msg).ends msg.callId =
      ((after (table c) msg).state.terminal && decide (msg.callId ∉ c.terminalDone)) := by
    rw [Table.ends, Table.ended, hear_own]
    rfl
  rw [gate, counted]
  cases ended : (before (table c) msg).state.terminal with
  | true =>
    have member := latched_before latched ended
    have shut : decide (msg.callId ∉ c.terminalDone) = false := decide_eq_false fun out => out member
    rw [held_of_terminal ended, shut, Bool.and_false, if_neg Bool.false_ne_true, List.count_nil,
      Nat.add_zero]
    cases halted : (after (table c) msg).state.terminal with
    | true => rw [held_of_terminal halted, List.count_nil]
    | false => rw [held_of_live halted, counted, silent_of_revived steady notDial ended halted, List.count_nil]
  | false =>
    rw [held_of_live ended]
    cases halted : (after (table c) msg).state.terminal with
    | false =>
      rw [held_of_live halted, counted, Bool.false_and, if_neg Bool.false_ne_true, Nat.add_zero]
    | true =>
      rw [held_of_terminal halted, List.count_nil, Nat.zero_add, Bool.true_and]
      by_cases latchedBefore : msg.callId ∈ c.terminalDone
      · rw [silent_of_latched steady ended halted latchedBefore, List.count_nil, ite_self]
      · rw [decide_eq_true latchedBefore, if_pos rfl]

theorem gauged_ingestSip (iter : Iteration) {c : Correlator} (holds : Holds c) {msg : SipMsg}
    (steady : SteadyMessage c msg) (spares : EvictsUncounted c (iter, .sip msg) (some msg.callId))
    (ip : IpAddr) : activeCalls (c.ingestSip iter msg) ip ≤ ceiling ∧
      activeCalls (c.ingestSip iter msg) ip = due (c.ingestSip iter msg) ip := by
  have heard := fun ip => gauge_heard steady holds.capped ip
  have moved := gauge_ingestSip iter c msg (fun ip => (heard ip).1) ip
  have counted := due_ingestSip iter holds.settled.drained spares ip
  have balanced := holds.gauged ip
  have bound := (heard ip).1
  refine ⟨?_, ?_⟩
  · rw [moved]
    split <;> omega
  · cases initial : msg.isInitialInvite with
    | true =>
      have rises := (gauged_dial steady initial ip).1
      have live := (gauged_dial steady initial ip).2
      have shut : ((table c).hear msg).ends msg.callId = false := by
        rw [Table.ends, Table.ended, hear_own]
        exact Bool.and_eq_false_iff.mpr (.inl live)
      rw [moved, shut, if_neg Bool.false_ne_true, (heard ip).2, initial, if_pos rfl]
      omega
    | false =>
      have falls := gauged_other steady holds.latched initial ip
      have still := (heard ip).2
      rw [initial, if_neg Bool.false_ne_true] at still
      rw [moved, still]
      split
      · next passes =>
        rw [passes, if_pos rfl] at falls
        omega
      · next stays =>
        rw [if_neg stays] at falls
        omega

/-! ## Terminal handling, and the periodic pass -/

theorem gauged_onCallTerminal (iter : Iteration) {c : Correlator} (holds : Holds c) {id : String}
    (idle : ∀ ip ∈ released c id, activeCalls c ip = 0)
    (spares : EvictsUncounted c (iter, .terminal id) none) (ip : IpAddr) :
    activeCalls (c.onCallTerminal iter id) ip ≤ ceiling ∧
      activeCalls (c.onCallTerminal iter id) ip = due (c.onCallTerminal iter id) ip := by
  have moved := gauge_onCallTerminal iter c id holds.capped ip
  have still : activeCalls c ip - (released c id).count ip = activeCalls c ip := by
    by_cases counted : ip ∈ released c id
    · rw [idle ip counted, Nat.zero_sub]
    · rw [List.count_eq_zero_of_not_mem counted, Nat.sub_zero]
  have closed := table_onCallTerminal iter holds.settled.drained id
  have same := due_congr c (c.onCallTerminal iter id) fun a ip => by
    rw [closed, Table.close_call]
    split
    · next leaves =>
      obtain ⟨ended, leaves⟩ := leaves
      unfold terminalGone retireGone at leaves
      split at leaves
      · exact (weight_uncounted (spares a leaves nofun) ip).symm
      · obtain rfl := List.mem_singleton.mp leaves
        cases found : (table c).call a with
        | none => rfl
        | some call =>
          rw [Table.ended, found] at ended
          rw [← found]
          exact (weight_ended found ended ip).symm
    · rfl
  have balanced := holds.gauged ip
  have bound := holds.capped ip
  rw [moved, still, same]
  exact ⟨bound, balanced⟩

theorem gauged_maybePeriodicFlush (iter : Iteration) {c : Correlator} (holds : Holds c) {ts : UInt64}
    (spares : EvictsUncounted c (iter, .flush ts) none) (ip : IpAddr) :
    activeCalls (c.maybePeriodicFlush iter ts) ip = due (c.maybePeriodicFlush iter ts) ip := by
  have left := table_maybePeriodicFlush iter holds.settled.drained ts
  have same := due_congr c (c.maybePeriodicFlush iter ts) fun a ip => by
    rw [left]
    change weight ip (if a ∈ flushGone iter c ts then none else (table c).call a) = _
    split
    · next leaves => exact (weight_uncounted (spares a leaves nofun) ip).symm
    · rfl
  rw [gauge_maybePeriodicFlush, same]
  exact holds.gauged ip

/-! ## Runs -/

theorem gauged_step (c : Correlator) (input : Iteration × Op) (steady : Steady c input)
    (holds : Holds c) (ip : IpAddr) : activeCalls (step c input) ip ≤ ceiling ∧
      activeCalls (step c input) ip = due (step c input) ip := by
  have kept : activeCalls (step c input) = activeCalls c → table (step c input) = table c →
      activeCalls (step c input) ip ≤ ceiling ∧ activeCalls (step c input) ip = due (step c input) ip := by
    intro still same
    have counted := due_congr c (step c input) fun _ _ => by rw [same]
    rw [still, counted]
    exact ⟨holds.capped ip, holds.gauged ip⟩
  have idle : (step c input).reg.ipstats = c.reg.ipstats → (step c input).reg.calls = c.reg.calls →
      activeCalls (step c input) ip ≤ ceiling ∧ activeCalls (step c input) ip = due (step c input) ip := by
    intro still same
    rw [activeCalls, due, still, same]
    exact ⟨holds.capped ip, holds.gauged ip⟩
  obtain ⟨iter, op⟩ := input
  have moved := table_step holds.settled.drained (iter, op)
  cases op with
  | sip msg => exact gauged_ingestSip iter holds steady.1 steady.2 ip
  | terminal id => exact gauged_onCallTerminal iter holds steady.1 steady.2 ip
  | flush ts =>
    have still := congrFun (gauge_maybePeriodicFlush iter c ts) ip
    exact ⟨still.le.trans (holds.capped ip), gauged_maybePeriodicFlush iter holds steady ip⟩
  | clear => exact ⟨Nat.zero_le _, rfl⟩
  | rtp ts flow header len encap => exact kept (gauge_ingestRtp c ts flow header len encap) moved
  | rtcp ts flow msg => exact kept (gauge_ingestRtcp c ts flow msg) moved
  | search q => exact kept (gauge_setSearch iter c q) moved
  | focus hint => exact idle rfl rfl
  | touchTime ts => exact idle rfl rfl
  | takeEvents => exact idle rfl rfl
  | disableEvlogEmit => exact idle rfl rfl
  | enableSessionStats => exact idle rfl rfl

theorem holds_step (c : Correlator) (input : Iteration × Op) (steady : Steady c input)
    (holds : Holds c) : Holds (step c input) := by
  have latched := latched_step holds.latched input.2 (gone c input)
  rw [← table_step holds.settled.drained] at latched
  have gauges := gauged_step c input steady holds
  exact ⟨settled_step c input holds.settled, latched, fun ip => (gauges ip).1,
    fun ip => (gauges ip).2⟩

/-- In every run whose steps are steady, the gauge of every address counts its
live calls, and is zero when it takes part in none. -/
theorem gauged_along (iter : Iteration) (config : Config) (source : String)
    (inputs : List (Iteration × Op))
    (steady : Run.Along step Steady (.new iter config source) inputs) (ip : IpAddr) :
    activeCalls ((Correlator.new iter config source).run inputs) ip =
        due ((Correlator.new iter config source).run inputs) ip ∧
      ((∀ id call, ((Correlator.new iter config source).run inputs).reg.calls.lookup id = some call →
        ip ∉ held call) → activeCalls ((Correlator.new iter config source).run inputs) ip = 0) := by
  have start : Holds (.new iter config source) :=
    ⟨settled_new iter config source, fun id call found => (nomatch found), fun _ => Nat.zero_le _,
      fun _ => rfl⟩
  have gauged := (steady.invariant holds_step start).gauged ip
  refine ⟨gauged, fun nobody => ?_⟩
  refine gauged.trans (FiniteMap.total_of_zero fun id call found => ?_)
  exact List.count_eq_zero_of_not_mem (nobody id call found)

/-- A call that is offered, answered and released, with a periodic pass on the way. -/
def oneCall : List (Iteration × Op) :=
  [(.stored, .sip (sampleMsg 1 true (some .invite) none "INVITE" none)),
    (.stored, .sip (sampleMsg 2 false none (some 200) "INVITE" (some "b"))),
    (.stored, .flush 3), (.stored, .sip (sampleMsg 4 true (some .bye) none "BYE" (some "b"))),
    (.stored, .sip (sampleMsg 5 false none (some 200) "BYE" (some "b")))]

theorem gauged_oneCall : let last := (Correlator.new .stored {} "eth0").run oneCall
    activeCalls last (.v4 ⟨10, 0, 0, 1⟩) = due last (.v4 ⟨10, 0, 0, 1⟩) :=
  (gauged_along .stored {} "eth0" oneCall (by decide +kernel) (.v4 ⟨10, 0, 0, 1⟩)).1

/-! ## An INVITE sent twice -/

/-- An INVITE, its retransmission, and the CANCEL of the call. -/
def dialedTwice : List (Iteration × Op) :=
  [(.stored, .sip (sampleMsg 1 true (some .invite) none "INVITE" none)),
    (.stored, .sip (sampleMsg 2 true (some .invite) none "INVITE" none)),
    (.stored, .sip (sampleMsg 3 true (some .cancel) none "CANCEL" none))]

/-- A retransmitted INVITE is counted a second time and never released. -/
theorem retransmission_drifts :
    activeCalls ((Correlator.new .stored {} "eth0").run dialedTwice) (.v4 ⟨10, 0, 0, 1⟩) = 1 ∧
      due ((Correlator.new .stored {} "eth0").run dialedTwice) (.v4 ⟨10, 0, 0, 1⟩) = 0 := by
  decide +kernel

end Sipmon.Guarantees.ActiveCalls
