import Sipmon.Source.EvReport

/-!
# What the ratios are made of

The accumulator counts seizures by the numbers it gives to Call-IDs and outcomes
by Teardown events. `tally` shows these figures alone; each event moves them by
what it says about one call.
-/
namespace Sipmon.Guarantees.SeizureCounts
open Source Lib Evlog

/-! ## Events -/

/-- The outcome a Teardown tells of a call. -/
structure Ending where
  callId : String
  state : UInt8
  answered : Bool
  code : Option UInt32
  deriving DecidableEq

/-- Completed, failed or canceled. -/
def Ending.settled (e : Ending) : Bool := e.state = 3 || e.state = 4 || e.state = 5

/-- The causes the effectiveness ratio counts as delivered. -/
def delivered : FailKind → Bool
  | .notFound | .reject | .busy => true
  | .timeout | .fail => false

/-- Failed for such a cause. -/
def Ending.refused (e : Ending) : Bool := e.state = 4 && delivered (classifyFail e.code)

def endingOf : Event → Option Ending
  | .call e =>
    if e.kind = .teardown then
      some { callId := e.callId, state := e.state, answered := e.answerTs.isSome, code := e.hangupCode }
    else none
  | _ => none

/-- The Call-ID of an INVITE request. -/
def seizureOf : Event → Option String
  | .sipMsg e =>
    if e.isRequest && e.method.any (Text.eqIgnoreAsciiCase · "INVITE") then some e.callId else none
  | _ => none

/-- The Call-ID an event names to the statistics. -/
def nameOf : Event → Option String
  | .sipMsg e => some e.callId
  | .call e => some e.callId
  | .streamSnap e => some e.callId
  | _ => none

def endings (evs : List Event) : List Ending := evs.filterMap endingOf
def seizures (evs : List Event) : List String := evs.filterMap seizureOf
def names (evs : List Event) : List String := evs.filterMap nameOf

/-! ## Figures -/

@[ext]
structure Tally where
  interned : FiniteMap String UInt32
  seizureIds : Finset UInt32
  answered : Nat
  outcomes : Nat
  refused : Nat

def tally (acc : StatsAcc) : Tally :=
  { interned := acc.interned, seizureIds := acc.seizureIds, answered := acc.answered
    outcomes := acc.calls.completed + acc.calls.failed + acc.calls.canceled
    refused := acc.fail.notfound + acc.fail.reject + acc.fail.busy }

/-- The number a Call-ID has or gets. -/
def number (m : FiniteMap String UInt32) (id : String) : UInt32 := (m.lookup id).getD (.ofNat m.size)

/-- The numbers once the Call-ID has one. -/
def grown (m : FiniteMap String UInt32) (id : String) : FiniteMap String UInt32 :=
  match m.lookup id with
  | some _ => m
  | none => m.insert id (.ofNat m.size)

namespace Tally

def name (t : Tally) (id : String) : Tally := { t with interned := grown t.interned id }

def seize (t : Tally) (id : String) : Tally :=
  { t with seizureIds := insert (number t.interned id) t.seizureIds }

def close (t : Tally) (e : Ending) : Tally :=
  { t with answered := t.answered + e.answered.toNat, outcomes := t.outcomes + e.settled.toNat
           refused := t.refused + e.refused.toNat }

/-- One event, by what it says about its call. -/
def count (t : Tally) (ev : Event) : Tally :=
  let seized := match seizureOf ev with
    | some id => t.seize id
    | none => t
  let named := match nameOf ev with
    | some id => seized.name id
    | none => seized
  match endingOf ev with
  | some e => named.close e
  | none => named

end Tally

theorem intern_eq (acc : StatsAcc) (id : String) :
    acc.intern id = (number acc.interned id, { acc with interned := grown acc.interned id }) := by
  unfold StatsAcc.intern number grown
  cases acc.interned.lookup id <;> rfl

theorem noteCall_eq (acc : StatsAcc) (id : String) :
    acc.noteCall id = (number acc.interned id,
      { acc with interned := grown acc.interned id
                 callIds := insert (number acc.interned id) acc.callIds }) := by
  rw [StatsAcc.noteCall, intern_eq]

theorem tally_countResponse (acc : StatsAcc) (status : UInt16) :
    tally (acc.countResponse status) = tally acc := by
  unfold StatsAcc.countResponse
  dsimp only
  split <;> rfl

/-- A request seizes with the number its Call-ID was given. -/
theorem tally_countRequest (acc : StatsAcc) (ts : UInt64) (cid : UInt32) (method : String) :
    tally (acc.countRequest ts cid method) =
      if Text.eqIgnoreAsciiCase method "INVITE" then
        { tally acc with seizureIds := insert cid (tally acc).seizureIds }
      else tally acc := by
  unfold StatsAcc.countRequest
  split
  · rfl
  · split
    · rfl
    · split <;> rfl

theorem tally_countSipMsg (acc : StatsAcc) (cid : UInt32) (e : SipMsgEvt) :
    tally (acc.countSipMsg cid e) =
      if (seizureOf (.sipMsg e)).isSome then
        { tally acc with seizureIds := insert cid (tally acc).seizureIds }
      else tally acc := by
  have counted : ∀ update : WindowAcc → WindowAcc, tally ({ acc with
      sipBytes := acc.sipBytes + e.raw.length }.inWindow e.tsUs update) = tally acc := fun _ => rfl
  unfold StatsAcc.countSipMsg seizureOf
  by_cases request : e.isRequest = true
  · cases method : e.method with
    | none => simp only [request, method, counted, if_true, Option.any_none, Bool.and_false,
        Bool.false_eq_true, if_false, Option.isSome_none]
    | some method =>
      simp only [request, method, if_true, Bool.true_and, Option.any_some, tally_countRequest,
        counted]
      split <;> rfl
  · simp only [request, Bool.false_and, Bool.false_eq_true, if_false, Option.isSome_none]
    split
    · rw [tally_countResponse, counted]
    · exact counted _

/-- A message names its Call-ID and may seize it. -/
theorem tally_ingestSipMsg (acc : StatsAcc) (e : SipMsgEvt) :
    tally (acc.ingestSipMsg e) = (tally acc).count (.sipMsg e) := by
  rw [StatsAcc.ingestSipMsg, noteCall_eq]
  dsimp only
  rw [tally_countSipMsg]
  unfold Tally.count
  have named : nameOf (.sipMsg e) = some e.callId := rfl
  have open_ : endingOf (.sipMsg e) = none := rfl
  rw [named, open_]
  cases seized : seizureOf (.sipMsg e) with
  | none => rfl
  | some id =>
    have own : id = e.callId := by
      unfold seizureOf at seized
      dsimp only at seized
      split at seized
      · exact (Option.some.inj seized).symm
      · cases seized
    subst own
    rfl

theorem tally_countDelays (acc : StatsAcc) (e : CallEvt) :
    tally (acc.countDelays e) = tally acc := by
  unfold StatsAcc.countDelays
  dsimp only
  repeat' split
  all_goals rfl

theorem tally_countAnswer (acc : StatsAcc) (e : CallEvt) : tally (acc.countAnswer e) =
    { tally acc with answered := (tally acc).answered + e.answerTs.isSome.toNat } := by
  unfold StatsAcc.countAnswer
  cases e.answerTs <;> rfl

theorem bump_refused (f : FailSplit) (kind : FailKind) :
    (f.bump kind).notfound + (f.bump kind).reject + (f.bump kind).busy =
      f.notfound + f.reject + f.busy + (delivered kind).toNat := by
  cases kind <;> simp only [FailSplit.bump, delivered, Bool.toNat_true, Bool.toNat_false] <;> omega

theorem tally_countOutcome (acc : StatsAcc) (e : CallEvt) (ending : Ending)
    (state : ending.state = e.state) (code : ending.code = e.hangupCode) :
    tally (acc.countOutcome e) =
      { tally acc with outcomes := (tally acc).outcomes + ending.settled.toNat
                       refused := (tally acc).refused + ending.refused.toNat } := by
  have settledOf : ∀ n : UInt8, ending.state = n → ending.settled = (n = 3 || n = 4 || n = 5 : Bool) :=
    fun n same => by rw [Ending.settled, same]
  have refusedOf : ∀ n : UInt8, ending.state = n →
      ending.refused = (n = 4 && delivered (classifyFail e.hangupCode) : Bool) :=
    fun n same => by rw [Ending.refused, same, code]
  have known : ∀ n : UInt8, e.state.toNat = n.toNat → ending.state = n := fun n same =>
    state.trans (UInt8.toNat_inj.mp same)
  unfold StatsAcc.countOutcome
  split
  · next completed =>
    rw [settledOf 3 (known 3 completed), refusedOf 3 (known 3 completed)]
    refine Tally.ext rfl rfl rfl ?_ rfl
    change acc.calls.completed + 1 + acc.calls.failed + acc.calls.canceled =
      acc.calls.completed + acc.calls.failed + acc.calls.canceled + 1
    omega
  · next failed =>
    rw [settledOf 4 (known 4 failed), refusedOf 4 (known 4 failed)]
    refine Tally.ext rfl rfl rfl ?_ (bump_refused acc.fail _)
    change acc.calls.completed + (acc.calls.failed + 1) + acc.calls.canceled =
      acc.calls.completed + acc.calls.failed + acc.calls.canceled + 1
    omega
  · next canceled =>
    rw [settledOf 5 (known 5 canceled), refusedOf 5 (known 5 canceled)]
    exact Tally.ext rfl rfl rfl rfl rfl
  · next notCompleted notFailed notCanceled =>
    have other : ∀ n : UInt8, e.state.toNat ≠ n.toNat → ending.state ≠ n := fun n differs same =>
      differs (congrArg UInt8.toNat (state.symm.trans same))
    have three := other 3 notCompleted
    have four := other 4 notFailed
    have five := other 5 notCanceled
    simp only [Ending.settled, Ending.refused, three, four, five, decide_false, Bool.or_self,
      Bool.false_and, Bool.toNat_false, Nat.add_zero]

theorem tally_ingestCall (acc : StatsAcc) (e : CallEvt) :
    tally (acc.ingestCall e) = (tally acc).count (.call e) := by
  have named : nameOf (.call e) = some e.callId := rfl
  have silent : seizureOf (.call e) = none := rfl
  rw [StatsAcc.ingestCall, noteCall_eq, Tally.count, named, silent]
  unfold endingOf
  by_cases teardown : e.kind = .teardown
  · simp only [teardown, ne_eq, not_true_eq_false, if_false, if_true]
    rw [StatsAcc.countTeardown, tally_countDelays, tally_countAnswer]
    generalize ended : Ending.mk e.callId e.state e.answerTs.isSome e.hangupCode = ending
    rw [tally_countOutcome _ e ending (by rw [← ended]) (by rw [← ended])]
    refine Tally.ext rfl rfl ?_ rfl rfl
    rw [← ended]
    rfl
  · simp only [teardown, ne_eq, not_false_eq_true, if_true, if_false]
    rfl

theorem tally_countSnap (acc : StatsAcc) (cid : UInt32) (ts : UInt64) (e : StreamSnapLite) :
    tally (acc.countSnap cid ts e) = tally acc := by
  unfold StatsAcc.countSnap
  dsimp only
  split
  · split <;> rfl
  · rfl

/-- The figures of an accumulator move as the figures alone do. -/
theorem tally_ingest (acc : StatsAcc) (ev : Event) : tally (acc.ingest ev) = (tally acc).count ev := by
  cases ev with
  | sipMsg e => exact tally_ingestSipMsg acc e
  | call e => exact tally_ingestCall acc e
  | streamSnap e =>
    rw [StatsAcc.ingest, StatsAcc.ingestStreamSnap, noteCall_eq]
    exact tally_countSnap _ _ _ _
  | txn e => rfl
  | rtcpRtt e => rfl
  | healthBucket e => rfl
  | error e => rfl
  | diag e => rfl

/-! ## Numbers -/

/-- Every number in use is below the count of Call-IDs, and stands for one. -/
def Numbered (m : FiniteMap String UInt32) : Prop :=
  ∀ a n, m.lookup a = some n → n.toNat < m.size ∧ ∀ b, m.lookup b = some n → b = a

theorem mem_grown (m : FiniteMap String UInt32) (id a : String) :
    a ∈ grown m id ↔ a = id ∨ a ∈ m := by
  unfold grown
  split
  · next n found =>
    have member : id ∈ m := AList.lookup_isSome.mp (by rw [found]; rfl)
    constructor
    · exact .inr
    · rintro (rfl | known)
      · exact member
      · exact known
  · exact AList.mem_insert m

theorem size_insert_new {m : FiniteMap String UInt32} {id : String} (fresh : m.lookup id = none)
    (n : UInt32) : FiniteMap.size (AList.insert id n m) = m.size + 1 := by
  have absent : id ∉ m := AList.lookup_eq_none.mp fresh
  rw [AList.insert_of_notMem absent]
  rfl

theorem lookup_grown_of_some {m : FiniteMap String UInt32} {a : String} {n : UInt32}
    (found : m.lookup a = some n) (id : String) : (grown m id).lookup a = some n := by
  unfold grown
  split
  · exact found
  · next fresh =>
    have other : a ≠ id := by
      rintro rfl
      rw [fresh] at found
      cases found
    rw [FiniteMap.lookup_insert_iff, if_neg other, found]

theorem lookup_grown_self (m : FiniteMap String UInt32) (id : String) :
    (grown m id).lookup id = some (number m id) := by
  unfold grown number
  split
  · next n found => rw [found, Option.getD_some]
  · next fresh => rw [FiniteMap.lookup_insert_iff, if_pos rfl, fresh, Option.getD_none]

/-- A new Call-ID takes the next number, while there are numbers left. -/
theorem numbered_grown {m : FiniteMap String UInt32} (numbered : Numbered m) (id : String)
    (room : (grown m id).size ≤ 2 ^ 32) : Numbered (grown m id) := by
  unfold grown at room ⊢
  split at room
  · exact numbered
  · next fresh =>
    rw [size_insert_new fresh] at room
    have next : (UInt32.ofNat m.size).toNat = m.size := by
      rw [UInt32.toNat_ofNat']
      exact Nat.mod_eq_of_lt (by omega)
    intro a n found
    rw [size_insert_new fresh]
    rw [FiniteMap.lookup_insert_iff] at found
    by_cases own : a = id
    · rw [if_pos own] at found
      obtain rfl := Option.some.inj found
      refine ⟨by omega, fun b taken => ?_⟩
      rw [FiniteMap.lookup_insert_iff] at taken
      split at taken
      · next same => rw [same, own]
      · have below := (numbered b _ taken).1
        omega
    · rw [if_neg own] at found
      obtain ⟨below, unique⟩ := numbered a n found
      refine ⟨by omega, fun b taken => ?_⟩
      rw [FiniteMap.lookup_insert_iff] at taken
      split at taken
      · obtain rfl := Option.some.inj taken
        omega
      · exact unique b taken

/-! ## The figures of a sequence of events -/

def figures (evs : List Event) : Tally := tally (evs.foldl StatsAcc.ingest {})

theorem figures_append (evs : List Event) (ev : Event) :
    figures (evs ++ [ev]) = (figures evs).count ev := by
  rw [figures, List.foldl_append, List.foldl_cons, List.foldl_nil, tally_ingest]
  rfl

/-- Counting an event changes each figure by what the event says. -/
theorem count_spec (t : Tally) (ev : Event) :
    (t.count ev).interned = (match nameOf ev with
      | some id => grown t.interned id
      | none => t.interned) ∧
    (t.count ev).seizureIds = (match seizureOf ev with
      | some id => insert (number t.interned id) t.seizureIds
      | none => t.seizureIds) ∧
    (t.count ev).answered = t.answered + ((endingOf ev).any Ending.answered).toNat ∧
    (t.count ev).outcomes = t.outcomes + ((endingOf ev).any Ending.settled).toNat ∧
    (t.count ev).refused = t.refused + ((endingOf ev).any Ending.refused).toNat := by
  unfold Tally.count
  cases seizureOf ev <;> cases nameOf ev <;> cases endingOf ev <;> exact ⟨rfl, rfl, rfl, rfl, rfl⟩

/-- One more Teardown in a count over the Teardowns. -/
theorem countP_endings (p : Ending → Bool) (evs : List Event) (ev : Event) :
    (endings (evs ++ [ev])).countP p = (endings evs).countP p + ((endingOf ev).any p).toNat := by
  unfold endings
  rw [List.filterMap_append, List.countP_append]
  congr 1
  cases ending : endingOf ev with
  | none => simp [ending]
  | some e => cases holds : p e <;> simp [ending, holds]

/-- A seized Call-ID is one that the event names. -/
theorem nameOf_of_seizure {ev : Event} {id : String} (seized : seizureOf ev = some id) :
    nameOf ev = some id := by
  cases ev with
  | sipMsg e =>
    unfold seizureOf at seized
    dsimp only at seized
    split at seized
    · exact seized
    · cases seized
  | _ => cases seized

/-- The figures count Teardowns, and hold a number of its own for each seized Call-ID. -/
structure Tallies (evs : List Event) : Prop where
  numbered : Numbered (figures evs).interned
  known : ∀ id ∈ (figures evs).interned, id ∈ names evs
  seized : ∀ id ∈ seizures evs, ∃ n ∈ (figures evs).seizureIds, (figures evs).interned.lookup id = some n
  answered : (figures evs).answered = (endings evs).countP Ending.answered
  outcomes : (figures evs).outcomes = (endings evs).countP Ending.settled
  refused : (figures evs).refused = (endings evs).countP Ending.refused

theorem names_subset_append (evs : List Event) (ev : Event) : names evs ⊆ names (evs ++ [ev]) := by
  intro id member
  rw [names, List.filterMap_append]
  exact List.mem_append_left _ member

theorem few_of_append {evs : List Event} {ev : Event} {n : Nat}
    (few : (names (evs ++ [ev])).toFinset.card ≤ n) : (names evs).toFinset.card ≤ n :=
  (Finset.card_le_card fun _ member => List.mem_toFinset.mpr
    (names_subset_append evs ev (List.mem_toFinset.mp member))).trans few

theorem size_le_of_known {m : FiniteMap String UInt32} {ids : List String}
    (known : ∀ id ∈ m, id ∈ ids) : m.size ≤ ids.toFinset.card := by
  rw [FiniteMap.size_eq_keys, ← List.toFinset_card_of_nodup m.keys_nodup]
  refine Finset.card_le_card fun id member => ?_
  exact List.mem_toFinset.mpr (known id (AList.mem_keys.mp (List.mem_toFinset.mp member)))

theorem tallies_of_few (evs : List Event) (few : (names evs).toFinset.card ≤ 2 ^ 32) :
    Tallies evs := by
  induction evs using List.reverseRecOn with
  | nil =>
    exact ⟨nofun, fun _ member => absurd member (AList.notMem_empty _), nofun, rfl, rfl, rfl⟩
  | append_singleton evs ev ih =>
    obtain ⟨interned, seizureIds, answered, outcomes, refused⟩ := count_spec (figures evs) ev
    rw [← figures_append] at interned seizureIds answered outcomes refused
    have earlier := names_subset_append evs ev
    have before := ih (few_of_append few)
    have known : ∀ id ∈ (figures (evs ++ [ev])).interned, id ∈ names (evs ++ [ev]) := by
      intro id member
      rw [interned] at member
      cases named : nameOf ev with
      | none =>
        rw [named] at member
        exact earlier (before.known id member)
      | some a =>
        rw [named] at member
        rcases (mem_grown _ _ _).mp member with rfl | old
        · rw [names, List.filterMap_append]
          exact List.mem_append_right _ (List.mem_filterMap.mpr ⟨ev, List.mem_singleton_self ev, named⟩)
        · exact earlier (before.known id old)
    refine ⟨?_, known, ?_, ?_, ?_, ?_⟩
    · have room := (size_le_of_known known).trans few
      rw [interned] at room ⊢
      cases named : nameOf ev with
      | none => exact before.numbered
      | some a =>
        rw [named] at room
        exact numbered_grown before.numbered a room
    · intro id member
      rw [seizures, List.filterMap_append] at member
      rw [interned, seizureIds]
      rcases List.mem_append.mp member with old | new
      · obtain ⟨n, counted, found⟩ := before.seized id old
        refine ⟨n, ?_, ?_⟩
        · cases seizureOf ev with
          | none => exact counted
          | some a => exact Finset.mem_insert_of_mem counted
        · cases nameOf ev with
          | none => exact found
          | some a => exact lookup_grown_of_some found a
      · obtain ⟨one, here, seized⟩ := List.mem_filterMap.mp new
        obtain rfl := List.mem_singleton.mp here
        rw [seized, nameOf_of_seizure seized]
        exact ⟨_, Finset.mem_insert_self _ _, lookup_grown_self _ id⟩
    · rw [answered, before.answered, countP_endings]
    · rw [outcomes, before.outcomes, countP_endings]
    · rw [refused, before.refused, countP_endings]

/-! ## Sane ratios -/

/-- Every Call-ID is torn down at most once, after it was seized, and no answered
call is reported as refused. -/
structure Sane (evs : List Event) : Prop where
  once : ((endings evs).map Ending.callId).Nodup
  seized : ∀ e ∈ endings evs, e.callId ∈ seizures evs
  apart : ∀ e ∈ endings evs, ¬ (e.answered = true ∧ e.refused = true)

theorem sane_nil : Sane [] where
  once := List.nodup_nil
  seized := fun _ member => (List.not_mem_nil member).elim
  apart := fun _ member => (List.not_mem_nil member).elim

theorem length_le_seizures {evs : List Event} (tallies : Tallies evs) {ids : List String}
    (distinct : ids.Nodup) (seized : ∀ id ∈ ids, id ∈ seizures evs) :
    ids.length ≤ (figures evs).seizureIds.card := by
  rw [← List.toFinset_card_of_nodup distinct]
  refine Finset.card_le_card_of_injOn (number (figures evs).interned) (fun id member => ?_)
    fun a first b second same => ?_
  · obtain ⟨n, counted, found⟩ := tallies.seized id (seized id (List.mem_toFinset.mp member))
    rw [number, found]
    exact counted
  · obtain ⟨n, _, foundA⟩ := tallies.seized a (seized a (List.mem_toFinset.mp first))
    obtain ⟨k, _, foundB⟩ := tallies.seized b (seized b (List.mem_toFinset.mp second))
    rw [number, number, foundA, foundB, Option.getD_some, Option.getD_some] at same
    subst same
    exact (tallies.numbered b n foundB).2 a foundA

/-- Two properties that no element has both of. -/
theorem countP_apart {α : Type} {p q : α → Bool} {l : List α}
    (apart : ∀ x ∈ l, ¬ (p x = true ∧ q x = true)) : l.countP p + l.countP q ≤ l.length := by
  induction l with
  | nil => exact Nat.le_refl 0
  | cons x rest ih =>
    have tail := ih fun y member => apart y (List.mem_cons_of_mem x member)
    have head := apart x List.mem_cons_self
    rw [List.countP_cons, List.countP_cons, List.length_cons]
    split <;> split
    · next holdsP holdsQ => exact absurd ⟨holdsP, holdsQ⟩ head
    all_goals omega

/-- Of sane events no outcome figure exceeds the seizures. -/
theorem figures_le {evs : List Event} (few : (names evs).toFinset.card ≤ 2 ^ 32) (sane : Sane evs) :
    (figures evs).answered ≤ (figures evs).seizureIds.card ∧
      (figures evs).outcomes ≤ (figures evs).seizureIds.card ∧
      (figures evs).answered + (figures evs).refused ≤ (figures evs).seizureIds.card := by
  have tallies := tallies_of_few evs few
  have bound : (endings evs).length ≤ (figures evs).seizureIds.card := by
    rw [← List.length_map (f := Ending.callId)]
    refine length_le_seizures tallies sane.once fun id member => ?_
    obtain ⟨e, there, rfl⟩ := List.mem_map.mp member
    exact sane.seized e there
  rw [tallies.answered, tallies.outcomes, tallies.refused]
  exact ⟨List.countP_le_length.trans bound, List.countP_le_length.trans bound,
    (countP_apart sane.apart).trans bound⟩

end Sipmon.Guarantees.SeizureCounts
