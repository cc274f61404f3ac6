import Sipmon.Guarantees.StreamAccounting
import Sipmon.Lib.GroupedTable

/-!
# The five-minute rows of the session report

The accumulator keeps one row per window in which something was counted. Each
row shows what the events of its window alone say: distinct Call-IDs, INVITEs and
streams, teardowns by outcome, RTT samples. Its packets, losses and bytes are what
the snapshots of the window gain on the last earlier ones of their streams, in
whatever window these were. The rows come in order of time and add up to the
figures of the session.
-/
namespace Sipmon.Guarantees.WindowRows
open Source Lib SeizureCounts
open Evlog (Event SipMsgEvt CallEvt StreamSnapEvt RtcpRttEvt StreamSnapLite)
open StreamAccounting (Figure accOf accOf_append added_append gain gainOf keyOf lite meter meter_snapshot
  metered_of_few)
open GroupedTable (Describes group)

/-- The window an event is counted in. -/
def windowKey : Event → Option UInt64
  | .sipMsg e => some (StatsAcc.windowOf e.tsUs)
  | .call e => if e.kind = .teardown then some (StatsAcc.windowOf e.tsUs) else none
  | .streamSnap e => some (StatsAcc.windowOf e.tsUs)
  | .rtcpRtt e => some (StatsAcc.windowOf e.tsUs)
  | _ => none

/-! ## What the events of a window say -/

/-- The bytes of a message. -/
def rawSize : Event → Option Nat
  | .sipMsg e => some e.raw.length
  | _ => none

def rttOf : Event → Option F64
  | .rtcpRtt e => some e.rttMs
  | _ => none

/-- A stream as a row counts it. -/
def streamOf : Event → Option (String × UInt32)
  | .streamSnap e => some (e.callId, e.ssrc)
  | _ => none

/-- The Call-ID an event is counted under; one that is no teardown only names it. -/
def countedName (ev : Event) : Option String := if (windowKey ev).isSome then nameOf ev else none

def rawSizes (evs : List Event) : List Nat := evs.filterMap rawSize
def rtts (evs : List Event) : List F64 := evs.filterMap rttOf
def streamNames (evs : List Event) : List (String × UInt32) := evs.filterMap streamOf
def countedNames (evs : List Event) : List String := evs.filterMap countedName

/-- Failed with a cause of this kind. -/
def failedAs (kind : FailKind) (e : Ending) : Bool := e.state = 4 && classifyFail e.code = kind

def failCount (f : FailSplit) : FailKind → Nat
  | .notFound => f.notfound
  | .reject => f.reject
  | .busy => f.busy
  | .timeout => f.timeout
  | .fail => f.fail

@[simp] theorem failCount_bump (f : FailSplit) (kind other : FailKind) :
    failCount (f.bump kind) other = failCount f other + if kind = other then 1 else 0 := by
  cases kind <;> cases other <;> simp [FailSplit.bump, failCount]

/-! ## One event -/

/-- What a message does to the row of its window, under the number of its Call-ID. -/
def messageRow (cid : UInt32) (e : SipMsgEvt) (w : WindowAcc) : WindowAcc :=
  let w := { w with calls := insert cid w.calls, sipMsgs := w.sipMsgs + 1
                    sipBytes := w.sipBytes + e.raw.length }
  if (seizureOf (.sipMsg e)).isSome then { w with invites := insert cid w.invites } else w

/-- How the state of a Teardown counts. -/
def outcomeRow (e : CallEvt) (w : WindowAcc) : WindowAcc :=
  match e.state.toNat with
  | 3 => { w with completed := w.completed + 1 }
  | 4 => { w with fail := w.fail.bump (classifyFail e.hangupCode) }
  | 5 => { w with canceled := w.canceled + 1 }
  | _ => w

def answerRow (e : CallEvt) (w : WindowAcc) : WindowAcc :=
  if e.answerTs.isSome then { w with answered := w.answered + 1 } else w

def teardownRow (cid : UInt32) (e : CallEvt) (w : WindowAcc) : WindowAcc :=
  answerRow e (outcomeRow e { w with teardowns := w.teardowns + 1, calls := insert cid w.calls })

def snapRow (cid : UInt32) (gain : Figure → UInt64) (e : StreamSnapEvt) (w : WindowAcc) :
    WindowAcc :=
  { w with loss := w.loss.add (gain .packets) (gain .lost) (gain .bytes)
           calls := insert cid w.calls, streams := insert (cid, e.ssrc) w.streams }

def rttRow (e : RtcpRttEvt) (w : WindowAcc) : WindowAcc :=
  { w with rttSum := w.rttSum + e.rttMs, rttN := w.rttN + 1 }

/-- What an event does to the row of its window. -/
def rowUpdate (acc : StatsAcc) (ev : Event) : WindowAcc → WindowAcc :=
  match ev with
  | .sipMsg e => messageRow (number acc.interned e.callId) e
  | .call e => teardownRow (number acc.interned e.callId) e
  | .streamSnap e =>
    let cid := number acc.interned e.callId
    snapRow cid (gain acc cid e) e
  | .rtcpRtt e => rttRow e
  | _ => id

/-- The row of a window changed through its entry. -/
def atWindow (ts : UInt64) (update : WindowAcc → WindowAcc) (windows : FiniteMap UInt64 WindowAcc) :
    FiniteMap UInt64 WindowAcc :=
  windows.upsert (StatsAcc.windowOf ts) fun row => update (row.getD {})

theorem windows_inWindow (acc : StatsAcc) (ts : UInt64) (update : WindowAcc → WindowAcc) :
    (acc.inWindow ts update).windows = atWindow ts update acc.windows := rfl

/-- Two changes of one row. -/
theorem atWindow_atWindow (ts : UInt64) (f g : WindowAcc → WindowAcc) (m : FiniteMap UInt64 WindowAcc) :
    atWindow ts g (atWindow ts f m) = atWindow ts (fun w => g (f w)) m := by
  simp only [atWindow, FiniteMap.upsert, AList.lookup_insert, Option.getD_some, AList.insert_insert]

theorem windows_countRequest (acc : StatsAcc) (ts : UInt64) (cid : UInt32) (method : String) :
    (acc.countRequest ts cid method).windows =
      if Text.eqIgnoreAsciiCase method "INVITE" then
        atWindow ts (fun w => { w with invites := insert cid w.invites }) acc.windows
      else acc.windows := by
  unfold StatsAcc.countRequest
  split
  · rfl
  · split
    · rfl
    · split <;> rfl

theorem windows_countResponse (acc : StatsAcc) (status : UInt16) :
    (acc.countResponse status).windows = acc.windows := by
  unfold StatsAcc.countResponse
  dsimp only
  split <;> rfl

theorem windows_countSipMsg (acc : StatsAcc) (cid : UInt32) (e : SipMsgEvt) :
    (acc.countSipMsg cid e).windows = atWindow e.tsUs (messageRow cid e) acc.windows := by
  unfold StatsAcc.countSipMsg messageRow seizureOf
  cases request : e.isRequest with
  | true =>
    cases method : e.method with
    | none =>
      simp only [request, method, if_true, Option.any_none, Bool.and_false, Bool.false_eq_true, if_false,
        Option.isSome_none]
      rfl
    | some method =>
      simp only [request, method, if_true, windows_countRequest, windows_inWindow, atWindow_atWindow,
        Option.any_some, Bool.true_and]
      split <;> rfl
  | false =>
    cases status : e.status with
    | none => simp [request, windows_inWindow]
    | some status => simp [request, windows_countResponse, windows_inWindow]

theorem windows_countDelays (acc : StatsAcc) (e : CallEvt) : (acc.countDelays e).windows = acc.windows := by
  unfold StatsAcc.countDelays
  dsimp only
  repeat' split
  all_goals rfl

theorem windows_countAnswer (acc : StatsAcc) (e : CallEvt) (f : WindowAcc → WindowAcc)
    (m : FiniteMap UInt64 WindowAcc) (before : acc.windows = atWindow e.tsUs f m) :
    (acc.countAnswer e).windows = atWindow e.tsUs (fun w => answerRow e (f w)) m := by
  unfold StatsAcc.countAnswer answerRow
  split <;> simp only [windows_inWindow, before, atWindow_atWindow]

theorem windows_countOutcome (acc : StatsAcc) (e : CallEvt) (f : WindowAcc → WindowAcc)
    (m : FiniteMap UInt64 WindowAcc) (before : acc.windows = atWindow e.tsUs f m) :
    (acc.countOutcome e).windows = atWindow e.tsUs (fun w => outcomeRow e (f w)) m := by
  unfold StatsAcc.countOutcome outcomeRow
  split <;> simp [windows_inWindow, atWindow_atWindow, *]

theorem windows_countTeardown (acc : StatsAcc) (cid : UInt32) (e : CallEvt) :
    (acc.countTeardown cid e).windows = atWindow e.tsUs (teardownRow cid e) acc.windows := by
  rw [StatsAcc.countTeardown, windows_countDelays]
  exact windows_countAnswer _ e _ _ (windows_countOutcome _ e _ _ rfl)

theorem windows_countSnap (acc : StatsAcc) (cid : UInt32) (e : StreamSnapEvt) :
    (acc.countSnap cid e.tsUs (lite e)).windows =
      atWindow e.tsUs (snapRow cid (gain acc cid e) e) acc.windows := by
  unfold StatsAcc.countSnap lite
  dsimp only
  split <;> rfl

/-- What one event does to the windows. -/
theorem windows_ingest (acc : StatsAcc) (ev : Event) :
    (acc.ingest ev).windows = match windowKey ev with
      | some k => acc.windows.upsert k fun row => rowUpdate acc ev (row.getD {})
      | none => acc.windows := by
  cases ev with
  | sipMsg e =>
    rw [StatsAcc.ingest, StatsAcc.ingestSipMsg, noteCall_eq]
    exact windows_countSipMsg _ _ e
  | call e =>
    rw [StatsAcc.ingest, StatsAcc.ingestCall, noteCall_eq, windowKey]
    by_cases teardown : e.kind = .teardown
    · simp only [teardown, ne_eq, not_true_eq_false, if_false, if_true]
      exact windows_countTeardown _ _ e
    · simp only [teardown, ne_eq, not_false_eq_true, if_true, if_false]
      rfl
  | streamSnap e =>
    rw [StatsAcc.ingest, StatsAcc.ingestStreamSnap, noteCall_eq]
    exact windows_countSnap _ _ e
  | rtcpRtt e => rfl
  | txn e => rfl
  | healthBucket e => rfl
  | error e => rfl
  | diag e => rfl

/-! ## The rows -/

/-- A row counts these events, with the numbers the Call-IDs have. -/
structure Counts (numbers : FiniteMap String UInt32) (w : WindowAcc) (evs : List Event) : Prop where
  sipMsgs : w.sipMsgs = (rawSizes evs).length
  sipBytes : w.sipBytes = (rawSizes evs).sum
  invites : w.invites = ((seizures evs).map (number numbers)).toFinset
  teardowns : w.teardowns = (endings evs).length
  answered : w.answered = (endings evs).countP Ending.answered
  completed : w.completed = (endings evs).countP fun e => e.state = 3
  canceled : w.canceled = (endings evs).countP fun e => e.state = 5
  fail : ∀ kind, failCount w.fail kind = (endings evs).countP (failedAs kind)
  calls : w.calls = ((countedNames evs).map (number numbers)).toFinset
  streams : w.streams = ((streamNames evs).map fun s => (number numbers s.1, s.2)).toFinset
  rttSum : w.rttSum = (rtts evs).foldl (· + ·) 0
  rttN : w.rttN = (rtts evs).length

/-- The numbers once an event has named its Call-ID. -/
def numbersAfter (numbers : FiniteMap String UInt32) (ev : Event) : FiniteMap String UInt32 :=
  match nameOf ev with
  | some id => grown numbers id
  | none => numbers

theorem interned_ingest (acc : StatsAcc) (ev : Event) :
    (acc.ingest ev).interned = numbersAfter acc.interned ev := by
  have counted := congrArg Tally.interned (tally_ingest acc ev)
  exact counted.trans (count_spec (tally acc) ev).1

theorem number_of_known {numbers : FiniteMap String UInt32} {a : String} (known : a ∈ numbers) (ev : Event) :
    number (numbersAfter numbers ev) a = number numbers a := by
  obtain ⟨n, found⟩ := Option.isSome_iff_exists.mp (AList.lookup_isSome.mpr known)
  unfold numbersAfter
  cases nameOf ev with
  | none => rfl
  | some id =>
    dsimp only
    rw [number, lookup_grown_of_some found, number, found]
    rfl

theorem number_of_named {numbers : FiniteMap String UInt32} {ev : Event} {id : String}
    (named : nameOf ev = some id) : number (numbersAfter numbers ev) id = number numbers id := by
  rw [numbersAfter, named, number]
  dsimp only
  rw [lookup_grown_self, Option.getD_some]

theorem mem_numbersAfter {numbers : FiniteMap String UInt32} (ev : Event) (a : String) :
    a ∈ numbersAfter numbers ev ↔ nameOf ev = some a ∨ a ∈ numbers := by
  unfold numbersAfter
  cases nameOf ev with
  | none => simp
  | some id =>
    rw [mem_grown]
    simp [eq_comm]

/-- The Call-IDs of the events have numbers. -/
def Known (numbers : FiniteMap String UInt32) (evs : List Event) : Prop := ∀ id ∈ names evs, id ∈ numbers

theorem seizures_subset (evs : List Event) : ∀ id ∈ seizures evs, id ∈ names evs := by
  intro id member
  obtain ⟨ev, listed, seized⟩ := List.mem_filterMap.mp member
  exact List.mem_filterMap.mpr ⟨ev, listed, nameOf_of_seizure seized⟩

theorem countedNames_subset (evs : List Event) : ∀ id ∈ countedNames evs, id ∈ names evs := by
  intro id member
  obtain ⟨ev, listed, counted⟩ := List.mem_filterMap.mp member
  unfold countedName at counted
  split at counted
  · exact List.mem_filterMap.mpr ⟨ev, listed, counted⟩
  · cases counted

theorem streamNames_subset (evs : List Event) : ∀ s ∈ streamNames evs, s.1 ∈ names evs := by
  intro s member
  obtain ⟨ev, listed, streamed⟩ := List.mem_filterMap.mp member
  cases ev with
  | streamSnap e =>
    obtain rfl := Option.some.inj streamed
    exact List.mem_filterMap.mpr ⟨_, listed, rfl⟩
  | _ => cases streamed

/-- A row depends on the numbers of its Call-IDs alone. -/
theorem Counts.renumbered {numbers other : FiniteMap String UInt32} {w : WindowAcc} {evs : List Event}
    (counts : Counts numbers w evs) (same : ∀ id ∈ names evs, number other id = number numbers id) :
    Counts other w evs := by
  have invites : (seizures evs).map (number other) = (seizures evs).map (number numbers) :=
    List.map_congr_left fun id member => same id (seizures_subset evs id member)
  have calls : (countedNames evs).map (number other) = (countedNames evs).map (number numbers) :=
    List.map_congr_left fun id member => same id (countedNames_subset evs id member)
  have streams : ((streamNames evs).map fun s => (number other s.1, s.2)) =
      (streamNames evs).map fun s => (number numbers s.1, s.2) := by
    apply List.map_congr_left
    intro s member
    rw [same s.1 (streamNames_subset evs s member)]
  exact { counts with
    invites := by rw [counts.invites, invites]
    calls := by rw [counts.calls, calls]
    streams := by rw [counts.streams, streams] }

theorem counts_nil (numbers : FiniteMap String UInt32) : Counts numbers {} [] := by
  constructor <;> simp [rawSizes, seizures, endings, countedNames, streamNames, rtts]
  intro kind
  cases kind <;> rfl

/-- What one event adds to the row of its window. -/
structure Adds (numbers : FiniteMap String UInt32) (ev : Event) (w after : WindowAcc) : Prop where
  sipMsgs : after.sipMsgs = w.sipMsgs + (rawSize ev).toList.length
  sipBytes : after.sipBytes = w.sipBytes + (rawSize ev).getD 0
  invites : after.invites = w.invites ∪ ((seizureOf ev).toList.map (number numbers)).toFinset
  teardowns : after.teardowns = w.teardowns + (endingOf ev).toList.length
  answered : after.answered = w.answered + ((endingOf ev).any Ending.answered).toNat
  completed : after.completed = w.completed + ((endingOf ev).any fun e => e.state = 3).toNat
  canceled : after.canceled = w.canceled + ((endingOf ev).any fun e => e.state = 5).toNat
  fail : ∀ kind, failCount after.fail kind = failCount w.fail kind + ((endingOf ev).any (failedAs kind)).toNat
  calls : after.calls = w.calls ∪ ((countedName ev).toList.map (number numbers)).toFinset
  streams : after.streams = w.streams ∪
    ((streamOf ev).toList.map fun s => (number numbers s.1, s.2)).toFinset
  rttSum : after.rttSum = (rttOf ev).toList.foldl (· + ·) w.rttSum
  rttN : after.rttN = w.rttN + (rttOf ev).toList.length

/-- What a list of readings gains with one more event. -/
theorem filterMap_snoc {α β : Type*} (f : α → Option β) (l : List α) (a : α) :
    (l ++ [a]).filterMap f = l.filterMap f ++ (f a).toList := by
  cases read : f a <;> simp [read]

theorem Counts.add {numbers : FiniteMap String UInt32} {w after : WindowAcc} {evs : List Event} {ev : Event}
    (counts : Counts numbers w evs) (adds : Adds numbers ev w after) :
    Counts numbers after (evs ++ [ev]) := by
  constructor
  · rw [adds.sipMsgs, counts.sipMsgs, rawSizes, rawSizes, filterMap_snoc, List.length_append]
  · rw [adds.sipBytes, counts.sipBytes, rawSizes, rawSizes, filterMap_snoc, List.sum_append]
    cases rawSize ev <;> simp
  · rw [adds.invites, counts.invites, seizures, seizures, filterMap_snoc, List.map_append, List.toFinset_append]
  · rw [adds.teardowns, counts.teardowns, endings, endings, filterMap_snoc, List.length_append]
  · rw [adds.answered, counts.answered, countP_endings]
  · rw [adds.completed, counts.completed, countP_endings]
  · rw [adds.canceled, counts.canceled, countP_endings]
  · intro kind
    rw [adds.fail, counts.fail, countP_endings]
  · rw [adds.calls, counts.calls, countedNames, countedNames, filterMap_snoc, List.map_append,
      List.toFinset_append]
  · rw [adds.streams, counts.streams, streamNames, streamNames, filterMap_snoc, List.map_append,
      List.toFinset_append]
  · rw [adds.rttSum, counts.rttSum, rtts, rtts, filterMap_snoc, List.foldl_append]
  · rw [adds.rttN, counts.rttN, rtts, rtts, filterMap_snoc, List.length_append]

theorem adds_message (numbers : FiniteMap String UInt32) (e : SipMsgEvt) (w : WindowAcc) :
    Adds numbers (.sipMsg e) w (messageRow (number numbers e.callId) e w) := by
  have counted : countedName (.sipMsg e) = some e.callId := rfl
  unfold messageRow
  cases seized : seizureOf (.sipMsg e) with
  | none =>
    constructor <;> simp [rawSize, endingOf, streamOf, rttOf, counted, seized]
  | some id =>
    obtain rfl : e.callId = id := Option.some.inj (nameOf_of_seizure seized)
    constructor <;> simp [rawSize, endingOf, streamOf, rttOf, counted, seized]

theorem outcomeRow_spec (e : CallEvt) (w : WindowAcc) :
    outcomeRow e w = { w with
      completed := w.completed + (decide (e.state = 3)).toNat
      canceled := w.canceled + (decide (e.state = 5)).toNat
      fail := if e.state = 4 then w.fail.bump (classifyFail e.hangupCode) else w.fail } := by
  have code : ∀ n : UInt8, e.state = n ↔ e.state.toNat = n.toNat := fun n => UInt8.toNat_inj.symm
  unfold outcomeRow
  simp only [code]
  split
  · next completed => simp [completed]
  · next failed => simp [failed]
  · next canceled => simp [canceled]
  · next notCompleted notFailed notCanceled =>
    simp [show e.state.toNat ≠ 3 from notCompleted, show e.state.toNat ≠ 4 from notFailed,
      show e.state.toNat ≠ 5 from notCanceled]

theorem adds_teardown (numbers : FiniteMap String UInt32) (e : CallEvt) (teardown : e.kind = .teardown)
    (w : WindowAcc) : Adds numbers (.call e) w (teardownRow (number numbers e.callId) e w) := by
  have counted : countedName (.call e) = some e.callId := by
    simp [countedName, windowKey, teardown, nameOf]
  have ended : endingOf (.call e) =
      some { callId := e.callId, state := e.state, answered := e.answerTs.isSome, code := e.hangupCode } := by
    simp [endingOf, teardown]
  unfold teardownRow answerRow
  rw [outcomeRow_spec]
  constructor
  case fail =>
    intro kind
    by_cases failed : e.state = 4 <;> cases e.answerTs <;>
      simp [ended, failedAs, failed, Bool.toNat, Bool.cond_decide]
  all_goals cases answered : e.answerTs <;>
    simp [rawSize, seizureOf, streamOf, rttOf, counted, ended, answered]

theorem adds_snap (numbers : FiniteMap String UInt32) (gain : Figure → UInt64)
    (e : StreamSnapEvt) (w : WindowAcc) :
    Adds numbers (.streamSnap e) w (snapRow (number numbers e.callId) gain e w) := by
  have counted : countedName (.streamSnap e) = some e.callId := rfl
  constructor <;> simp [snapRow, rawSize, seizureOf, endingOf, streamOf, rttOf, counted]

theorem adds_rtt (numbers : FiniteMap String UInt32) (e : RtcpRttEvt) (w : WindowAcc) :
    Adds numbers (.rtcpRtt e) w (rttRow e w) := by
  have unnamed : countedName (.rtcpRtt e) = none := rfl
  constructor <;> simp [rttRow, rawSize, seizureOf, endingOf, streamOf, rttOf, unnamed]

/-- Every event of a window adds to its row what it says. -/
theorem adds_rowUpdate (acc : StatsAcc) {ev : Event} {k : UInt64} (own : windowKey ev = some k) (w : WindowAcc) :
    Adds acc.interned ev w (rowUpdate acc ev w) := by
  cases ev with
  | sipMsg e => exact adds_message acc.interned e w
  | call e =>
    apply adds_teardown
    unfold windowKey at own
    by_contra other
    simp [other] at own
  | streamSnap e => exact adds_snap acc.interned _ e w
  | rtcpRtt e => exact adds_rtt acc.interned e w
  | _ => cases own

/-! ## All windows -/

theorem same_number {numbers : FiniteMap String UInt32} {evs : List Event} (known : Known numbers evs)
    (ev : Event) : ∀ id ∈ names (evs ++ [ev]), number (numbersAfter numbers ev) id = number numbers id := by
  intro id member
  rw [names, filterMap_snoc] at member
  rcases List.mem_append.mp member with old | new
  · exact number_of_known (known id old) ev
  · exact number_of_named (Option.mem_toList.mp new)

theorem known_append {numbers : FiniteMap String UInt32} {evs : List Event} (known : Known numbers evs)
    (ev : Event) : Known (numbersAfter numbers ev) (evs ++ [ev]) := by
  intro id member
  rw [names, filterMap_snoc] at member
  rw [mem_numbersAfter]
  rcases List.mem_append.mp member with old | new
  · exact .inr (known id old)
  · exact .inl (Option.mem_toList.mp new)

theorem Known.group {numbers : FiniteMap String UInt32} {evs : List Event} (known : Known numbers evs)
    (k : UInt64) : Known numbers (group windowKey k evs) := by
  intro id member
  obtain ⟨ev, listed, named⟩ := List.mem_filterMap.mp member
  exact known id (List.mem_filterMap.mpr ⟨ev, (List.mem_filter.mp listed).1, named⟩)

/-- The windows of a session are the groups of its events. -/
theorem describes_accOf (evs : List Event) : Known (accOf evs).interned evs ∧
    Describes windowKey (Counts (accOf evs).interned) (accOf evs).windows evs := by
  induction evs using List.reverseRecOn with
  | nil => exact ⟨fun id member => (List.not_mem_nil member).elim, GroupedTable.describes_nil⟩
  | append_singleton evs ev ih =>
    obtain ⟨known, described⟩ := ih
    rw [accOf_append, interned_ingest, windows_ingest]
    have elsewhere : ∀ (k : UInt64) (w : WindowAcc), Counts (accOf evs).interned w (group windowKey k evs) →
        Counts (numbersAfter (accOf evs).interned ev) w (group windowKey k evs) := by
      intro k w counts
      apply counts.renumbered
      intro id member
      exact number_of_known (known.group k id member) ev
    constructor
    · exact known_append known ev
    · cases own : windowKey ev with
      | none => exact described.skip own fun k w _ => elsewhere k w
      | some k =>
        apply described.upsert own (counts_nil _)
        · exact fun i w _ => elsewhere i w
        · intro w counts
          have counted := counts.add (adds_rowUpdate (accOf evs) own w)
          exact counted.renumbered (same_number (known.group k) ev)

/-! ## What the snapshots of a window gain -/

/-- What a snapshot gains on the last one of its stream among the events before. -/
def gainAfter (fig : Figure) (past : List Event) : Event → Nat
  | .streamSnap e => (meter fig past).gain (keyOf e, (fig.ofSnap e).toNat)
  | _ => 0

/-- What the snapshots of one window gain. -/
def gained (fig : Figure) (k : UInt64) (evs : List Event) : Nat :=
  Run.total (fun past ev => past ++ [ev])
    (fun past ev => if windowKey ev = some k then gainAfter fig past ev else 0) [] evs

theorem gained_append (fig : Figure) (k : UInt64) (evs : List Event) (ev : Event) :
    gained fig k (evs ++ [ev]) =
      gained fig k evs + if windowKey ev = some k then gainAfter fig evs ev else 0 := by
  have read : ∀ (evs past : List Event), evs.foldl (fun past ev => past ++ [ev]) past = past ++ evs := by
    intro evs
    induction evs with
    | nil => exact fun past => (List.append_nil past).symm
    | cons ev rest ih => exact fun past => (ih _).trans (List.append_assoc past [ev] rest)
  rw [gained, Run.total_append, read]
  rfl

def word : Figure → Counters → UInt64
  | .packets, c => c.pkts
  | .lost, c => c.lost
  | .bytes, c => c.bytes

theorem word_add (fig : Figure) (c : Counters) (g : Figure → UInt64) :
    word fig (c.add (g .packets) (g .lost) (g .bytes)) = word fig c + g fig := by
  cases fig <;> rfl

/-- Under few Call-IDs the accumulator finds the last snapshot of the stream itself. -/
theorem gainOf_eq_gainAfter {evs : List Event} {ev : Event}
    (few : (names (evs ++ [ev])).toFinset.card ≤ 2 ^ 32) (fig : Figure) :
    gainOf fig (accOf evs) ev = gainAfter fig evs ev := by
  cases ev with
  | streamSnap e =>
    have before := (metered_of_few evs (few_of_append few)).counted fig
    have after := (metered_of_few _ few).counted fig
    rw [added_append, meter_snapshot, before] at after
    exact Nat.add_left_cancel after
  | _ => rfl

/-- Only a snapshot changes the traffic of its row. -/
theorem word_rowUpdate (acc : StatsAcc) (ev : Event) (w : WindowAcc) (fig : Figure) :
    word fig (rowUpdate acc ev w).loss = word fig w.loss + UInt64.ofNat (gainOf fig acc ev) := by
  cases ev with
  | streamSnap e =>
    rw [gainOf, UInt64.ofNat_toNat]
    exact word_add fig w.loss (gain acc (number acc.interned e.callId) e)
  | sipMsg e =>
    refine Eq.trans ?_ (UInt64.add_zero _).symm
    unfold rowUpdate messageRow
    dsimp only
    split <;> rfl
  | call e =>
    refine Eq.trans ?_ (UInt64.add_zero _).symm
    unfold rowUpdate teardownRow answerRow
    dsimp only
    rw [outcomeRow_spec]
    split <;> rfl
  | _ => exact (UInt64.add_zero _).symm

/-- Every window holds what its snapshots gained. -/
theorem word_accOf (evs : List Event) (few : (names evs).toFinset.card ≤ 2 ^ 32) (k : UInt64) (fig : Figure) :
    word fig (((accOf evs).windows.lookup k).getD {}).loss = UInt64.ofNat (gained fig k evs) := by
  induction evs using List.reverseRecOn with
  | nil => cases fig <;> rfl
  | append_singleton evs ev ih =>
    have held := ih (few_of_append few)
    rw [accOf_append, windows_ingest, gained_append, ← gainOf_eq_gainAfter few fig, UInt64.ofNat_add]
    cases own : windowKey ev with
    | none =>
      rw [if_neg nofun, held]
      exact (UInt64.add_zero _).symm
    | some i =>
      dsimp only
      rw [FiniteMap.lookup_upsert]
      by_cases here : k = i
      · subst here
        rw [if_pos rfl, if_pos rfl, Option.getD_some, word_rowUpdate, held]
      · rw [if_neg here, if_neg fun same => here (Option.some.inj same).symm, held]
        exact (UInt64.add_zero _).symm

/-! ## The report -/

/-- What a row of the report shows is what these events say. -/
structure Shows (row : LossWindow) (evs : List Event) : Prop where
  calls : row.calls = (countedNames evs).toFinset.card
  streams : row.streams = (streamNames evs).toFinset.card
  invites : row.invites = (seizures evs).toFinset.card
  sipMsgs : row.sipMsgs = (rawSizes evs).length
  teardowns : row.teardowns = (endings evs).length
  answered : row.answered = (endings evs).countP Ending.answered
  asr : row.asrPct = StatsAcc.rate (endings evs).length ((endings evs).countP Ending.answered)
  ner : row.nerPct = StatsAcc.rate (endings evs).length
    ((endings evs).countP Ending.answered + (endings evs).countP (failedAs .notFound) +
      (endings evs).countP (failedAs .reject) + (endings evs).countP (failedAs .busy))
  completed : row.ccrPct = StatsAcc.rate (endings evs).length ((endings evs).countP fun e => e.state = 3)
  canceled : row.cancelPct = StatsAcc.rate (endings evs).length ((endings evs).countP fun e => e.state = 5)
  notfound : row.notfoundPct = StatsAcc.rate (endings evs).length ((endings evs).countP (failedAs .notFound))
  reject : row.rejectPct = StatsAcc.rate (endings evs).length ((endings evs).countP (failedAs .reject))
  busy : row.busyPct = StatsAcc.rate (endings evs).length ((endings evs).countP (failedAs .busy))
  timeout : row.timeoutPct = StatsAcc.rate (endings evs).length ((endings evs).countP (failedAs .timeout))
  fail : row.failPct = StatsAcc.rate (endings evs).length ((endings evs).countP (failedAs .fail))
  rtt : row.avgRttMs = StatsAcc.meanF64 ((rtts evs).foldl (· + ·) 0) (rtts evs).length

/-- The traffic a row of the report shows is what the snapshots of its window gain, as far
as a `u64` holds it. -/
structure Carries (row : LossWindow) (evs : List Event) : Prop where
  pkts : row.pkts = UInt64.ofNat (gained .packets row.startTsUs evs)
  lost : row.lost = UInt64.ofNat (gained .lost row.startTsUs evs)
  rtpBytes : row.rtpBytes = UInt64.ofNat (gained .bytes row.startTsUs evs)
  lossPct : row.lossPct = Counters.lossPct { pkts := row.pkts, lost := row.lost, bytes := row.rtpBytes }

/-- Distinct elements keep their number under a map that keeps them apart. -/
theorem card_map {α β : Type} [DecidableEq α] [DecidableEq β] {f : α → β} {l : List α}
    (apart : ∀ a ∈ l, ∀ b ∈ l, f a = f b → a = b) : (l.map f).toFinset.card = l.toFinset.card := by
  have image : (l.map f).toFinset = l.toFinset.image f := by
    ext b
    simp
  rw [image]
  apply Finset.card_image_of_injOn
  intro a first b second same
  exact apart a (by simpa using first) b (by simpa using second) same

theorem number_injective {numbers : FiniteMap String UInt32} (numbered : Numbered numbers) {a b : String}
    (first : a ∈ numbers) (second : b ∈ numbers) (same : number numbers a = number numbers b) : a = b := by
  obtain ⟨n, foundA⟩ := Option.isSome_iff_exists.mp (AList.lookup_isSome.mpr first)
  obtain ⟨m, foundB⟩ := Option.isSome_iff_exists.mp (AList.lookup_isSome.mpr second)
  rw [number, number, foundA, foundB, Option.getD_some, Option.getD_some] at same
  subst same
  exact (numbered b n foundB).2 a foundA

theorem shows_finishWindow {numbers : FiniteMap String UInt32} (numbered : Numbered numbers)
    {evs : List Event} (known : Known numbers evs) {w : WindowAcc} (counts : Counts numbers w evs)
    (start : UInt64) : Shows (StatsAcc.finishWindow start w) evs := by
  have notfound := counts.fail .notFound
  have reject := counts.fail .reject
  have busy := counts.fail .busy
  have timeout := counts.fail .timeout
  have fail := counts.fail .fail
  simp only [failCount] at notfound reject busy timeout fail
  constructor
  case calls =>
    apply (congrArg Finset.card counts.calls).trans
    apply card_map
    intro a first b second same
    exact number_injective numbered (known a (countedNames_subset evs a first))
      (known b (countedNames_subset evs b second)) same
  case streams =>
    apply (congrArg Finset.card counts.streams).trans
    apply card_map
    intro a first b second same
    have ids := number_injective numbered (known a.1 (streamNames_subset evs a first))
      (known b.1 (streamNames_subset evs b second)) (Prod.mk.inj same).1
    exact Prod.ext ids (Prod.mk.inj same).2
  case invites =>
    apply (congrArg Finset.card counts.invites).trans
    apply card_map
    intro a first b second same
    exact number_injective numbered (known a (seizures_subset evs a first))
      (known b (seizures_subset evs b second)) same
  all_goals simp [StatsAcc.finishWindow, counts.sipMsgs, counts.teardowns, counts.answered, counts.completed,
    counts.canceled, notfound, reject, busy, timeout, fail, counts.rttSum, counts.rttN]

/-- The rows are the windows in order of time. -/
theorem finishWindows_perm (acc : StatsAcc) :
    acc.finishWindows.Perm (acc.windows.toList.map fun e => StatsAcc.finishWindow e.1 e.2) :=
  (List.perm_insertionSort _ _).map _

/-- A row is finished from a window of the accumulator. -/
theorem row_of_window {acc : StatsAcc} {row : LossWindow} (listed : row ∈ acc.finishWindows) :
    ∃ start w, acc.windows.lookup start = some w ∧ row = StatsAcc.finishWindow start w := by
  have finished := (finishWindows_perm acc).mem_iff.mp listed
  obtain ⟨⟨start, w⟩, member, shape⟩ := List.mem_map.mp finished
  exact ⟨start, w, (FiniteMap.mem_toList _ _ _).mp member, shape.symm⟩

/-- The rows start where the windows do. -/
theorem starts_finishWindows (acc : StatsAcc) (start : UInt64) :
    start ∈ acc.finishWindows.map LossWindow.startTsUs ↔ start ∈ acc.windows := by
  have keys : ((acc.windows.toList.map fun e => StatsAcc.finishWindow e.1 e.2).map LossWindow.startTsUs) =
      acc.windows.keys := by
    rw [List.map_map, FiniteMap.toList, List.map_map]
    rfl
  rw [((finishWindows_perm acc).map LossWindow.startTsUs).mem_iff, keys]
  exact AList.mem_keys.symm

theorem ascending_finishWindows (acc : StatsAcc) :
    (acc.finishWindows.map LossWindow.startTsUs).Pairwise (· < ·) := by
  have starts : acc.finishWindows.map LossWindow.startTsUs =
      (acc.windows.toList.insertionSort fun a b => a.1 ≤ b.1).map Prod.fst := by
    rw [StatsAcc.finishWindows, List.map_map]
    rfl
  have sorted : (acc.windows.toList.insertionSort fun a b => a.1 ≤ b.1).Pairwise fun a b => a.1 ≤ b.1 := by
    apply List.pairwise_insertionSort
  have distinct : ((acc.windows.toList.insertionSort fun a b => a.1 ≤ b.1).map Prod.fst).Nodup :=
    ((List.perm_insertionSort _ _).map Prod.fst).nodup_iff.mpr (FiniteMap.nodup_toList_keys acc.windows)
  rw [starts]
  apply List.Pairwise.imp _ ((List.pairwise_map.mpr sorted).and distinct)
  rintro a b ⟨le, ne⟩
  have differ : a.toNat ≠ b.toNat := fun same => ne (UInt64.toNat_inj.mp same)
  have below := UInt64.le_iff_toNat_le.mp le
  rw [UInt64.lt_iff_toNat_lt]
  omega

/-- A figure of the rows adds up as over the windows. -/
theorem sum_rows (acc : StatsAcc) (shown : LossWindow → Nat) (figure : WindowAcc → Nat)
    (same : ∀ start w, shown (StatsAcc.finishWindow start w) = figure w) :
    (acc.finishWindows.map shown).sum = FiniteMap.total figure acc.windows := by
  rw [((finishWindows_perm acc).map shown).sum_eq, FiniteMap.total_eq_sum, List.map_map]
  simp only [Function.comp_def, same]

theorem events_countSipMsg (acc : StatsAcc) (cid : UInt32) (e : SipMsgEvt) :
    (acc.countSipMsg cid e).events = acc.events := by
  unfold StatsAcc.countSipMsg StatsAcc.countRequest StatsAcc.countResponse
  dsimp only
  repeat' split
  all_goals rfl

theorem events_countTeardown (acc : StatsAcc) (cid : UInt32) (e : CallEvt) :
    (acc.countTeardown cid e).events = acc.events := by
  have outcome : ∀ acc : StatsAcc, (acc.countOutcome e).events = acc.events := by
    intro acc
    unfold StatsAcc.countOutcome
    split <;> rfl
  have answer : ∀ acc : StatsAcc, (acc.countAnswer e).events = acc.events := by
    intro acc
    unfold StatsAcc.countAnswer
    split <;> rfl
  have delays : ∀ acc : StatsAcc, (acc.countDelays e).events = acc.events := by
    intro acc
    unfold StatsAcc.countDelays
    dsimp only
    repeat' split
    all_goals rfl
  rw [StatsAcc.countTeardown, delays, answer, outcome]
  rfl

theorem events_countSnap (acc : StatsAcc) (cid : UInt32) (ts : UInt64) (e : StreamSnapLite) :
    (acc.countSnap cid ts e).events = acc.events := by
  unfold StatsAcc.countSnap
  dsimp only
  repeat' split
  all_goals rfl

theorem sip_ingest (acc : StatsAcc) (ev : Event) :
    (acc.ingest ev).events.sip = acc.events.sip + (rawSize ev).toList.length := by
  cases ev with
  | sipMsg e =>
    rw [StatsAcc.ingest, StatsAcc.ingestSipMsg, noteCall_eq, events_countSipMsg]
    rfl
  | call e =>
    rw [StatsAcc.ingest, StatsAcc.ingestCall, noteCall_eq]
    dsimp only
    split
    · rfl
    · rw [events_countTeardown]
      rfl
  | streamSnap e =>
    rw [StatsAcc.ingest, StatsAcc.ingestStreamSnap, noteCall_eq, events_countSnap]
    rfl
  | _ => rfl

/-- Messages are counted once, in the session as in their window. -/
theorem messages_accOf (evs : List Event) : (accOf evs).events.sip = (rawSizes evs).length := by
  induction evs using List.reverseRecOn with
  | nil => rfl
  | append_singleton evs ev ih =>
    rw [accOf_append, sip_ingest, ih, rawSizes, rawSizes, filterMap_snoc, List.length_append]

theorem length_filterMap {α β : Type*} (f : α → Option β) (l : List α) :
    (l.filterMap f).length = (l.map fun a => (f a).toList.length).sum := by
  induction l with
  | nil => rfl
  | cons a rest ih => cases read : f a <;> simp [read, ih, Nat.add_comm]

theorem countP_filterMap {α β : Type*} (f : α → Option β) (p : β → Bool) (l : List α) :
    (l.filterMap f).countP p = (l.map fun a => ((f a).any p).toNat).sum := by
  induction l with
  | nil => rfl
  | cons a rest ih =>
    cases read : f a with
    | none => simp [read, ih]
    | some b => cases holds : p b <;> simp [read, ih, holds, Nat.add_comm]

/-- No Teardown is counted outside the windows. -/
theorem ending_of_free {ev : Event} (free : windowKey ev = none) : endingOf ev = none := by
  cases ev with
  | call e =>
    have other : e.kind ≠ .teardown := by simpa [windowKey] using free
    simp [endingOf, other]
  | _ => rfl

/-- The five-minute rows of the report of a session of at most 2^32 Call-IDs: one
row for every window in which something was counted, in order of time, each
showing what the events of its window say and what its snapshots gain on the
earlier ones; messages, teardowns and answers of the rows add up to those of the
session, and packets, losses and bytes do modulo 2^64. -/
theorem rows_partition_session (evs : List Event) (few : (names evs).toFinset.card ≤ 2 ^ 32)
    (iter : Iteration) (file : String) (bytes : Nat) (tz : Option Int32) (topIps : Nat) :
    let report := (accOf evs).finish iter file bytes tz topIps
    (report.windows.map LossWindow.startTsUs).Pairwise (· < ·) ∧
      (∀ start, start ∈ report.windows.map LossWindow.startTsUs ↔ ∃ ev ∈ evs, windowKey ev = some start) ∧
      (∀ row ∈ report.windows, Shows row (group windowKey row.startTsUs evs) ∧ Carries row evs) ∧
      (report.windows.map LossWindow.sipMsgs).sum = report.traffic.sipMsgs ∧
      (report.windows.map LossWindow.teardowns).sum = (endings evs).length ∧
      (report.windows.map LossWindow.answered).sum = report.reliability.answered ∧
      (report.windows.map fun row => row.pkts.toNat).sum ≡ report.traffic.rtpPkts.toNat [MOD 2 ^ 64] ∧
      (report.windows.map fun row => row.lost.toNat).sum ≡ report.traffic.rtpLost.toNat [MOD 2 ^ 64] ∧
      (report.windows.map fun row => row.rtpBytes.toNat).sum ≡ report.traffic.rtpBytes.toNat [MOD 2 ^ 64] := by
  obtain ⟨known, described⟩ := describes_accOf evs
  have tallies := tallies_of_few evs few
  have numbered : Numbered (accOf evs).interned := tallies.numbered
  have traffic : ∀ fig : Figure, StreamAccounting.windowTotal fig (accOf evs) ≡
      fig.ofCounters (accOf evs).all [MOD 2 ^ 64] := fun fig =>
    (StreamAccounting.wraps_accOf evs fig).2.1.2.trans (StreamAccounting.wraps_accOf evs fig).1.2.symm
  have rows : ∀ row ∈ (accOf evs).finishWindows,
      Shows row (group windowKey row.startTsUs evs) ∧ Carries row evs := by
    intro row listed
    obtain ⟨start, w, found, rfl⟩ := row_of_window listed
    have traffic := word_accOf evs few start
    rw [found, Option.getD_some] at traffic
    exact ⟨shows_finishWindow numbered (known.group start) (described.rows start w found) start,
      traffic .packets, traffic .lost, traffic .bytes, rfl⟩
  have messages : ((accOf evs).finishWindows.map LossWindow.sipMsgs).sum = (accOf evs).events.sip := by
    rw [sum_rows _ _ WindowAcc.sipMsgs fun _ _ => rfl, messages_accOf, rawSizes, length_filterMap]
    apply described.total_all fun w l counts => counts.sipMsgs.trans (length_filterMap _ _)
    intro ev free
    cases ev with
    | sipMsg e => cases free
    | _ => rfl
  have teardowns : ((accOf evs).finishWindows.map LossWindow.teardowns).sum = (endings evs).length := by
    rw [sum_rows _ _ WindowAcc.teardowns fun _ _ => rfl, endings, length_filterMap]
    apply described.total_all fun w l counts => counts.teardowns.trans (length_filterMap _ _)
    intro ev free
    rw [ending_of_free free]
    rfl
  have answers : ((accOf evs).finishWindows.map LossWindow.answered).sum = (accOf evs).answered := by
    have session : (accOf evs).answered = (endings evs).countP Ending.answered := tallies.answered
    rw [sum_rows _ _ WindowAcc.answered fun _ _ => rfl, session, endings, countP_filterMap]
    apply described.total_all fun w l counts => counts.answered.trans (countP_filterMap _ _ _)
    intro ev free
    rw [ending_of_free free]
    rfl
  refine ⟨ascending_finishWindows _, fun start => (starts_finishWindows _ start).trans (described.present start), rows,
    messages, teardowns, answers, ?_, ?_, ?_⟩
  · exact (congrArg (· ≡ _ [MOD 2 ^ 64]) (sum_rows _ _ _ fun _ _ => rfl)).mpr (traffic .packets)
  · exact (congrArg (· ≡ _ [MOD 2 ^ 64]) (sum_rows _ _ _ fun _ _ => rfl)).mpr (traffic .lost)
  · exact (congrArg (· ≡ _ [MOD 2 ^ 64]) (sum_rows _ _ _ fun _ _ => rfl)).mpr (traffic .bytes)

/-- A stream of three packets that has five when the next window begins. -/
def growingStream : List Event :=
  [.streamSnap (StreamAccounting.sampleSnap "a" 3),
    .streamSnap { StreamAccounting.sampleSnap "a" 5 with tsUs := 300000000 }]

/-- The row of the second window shows the two packets that came in it. -/
theorem rows_of_growingStream :
    let report := (accOf growingStream).finish .stored "two.evlog" 0 none 50
    (∃ first ∈ report.windows, first.startTsUs = 0 ∧ first.pkts = 3) ∧
      (∃ second ∈ report.windows, second.startTsUs = 300000000 ∧ second.pkts = 2) ∧
      (report.windows.map LossWindow.startTsUs).Pairwise (· < ·) := by
  obtain ⟨ascending, windows, rows, -⟩ :=
    rows_partition_session growingStream (by decide +kernel) .stored "two.evlog" 0 none 50
  obtain ⟨first, listed, start⟩ := List.mem_map.mp ((windows 0).mpr (by decide +kernel))
  obtain ⟨second, listed', start'⟩ := List.mem_map.mp ((windows 300000000).mpr (by decide +kernel))
  have three : gained .packets 0 growingStream = 3 := by decide +kernel
  have two : gained .packets 300000000 growingStream = 2 := by decide +kernel
  have traffic := (rows first listed).2.pkts
  have traffic' := (rows second listed').2.pkts
  rw [start, three] at traffic
  rw [start', two] at traffic'
  exact ⟨⟨first, listed, start, traffic⟩, ⟨second, listed', start', traffic'⟩, ascending⟩

end Sipmon.Guarantees.WindowRows
