import Sipmon.Guarantees.CallSignals
import Sipmon.Guarantees.Carried
import Sipmon.Guarantees.SignalingSeries
import Sipmon.Lib.Run

/-!
# Conservation of the signaling statistics

Every message is counted in one column of its sender and in the same column of
the global row. An answer is credited through a call that a counted INVITE has
opened and that waits for its answer: the credit takes that wait away, so that
answers and waiting calls together never exceed the INVITEs.
-/
namespace Sipmon.Guarantees.SignalingConservation
open Source Lib Correlator Stages Views Carried SignalingSeries
open CallTable (signaling calls)
open CallSignals
open SipIpStats (seriesBuckets)

/-! ## The machine -/

/-- The operations of the correlator, and removals and evictions at any time. -/
inductive Input where
  | op (op : Op)
  | remove (ids : List String)
  | evictStale (ttlSecs nowUs : UInt64)
  | evictIfNeeded

def step (c : Correlator) (input : Iteration × Input) : Correlator :=
  match input.2 with
  | .op op => Correlator.step c (input.1, op)
  | .remove ids => { c with reg := c.reg.removeCalls ids }
  | .evictStale ttlSecs nowUs => { c with reg := c.reg.evictStale input.1 ttlSecs nowUs }
  | .evictIfNeeded => { c with reg := c.reg.evictIfNeeded input.1 }

/-- No clear, and no idle address to prune. -/
def Spares (c : Correlator) (input : Iteration × Input) : Prop :=
  match input.2 with
  | .op .clear => False
  | .op (.flush ts) => tickerDue (c.ipattrTick input.1 ts).lastFlushUs ts flushPeriodUs = true →
      ∀ row ∈ c.reg.sipstats.ips.toList, ts.toNat - ipstatsIdleUs ≤ (row.2.lastTsUs.getD 0).toNat
  | _ => True

/-- The SIP messages of a run. -/
def messages (inputs : List (Iteration × Input)) : List SipMsg :=
  inputs.filterMap fun input => match input.2 with
    | .op (.sip msg) => some msg
    | _ => none

/-- The observation a message is offered as. -/
def obsOf (c : Correlator) (msg : SipMsg) : SipObs :=
  { ip := msg.flow.src.ip, tsUs := msg.tsUs, isRequest := msg.isRequest, method := msg.method
    status := msg.status, answerForIp := c.answerForIp msg, initialInvite := msg.isInitialInvite }

/-! ## Columns -/

/-- A row has all its columns. -/
def Shaped (s : SipIpStats) : Prop := s.req.length = reqN ∧ s.resp.length = respN

theorem reqIdx_lt (method : Option Method) : (method.map reqIdx).getD (reqN - 1) < reqN := by
  rcases method with _ | m
  · decide
  · cases m <;> decide

theorem respIdx_lt (status : UInt16) : respIdx status < respN := by
  unfold respIdx respN
  repeat' split
  all_goals omega

theorem getD_modify_succ {l : List Nat} {j : Nat} (inside : j < l.length) (i : Nat) :
    (l.modify j (· + 1)).getD i 0 = l.getD i 0 + if j = i then 1 else 0 := by
  simp only [List.getD_eq_getElem?_getD, List.getElem?_modify]
  by_cases here : j = i
  · subst here
    rw [List.getElem?_eq_getElem inside]
    simp
  · cases l[i]? <;> simp [here]

theorem getD_replicate_zero (n i : Nat) : (List.replicate n 0).getD i 0 = 0 := by
  rw [List.getD_eq_getElem?_getD, List.getElem?_replicate]
  split <;> rfl

theorem sum_modify_succ {l : List Nat} {j : Nat} (inside : j < l.length) :
    (l.modify j (· + 1)).sum = l.sum + 1 := by
  induction l generalizing j with
  | nil => cases inside
  | cons a rest ih =>
    cases j with
    | zero => exact Nat.add_right_comm a 1 rest.sum
    | succ j =>
      have deeper := ih (Nat.lt_of_succ_lt_succ inside)
      have step : ((a :: rest).modify (j + 1) (· + 1)).sum = a + (rest.modify j (· + 1)).sum := rfl
      rw [step, deeper, List.sum_cons, Nat.add_assoc]

/-- The part of a row that the rings do not touch. -/
def columns (s : SipIpStats) : List Nat × List Nat := (s.req, s.resp)

theorem columns_applyDist (s : SipIpStats) (o : SipObs) : columns (s.applyDist o) =
    if o.isRequest then (s.req.modify ((o.method.map reqIdx).getD (reqN - 1)) (· + 1), s.resp)
    else match o.status with
      | some code => (s.req, s.resp.modify (respIdx code) (· + 1))
      | none => columns s := by
  unfold SipIpStats.applyDist
  cases o.isRequest
  · cases o.status <;> rfl
  · cases o.initialInvite <;> rfl

theorem shaped_applyDist {s : SipIpStats} (o : SipObs) (shaped : Shaped s) : Shaped (s.applyDist o) := by
  have moved := columns_applyDist s o
  have lengths : ∀ t : SipIpStats, Shaped t ↔
      (columns t).1.length = reqN ∧ (columns t).2.length = respN := fun t => Iff.rfl
  rw [lengths] at shaped ⊢
  rw [moved]
  split
  · rwa [List.length_modify]
  · split
    · rwa [List.length_modify]
    · exact shaped

/-- A number read off the columns that an observation moves by the same amount in
every row it reaches. -/
structure Tally (f : SipIpStats → Nat) (d : SipObs → Nat) : Prop where
  zero : f {} = 0
  shown : ∀ s t, columns s = columns t → f s = f t
  dist : ∀ s o, Shaped s → f (s.applyDist o) = f s + d o

theorem tally_req (i : Nat) : Tally (fun s => s.req.getD i 0)
    (fun o => if o.isRequest ∧ (o.method.map reqIdx).getD (reqN - 1) = i then 1 else 0) where
  zero := getD_replicate_zero reqN i
  shown s t same := congrArg (fun l : List Nat × List Nat => l.1.getD i 0) same
  dist s o shaped := by
    have moved := congrArg (fun l : List Nat × List Nat => l.1.getD i 0) (columns_applyDist s o)
    refine moved.trans ?_
    have inside : (o.method.map reqIdx).getD (reqN - 1) < s.req.length := by
      rw [shaped.1]
      exact reqIdx_lt o.method
    cases o.isRequest
    · cases o.status <;> rfl
    · simp only [if_true, true_and]
      exact getD_modify_succ inside i

theorem tally_resp (i : Nat) : Tally (fun s => s.resp.getD i 0)
    (fun o => if ¬o.isRequest ∧ o.status.map respIdx = some i then 1 else 0) where
  zero := getD_replicate_zero respN i
  shown s t same := congrArg (fun l : List Nat × List Nat => l.2.getD i 0) same
  dist s o shaped := by
    have moved := congrArg (fun l : List Nat × List Nat => l.2.getD i 0) (columns_applyDist s o)
    refine moved.trans ?_
    cases o.isRequest
    · cases o.status with
      | none => simp [columns]
      | some code =>
        have inside : respIdx code < s.resp.length := by
          rw [shaped.2]
          exact respIdx_lt code
        simpa using getD_modify_succ inside i
    · simp

/-- Whether a message is counted. -/
def counted (isRequest : Bool) (status : Option UInt16) : Bool := isRequest || status.isSome

theorem tally_totalMsgs : Tally SipIpStats.totalMsgs
    (fun o => if counted o.isRequest o.status then 1 else 0) where
  zero := by decide
  shown s t same := congrArg (fun l : List Nat × List Nat => l.1.sum + l.2.sum) same
  dist s o shaped := by
    have moved := congrArg (fun l : List Nat × List Nat => l.1.sum + l.2.sum) (columns_applyDist s o)
    refine moved.trans ?_
    have asked : (o.method.map reqIdx).getD (reqN - 1) < s.req.length := by
      rw [shaped.1]
      exact reqIdx_lt o.method
    unfold counted SipIpStats.totalMsgs
    cases o.isRequest
    · cases o.status with
      | none => rfl
      | some code =>
        have inside : respIdx code < s.resp.length := by
          rw [shaped.2]
          exact respIdx_lt code
        simp [sum_modify_succ inside, Nat.add_assoc]
    · simp [sum_modify_succ asked, Nat.add_right_comm]

/-! ## The store -/

/-- Every row is whole, and the rows add up to the global one. -/
structure Even (store : SipStatsStore) : Prop where
  all : Shaped store.all
  rows : ∀ ip row, store.ips.lookup ip = some row → Shaped row
  sums : ∀ f d, Tally f d → FiniteMap.total f store.ips = f store.all

theorem even_empty : Even {} where
  all := ⟨rfl, rfl⟩
  rows _ _ found := nomatch found
  sums _ _ tally := tally.zero.symm

/-- What an update of one row does to the rows. -/
theorem rows_entry {store : SipStatsStore} (rows : ∀ ip row, store.ips.lookup ip = some row → Shaped row)
    {update : SipIpStats → SipIpStats} (keeps : ∀ s, Shaped s → Shaped (update s)) (a : IpAddr) :
    ∀ ip row, (store.entry a update).ips.lookup ip = some row → Shaped row := by
  intro ip row found
  rw [SipStatsStore.entry, FiniteMap.lookup_upsert] at found
  split at found
  · next own =>
    obtain rfl := Option.some.inj found
    refine keeps _ ?_
    cases present : store.ips.lookup a with
    | none => exact ⟨rfl, rfl⟩
    | some s => exact rows a s present
  · exact rows ip row found

theorem total_entry {store : SipStatsStore} (rows : ∀ ip row, store.ips.lookup ip = some row → Shaped row)
    {f : SipIpStats → Nat} (zero : f {} = 0) {update : SipIpStats → SipIpStats} {n : Nat}
    (moves : ∀ s, Shaped s → f (update s) = f s + n) (a : IpAddr) :
    FiniteMap.total f (store.entry a update).ips = FiniteMap.total f store.ips + n := by
  have inserted := FiniteMap.total_insert f a (update ((store.ips.lookup a).getD {})) store.ips
  have moved : f (update ((store.ips.lookup a).getD {})) =
      ((store.ips.lookup a).map f).getD 0 + n := by
    cases present : store.ips.lookup a with
    | none => exact (moves {} ⟨rfl, rfl⟩).trans (congrArg (· + n) zero)
    | some s => exact moves s (rows a s present)
  rw [moved] at inserted
  have entered : (store.entry a update).ips = store.ips.insert a (update ((store.ips.lookup a).getD {})) :=
    rfl
  rw [entered]
  omega

/-- An answer is credited without touching a column. -/
theorem even_answer {store : SipStatsStore} (even : Even store) (ip : IpAddr) (ts : UInt64) :
    Even { store.entry ip (·.applyAnswer ts) with all := store.all.applyAnswer ts } where
  all := even.all
  rows := by
    have kept : ∀ s : SipIpStats, Shaped s → Shaped (s.applyAnswer ts) := fun _ shaped => shaped
    exact rows_entry even.rows kept ip
  sums f d tally := by
    have same : ∀ s : SipIpStats, f (s.applyAnswer ts) = f s := fun s => tally.shown _ s rfl
    have total := total_entry even.rows tally.zero (n := 0) (fun s _ => same s) ip
    rw [Nat.add_zero, even.sums f d tally, ← same store.all] at total
    exact total

/-- An observation moves its row and the global row alike. -/
theorem even_dist {store : SipStatsStore} (even : Even store) (o : SipObs) :
    Even { store.entry o.ip (·.applyDist o) with all := store.all.applyDist o } where
  all := shaped_applyDist o even.all
  rows := rows_entry even.rows (fun _ => shaped_applyDist o) o.ip
  sums f d tally := by
    have total := total_entry even.rows tally.zero (fun s shaped => tally.dist s o shaped) o.ip
    rw [even.sums f d tally, ← tally.dist store.all o even.all] at total
    exact total

theorem even_observe {store : SipStatsStore} (even : Even store) (o : SipObs) : Even (store.observe o) := by
  unfold SipStatsStore.observe
  dsimp only
  split
  · next ip _ => exact even_answer (even_dist even o) ip o.tsUs
  · exact even_dist even o

/-- The global row counts an observation once. -/
theorem all_observe {f : SipIpStats → Nat} {d : SipObs → Nat} (tally : Tally f d) {store : SipStatsStore}
    (even : Even store) (o : SipObs) : f (store.observe o).all = f store.all + d o := by
  have counted := tally.dist store.all o even.all
  have answered : ∀ s : SipIpStats, f (s.applyAnswer o.tsUs) = f s := fun s => tally.shown _ s rfl
  unfold SipStatsStore.observe
  dsimp only
  split
  · exact (answered _).trans counted
  · exact counted

/-! ## Waiting calls -/

/-- The source of the INVITE of a call that waits for its answer. -/
def pledge (call : Call) : Option IpAddr :=
  if call.answerTs.isNone && call.inviteTs.isSome then call.inviteKey else none

/-- The calls that wait for an answer, of the sources selected. -/
def waiting (select : Option IpAddr → Bool) (reg : Registry) : Nat :=
  FiniteMap.total (fun call => (select (pledge call)).toNat) reg.calls

/-- The source of an INVITE is stored with its time. -/
def Sourced (call : Call) : Prop := call.inviteTs = none → call.inviteKey = none

theorem inviteKey_applySip (call : Call) (msg : SipMsg) : (call.applySip msg).inviteKey =
    if msg.isInitialInvite then call.inviteKey.or (some msg.flow.src.ip) else call.inviteKey := by
  refine (congrArg Roster.inviteKey (roster_applySip call msg)).trans ?_
  split <;> rfl

theorem advance_times (m : Milestones) (ts : UInt64) (sig : Signal) :
    (m.advance ts sig).inviteTs = (if sig = .dial then m.inviteTs.or (some ts) else m.inviteTs) ∧
      (m.advance ts sig).answerTs =
        (if sig = .success then m.answerTs.or (some ts) else m.answerTs) := by
  cases sig
  case success => cases answered : m.answerTs <;> simp [Milestones.advance, answered]
  all_goals
    unfold Milestones.advance
    dsimp only
    repeat' split
    all_goals simp_all

/-- The times the pledge reads, after a message. -/
theorem times_applySip (call : Call) (msg : SipMsg) :
    (call.applySip msg).inviteTs =
        (if msg.isInitialInvite then call.inviteTs.or (some msg.tsUs) else call.inviteTs) ∧
      (call.applySip msg).answerTs =
        (if signal msg = .success then call.answerTs.or (some msg.tsUs) else call.answerTs) := by
  have moved := applySip_milestones call msg
  obtain ⟨invite, answer⟩ := advance_times (milestones call) msg.tsUs (signal msg)
  rw [← moved] at invite answer
  simp only [signal_dial_iff] at invite
  exact ⟨invite, answer⟩

theorem sourced_applySip {call : Call} (sourced : Sourced call) (msg : SipMsg) :
    Sourced (call.applySip msg) := by
  unfold Sourced
  rw [inviteKey_applySip, (times_applySip call msg).1]
  split
  · intro never
    exact absurd (Option.or_eq_none_iff.mp never).2 (Option.some_ne_none _)
  · exact sourced

/-- A message leaves the pledge of its call, takes it, or, as an initial INVITE,
gives one. -/
theorem pledge_applySip {call : Call} (sourced : Sourced call) (msg : SipMsg) :
    pledge (call.applySip msg) = pledge call ∨ pledge (call.applySip msg) = none ∨
      (msg.isInitialInvite = true ∧ pledge call = none ∧
        pledge (call.applySip msg) = some msg.flow.src.ip) := by
  obtain ⟨invite, answer⟩ := times_applySip call msg
  have dial := signal_dial_iff msg
  unfold pledge
  rw [invite, answer, inviteKey_applySip]
  by_cases initial : msg.isInitialInvite = true
  · have asks : ¬signal msg = .success := by
      rw [dial.mpr initial]
      decide
    rw [if_pos initial, if_pos initial, if_neg asks]
    unfold Sourced at sourced
    cases call.answerTs <;> cases ts : call.inviteTs <;> cases key : call.inviteKey <;> simp_all
  · rw [if_neg initial, if_neg initial]
    split
    · cases call.answerTs <;> simp
    · exact .inl rfl

/-- The call of a message before it, as signaling left it, new when there is none. -/
def addressed (c : Correlator) (msg : SipMsg) : Call :=
  (calls c.reg msg.callId).getD (.new msg.callId)

/-- A credited answer takes the pledge it is credited to. -/
theorem pledge_credited {c : Correlator} {msg : SipMsg} {ip : IpAddr}
    (credited : c.answerForIp msg = some ip) :
    pledge (addressed c msg) = some ip ∧ pledge ((addressed c msg).applySip msg) = none := by
  unfold answerForIp at credited
  dsimp only at credited
  split at credited
  · next answers =>
    obtain ⟨call, found, pledged⟩ := Option.bind_eq_some_iff.mp credited
    have own : addressed c msg = signaling call := by
      rw [addressed, calls, found, Option.map_some, Option.getD_some]
    rw [own]
    refine ⟨pledged, ?_⟩
    simp only [Bool.and_eq_true, Bool.not_eq_true', decide_eq_true_eq] at answers
    obtain ⟨⟨response, from200, below300⟩, invite⟩ := answers
    have notBye : msg.cseqIs "BYE" = false := by
      unfold SipMsg.cseqIs at invite ⊢
      cases cseq : msg.cseqMethod with
      | none => rfl
      | some text =>
        rw [cseq, Option.any_some] at invite
        rw [Option.any_some, Text.eqIgnoreAsciiCase_left invite]
        decide +kernel
    have success : signal msg = .success := by
      refine (signal_success_iff msg).mpr ⟨response, notBye, ?_⟩
      cases status : msg.status with
      | none => simp [status] at from200
      | some code =>
        rw [status, Option.getD_some] at from200 below300
        exact ⟨code, rfl, from200, below300⟩
    unfold pledge
    rw [(times_applySip (signaling call) msg).2, if_pos success]
    cases (signaling call).answerTs <;> rfl
  · cases credited

/-! ## What other steps keep -/

/-- The statistics are kept, and the calls as signaling left them, as far as they stay. -/
structure Kept (a b : Registry) : Prop where
  signals : b.sipstats = a.sipstats
  calls : ∀ id call, calls b id = some call → calls a id = some call

theorem kept_of_same {a b : Registry} (signals : b.sipstats = a.sipstats) (same : b.calls = a.calls) :
    Kept a b := by
  refine ⟨signals, fun id call found => ?_⟩
  rwa [calls, same] at found

theorem Kept.trans {a b c : Registry} (first : Kept a b) (second : Kept b c) : Kept a c :=
  ⟨second.signals.trans first.signals, fun id call found =>
    first.calls id call (second.calls id call found)⟩

theorem tends_kept : Tends Kept where
  refl reg := kept_of_same rfl rfl
  trans first second := first.trans second
  tables reg _ _ _ _ _ _ _ _ _ := kept_of_same rfl rfl
  erased reg id := by
    refine ⟨rfl, fun a call found => ?_⟩
    rw [calls, FiniteMap.lookup_erase_iff] at found
    split at found
    · cases found
    · exact found
  counted reg id update counting := by
    refine ⟨rfl, fun a call found => ?_⟩
    rwa [CallTable.calls_updateCall reg id counting.signaling] at found
  event reg line := by
    unfold Registry.pushEvent
    generalize Registry.keepLast _ _ = lines
    exact kept_of_same rfl rfl
  diagnostic reg d := by
    unfold Registry.pushDiagnostic
    generalize Registry.keepLast _ _ = kept
    exact kept_of_same rfl rfl
  cell reg metrics := kept_of_same rfl rfl
  aged reg _ := kept_of_same rfl rfl
  searched reg _ _ := kept_of_same rfl rfl

theorem kept_pruneIdleIps (c : Correlator) (ts : UInt64)
    (spared : ∀ row ∈ c.reg.sipstats.ips.toList,
      ts.toNat - ipstatsIdleUs ≤ (row.2.lastTsUs.getD 0).toNat) :
    Kept c.reg (c.pruneIdleIps ts).reg := by
  unfold pruneIdleIps
  generalize ts.toNat - ipstatsIdleUs = cutoff at spared ⊢
  refine kept_of_same ?_ rfl
  have all : c.reg.sipstats.ips.retain (fun _ s => decide (cutoff ≤ (s.lastTsUs.getD 0).toNat)) =
      c.reg.sipstats.ips :=
    FiniteMap.retain_eq_self fun row listed => decide_eq_true (spared row listed)
  exact congrArg (fun ips => { c.reg.sipstats with ips }) all

theorem kept_flush (iter : Iteration) (c : Correlator) (ts : UInt64)
    (spared : Spares c (iter, .op (.flush ts))) : Kept c.reg (c.maybePeriodicFlush iter ts).reg := by
  refine tends_kept.flush iter c ts fun due r cut => kept_pruneIdleIps r ts ?_
  rw [cut.signals]
  exact spared due

/-- Every spared step that is no message keeps the statistics. -/
theorem kept_step (c : Correlator) (input : Iteration × Input) (spared : Spares c input)
    (other : messages [input] = []) : Kept c.reg (step c input).reg := by
  obtain ⟨iter, input⟩ := input
  cases input with
  | op op =>
    cases op with
    | sip msg => cases other
    | rtp ts flow header len encap => exact tends_kept.ingestRtp c ts flow header len encap
    | rtcp ts flow msg => exact tends_kept.ingestRtcp c ts flow msg
    | terminal id => exact tends_kept.onCallTerminal iter c id
    | flush ts => exact kept_flush iter c ts spared
    | clear => exact spared.elim
    | search q => exact tends_kept.setSearchHint iter c.reg q
    | touchTime ts =>
      have timed : Kept c.reg (c.reg.touchTime ts) := kept_of_same rfl rfl
      exact timed
    | focus hint =>
      have focused : Kept c.reg { c.reg with focusHint := hint } := kept_of_same rfl rfl
      exact focused
    | takeEvents | disableEvlogEmit | enableSessionStats => exact tends_kept.refl c.reg
  | remove ids => exact tends_kept.removeCalls c.reg ids
  | evictStale ttlSecs nowUs => exact tends_kept.evictStale iter c.reg ttlSecs nowUs
  | evictIfNeeded => exact tends_kept.evictIfNeeded iter c.reg

/-! ## A message -/

theorem sipstats_stored (c : Correlator) (msg : SipMsg) :
    (Carries.stored c msg).reg.sipstats = c.reg.sipstats.observe (obsOf c msg) := by
  have observed : (c.observeSip msg).reg.sipstats = c.reg.sipstats.observe (obsOf c msg) := by
    unfold observeSip
    dsimp only
    split <;> rfl
  refine Eq.trans ?_ observed
  unfold Carries.stored storeMessage Registry.getOrCreateCall
  split <;> rfl

/-- The calls once the message has reached its own. -/
theorem calls_stored (c : Correlator) (msg : SipMsg) :
    calls (Carries.stored c msg).reg =
      Function.update (calls c.reg) msg.callId (some (signaling ((addressed c msg).applySip msg))) := by
  have observed : calls (c.observeSip msg).reg = calls c.reg :=
    congrArg CallTable.Table.call (CallTable.table_observeSip c msg)
  have reached := CallTable.calls_storeMessage (c.observeSip msg) msg
    ((sdpOf msg).map NegotiatedMedia.ofSession)
  rwa [observed] at reached

/-- What a call adds to the waiting ones. -/
theorem share_waiting (select : Option IpAddr → Bool) (reg : Registry) (id : String) :
    FiniteMap.share (fun call => (select (pledge call)).toNat) reg.calls id =
      ((calls reg id).map fun call => (select (pledge call)).toNat).getD 0 := by
  rw [FiniteMap.share, calls]
  cases reg.calls.lookup id <;> rfl

theorem waiting_le {a b : Registry} (kept : Kept a b) (select : Option IpAddr → Bool) :
    waiting select b ≤ waiting select a := by
  refine FiniteMap.total_mono fun id => ?_
  rw [share_waiting, share_waiting]
  cases found : calls b id with
  | none => exact Nat.zero_le _
  | some call => rw [kept.calls id call found]

/-- The waiting calls move by what the message does to its own. -/
theorem waiting_stored (select : Option IpAddr → Bool) (nobody : select none = false) (c : Correlator)
    (msg : SipMsg) :
    waiting select (Carries.stored c msg).reg + (select (pledge (addressed c msg))).toNat =
      waiting select c.reg + (select (pledge ((addressed c msg).applySip msg))).toNat := by
  have reached := calls_stored c msg
  have moved := FiniteMap.total_shift (m := (Carries.stored c msg).reg.calls) (n := c.reg.calls)
    (f := fun call => (select (pledge call)).toNat) msg.callId fun id other => by
      rw [share_waiting, share_waiting, reached, Function.update_of_ne other]
  rw [share_waiting, share_waiting, reached, Function.update_self, Option.map_some, Option.getD_some] at moved
  have was : ((calls c.reg msg.callId).map fun call => (select (pledge call)).toNat).getD 0 =
      (select (pledge (addressed c msg))).toNat := by
    have new : pledge (.new msg.callId) = none := rfl
    rw [addressed]
    cases calls c.reg msg.callId with
    | none => rw [Option.map_none, Option.getD_none, Option.getD_none, new, nobody]; rfl
    | some call => rfl
  rw [was] at moved
  exact moved

/-- A credit and a new pledge are paid by an old pledge or a counted INVITE. -/
theorem pledge_balance (select : Option IpAddr → Bool) (nobody : select none = false) {c : Correlator}
    {msg : SipMsg} (sourced : Sourced (addressed c msg)) :
    (select (c.answerForIp msg)).toNat + (select (pledge ((addressed c msg).applySip msg))).toNat ≤
      (select (pledge (addressed c msg))).toNat +
        (select (some msg.flow.src.ip) && msg.isInitialInvite).toNat := by
  cases credited : c.answerForIp msg with
  | some ip =>
    obtain ⟨pledged, spent⟩ := pledge_credited credited
    rw [pledged, spent, nobody]
    exact Nat.le_add_right _ _
  | none =>
    rw [nobody]
    rcases pledge_applySip sourced msg with kept | spent | ⟨initial, free, given⟩
    · rw [kept]
      exact (Nat.zero_add _).le.trans (Nat.le_add_right _ _)
    · rw [spent, nobody]
      exact Nat.zero_le _
    · rw [free, given, nobody, initial, Bool.and_true]

/-! ## The ledger -/

/-- A row that shows so many INVITEs and answers, the answers and the waiting calls of its
sources together within the INVITEs. -/
structure Covered (base nowUs : Nat) (select : Option IpAddr → Bool) (s : SipIpStats) (reg : Registry)
    (inv ans : Nat) : Prop where
  steady : Steady base nowUs s inv ans
  within : ans + waiting select reg ≤ inv

/-- The row of an address, empty when there is none. -/
def rowOf (store : SipStatsStore) (ip : IpAddr) : SipIpStats := (store.ips.lookup ip).getD {}

/-- The rows show the INVITEs and the answers counted for their sources. -/
structure Ledger (base nowUs : Nat) (reg : Registry) (inv ans : (Option IpAddr → Bool) → Nat) : Prop where
  sourced : ∀ id call, calls reg id = some call → Sourced call
  row : ∀ ip, Covered base nowUs (· == some ip) (rowOf reg.sipstats ip) reg (inv (· == some ip))
    (ans (· == some ip))
  all : Covered base nowUs Option.isSome reg.sipstats.all reg (inv Option.isSome) (ans Option.isSome)

/-- What an observation does to a row: counted when it is the sender's, credited
when the answer is for it. -/
def taken (o : SipObs) (mine credited : Bool) (s : SipIpStats) : SipIpStats :=
  let s := if mine then s.applyDist o else s
  if credited then s.applyAnswer o.tsUs else s

theorem all_taken (store : SipStatsStore) (o : SipObs) :
    (store.observe o).all = taken o true o.answerForIp.isSome store.all := by
  unfold SipStatsStore.observe taken
  dsimp only
  split <;> next credited => rw [credited]; rfl

theorem rowOf_entry (store : SipStatsStore) (a ip : IpAddr) (update : SipIpStats → SipIpStats)
    (all : SipIpStats) :
    rowOf { store.entry a update with all } ip =
      if ip = a then update (rowOf store ip) else rowOf store ip := by
  simp only [rowOf, SipStatsStore.entry, FiniteMap.lookup_upsert]
  split
  · next own => rw [own]; rfl
  · rfl

theorem row_taken (store : SipStatsStore) (o : SipObs) (ip : IpAddr) :
    rowOf (store.observe o) ip =
      taken o (some o.ip == some ip) (o.answerForIp == some ip) (rowOf store ip) := by
  have sender : (ip = o.ip) ↔ (some o.ip == some ip) = true := by
    rw [beq_iff_eq, Option.some.injEq]
    exact eq_comm
  unfold SipStatsStore.observe taken
  dsimp only
  split
  · next a credited =>
    have source : (ip = a) ↔ (o.answerForIp == some ip) = true := by
      rw [credited, beq_iff_eq, Option.some.injEq]
      exact eq_comm
    rw [rowOf_entry, rowOf_entry]
    simp only [sender, source]
  · next credited =>
    rw [rowOf_entry, credited]
    simp only [sender]
    rfl

/-- The rings of a row take an observation within the window whole. -/
theorem steady_taken {base nowUs inv ans : Nat} {s : SipIpStats} (steady : Steady base nowUs s inv ans)
    {o : SipObs} (forward : nowUs ≤ o.tsUs.toNat) (inside : InWindow base o.tsUs) (mine credited : Bool) :
    Steady base o.tsUs.toNat (taken o mine credited s)
      (inv + (mine && (o.isRequest && o.initialInvite)).toNat) (ans + credited.toNat) := by
  have heard : Steady base o.tsUs.toNat (if mine then s.applyDist o else s)
      (inv + (mine && (o.isRequest && o.initialInvite)).toNat) ans := by
    have dialed := steady_bumpSeries steady forward inside 1 0
    have passed := steady.later forward
    unfold SipIpStats.applyDist
    dsimp only
    cases mine <;> cases o.isRequest <;> cases o.initialInvite
    all_goals first | exact passed | exact dialed.congr rfl | skip
    all_goals cases o.status <;> exact passed.congr rfl
  unfold taken
  dsimp only
  cases credited with
  | false => exact heard
  | true => exact (steady_bumpSeries heard (Nat.le_refl _) inside 0 1).congr rfl

/-- A message keeps a row covered. -/
theorem covered_stored {base nowUs inv ans : Nat} {select : Option IpAddr → Bool} (nobody : select none = false)
    {c : Correlator} {msg : SipMsg} (sourced : Sourced (addressed c msg)) {s : SipIpStats}
    (covered : Covered base nowUs select s c.reg inv ans) (forward : nowUs ≤ msg.tsUs.toNat)
    (inside : InWindow base msg.tsUs) :
    Covered base msg.tsUs.toNat select
      (taken (obsOf c msg) (select (some msg.flow.src.ip)) (select (c.answerForIp msg)) s)
      (Carries.stored c msg).reg (inv + (select (some msg.flow.src.ip) && msg.isInitialInvite).toNat)
      (ans + (select (c.answerForIp msg)).toNat) := by
  have grown := steady_taken (o := obsOf c msg) covered.steady forward inside (select (some msg.flow.src.ip))
    (select (c.answerForIp msg))
  have asks : (msg.isRequest && msg.isInitialInvite) = msg.isInitialInvite := by
    unfold SipMsg.isInitialInvite
    cases msg.isRequest <;> simp
  simp only [obsOf, asks] at grown
  refine ⟨grown, ?_⟩
  have before := covered.within
  have moved := waiting_stored select nobody c msg
  have paid := pledge_balance select nobody sourced
  omega

theorem Covered.kept {base nowUs inv ans : Nat} {select : Option IpAddr → Bool} {s : SipIpStats}
    {a b : Registry} (covered : Covered base nowUs select s a inv ans) (kept : Kept a b) :
    Covered base nowUs select s b inv ans :=
  ⟨covered.steady, (Nat.add_le_add_left (waiting_le kept select) ans).trans covered.within⟩

variable {inv ans : (Option IpAddr → Bool) → Nat}

theorem Ledger.kept {base nowUs : Nat} {a b : Registry} (ledger : Ledger base nowUs a inv ans)
    (kept : Kept a b) : Ledger base nowUs b inv ans where
  sourced id call found := ledger.sourced id call (kept.calls id call found)
  row ip := by
    rw [kept.signals]
    exact (ledger.row ip).kept kept
  all := by
    rw [kept.signals]
    exact ledger.all.kept kept

theorem sourced_addressed {base nowUs : Nat} {c : Correlator} (ledger : Ledger base nowUs c.reg inv ans)
    (msg : SipMsg) : Sourced (addressed c msg) := by
  unfold addressed
  cases found : calls c.reg msg.callId with
  | none => exact fun _ => rfl
  | some call => exact ledger.sourced msg.callId call found

theorem ledger_stored {base nowUs : Nat} {c : Correlator} (ledger : Ledger base nowUs c.reg inv ans)
    {msg : SipMsg} (forward : nowUs ≤ msg.tsUs.toNat) (inside : InWindow base msg.tsUs) :
    Ledger base msg.tsUs.toNat (Carries.stored c msg).reg
      (fun select => inv select + (select (some msg.flow.src.ip) && msg.isInitialInvite).toNat)
      (fun select => ans select + (select (c.answerForIp msg)).toNat) where
  sourced id call found := by
    rw [calls_stored] at found
    by_cases own : id = msg.callId
    · subst own
      rw [Function.update_self] at found
      obtain rfl := Option.some.inj found
      exact sourced_applySip (sourced_addressed ledger msg) msg
    · rw [Function.update_of_ne own] at found
      exact ledger.sourced id call found
  row ip := by
    rw [sipstats_stored, row_taken]
    exact covered_stored rfl (sourced_addressed ledger msg) (ledger.row ip) forward inside
  all := by
    rw [sipstats_stored, all_taken]
    exact covered_stored rfl (sourced_addressed ledger msg) ledger.all forward inside

/-! ## Runs -/

/-- A step takes a message to its call, or is no message and keeps the statistics. -/
theorem step_kinds (c : Correlator) (input : Iteration × Input) (spared : Spares c input) :
    (∃ msg, messages [input] = [msg] ∧ Kept (Carries.stored c msg).reg (step c input).reg) ∨
      messages [input] = [] ∧ Kept c.reg (step c input).reg := by
  have other := kept_step c input spared
  obtain ⟨iter, input⟩ := input
  cases input with
  | op op =>
    cases op with
    | sip msg => exact .inl ⟨msg, rfl, tends_kept.ingestSip iter c msg⟩
    | rtp | rtcp | terminal | flush | clear | touchTime | focus | search | takeEvents
    | disableEvlogEmit | enableSessionStats => exact .inr ⟨rfl, other rfl⟩
  | remove | evictStale | evictIfNeeded => exact .inr ⟨rfl, other rfl⟩

theorem messages_cons (input : Iteration × Input) (rest : List (Iteration × Input)) :
    messages (input :: rest) = messages [input] ++ messages rest :=
  List.filterMap_append (l := [input])

/-- Messages of a list that carry something to count. -/
def countedMessages (msgs : List SipMsg) : Nat :=
  msgs.countP fun msg => counted msg.isRequest msg.status

theorem even_step {c : Correlator} (input : Iteration × Input) (spared : Spares c input)
    (even : Even c.reg.sipstats) : Even (step c input).reg.sipstats ∧
      (step c input).reg.sipstats.all.totalMsgs =
        c.reg.sipstats.all.totalMsgs + countedMessages (messages [input]) := by
  rcases step_kinds c input spared with ⟨msg, heard, kept⟩ | ⟨silent, kept⟩
  · rw [kept.signals, sipstats_stored, heard, countedMessages, List.countP_singleton]
    exact ⟨even_observe even _, all_observe tally_totalMsgs even (obsOf c msg)⟩
  · rw [kept.signals, silent]
    exact ⟨even, rfl⟩

theorem even_run {c : Correlator} {inputs : List (Iteration × Input)}
    (spared : Run.Along step Spares c inputs) (even : Even c.reg.sipstats) :
    Even (inputs.foldl step c).reg.sipstats ∧
      (inputs.foldl step c).reg.sipstats.all.totalMsgs =
        c.reg.sipstats.all.totalMsgs + countedMessages (messages inputs) := by
  induction inputs generalizing c with
  | nil => exact ⟨even, rfl⟩
  | cons input rest ih =>
    obtain ⟨next, first⟩ := even_step input spared.1 even
    obtain ⟨last, others⟩ := ih spared.2 next
    refine ⟨last, ?_⟩
    rw [List.foldl_cons, others, first, messages_cons input rest, countedMessages, countedMessages,
      countedMessages, List.countP_append, Nat.add_assoc]

/-- The initial INVITEs from the sources selected. -/
def invites (select : Option IpAddr → Bool) (msgs : List SipMsg) : Nat :=
  msgs.countP fun msg => select (some msg.flow.src.ip) && msg.isInitialInvite

/-- The answers of a run that are credited to the sources selected. -/
def credits (select : Option IpAddr → Bool) (c : Correlator) (inputs : List (Iteration × Input)) : Nat :=
  Run.total step (fun c input => (messages [input]).countP fun msg => select (c.answerForIp msg)) c inputs

theorem invites_cons (select : Option IpAddr → Bool) (input : Iteration × Input) (rest : List (Iteration × Input)) :
    invites select (messages (input :: rest)) =
      invites select (messages [input]) + invites select (messages rest) := by
  rw [messages_cons input rest, invites, List.countP_append]
  rfl

theorem credits_cons (select : Option IpAddr → Bool) (c : Correlator) (input : Iteration × Input)
    (rest : List (Iteration × Input)) : credits select c (input :: rest) =
      (messages [input]).countP (fun msg => select (c.answerForIp msg)) + credits select (step c input) rest := rfl

/-- Along a run whose messages come in order, within the window, the ledger is kept. -/
theorem ledger_run {base nowUs : Nat} {c : Correlator} {inputs : List (Iteration × Input)}
    (spared : Run.Along step Spares c inputs) (ledger : Ledger base nowUs c.reg inv ans)
    (sorted : (messages inputs).Pairwise fun a b => a.tsUs ≤ b.tsUs)
    (ahead : ∀ msg ∈ messages inputs, nowUs ≤ msg.tsUs.toNat)
    (inside : ∀ msg ∈ messages inputs, InWindow base msg.tsUs) :
    ∃ lastUs, Ledger base lastUs (inputs.foldl step c).reg
      (fun select => inv select + invites select (messages inputs))
      (fun select => ans select + credits select c inputs) := by
  induction inputs generalizing c nowUs inv ans with
  | nil => exact ⟨nowUs, ledger⟩
  | cons input rest ih =>
    rw [messages_cons input rest] at sorted ahead inside
    have later := (List.pairwise_append.mp sorted).2.1
    have within : ∀ msg ∈ messages rest, InWindow base msg.tsUs := fun msg listed =>
      inside msg (List.mem_append_right _ listed)
    have asked := fun select => invites_cons select input rest
    simp only [asked, credits_cons]
    rcases step_kinds c input spared.1 with ⟨msg, heard, kept⟩ | ⟨silent, kept⟩
    · have first : msg ∈ messages [input] := heard ▸ List.mem_singleton_self msg
      have member := List.mem_append_left (messages rest) first
      have next := (ledger_stored ledger (ahead msg member) (inside msg member)).kept kept
      have follow : ∀ other ∈ messages rest, msg.tsUs.toNat ≤ other.tsUs.toNat := fun other listed =>
        UInt64.le_iff_toNat_le.mp ((List.pairwise_append.mp sorted).2.2 msg first other listed)
      obtain ⟨lastUs, last⟩ := ih spared.2 next later follow within
      refine ⟨lastUs, ?_⟩
      have dialed : ∀ select, invites select [msg] =
          (select (some msg.flow.src.ip) && msg.isInitialInvite).toNat := fun select => by
        rw [invites, List.countP_singleton, Bool.toNat, Bool.cond_eq_ite]
      have credited : ∀ select : Option IpAddr → Bool,
          [msg].countP (fun msg => select (c.answerForIp msg)) = (select (c.answerForIp msg)).toNat :=
        fun select => by rw [List.countP_singleton, Bool.toNat, Bool.cond_eq_ite]
      simp only [heard, dialed, credited, ← Nat.add_assoc]
      exact last
    · have follow : ∀ other ∈ messages rest, nowUs ≤ other.tsUs.toNat := fun other listed =>
        ahead other (List.mem_append_right _ listed)
      obtain ⟨lastUs, last⟩ := ih spared.2 (ledger.kept kept) later follow within
      refine ⟨lastUs, ?_⟩
      have nothing : ∀ select, invites select [] = 0 := fun _ => rfl
      simp only [silent, nothing, List.countP_nil, Nat.zero_add]
      exact last

theorem ledger_new (iter : Iteration) (config : Config) (source : String) (base : Nat) :
    Ledger base (base * m1Us) (Correlator.new iter config source).reg (fun _ => 0) (fun _ => 0) where
  sourced _ _ found := nomatch found
  row _ := ⟨steady_empty (Nat.le_refl _), Nat.le_refl _⟩
  all := ⟨steady_empty (Nat.le_refl _), Nat.le_refl _⟩

/-- A row of the statistics and the sources it is about: the global one or that of an address. -/
def Row (store : SipStatsStore) (select : Option IpAddr → Bool) (s : SipIpStats) : Prop :=
  (s = store.all ∧ select = Option.isSome) ∨ ∃ ip, store.ips.lookup ip = some s ∧ select = (· == some ip)

/-- Along every run of messages in order of time, with calls removed and evicted
in any way, every column of the global row is the sum of that column over the
addresses and every counted message is in one column; while the messages fall
into 60 consecutive minutes, in every row the three rings hold the initial INVITEs
from its sources and the answers credited to them, and no more answers than INVITEs. -/
theorem signaling_conserved (iter : Iteration) (config : Config) (source : String)
    (inputs : List (Iteration × Input)) (spared : Run.Along step Spares (.new iter config source) inputs)
    (sorted : (messages inputs).Pairwise fun a b => a.tsUs ≤ b.tsUs) :
    let store := (inputs.foldl step (.new iter config source)).reg.sipstats
    (∀ i, FiniteMap.total (fun s => s.req.getD i 0) store.ips = store.all.req.getD i 0) ∧
      (∀ i, FiniteMap.total (fun s => s.resp.getD i 0) store.ips = store.all.resp.getD i 0) ∧
      store.all.req.sum + store.all.resp.sum =
        (messages inputs).countP (fun msg => msg.isRequest || msg.status.isSome) ∧
      ∀ base, (∀ msg ∈ messages inputs, base ≤ msg.tsUs.toNat / m1Us ∧
          msg.tsUs.toNat / m1Us < base + 60) →
        ∀ select s, Row store select s →
          credits select (.new iter config source) inputs ≤ invites select (messages inputs) ∧
            ∀ secs ∈ seriesBuckets, s.seriesTotals secs =
              (invites select (messages inputs), credits select (.new iter config source) inputs) := by
  intro store
  obtain ⟨even, counted⟩ := even_run spared even_empty
  refine ⟨fun i => even.sums _ _ (tally_req i), fun i => even.sums _ _ (tally_resp i), ?_, ?_⟩
  · exact counted.trans (Nat.zero_add _)
  · intro base inside select s row
    have ahead : ∀ msg ∈ messages inputs, base * m1Us ≤ msg.tsUs.toNat := fun msg listed =>
      (Nat.mul_le_mul_right m1Us (inside msg listed).1).trans (Nat.div_mul_le_self _ _)
    obtain ⟨lastUs, ledger⟩ := ledger_run spared (ledger_new iter config source base) sorted ahead inside
    simp only [Nat.zero_add] at ledger
    have covered : Covered base lastUs select s (inputs.foldl step (.new iter config source)).reg
        (invites select (messages inputs)) (credits select (.new iter config source) inputs) := by
      rcases row with ⟨rfl, rfl⟩ | ⟨ip, found, rfl⟩
      · exact ledger.all
      · have own : rowOf store ip = s := by rw [rowOf, found, Option.getD_some]
        exact own ▸ ledger.row ip
    refine ⟨(Nat.le_add_right _ _).trans covered.within, fun secs listed => ?_⟩
    rw [seriesTotals_eq]
    exact (covered.steady secs listed).2

/-- An INVITE, its answer, and the removal of the call. -/
def answeredInvite : List (Iteration × Input) :=
  [(.stored, .op (.sip (sampleMsg 1 true (some .invite) none "INVITE" none))),
    (.stored, .op (.sip (sampleMsg 2 false none (some 200) "INVITE" (some "b")))),
    (.stored, .remove ["c1"])]

theorem answeredInvite_conserved :
    let store := (answeredInvite.foldl step (.new .stored {} "eth0")).reg.sipstats
    store.all.req.sum + store.all.resp.sum = 2 ∧
      ∀ secs ∈ seriesBuckets, store.all.seriesTotals secs = (1, 1) := by
  obtain ⟨-, -, counted, series⟩ := signaling_conserved .stored {} "eth0" answeredInvite
    ⟨trivial, trivial, trivial, trivial⟩ (by decide +kernel)
  obtain ⟨-, totals⟩ := series 0 (by decide +kernel) Option.isSome _ (.inl ⟨rfl, rfl⟩)
  have dialed : invites Option.isSome (messages answeredInvite) = 1 := by decide +kernel
  have credited : credits Option.isSome (.new .stored {} "eth0") answeredInvite = 1 := by decide +kernel
  rw [dialed, credited] at totals
  exact ⟨counted, totals⟩

end Sipmon.Guarantees.SignalingConservation
