import Sipmon.Guarantees.CallShare

/-!
# Teardown in the share of a call

The end of a call acts on its own share only: the checks count diagnostics of
the call, and retiring it empties the share or leaves it. Below the caps no
other call is evicted.
-/
namespace Sipmon.Guarantees.ShareTeardown
open Source Lib RegistryShape Views RegistryIndex CallShare

/-! ## The checks -/

/-- Exactly one flow, without its reverse. -/
def oneWay (flows : List Flow5Tuple) : Bool :=
  flows.length == 1 && !(flows.any fun f => flows.contains f.reverse)

/-- The relayed streams of the two legs lose differently. -/
def imbalanced (streams : List RtpStream) : Bool :=
  let relayed := streams.filter RtpStream.viaTurn
  let legLoss := fun leg => Correlator.averageOf
    ((relayed.filter fun s => s.leg == some leg).map fun s => s.summary.lossPct)
  match legLoss .client, legLoss .peer with
  | some cl, some pl => decide (5 < (cl - pl).abs)
  | _, _ => false

/-- A check of a call adds one warning about it, or nothing. -/
def Warns (id : String) (raised : Bool) (c after : Correlator) : Prop :=
  ∃ d : Diagnostic, d.callId = id ∧ d.severity = .warn ∧
    after = if raised then c.addDiagnostic d else c

theorem Warns.add {id : String} {c : Correlator} {d : Diagnostic} (own : d.callId = id)
    (warn : d.severity = .warn) : Warns id true c (c.addDiagnostic d) := ⟨d, own, warn, rfl⟩

theorem Warns.nothing (id : String) (c : Correlator) : Warns id false c c :=
  ⟨diag 0 id .warn .oneWayMedia "", rfl, rfl, rfl⟩

theorem checkOneway_warns (c : Correlator) (id : String) :
    Warns id (oneWay ((c.callStreams id).map RtpStream.flow)) c (c.checkOnewayAtTeardown id) := by
  have flows : ((c.reg.callStreamKeys id).filterMap fun k =>
      (c.reg.streams.lookup k).map RtpStream.flow) = (c.callStreams id).map RtpStream.flow := by
    rw [Correlator.callStreams, List.map_filterMap]
  unfold Correlator.checkOnewayAtTeardown
  rw [flows]
  match (c.callStreams id).map RtpStream.flow with
  | [] => exact .nothing id c
  | [flow] =>
    dsimp only [oneWay]
    cases [flow].any fun f => [flow].contains f.reverse with
    | true => exact .nothing id c
    | false => exact .add rfl rfl
  | _ :: _ :: _ => exact .nothing id c

theorem checkTurnLegs_warns (c : Correlator) (id : String) :
    Warns id (imbalanced (c.callStreams id)) c (c.checkTurnLegs id) := by
  unfold Correlator.checkTurnLegs imbalanced
  dsimp only
  generalize (c.callStreams id).filter RtpStream.viaTurn = relayed
  generalize Correlator.averageOf ((relayed.filter fun s => s.leg == some .client).map
    fun s => s.summary.lossPct) = client
  generalize Correlator.averageOf ((relayed.filter fun s => s.leg == some .peer).map
    fun s => s.summary.lossPct) = peer
  match client, peer with
  | some cl, some pl =>
    dsimp only
    by_cases apart : 5 < (cl - pl).abs
    · rw [if_pos apart, decide_eq_true apart]
      exact .add rfl rfl
    · rw [if_neg apart, decide_eq_false apart]
      exact .nothing id c
  | none, _ => exact .nothing id c
  | some _, none => exact .nothing id c

theorem Warns.share_own {id : String} {raised : Bool} {c after : Correlator}
    (warns : Warns id raised c after) :
    share id after = if raised then (share id c).count .warn else share id c := by
  obtain ⟨d, rfl, severity, rfl⟩ := warns
  split
  · rw [share_addDiagnostic_own, severity]
  · rfl

theorem Warns.share_other {id a : String} {raised : Bool} {c after : Correlator}
    (warns : Warns a raised c after) (other : a ≠ id) : share id after = share id c := by
  obtain ⟨d, rfl, _, rfl⟩ := warns
  split
  · exact share_addDiagnostic_other c d other
  · rfl

theorem Warns.shape {id : String} {raised : Bool} {c after : Correlator}
    (warns : Warns id raised c after) : shape after.reg = RegistryShape.shape c.reg := by
  obtain ⟨d, _, _, rfl⟩ := warns
  split
  · exact congrArg Books.registry (books_addDiagnostic c d)
  · rfl


/-- The streams of the share, in the order of the call's index entry. -/
def shareStreams (s : Share) : List RtpStream := s.keys.filterMap s.streams

theorem callStreams_share {c : Correlator} (indexed : (shape c.reg).Indexed) (id : String) :
    c.callStreams id = shareStreams (share id c) := by
  refine List.filterMap_congr fun k member => ?_
  obtain ⟨s, present⟩ := (mem_share_keys indexed id k).mp member
  rw [present, ((share_streams id c k s).mp present).1]

/-- What the teardown checks do to a share. -/
def closing (s : Share) : Share :=
  let s := if oneWay ((shareStreams s).map RtpStream.flow) then s.count .warn else s
  if imbalanced (shareStreams s) then s.count .warn else s

theorem share_recordHeatmap (id : String) (c : Correlator) (a : String) :
    share id (c.recordHeatmap a) = share id c := by
  unfold Correlator.recordHeatmap
  repeat' split
  all_goals rfl

theorem share_releaseActive (id : String) (c : Correlator) (a : String) :
    share id (c.releaseActive a) = share id c := by
  unfold Correlator.releaseActive
  split <;> rfl

theorem share_teardownChecks_own {c : Correlator} (indexed : (shape c.reg).Indexed) (id : String) :
    share id (c.teardownChecks id) = closing (share id c) := by
  have first := checkOneway_warns c id
  have second := checkTurnLegs_warns (c.checkOnewayAtTeardown id) id
  have still : (shape (c.checkOnewayAtTeardown id).reg).Indexed := first.shape.symm ▸ indexed
  unfold Correlator.teardownChecks closing
  rw [share_releaseActive, share_recordHeatmap, second.share_own, callStreams_share still,
    first.share_own, callStreams_share indexed]

theorem share_teardownChecks_other {id a : String} (c : Correlator) (other : a ≠ id) :
    share id (c.teardownChecks a) = share id c := by
  unfold Correlator.teardownChecks
  rw [share_releaseActive, share_recordHeatmap, (checkTurnLegs_warns _ a).share_other other,
    (checkOneway_warns c a).share_other other]

/-! ## Removal -/

/-- The share of a call that is not tracked. -/
def gone (s : Share) : Share :=
  { s with call := none, streams := fun _ => none, keys := [], endpoint := fun _ => false
           inviteRr := none, latched := false }

theorem share_flushStreamIpattr (id : String) (c : Correlator) (key : StreamKey) :
    share id { c with reg := c.reg.flushStreamIpattr key } =
      (share id c).mapStreams [key] Registry.markAttributed := by
  unfold Registry.flushStreamIpattr
  split
  · exact share_updateStream id c key fun _ => rfl
  · next absent =>
    refine (Share.mapStreams_absent _ fun k member => ?_).symm
    obtain rfl := List.mem_singleton.mp member
    exact share_streams_other fun s present => nomatch absent.symm.trans present

/-- A stream of another call leaves with its index entries. -/
theorem share_dropStream_other {id : String} (c : Correlator) (key : StreamKey)
    (other : (shape c.reg).owner key ≠ some id) :
    share id { c with reg := c.reg.dropStream key } = share id c := by
  have flushed : share id { c with reg := c.reg.flushStreamIpattr key } = share id c := by
    rw [share_flushStreamIpattr]
    refine Share.mapStreams_absent _ fun k member => share_streams_other fun s present own => ?_
    obtain rfl := List.mem_singleton.mp member
    exact other (by rw [show (shape c.reg).owner k = some s.callId from
      congrArg (Option.map _) present, own])
  have owner : (shape (c.reg.flushStreamIpattr key)).owner key ≠ some id := by
    rwa [shape_flushStreamIpattr]
  unfold Registry.dropStream
  dsimp only
  generalize c.reg.flushStreamIpattr key = reg at flushed owner ⊢
  rw [← flushed]
  have streams : ∀ k, ((reg.streams.erase key).lookup k).filter (fun s => s.callId = id) =
      (reg.streams.lookup k).filter fun s => s.callId = id := by
    intro k
    rw [FiniteMap.lookup_erase_iff]
    split
    · next here =>
      symm
      rw [Option.filter_none, Option.filter_eq_none_iff]
      intro s present own
      refine owner ?_
      rw [here] at present
      rw [show (shape reg).owner key = some s.callId from congrArg (Option.map _) present]
      exact congrArg some (by simpa using own)
    · rfl
  have keys : GroupIndex.members id (reg.forgetStream key).streamIndex =
      GroupIndex.members id reg.streamIndex := by
    unfold Registry.forgetStream
    split
    · next s present =>
      refine (GroupIndex.members_forget id s.callId key reg.streamIndex).trans (if_neg fun own => ?_)
      refine owner ?_
      rw [show (shape reg).owner key = some s.callId from congrArg (Option.map _) present, own]
    · rfl
  simp only [share, Registry.callStreamKeys, keys]
  simp only [Registry.forgetStream, streams]

theorem share_dropStreams_other {id : String} (keys : List StreamKey) (c : Correlator)
    (other : ∀ k ∈ keys, (shape c.reg).owner k ≠ some id) :
    share id { c with reg := keys.foldl Registry.dropStream c.reg } = share id c := by
  induction keys generalizing c with
  | nil => rfl
  | cons key rest ih =>
    refine (ih { c with reg := c.reg.dropStream key } fun k member own => ?_).trans
      (share_dropStream_other c key (other key List.mem_cons_self))
    rw [shape_dropStream] at own
    simp only [Shape.dropKey, Function.update_apply] at own
    split at own
    · cases own
    · exact other k (List.mem_cons_of_mem key member) own

theorem share_removeCall_other {id a : String} {c : Correlator} (indexed : (shape c.reg).Indexed)
    (other : a ≠ id) : share id { c with reg := c.reg.removeCall a } = share id c := by
  let cut : Registry := { c.reg with calls := c.reg.calls.erase a, removed := c.reg.removed ++ [a]
                                     streamIndex := c.reg.streamIndex.erase a }
  have cutShare : share id { c with reg := cut } = share id c := by
    have keys := GroupIndex.members_erase id a c.reg.streamIndex
    rw [if_neg other.symm] at keys
    simp only [cut, share, Registry.callStreamKeys, FiniteMap.lookup_erase_iff, if_neg other.symm, keys]
  have dropped : share id { c with reg := c.reg.dropCall a } = share id c := by
    refine (share_dropStreams_other (c.reg.callStreamKeys a) { c with reg := cut } ?_).trans cutShare
    intro k member own
    rw [show (shape cut).owner k = some a from (indexed.byCall.member_iff k a).mp member] at own
    exact other (Option.some.inj own)
  have endpoint : ∀ ep, (((c.reg.dropCall a).endpointCall.retain fun _ b => !([a].contains b)).lookup ep
      == some id) = ((c.reg.dropCall a).endpointCall.lookup ep == some id) := by
    intro ep
    rw [FiniteMap.lookup_retain]
    cases (c.reg.dropCall a).endpointCall.lookup ep with
    | none => rfl
    | some b =>
      by_cases own : b = a
      · simp [Option.filter, own, other]
      · simp [Option.filter, own]
  rw [← dropped]
  simp only [share, Registry.removeCall, Registry.removeCalls, List.foldl_cons, List.foldl_nil,
    endpoint]
  rfl

/-- Removals do not move the caps. -/
theorem caps_dropCall (reg : Registry) (id : String) :
    (reg.dropCall id).maxCalls = reg.maxCalls ∧ (reg.dropCall id).maxStreams = reg.maxStreams := by
  unfold Registry.dropCall
  dsimp only
  refine Run.invariant (P := fun after : Registry =>
    after.maxCalls = reg.maxCalls ∧ after.maxStreams = reg.maxStreams) ?_ _ ⟨rfl, rfl⟩
  intro r key caps
  have flushed : (r.flushStreamIpattr key).maxCalls = r.maxCalls ∧
      (r.flushStreamIpattr key).maxStreams = r.maxStreams := by
    unfold Registry.flushStreamIpattr
    split <;> exact ⟨rfl, rfl⟩
  exact ⟨flushed.1.trans caps.1, flushed.2.trans caps.2⟩

theorem share_removeCall_own {c : Correlator} (indexed : (shape c.reg).Indexed) (id : String) :
    share id { c with reg := c.reg.removeCall id } =
      { gone (share id c) with inviteRr := (share id c).inviteRr, latched := (share id c).latched } := by
  have left := shape_dropCall c.reg id indexed
  have call : (c.reg.dropCall id).calls.lookup id = none := by
    rw [AList.lookup_eq_none]
    exact fun known => ((left.known id).mp known).2 List.mem_cons_self
  have unowned : ∀ k, (shape (c.reg.dropCall id)).owner k ≠ some id := fun k own =>
    ((left.owner k id).mp own).2 List.mem_cons_self
  have streams : ∀ k, ((c.reg.dropCall id).streams.lookup k).filter (fun s => s.callId = id) =
      none := by
    intro k
    rw [Option.filter_eq_none_iff]
    intro s present own
    refine unowned k ?_
    rw [show (shape (c.reg.dropCall id)).owner k = some s.callId from congrArg (Option.map _) present]
    exact congrArg some (by simpa using own)
  have keys : (c.reg.dropCall id).callStreamKeys id = [] :=
    List.eq_nil_iff_forall_not_mem.mpr fun k member =>
      unowned k ((left.indexed.byCall.member_iff k id).mp member)
  have endpoint : ∀ ep, (((c.reg.dropCall id).endpointCall.retain fun _ b => !([id].contains b)).lookup
      ep == some id) = false := by
    intro ep
    rw [FiniteMap.lookup_retain]
    cases (c.reg.dropCall id).endpointCall.lookup ep with
    | none => rfl
    | some b => by_cases own : b = id <;> simp [Option.filter, own]
  simp only [Registry.callStreamKeys] at keys
  simp only [share, gone, Registry.removeCall, Registry.removeCalls, List.foldl_cons, List.foldl_nil,
    Registry.callStreamKeys, call, streams, keys, endpoint, caps_dropCall]

/-- Draining takes the bookkeeping of the removed calls. -/
theorem share_prune (id : String) (c : Correlator) :
    share id c.pruneRemovedBookkeeping =
      if id ∈ c.reg.removed then { share id c with inviteRr := none, latched := false }
      else share id c := by
  have latched := mem_foldl_erase c.reg.removed c.terminalDone id
  simp only [share, Correlator.pruneRemovedBookkeeping, Registry.drainRemoved,
    FiniteMap.lookup_eraseAll, latched]
  split
  · next removed => simp [removed, Registry.callStreamKeys]
  · next stays => simp [stays, Registry.callStreamKeys]

/-! ## Retiring a call -/

/-- The tables are within their caps. -/
def Fits (reg : Registry) : Prop :=
  reg.calls.size ≤ reg.maxCalls ∧ reg.streams.size ≤ reg.maxStreams

theorem evictIfNeeded_fits (iter : Iteration) {reg : Registry} (fits : Fits reg) :
    reg.evictIfNeeded iter = reg := by
  unfold Registry.evictIfNeeded
  rw [if_neg (Nat.not_lt.mpr fits.1), if_neg (Nat.not_lt.mpr fits.2)]

/-- What the caps compare. -/
def room (c : Correlator) : Nat × Nat × Nat × Nat :=
  (c.reg.calls.size, c.reg.streams.size, c.reg.maxCalls, c.reg.maxStreams)

theorem blind_room : Blind room where
  diag c d := by
    unfold Correlator.addDiagnostic
    dsimp only
    split
    · rfl
    · simp only [room, Registry.pushDiagnostic, Registry.pushEvent, Registry.updateCall,
        FiniteMap.size_modify, Correlator.pushEv]
  heatmap _ _ := rfl
  ipstats _ _ := rfl

theorem fits_of_room {c after : Correlator} (same : room after = room c) (fits : Fits c.reg) :
    Fits after.reg := by
  simp only [room, Prod.mk.injEq] at same
  unfold Fits
  rw [same.1, same.2.1, same.2.2.1, same.2.2.2]
  exact fits

theorem reportTeardown_frame (id : String) (c : Correlator) (a : String) (call : Call) :
    share id (c.reportTeardown a call) = share id c ∧ room (c.reportTeardown a call) = room c ∧
      (c.reportTeardown a call).keepTerminated = c.keepTerminated := by
  unfold Correlator.reportTeardown
  dsimp only
  generalize logged : c.reg.pushEvent _ = reg
  have same : share id { c with reg } = share id c := by
    rw [← logged]
    simp only [share, Registry.pushEvent, Registry.callStreamKeys]
  have sized : room { c with reg } = room c := by
    rw [← logged]
    simp only [room, Registry.pushEvent]
  split
  all_goals exact ⟨same, sized, rfl⟩

/-- The end of the call: its share stays in memory or goes. -/
def retire (s : Share) : Share :=
  if s.call.any fun call => call.state.terminal then if s.keepTerminated then s else gone s else s

theorem share_retire_own (iter : Iteration) {c : Correlator} (indexed : (shape c.reg).Indexed)
    (drained : c.reg.removed = []) (fits : Fits c.reg) (id : String) :
    share id (c.retireCall iter id).pruneRemovedBookkeeping = retire (share id c) := by
  have undrained : share id c.pruneRemovedBookkeeping = share id c := by
    rw [share_prune, drained, if_neg List.not_mem_nil]
  have call : (share id c).call = c.reg.calls.lookup id := rfl
  unfold Correlator.retireCall retire
  rw [call]
  cases c.reg.calls.lookup id with
  | none => exact undrained
  | some call =>
    dsimp only [Option.any_some]
    by_cases terminal : call.state.terminal = true
    · rw [if_pos terminal, if_pos terminal]
      have frame := reportTeardown_frame id c id call
      have same : shape (c.reportTeardown id call).reg = shape c.reg :=
        congrArg Books.registry (books_reportTeardown c id call)
      have keep : (share id c).keepTerminated = (c.reportTeardown id call).keepTerminated :=
        frame.2.2.symm
      have waiting : (c.reportTeardown id call).reg.removed = [] :=
        (congrArg Shape.removed same).trans drained
      rw [keep]
      generalize c.reportTeardown id call = r at frame same waiting ⊢
      by_cases kept : r.keepTerminated = true
      · rw [if_pos kept, evictIfNeeded_fits iter (fits_of_room frame.2.1 fits)]
        refine (share_prune id r).trans ?_
        rw [waiting, if_neg List.not_mem_nil, if_pos kept, frame.1]
      · rw [if_neg kept, if_neg kept]
        have indexed : (shape r.reg).Indexed := same.symm ▸ indexed
        have left := (shape_dropCall r.reg id indexed).removed
        have listed : id ∈ (r.reg.removeCall id).removed := by
          change id ∈ (shape (r.reg.dropCall id)).removed
          rw [left]
          exact List.mem_append_right _ List.mem_cons_self
        refine (share_prune id { r with reg := r.reg.removeCall id }).trans ?_
        rw [if_pos listed, share_removeCall_own indexed, frame.1]
        rfl
    · rw [if_neg terminal, if_neg terminal]
      exact undrained

theorem share_retire_other (iter : Iteration) {c : Correlator} (indexed : (shape c.reg).Indexed)
    (drained : c.reg.removed = []) (fits : Fits c.reg) {id a : String} (other : a ≠ id) :
    share id (c.retireCall iter a).pruneRemovedBookkeeping = share id c := by
  have undrained : share id c.pruneRemovedBookkeeping = share id c := by
    rw [share_prune, drained, if_neg List.not_mem_nil]
  unfold Correlator.retireCall
  cases c.reg.calls.lookup a with
  | none => exact undrained
  | some call =>
    dsimp only
    by_cases terminal : call.state.terminal = true
    · rw [if_pos terminal]
      have frame := reportTeardown_frame id c a call
      have same : shape (c.reportTeardown a call).reg = shape c.reg :=
        congrArg Books.registry (books_reportTeardown c a call)
      have waiting : (c.reportTeardown a call).reg.removed = [] :=
        (congrArg Shape.removed same).trans drained
      generalize c.reportTeardown a call = r at frame same waiting ⊢
      by_cases kept : r.keepTerminated = true
      · rw [if_pos kept, evictIfNeeded_fits iter (fits_of_room frame.2.1 fits)]
        refine (share_prune id r).trans ?_
        rw [waiting, if_neg List.not_mem_nil, frame.1]
      · rw [if_neg kept]
        have indexed : (shape r.reg).Indexed := same.symm ▸ indexed
        have removed : (r.reg.removeCall a).removed = [a] := by
          change (shape (r.reg.dropCall a)).removed = [a]
          rw [(shape_dropCall r.reg a indexed).removed]
          exact congrArg (· ++ [a]) waiting
        refine (share_prune id { r with reg := r.reg.removeCall a }).trans ?_
        rw [removed, if_neg (by simpa using other.symm)]
        exact (share_removeCall_other indexed other).trans frame.1
    · rw [if_neg terminal]
      exact undrained

/-! ## A whole message -/

/-- Terminal handling, once. -/
def latch (s : Share) : Share :=
  if (s.call.any fun call => call.state.terminal) && !s.latched then
    retire (closing { s with latched := true })
  else s

theorem share_latchTerminal_own (iter : Iteration) {c : Correlator} (holds : Settled c)
    (fits : Fits c.reg) (id : String) : share id (c.latchTerminal iter id) = latch (share id c) := by
  have guard : (c.callTerminal id && decide (id ∉ c.terminalDone)) =
      (((share id c).call.any fun call => call.state.terminal) && !(share id c).latched) := by
    simp [Correlator.callTerminal, share]
  unfold Correlator.latchTerminal latch
  rw [guard]
  split
  · let marked : Correlator := { c with terminalDone := insert id c.terminalDone }
    have indexed : (shape marked.reg).Indexed := holds.kept.consistent.indexed
    have latched : share id marked = { share id c with latched := true } := by
      simp [share, marked, Registry.callStreamKeys]
    have same : shape (marked.teardownChecks id).reg = shape c.reg :=
      congrArg Books.registry (blind_books.teardownChecks marked id)
    refine (share_retire_own iter (same.symm ▸ indexed)
      ((congrArg Shape.removed same).trans holds.drained)
      (fits_of_room (blind_room.teardownChecks marked id) fits) id).trans ?_
    rw [share_teardownChecks_own indexed, latched]
  · rfl

theorem share_latchTerminal_other (iter : Iteration) {c : Correlator} (holds : Settled c)
    (fits : Fits c.reg) {id a : String} (other : a ≠ id) :
    share id (c.latchTerminal iter a) = share id c := by
  unfold Correlator.latchTerminal
  split
  · let marked : Correlator := { c with terminalDone := insert a c.terminalDone }
    have unlatched : share id marked = share id c := by
      simp [share, marked, Registry.callStreamKeys, other.symm]
    have same : shape (marked.teardownChecks a).reg = shape c.reg :=
      congrArg Books.registry (blind_books.teardownChecks marked a)
    refine (share_retire_other iter (same.symm ▸ holds.kept.consistent.indexed)
      ((congrArg Shape.removed same).trans holds.drained)
      (fits_of_room (blind_room.teardownChecks marked a) fits) other).trans ?_
    rw [share_teardownChecks_other marked other, unlatched]
  · rfl

/-- One SIP message in the share of its call. -/
def sip (msg : SipMsg) (s : Share) : Share :=
  let s := s.route msg
  let ds := s.messageDiagnostics msg
  let learned := (Correlator.sdpOf msg).map NegotiatedMedia.ofSession
  latch (((s.store msg learned).learn learned).diagnose ds)

/-- The endpoints a message advertises. -/
def advertised (msg : SipMsg) : List SocketAddr :=
  ((Correlator.sdpOf msg).map SdpSession.endpoints).getD []

/-- Both tables have room for one more entry. -/
def Below (reg : Registry) : Prop :=
  reg.calls.size < reg.maxCalls ∧ reg.streams.size < reg.maxStreams

instance (reg : Registry) : Decidable (Below reg) := inferInstanceAs (Decidable (_ ∧ _))

theorem size_getOrCreateCall (reg : Registry) (id : String) :
    (reg.getOrCreateCall id).calls.size ≤ reg.calls.size + 1 := by
  unfold Registry.getOrCreateCall
  split
  · exact Nat.le_succ _
  · next absent =>
    have unlisted : id ∉ reg.calls.keys := fun listed => absent (AList.mem_keys.mpr listed)
    rw [FiniteMap.size_eq_keys, FiniteMap.size_eq_keys, AList.keys_insert, List.length_cons,
      List.erase_of_not_mem unlisted]

/-- Below the caps a message leaves room for the terminal handling. -/
theorem fits_received {c : Correlator} (below : Below c.reg) (msg : SipMsg)
    (learned : Option NegotiatedMedia) :
    Fits (((c.observeSip msg).storeMessage msg learned).learnSdp msg.callId learned).reg := by
  have observed : room (c.observeSip msg) = room c := by
    unfold Correlator.observeSip
    dsimp only
    split <;> rfl
  have stored : Fits ((c.observeSip msg).storeMessage msg learned).reg := by
    generalize c.observeSip msg = o at observed ⊢
    simp only [room, Prod.mk.injEq] at observed
    have grown := size_getOrCreateCall o.reg msg.callId
    have frame : (o.reg.getOrCreateCall msg.callId).streams = o.reg.streams ∧
        (o.reg.getOrCreateCall msg.callId).maxCalls = o.reg.maxCalls ∧
        (o.reg.getOrCreateCall msg.callId).maxStreams = o.reg.maxStreams := by
      unfold Registry.getOrCreateCall
      split <;> exact ⟨rfl, rfl, rfl⟩
    unfold Fits Correlator.storeMessage
    simp only [Registry.updateCall, FiniteMap.size_modify, frame]
    unfold Below at below
    omega
  refine fits_of_room ?_ stored
  generalize (c.observeSip msg).storeMessage msg learned = s
  have reclocked : ∀ (reg : Registry) (keys : List StreamKey) (f : RtpStream → RtpStream),
      room { s with reg := keys.foldl (fun reg k => reg.updateStream k f) reg } =
        room { s with reg } := by
    intro reg keys f
    induction keys generalizing reg with
    | nil => rfl
    | cons key rest ih =>
      refine (ih (reg.updateStream key f)).trans ?_
      simp only [room, Registry.updateStream, FiniteMap.size_modify]
  cases learned with
  | none => rfl
  | some n =>
    unfold Correlator.learnSdp Correlator.learnEndpoints Correlator.applySdpClocks
    dsimp only
    split
    · exact reclocked _ _ _
    · rfl

theorem share_ingestSip_own (iter : Iteration) {c : Correlator} (holds : Settled c)
    (below : Below c.reg) (msg : SipMsg) :
    share msg.callId (c.ingestSip iter msg) = sip msg (share msg.callId c) := by
  have diags : (c.observeSip msg).messageDiagnostics msg =
      (share msg.callId (c.observeSip msg)).messageDiagnostics msg := rfl
  unfold Correlator.ingestSip sip
  dsimp only
  rw [diags]
  generalize (Correlator.sdpOf msg).map NegotiatedMedia.ofSession = learned
  have received := settled_received c msg learned holds
  have stored := settled_storeMessage c msg learned holds
  have known : msg.callId ∈ ((c.observeSip msg).storeMessage msg learned).reg.calls :=
    (FiniteMap.mem_modify _ _ _ _).mpr (known_getOrCreateCall _ _).1
  have fits := fits_received below msg learned
  have learnt := share_learnSdp_own stored.kept.consistent.indexed msg.callId learned known
  rw [share_storeMessage_own] at learnt
  generalize ((c.observeSip msg).storeMessage msg learned).learnSdp msg.callId learned = r
    at received fits learnt ⊢
  rw [share_latchTerminal_own iter
    (settled_of_books (blind_books.addDiagnostics _ _) (settled_of_books (books_pushEv _ _) received))
    (fits_of_room (blind_room.addDiagnostics _ _) fits)]
  rw [share_addDiagnostics_own _ (Share.messageDiagnostics_callId _ msg), share_pushEv, learnt,
    share_observeSip_own]

/-- A message of another call that advertises none of this call's endpoints. -/
theorem share_ingestSip_other (iter : Iteration) {c : Correlator} (holds : Settled c)
    (below : Below c.reg) (msg : SipMsg) {id : String} (other : msg.callId ≠ id)
    (disjoint : ∀ ep ∈ advertised msg, (share id c).endpoint ep = false) :
    share id (c.ingestSip iter msg) = share id c := by
  have diags : (c.observeSip msg).messageDiagnostics msg =
      (share msg.callId (c.observeSip msg)).messageDiagnostics msg := rfl
  unfold Correlator.ingestSip
  dsimp only
  rw [diags]
  have foreign : ∀ n, (Correlator.sdpOf msg).map NegotiatedMedia.ofSession = some n →
      ∀ ep ∈ n.endpoints, (share id c).endpoint ep = false := by
    intro n learned
    obtain ⟨sess, parsed, rfl⟩ := Option.map_eq_some_iff.mp learned
    have listed : advertised msg = sess.endpoints := by rw [advertised, parsed]; rfl
    rwa [listed] at disjoint
  generalize (Correlator.sdpOf msg).map NegotiatedMedia.ofSession = learned at foreign ⊢
  have received := settled_received c msg learned holds
  have stored := settled_storeMessage c msg learned holds
  have fits := fits_received below msg learned
  have before : share id ((c.observeSip msg).storeMessage msg learned) = share id c := by
    rw [share_storeMessage_other _ msg learned other, share_observeSip_other c msg other]
  rw [← before] at foreign
  have learnt := share_learnSdp_other stored.kept.consistent.indexed learned other foreign
  generalize ((c.observeSip msg).storeMessage msg learned).learnSdp msg.callId learned = r
    at received fits learnt ⊢
  rw [share_latchTerminal_other iter
    (settled_of_books (blind_books.addDiagnostics _ _) (settled_of_books (books_pushEv _ _) received))
    (fits_of_room (blind_room.addDiagnostics _ _) fits) other]
  rw [share_addDiagnostics_other _ (Share.messageDiagnostics_callId _ msg) other, share_pushEv,
    learnt, before]

end Sipmon.Guarantees.ShareTeardown
