import Sipmon.Guarantees.RegistryIndex

/-!
# The share of one call

`share id` cuts out of the correlator what belongs to the call `id`: its
record, its streams, its endpoints and its bookkeeping, with the settings that
every call sees. The operations on a share say what one call experiences; the
`share_*` equations connect each stage of the correlator to them, for the call
the stage works on and for every other call.
-/
namespace Sipmon.Guarantees.CallShare
open Source Lib RegistryShape Views RegistryIndex

@[ext]
structure Share where
  call : Option Call
  streams : StreamKey → Option RtpStream
  keys : List StreamKey
  endpoint : SocketAddr → Bool
  inviteRr : Option Bool
  latched : Bool
  minSeverity : Severity
  turn : TurnTracker
  keepTerminated : Bool
  maxCalls : Nat
  maxStreams : Nat

def share (id : String) (c : Correlator) : Share :=
  { call := c.reg.calls.lookup id
    streams := fun k => (c.reg.streams.lookup k).filter fun s => s.callId = id
    keys := c.reg.callStreamKeys id
    endpoint := fun ep => c.reg.endpointCall.lookup ep == some id
    inviteRr := c.inviteRr.lookup id
    latched := decide (id ∈ c.terminalDone)
    minSeverity := c.minSeverity
    turn := c.turn
    keepTerminated := c.keepTerminated
    maxCalls := c.reg.maxCalls
    maxStreams := c.reg.maxStreams }

namespace Share

def mapCall (f : Call → Call) (s : Share) : Share := { s with call := s.call.map f }

def mapStreams (keys : List StreamKey) (f : RtpStream → RtpStream) (s : Share) : Share :=
  { s with streams := fun k => if k ∈ keys then (s.streams k).map f else s.streams k }

/-- Streams that are not there are not touched. -/
theorem mapStreams_absent {keys : List StreamKey} (f : RtpStream → RtpStream) {s : Share}
    (absent : ∀ k ∈ keys, s.streams k = none) : s.mapStreams keys f = s := by
  have same : (fun k => if k ∈ keys then (s.streams k).map f else s.streams k) = s.streams := by
    funext k
    split
    · next member => rw [absent k member]; rfl
    · rfl
  simp only [mapStreams, same]

/-- A diagnostic of the call, counted unless it is below the threshold. -/
def count (s : Share) (severity : Severity) : Share :=
  if severity.rank < s.minSeverity.rank then s
  else s.mapCall (Correlator.countDiagnostic severity)

def diagnose (s : Share) (ds : List Diagnostic) : Share := ds.foldl (fun s d => s.count d.severity) s

end Share

theorem share_streams (id : String) (c : Correlator) (k : StreamKey) (s : RtpStream) :
    (share id c).streams k = some s ↔ c.reg.streams.lookup k = some s ∧ s.callId = id := by
  simp [share, Option.filter_eq_some_iff]

/-- A stream of another call is not in the share. -/
theorem share_streams_other {id : String} {c : Correlator} {k : StreamKey}
    (other : ∀ s, c.reg.streams.lookup k = some s → s.callId ≠ id) :
    (share id c).streams k = none := by
  rw [Option.eq_none_iff_forall_ne_some]
  intro s present
  obtain ⟨present, own⟩ := (share_streams id c k s).mp present
  exact other s present own

theorem mem_share_keys {c : Correlator} (indexed : (shape c.reg).Indexed) (id : String)
    (k : StreamKey) : k ∈ (share id c).keys ↔ ∃ s, (share id c).streams k = some s := by
  refine (indexed.byCall.member_iff k id).trans ?_
  simp only [share_streams]
  exact Option.map_eq_some_iff

/-! ## Calls, streams and diagnostics -/

theorem share_updateCall_own (id : String) (c : Correlator) (f : Call → Call) :
    share id { c with reg := c.reg.updateCall id f } = (share id c).mapCall f := by
  simp only [share, Share.mapCall, Registry.updateCall, FiniteMap.lookup_modify, if_pos]
  rfl

theorem share_updateCall_other {id a : String} (c : Correlator) (f : Call → Call) (other : a ≠ id) :
    share id { c with reg := c.reg.updateCall a f } = share id c := by
  simp only [share, Registry.updateCall, FiniteMap.lookup_modify, if_neg other.symm]
  rfl

theorem filter_map_callId {f : RtpStream → RtpStream} (keeps : ∀ s, (f s).callId = s.callId)
    (id : String) (o : Option RtpStream) :
    (o.map f).filter (fun s => s.callId = id) = (o.filter fun s => s.callId = id).map f := by
  cases o with
  | none => rfl
  | some s => by_cases own : s.callId = id <;> simp [Option.filter, keeps, own]

theorem share_updateStream (id : String) (c : Correlator) (key : StreamKey)
    {f : RtpStream → RtpStream} (keeps : ∀ s, (f s).callId = s.callId) :
    share id { c with reg := c.reg.updateStream key f } = (share id c).mapStreams [key] f := by
  have streams : (fun k => ((c.reg.streams.modify key f).lookup k).filter fun s => s.callId = id) =
      fun k => if k ∈ [key] then ((share id c).streams k).map f else (share id c).streams k := by
    funext k
    rw [FiniteMap.lookup_modify]
    simp only [List.mem_singleton]
    split
    · exact filter_map_callId keeps id _
    · rfl
  simp only [share, Share.mapStreams, Registry.updateStream] at streams ⊢
  rw [streams]
  rfl

/-- One update for each stream of a list without repetitions. -/
theorem share_updateStreams (id : String) {f : RtpStream → RtpStream}
    (keeps : ∀ s, (f s).callId = s.callId) (keys : List StreamKey) (distinct : keys.Nodup)
    (c : Correlator) :
    share id { c with reg := keys.foldl (fun reg k => reg.updateStream k f) c.reg } =
      (share id c).mapStreams keys f := by
  induction keys generalizing c with
  | nil => exact (Share.mapStreams_absent f (fun k member => (List.not_mem_nil member).elim)).symm
  | cons key rest ih =>
    obtain ⟨fresh, distinct⟩ := List.nodup_cons.mp distinct
    refine (ih distinct { c with reg := c.reg.updateStream key f }).trans ?_
    rw [share_updateStream id c key keeps]
    have streams : ∀ k, (if k ∈ rest then
          (if k ∈ [key] then ((share id c).streams k).map f else (share id c).streams k).map f
        else if k ∈ [key] then ((share id c).streams k).map f else (share id c).streams k) =
        if k ∈ key :: rest then ((share id c).streams k).map f else (share id c).streams k := by
      intro k
      by_cases here : k = key
      · subst here
        simp [fresh]
      · simp [here]
    simp only [Share.mapStreams, streams]

theorem share_pushEv (id : String) (c : Correlator) (ev : Evlog.Event) :
    share id (c.pushEv ev) = share id c := rfl

/-- Log lines and diagnostics are not part of a share. -/
theorem share_logged (id : String) (c : Correlator) (reg : Registry) (line : String)
    (d : Diagnostic) :
    share id { c with reg := (reg.pushEvent line).pushDiagnostic d } = share id { c with reg } := by
  simp only [share, Registry.pushEvent, Registry.pushDiagnostic, Registry.callStreamKeys]

theorem share_addDiagnostic_own (c : Correlator) (d : Diagnostic) :
    share d.callId (c.addDiagnostic d) = (share d.callId c).count d.severity := by
  unfold Correlator.addDiagnostic Share.count
  dsimp only
  by_cases below : d.severity.rank < c.minSeverity.rank
  · rw [if_pos below, if_pos (by exact below)]
  · rw [if_neg below, if_neg (by exact below), share_logged]
    exact share_updateCall_own d.callId (c.pushEv _) _

theorem share_addDiagnostic_other {id : String} (c : Correlator) (d : Diagnostic)
    (other : d.callId ≠ id) : share id (c.addDiagnostic d) = share id c := by
  unfold Correlator.addDiagnostic
  dsimp only
  split
  · rfl
  · rw [share_logged]
    exact share_updateCall_other (c.pushEv _) _ other

theorem share_addDiagnostics_own {id : String} (ds : List Diagnostic)
    (own : ∀ d ∈ ds, d.callId = id) (c : Correlator) :
    share id (c.addDiagnostics ds) = (share id c).diagnose ds := by
  induction ds generalizing c with
  | nil => rfl
  | cons d rest ih =>
    obtain rfl := own d List.mem_cons_self
    refine (ih (fun d member => own d (List.mem_cons_of_mem _ member)) (c.addDiagnostic d)).trans ?_
    rw [share_addDiagnostic_own]
    rfl

theorem share_addDiagnostics_other {id a : String} (ds : List Diagnostic)
    (own : ∀ d ∈ ds, d.callId = a) (other : a ≠ id) (c : Correlator) :
    share id (c.addDiagnostics ds) = share id c := by
  induction ds generalizing c with
  | nil => rfl
  | cons d rest ih =>
    refine (ih (fun d member => own d (List.mem_cons_of_mem _ member)) (c.addDiagnostic d)).trans ?_
    exact share_addDiagnostic_other c d (own d List.mem_cons_self ▸ other)

/-! ## SIP -/

namespace Share

/-- The Record-Route mark of the initial INVITE. -/
def route (msg : SipMsg) (s : Share) : Share :=
  if msg.isInitialInvite then
    { s with inviteRr := some (s.inviteRr.getD (decide (0 < msg.recordRouteCount))) }
  else s

/-- The diagnostics a message of the call raises. -/
def messageDiagnostics (s : Share) (msg : SipMsg) : List Diagnostic :=
  checkContact msg.tsUs msg.callId msg (Correlator.peerIsPublic msg.flow) ++
    checkRecordRoute msg.tsUs msg.callId msg (s.inviteRr.getD false) ++
    ((Correlator.sdpOf msg).map (checkSdp msg.tsUs msg.callId)).getD []

/-- Every diagnostic of a message names the call of the message. -/
theorem messageDiagnostics_callId (s : Share) (msg : SipMsg) :
    ∀ d ∈ s.messageDiagnostics msg, d.callId = msg.callId := by
  have contact : ∀ d ∈ checkContact msg.tsUs msg.callId msg (Correlator.peerIsPublic msg.flow),
      d.callId = msg.callId := by
    unfold checkContact
    split
    · simp
    · dsimp only
      split
      · simp [diag]
      · split <;> split <;> simp [diag]
  have route : ∀ d ∈ checkRecordRoute msg.tsUs msg.callId msg (s.inviteRr.getD false),
      d.callId = msg.callId := by
    unfold checkRecordRoute
    dsimp only
    split <;> simp [diag]
  have media : ∀ d ∈ ((Correlator.sdpOf msg).map (checkSdp msg.tsUs msg.callId)).getD [],
      d.callId = msg.callId := by
    cases Correlator.sdpOf msg with
    | none => simp
    | some sess =>
      rw [Option.map_some, Option.getD_some]
      unfold checkSdp
      split <;> simp [diag]
  intro d member
  simp only [messageDiagnostics, List.mem_append] at member
  rcases member with (raised | raised) | raised
  · exact contact d raised
  · exact route d raised
  · exact media d raised

/-- The record of the call after the message. -/
def store (msg : SipMsg) (learned : Option NegotiatedMedia) (s : Share) : Share :=
  { s with call := some (Correlator.receive msg learned (s.call.getD (.new msg.callId))) }

/-- New endpoints, and the negotiated clocks for the streams there are. -/
def learn (learned : Option NegotiatedMedia) (s : Share) : Share :=
  match learned, s.call with
  | some n, some call =>
    { s with endpoint := fun ep => decide (ep ∈ n.endpoints) || s.endpoint ep }.mapStreams s.keys
      (Correlator.reclock call.negotiated)
  | _, _ => s

end Share

theorem share_observeSip_own (c : Correlator) (msg : SipMsg) :
    share msg.callId (c.observeSip msg) = (share msg.callId c).route msg := by
  unfold Correlator.observeSip Share.route
  dsimp only
  split
  · simp only [share, FiniteMap.lookup_upsert, if_pos]
    rfl
  · rfl

theorem share_observeSip_other {id : String} (c : Correlator) (msg : SipMsg)
    (other : msg.callId ≠ id) : share id (c.observeSip msg) = share id c := by
  unfold Correlator.observeSip
  dsimp only
  split
  · simp only [share, FiniteMap.lookup_upsert, if_neg other.symm]
    rfl
  · rfl

theorem share_getOrCreateCall (id : String) (c : Correlator) (a : String) :
    share id { c with reg := c.reg.getOrCreateCall a } =
      if a = id then { share id c with call := some ((share id c).call.getD (.new id)) }
      else share id c := by
  have call : (c.reg.getOrCreateCall a).calls.lookup id =
      if a = id then some ((c.reg.calls.lookup id).getD (.new id)) else c.reg.calls.lookup id := by
    split
    · next own => exact own ▸ lookup_getOrCreateCall c.reg a
    · next other => exact lookup_getOrCreateCall_other c.reg (Ne.symm other)
  have rest : share id { c with reg := c.reg.getOrCreateCall a } =
      { share id c with call := (c.reg.getOrCreateCall a).calls.lookup id } := by
    unfold Registry.getOrCreateCall
    split <;> rfl
  rw [rest, call]
  split <;> rfl

theorem share_storeMessage_own (c : Correlator) (msg : SipMsg) (learned : Option NegotiatedMedia) :
    share msg.callId (c.storeMessage msg learned) = (share msg.callId c).store msg learned := by
  refine (share_updateCall_own msg.callId { c with reg := c.reg.getOrCreateCall msg.callId } _).trans ?_
  rw [share_getOrCreateCall, if_pos rfl]
  rfl

theorem share_storeMessage_other {id : String} (c : Correlator) (msg : SipMsg)
    (learned : Option NegotiatedMedia) (other : msg.callId ≠ id) :
    share id (c.storeMessage msg learned) = share id c := by
  refine (share_updateCall_other { c with reg := c.reg.getOrCreateCall msg.callId } _ other).trans ?_
  rw [share_getOrCreateCall, if_neg other]

theorem share_insertEndpoints_own (id : String) (c : Correlator) (endpoints : List SocketAddr) :
    share id { c with reg := { c.reg with
        endpointCall := endpoints.foldl (fun m ep => m.insert ep id) c.reg.endpointCall } } =
      { share id c with
        endpoint := fun ep => decide (ep ∈ endpoints) || (share id c).endpoint ep } := by
  have registered : ∀ ep, ((endpoints.foldl (fun m ep => m.insert ep id) c.reg.endpointCall).lookup ep
      == some id) = (decide (ep ∈ endpoints) || (share id c).endpoint ep) := by
    intro ep
    rw [lookup_insertAll]
    by_cases member : ep ∈ endpoints <;> simp [member, share]
  simp only [share] at registered ⊢
  simp only [registered]
  rfl

/-- Endpoints that are not this call's may go to another call. -/
theorem share_insertEndpoints_other {id a : String} (c : Correlator) (endpoints : List SocketAddr)
    (other : a ≠ id) (disjoint : ∀ ep ∈ endpoints, (share id c).endpoint ep = false) :
    share id { c with reg := { c.reg with
        endpointCall := endpoints.foldl (fun m ep => m.insert ep a) c.reg.endpointCall } } =
      share id c := by
  have registered : ∀ ep, ((endpoints.foldl (fun m ep => m.insert ep a) c.reg.endpointCall).lookup ep
      == some id) = (share id c).endpoint ep := by
    intro ep
    rw [lookup_insertAll]
    split
    · next member => rw [disjoint ep member]; simpa using other
    · rfl
  simp only [share] at registered ⊢
  simp only [registered]
  rfl

/-- `apply_sdp_clocks` reclocks the streams of its call only. -/
theorem share_applySdpClocks_own {c : Correlator} (indexed : (shape c.reg).Indexed) (id : String)
    {call : Call} (found : c.reg.calls.lookup id = some call) :
    share id (c.applySdpClocks id) =
      (share id c).mapStreams (share id c).keys (Correlator.reclock call.negotiated) := by
  unfold Correlator.applySdpClocks
  rw [found]
  exact share_updateStreams id (reclock_callId call.negotiated) _ (indexed.byCall.nodup id) c

theorem share_applySdpClocks_other {id a : String} {c : Correlator}
    (indexed : (shape c.reg).Indexed) (other : a ≠ id) :
    share id (c.applySdpClocks a) = share id c := by
  unfold Correlator.applySdpClocks
  split
  · next call _ =>
    refine (share_updateStreams id (reclock_callId call.negotiated) _
      (indexed.byCall.nodup a) c).trans ?_
    refine Share.mapStreams_absent _ fun k member => share_streams_other fun s present => ?_
    have owner := (indexed.byCall.member_iff k a).mp member
    rw [show (shape c.reg).owner k = some s.callId from congrArg (Option.map _) present] at owner
    exact Option.some.inj owner ▸ other
  · rfl

theorem share_learnSdp_own {c : Correlator} (indexed : (shape c.reg).Indexed) (id : String)
    (learned : Option NegotiatedMedia) (known : id ∈ c.reg.calls) :
    share id (c.learnSdp id learned) = (share id c).learn learned := by
  obtain ⟨call, found⟩ := Option.isSome_iff_exists.mp (AList.lookup_isSome.mpr known)
  cases learned with
  | none => rfl
  | some n =>
    unfold Correlator.learnSdp Correlator.learnEndpoints
    dsimp only
    generalize registered : n.endpoints.foldl (fun m ep => m.insert ep id) c.reg.endpointCall = table
    refine (share_applySdpClocks_own
      (c := { c with reg := { c.reg with endpointCall := table } })
      ⟨indexed.byCall, indexed.bySsrc⟩ id found).trans ?_
    rw [← registered, share_insertEndpoints_own]
    have callShare : (share id c).call = some call := found
    simp only [Share.learn, callShare]

theorem share_learnSdp_other {id a : String} {c : Correlator} (indexed : (shape c.reg).Indexed)
    (learned : Option NegotiatedMedia) (other : a ≠ id)
    (disjoint : ∀ n, learned = some n → ∀ ep ∈ n.endpoints, (share id c).endpoint ep = false) :
    share id (c.learnSdp a learned) = share id c := by
  cases learned with
  | none => rfl
  | some n =>
    unfold Correlator.learnSdp Correlator.learnEndpoints
    dsimp only
    generalize registered : n.endpoints.foldl (fun m ep => m.insert ep a) c.reg.endpointCall = table
    have clocked := share_applySdpClocks_other
      (c := { c with reg := { c.reg with endpointCall := table } })
      ⟨indexed.byCall, indexed.bySsrc⟩ other
    refine clocked.trans ?_
    rw [← registered]
    exact share_insertEndpoints_other c n.endpoints other (disjoint n rfl)

end Sipmon.Guarantees.CallShare
