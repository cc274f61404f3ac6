import Sipmon.Guarantees.RegistryShape
import Sipmon.Guarantees.Views
import Sipmon.Lib.Run

/-!
# The redundant tables of the correlator agree

The call order, the stream indexes, the endpoint table and the correlator's own
per-call tables describe the same calls and streams in every reachable state.
Within one operation the correlator's tables may still mention calls that wait
in `removed`; every operation ends by draining that list.
-/
namespace Sipmon.Guarantees.RegistryIndex
open Source Lib RegistryShape Views
open Lib.GroupIndex (Indexes members)
open Source.Correlator (Op)

/-- The registry's own tables agree. -/
structure Consistent (s : Shape) : Prop where
  orderNodup : s.order.Nodup
  orderKnown : ∀ id, id ∈ s.order ↔ id ∈ s.known
  indexed : s.Indexed
  ownerKnown : ∀ k id, s.owner k = some id → id ∈ s.known
  endpointKnown : ∀ ep id, s.endpointCall.lookup ep = some id → id ∈ s.known

/-- What the invariant reads of a correlator. -/
structure Books where
  registry : Shape
  inviteRr : FiniteMap String Bool
  terminalDone : Finset String

def books (c : Correlator) : Books := ⟨shape c.reg, c.inviteRr, c.terminalDone⟩

/-- The tables agree, up to the calls that wait to be drained. -/
structure Books.Kept (b : Books) : Prop where
  consistent : Consistent b.registry
  inviteRr : ∀ id ∈ b.inviteRr, id ∈ b.registry.known ∨ id ∈ b.registry.removed
  terminalDone : ∀ id ∈ b.terminalDone, id ∈ b.registry.known ∨ id ∈ b.registry.removed

/-! ## Registry operations -/

theorem consistent_removeCalls (reg : Registry) (ids : List String)
    (holds : Consistent (shape reg)) : Consistent (shape (reg.removeCalls ids)) := by
  have gone := shape_dropCalls ids reg holds.indexed
  have order : (shape (reg.removeCalls ids)).order = reg.order.filter fun id => !ids.contains id :=
    congrArg (List.filter _) gone.order
  have endpointCall : (shape (reg.removeCalls ids)).endpointCall =
      reg.endpointCall.retain fun _ id => !ids.contains id :=
    congrArg (FiniteMap.retain fun _ id => !ids.contains id) gone.endpointCall
  have kept : ∀ {id}, (!ids.contains id) = true ↔ id ∉ ids := by simp
  refine ⟨?_, ?_, ⟨gone.indexed.byCall, gone.indexed.bySsrc⟩, ?_, ?_⟩
  · rw [order]
    exact holds.orderNodup.filter _
  · intro id
    rw [order, List.mem_filter, kept]
    exact (and_congr_left' (holds.orderKnown id)).trans (gone.known id).symm
  · intro k id row
    obtain ⟨row, stays⟩ := (gone.owner k id).mp row
    exact (gone.known id).mpr ⟨holds.ownerKnown k id row, stays⟩
  · intro ep id registered
    rw [endpointCall, FiniteMap.lookup_retain, Option.filter_eq_some_iff] at registered
    exact (gone.known id).mpr ⟨holds.endpointKnown ep id registered.1, kept.mp registered.2⟩

/-- Every call that leaves waits in `removed`. -/
theorem removed_removeCalls (reg : Registry) (ids : List String)
    (holds : Consistent (shape reg)) {id : String}
    (tracked : id ∈ (shape reg).known ∨ id ∈ (shape reg).removed) :
    id ∈ (shape (reg.removeCalls ids)).known ∨ id ∈ (shape (reg.removeCalls ids)).removed := by
  have gone := shape_dropCalls ids reg holds.indexed
  have removed : (shape (reg.removeCalls ids)).removed = reg.removed ++ ids := gone.removed
  rw [removed, List.mem_append]
  by_cases leaves : id ∈ ids
  · exact .inr (.inr leaves)
  · rcases tracked with known | waiting
    · exact .inl ((gone.known id).mpr ⟨known, leaves⟩)
    · exact .inr (.inl waiting)

theorem consistent_dropKeys (keys : List StreamKey) {s : Shape} (holds : Consistent s) :
    Consistent (keys.foldl Shape.dropKey s) := by
  refine Run.invariant (P := Consistent) (fun s key holds => ?_) keys holds
  refine ⟨holds.orderNodup, holds.orderKnown, holds.indexed.dropKey key, ?_, holds.endpointKnown⟩
  intro k id row
  simp only [Shape.dropKey, Function.update_apply] at row
  split at row
  · cases row
  · exact holds.ownerKnown k id row

theorem dropKeys_frame (keys : List StreamKey) (s : Shape) :
    (keys.foldl Shape.dropKey s).known = s.known ∧
      (keys.foldl Shape.dropKey s).removed = s.removed := by
  induction keys generalizing s with
  | nil => exact ⟨rfl, rfl⟩
  | cons key rest ih => exact ih (s.dropKey key)

/-- What an eviction may do: the registry stays consistent, and no tracked call
is lost without waiting in `removed`. -/
structure Evicts (reg after : Registry) : Prop where
  consistent : Consistent (shape after)
  tracked : ∀ id, id ∈ (shape reg).known ∨ id ∈ (shape reg).removed →
    id ∈ (shape after).known ∨ id ∈ (shape after).removed

theorem Evicts.refl {reg : Registry} (holds : Consistent (shape reg)) : Evicts reg reg :=
  ⟨holds, fun _ tracked => tracked⟩

theorem Evicts.trans {a b c : Registry} (first : Evicts a b) (second : Evicts b c) : Evicts a c :=
  ⟨second.consistent, fun id tracked => second.tracked id (first.tracked id tracked)⟩

theorem evicts_removeCalls (reg : Registry) (ids : List String)
    (holds : Consistent (shape reg)) : Evicts reg (reg.removeCalls ids) :=
  ⟨consistent_removeCalls reg ids holds, fun _ => removed_removeCalls reg ids holds⟩

theorem evicts_streams (reg : Registry) (keys : List StreamKey)
    (holds : Consistent (shape reg)) : Evicts reg (keys.foldl Registry.evictStream reg) := by
  have frame := dropKeys_frame keys (shape reg)
  rw [← shape_foldl_evictStream] at frame
  refine ⟨?_, fun id tracked => by rwa [frame.1, frame.2]⟩
  rw [shape_foldl_evictStream]
  exact consistent_dropKeys keys holds

theorem evicts_evictIfNeeded (iter : Iteration) (reg : Registry)
    (holds : Consistent (shape reg)) : Evicts reg (reg.evictIfNeeded iter) := by
  have calls : Evicts reg
      (if reg.maxCalls < reg.calls.size then reg.removeCalls reg.excessCalls else reg) := by
    split
    · exact evicts_removeCalls reg _ holds
    · exact .refl holds
  unfold Registry.evictIfNeeded
  dsimp only
  generalize (if reg.maxCalls < reg.calls.size then _ else reg) = cut at calls ⊢
  split
  · exact calls.trans (evicts_streams _ _ calls.consistent)
  · exact calls

theorem evicts_evictStale (iter : Iteration) (reg : Registry) (ttlSecs nowUs : UInt64)
    (holds : Consistent (shape reg)) : Evicts reg (reg.evictStale iter ttlSecs nowUs) := by
  unfold Registry.evictStale
  split
  · exact .refl holds
  · exact evicts_removeCalls reg _ holds

theorem consistent_getOrCreateCall (reg : Registry) (id : String)
    (holds : Consistent (shape reg)) :
    Consistent (shape (reg.getOrCreateCall id)) := by
  unfold Registry.getOrCreateCall
  split
  · exact holds
  · next fresh =>
    have grows : ∀ a, a ∈ (shape reg).known → a ∈ reg.calls.insert id (.new id) := fun a known =>
      (AList.mem_insert _).mpr (.inr known)
    refine ⟨?_, ?_, ⟨holds.indexed.byCall, holds.indexed.bySsrc⟩, ?_, ?_⟩
    · have unlisted : id ∉ reg.order := fun listed => fresh ((holds.orderKnown id).mp listed)
      exact List.nodup_append.mpr ⟨holds.orderNodup, List.nodup_singleton id, by
        rintro a listed b only rfl
        exact unlisted (List.mem_singleton.mp only ▸ listed)⟩
    · intro a
      refine Iff.trans ?_ (AList.mem_insert reg.calls).symm
      change a ∈ reg.order ++ [id] ↔ _
      rw [List.mem_append, List.mem_singleton, or_comm]
      exact or_congr_right (holds.orderKnown a)
    · exact fun k a row => grows a (holds.ownerKnown k a row)
    · exact fun ep a registered => grows a (holds.endpointKnown ep a registered)

theorem known_getOrCreateCall (reg : Registry) (id : String) :
    id ∈ (shape (reg.getOrCreateCall id)).known ∧
      ∀ a, a ∈ (shape reg).known → a ∈ (shape (reg.getOrCreateCall id)).known := by
  unfold Registry.getOrCreateCall
  split
  · next present => exact ⟨present, fun _ known => known⟩
  · exact ⟨(AList.mem_insert _).mpr (.inl rfl), fun _ known => (AList.mem_insert _).mpr (.inr known)⟩

theorem removed_getOrCreateCall (reg : Registry) (id : String) :
    (shape (reg.getOrCreateCall id)).removed = (shape reg).removed := by
  unfold Registry.getOrCreateCall
  split <;> rfl

/-- A new stream of a known call. -/
theorem consistent_noteStream (reg : Registry) (callId : String) (key : StreamKey) (s : RtpStream)
    (holds : Consistent (shape reg)) (fresh : reg.streams.lookup key = none)
    (known : callId ∈ (shape reg).known) (owned : s.callId = callId) :
    Consistent
      (shape ({ reg with streams := reg.streams.insert key s }.noteStream callId key)) := by
  have unowned : (shape reg).owner key = none := congrArg (Option.map _) fresh
  have owner : (fun k => ((reg.streams.insert key s).lookup k).map RtpStream.callId) =
      Function.update (shape reg).owner key (some callId) := by
    funext k
    rw [FiniteMap.lookup_insert_iff, Function.update_apply]
    split
    · rw [Option.map_some, owned]
    · rfl
  have bySsrc : ssrcOwner (Function.update (shape reg).owner key (some callId)) =
      Function.update (ssrcOwner (shape reg).owner) key (some key.ssrc) := by
    funext k
    by_cases here : k = key
    · subst here
      simp [ssrcOwner]
    · simp [ssrcOwner, Function.update_of_ne here]
  refine ⟨holds.orderNodup, holds.orderKnown, ⟨?_, ?_⟩, ?_, holds.endpointKnown⟩
  · change Indexes (fun k => ((reg.streams.insert key s).lookup k).map RtpStream.callId) _
    rw [owner]
    exact holds.indexed.byCall.insert callId unowned
  · change Indexes (ssrcOwner fun k => ((reg.streams.insert key s).lookup k).map RtpStream.callId) _
    rw [owner, bySsrc]
    exact holds.indexed.bySsrc.insert key.ssrc (by simp [ssrcOwner, unowned])
  · intro k id row
    change ((reg.streams.insert key s).lookup k).map RtpStream.callId = some id at row
    rw [congrFun owner k, Function.update_apply] at row
    split at row
    · exact Option.some.inj row ▸ known
    · exact holds.ownerKnown k id row

/-! ## Operations that leave the books alone -/

theorem books_reg (c : Correlator) {reg : Registry} (shaped : shape reg = shape c.reg) :
    books { c with reg } = books c := by
  simp only [books, shaped]

theorem books_foldl {α : Type} {op : Correlator → α → Correlator}
    (one : ∀ c a, books (op c a) = books c) (l : List α) (c : Correlator) :
    books (l.foldl op c) = books c := by
  induction l generalizing c with
  | nil => rfl
  | cons a rest ih => exact (ih (op c a)).trans (one c a)

@[simp] theorem books_pushEv (c : Correlator) (ev : Evlog.Event) : books (c.pushEv ev) = books c := rfl

@[simp] theorem books_addDiagnostic (c : Correlator) (d : Diagnostic) :
    books (c.addDiagnostic d) = books c := by
  unfold Correlator.addDiagnostic
  dsimp only
  split
  · rfl
  · exact (books_reg (c.pushEv _) (by simp)).trans (books_pushEv c _)

theorem shape_foldl_flush (keys : List StreamKey) (reg : Registry) :
    shape (keys.foldl Registry.flushStreamIpattr reg) = shape reg := by
  induction keys generalizing reg with
  | nil => rfl
  | cons key rest ih => exact (ih (reg.flushStreamIpattr key)).trans (shape_flushStreamIpattr reg key)

@[simp] theorem books_ipattrTick (iter : Iteration) (c : Correlator) (ts : UInt64) :
    books (c.ipattrTick iter ts) = books c := by
  have attributed : ∀ c : Correlator, books (c.attributeIpStats iter) = books c := fun c =>
    books_reg c (shape_foldl_flush _ c.reg)
  unfold Correlator.ipattrTick
  dsimp only
  split <;> split
  · exact attributed { c with lastIpattrUs := some ts }
  · exact attributed c
  · rfl
  · rfl

/-- Sampling a stream and emitting its snapshot. -/
theorem books_snapStream (ts : UInt64) (c : Correlator) (key : StreamKey) :
    books (Correlator.snapStream ts c key) = books c := by
  have sampled : books { c with reg := c.reg.updateStream key (·.sample ts) } = books c :=
    books_reg c (shape_updateStream _ _ _ fun s => sample_callId s ts)
  unfold Correlator.snapStream
  dsimp only
  repeat' split
  all_goals simp only [books_pushEv, sampled]

@[simp] theorem books_snapStreams (iter : Iteration) (c : Correlator) (ts : UInt64) :
    books (c.snapStreams iter ts) = books c := books_foldl (books_snapStream ts) _ c

theorem blind_books : Blind books where
  diag := books_addDiagnostic
  heatmap _ _ := rfl
  ipstats _ _ := rfl

@[simp] theorem books_reportTeardown (c : Correlator) (id : String) (call : Call) :
    books (c.reportTeardown id call) = books c := by
  unfold Correlator.reportTeardown
  dsimp only
  generalize logged : c.reg.pushEvent _ = reg
  have shaped : shape reg = shape c.reg := by
    rw [← logged, shape_pushEvent]
  split
  all_goals exact books_reg c shaped

/-! ## Operations that add or remove -/

/-- The tables agree and nothing waits: what holds between operations. -/
structure Settled (c : Correlator) : Prop where
  kept : (books c).Kept
  drained : c.reg.removed = []

theorem settled_of_books {c after : Correlator} (same : books after = books c) (holds : Settled c) :
    Settled after where
  kept := same ▸ holds.kept
  drained := by
    have registry : shape after.reg = shape c.reg := congrArg Books.registry same
    exact (congrArg Shape.removed registry).trans holds.drained

theorem kept_evicts {c : Correlator} {reg : Registry} (holds : (books c).Kept)
    (evicts : Evicts c.reg reg) : (books { c with reg }).Kept where
  consistent := evicts.consistent
  inviteRr id present := evicts.tracked id (holds.inviteRr id present)
  terminalDone id present := evicts.tracked id (holds.terminalDone id present)

theorem mem_foldl_erase (removed : List String) (done : Finset String) (id : String) :
    id ∈ removed.foldl Finset.erase done ↔ id ∈ done ∧ id ∉ removed := by
  induction removed generalizing done with
  | nil => simp
  | cons gone rest ih =>
    rw [List.foldl_cons, ih, Finset.mem_erase, List.mem_cons, not_or]
    tauto

theorem settled_prune {c : Correlator} (holds : (books c).Kept) :
    Settled c.pruneRemovedBookkeeping where
  drained := rfl
  kept :=
    { consistent := ⟨holds.consistent.orderNodup, holds.consistent.orderKnown,
        ⟨holds.consistent.indexed.byCall, holds.consistent.indexed.bySsrc⟩,
        holds.consistent.ownerKnown, holds.consistent.endpointKnown⟩
      inviteRr := fun id present => by
        have found : ((FiniteMap.eraseAll c.reg.removed c.inviteRr).lookup id).isSome :=
          AList.lookup_isSome.mpr present
        rw [FiniteMap.lookup_eraseAll] at found
        split at found
        · exact nomatch found
        · next stays =>
          exact .inl ((holds.inviteRr id (AList.lookup_isSome.mp found)).resolve_right stays)
      terminalDone := fun id present => by
        obtain ⟨present, stays⟩ := (mem_foldl_erase c.reg.removed c.terminalDone id).mp present
        exact .inl ((holds.terminalDone id present).resolve_right stays) }

theorem kept_retireCall (iter : Iteration) (c : Correlator) (id : String) (holds : (books c).Kept) :
    (books (c.retireCall iter id)).Kept := by
  unfold Correlator.retireCall
  split
  · next call _ =>
    split
    · have report : (books (c.reportTeardown id call)).Kept :=
        (books_reportTeardown c id call).symm ▸ holds
      refine kept_evicts report ?_
      split
      · exact evicts_evictIfNeeded iter _ report.consistent
      · exact evicts_removeCalls _ _ report.consistent
    · exact holds
  · exact holds

theorem settled_onCallTerminal (iter : Iteration) (c : Correlator) (id : String)
    (holds : (books c).Kept) : Settled (c.onCallTerminal iter id) := by
  refine settled_prune (kept_retireCall iter _ id ?_)
  rwa [blind_books.teardownChecks]

theorem settled_maybePeriodicFlush (iter : Iteration) (c : Correlator) (ts : UInt64)
    (holds : Settled c) : Settled (c.maybePeriodicFlush iter ts) := by
  have pass : ∀ c : Correlator, (books c).Kept → Settled (c.flushPass iter ts) := by
    intro c kept
    unfold Correlator.flushPass
    dsimp only
    generalize snapped : Correlator.snapStreams iter _ ts = s
    have same : books s = books c := by
      rw [← snapped, books_snapStreams]
      exact books_reg c (shape_pruneHeatmap c.reg)
    have searched : shape (if s.reg.searchHint.isSome then s.reg.refreshSearchMatches iter else s.reg) =
        shape s.reg := by
      split
      · exact shape_refreshSearchMatches iter s.reg
      · rfl
    have before : (books s).Kept := same ▸ kept
    unfold Correlator.evictPass
    dsimp only
    generalize (if s.reg.searchHint.isSome then _ else s.reg) = reg at searched ⊢
    have consistent : Consistent (shape reg) := searched.symm ▸ before.consistent
    have stale := evicts_evictStale iter reg s.callTtlSecs ts consistent
    have evicted := stale.trans (evicts_evictIfNeeded iter _ stale.consistent)
    have start : (books { s with reg }).Kept := (books_reg s searched).symm ▸ before
    have settled := settled_prune (kept_evicts start evicted)
    generalize Correlator.pruneRemovedBookkeeping _ = pruned at settled ⊢
    have idle : books (pruned.pruneIdleIps ts) = books pruned := rfl
    exact settled_of_books idle settled
  have ticked := settled_of_books (books_ipattrTick iter c ts) holds
  unfold Correlator.maybePeriodicFlush
  dsimp only
  generalize c.ipattrTick iter ts = t at ticked ⊢
  split <;> split
  · exact pass { t with lastFlushUs := some ts } ticked.kept
  · exact pass t ticked.kept
  · exact settled_of_books (c := t) rfl ticked
  · exact ticked

/-! ## Ingesting messages -/

theorem kept_latchTerminal (iter : Iteration) (c : Correlator) (id : String) (holds : Settled c) :
    Settled (c.latchTerminal iter id) := by
  unfold Correlator.latchTerminal
  split
  · next latch =>
    have known : id ∈ c.reg.calls := by
      obtain ⟨terminal, _⟩ := Bool.and_eq_true_iff.mp latch
      obtain ⟨call, found, _⟩ := (Option.any_eq_true _ _).mp terminal
      exact AList.lookup_isSome.mp (Option.isSome_of_eq_some found)
    refine settled_onCallTerminal iter _ id ⟨holds.kept.consistent, holds.kept.inviteRr, ?_⟩
    intro a latched
    rcases Finset.mem_insert.mp latched with rfl | latched
    · exact .inl known
    · exact holds.kept.terminalDone a latched
  · exact holds

/-- The message's call is known once it is stored, so its Record-Route entry has an owner. -/
theorem settled_storeMessage (c : Correlator) (msg : SipMsg) (learned : Option NegotiatedMedia)
    (holds : Settled c) : Settled ((c.observeSip msg).storeMessage msg learned) := by
  have registry : shape (c.observeSip msg).reg = shape c.reg := by
    unfold Correlator.observeSip
    dsimp only
    split <;> rfl
  have done : (c.observeSip msg).terminalDone = c.terminalDone := by
    unfold Correlator.observeSip
    dsimp only
    split <;> rfl
  have routes : ∀ id ∈ (c.observeSip msg).inviteRr, id = msg.callId ∨ id ∈ c.inviteRr := by
    intro id present
    unfold Correlator.observeSip at present
    dsimp only at present
    split at present
    · exact (AList.mem_insert _).mp present
    · exact .inr present
  have created := known_getOrCreateCall (c.observeSip msg).reg msg.callId
  have stored : shape ((c.observeSip msg).storeMessage msg learned).reg =
      shape ((c.observeSip msg).reg.getOrCreateCall msg.callId) := shape_updateCall _ _ _
  have drained : (shape ((c.observeSip msg).reg.getOrCreateCall msg.callId)).removed = [] := by
    rw [removed_getOrCreateCall, registry]
    exact holds.drained
  have known : ∀ id, id ∈ (shape c.reg).known ∨ id ∈ (shape c.reg).removed →
      id ∈ (shape ((c.observeSip msg).reg.getOrCreateCall msg.callId)).known := by
    rintro id (known | waiting)
    · exact created.2 id (registry ▸ known)
    · rw [show (shape c.reg).removed = [] from holds.drained] at waiting
      exact (List.not_mem_nil waiting).elim
  refine ⟨⟨?_, ?_, ?_⟩, (congrArg Shape.removed stored).trans drained⟩
  · change Consistent (shape ((c.observeSip msg).storeMessage msg learned).reg)
    rw [stored]
    exact consistent_getOrCreateCall _ _ (registry ▸ holds.kept.consistent)
  · intro id present
    refine .inl ?_
    change id ∈ (shape ((c.observeSip msg).storeMessage msg learned).reg).known
    rw [stored]
    rcases routes id present with rfl | present
    · exact created.1
    · exact known id (holds.kept.inviteRr id present)
  · intro id latched
    refine .inl ?_
    change id ∈ (shape ((c.observeSip msg).storeMessage msg learned).reg).known
    rw [stored]
    have before : id ∈ (c.observeSip msg).terminalDone := latched
    rw [done] at before
    exact known id (holds.kept.terminalDone id before)

theorem lookup_insertAll (endpoints : List SocketAddr) (id : String)
    (m : FiniteMap SocketAddr String) (ep : SocketAddr) :
    (endpoints.foldl (fun m ep => m.insert ep id) m).lookup ep =
      if ep ∈ endpoints then some id else m.lookup ep := by
  induction endpoints generalizing m with
  | nil => simp
  | cons first rest ih =>
    rw [List.foldl_cons, ih, FiniteMap.lookup_insert_iff]
    by_cases here : ep = first <;> by_cases there : ep ∈ rest <;> simp [here, there]

theorem shape_applySdpClocks (c : Correlator) (id : String) :
    books (c.applySdpClocks id) = books c := by
  unfold Correlator.applySdpClocks
  split
  · exact books_reg c (shape_updateStreams _ _ _ fun _ s => reclock_callId _ s)
  · rfl

theorem settled_learnEndpoints (c : Correlator) (id : String) (n : NegotiatedMedia)
    (known : id ∈ c.reg.calls) (holds : Settled c) : Settled (c.learnEndpoints id n) := by
  unfold Correlator.learnEndpoints
  dsimp only
  refine settled_of_books (shape_applySdpClocks _ id) ⟨⟨?_, holds.kept.inviteRr, holds.kept.terminalDone⟩,
    holds.drained⟩
  refine ⟨holds.kept.consistent.orderNodup, holds.kept.consistent.orderKnown,
    ⟨holds.kept.consistent.indexed.byCall, holds.kept.consistent.indexed.bySsrc⟩,
    holds.kept.consistent.ownerKnown, ?_⟩
  intro ep a registered
  change (n.endpoints.foldl (fun m ep => m.insert ep id) c.reg.endpointCall).lookup ep = some a
    at registered
  rw [lookup_insertAll] at registered
  split at registered
  · exact Option.some.inj registered ▸ known
  · exact holds.kept.consistent.endpointKnown ep a registered

/-- After the message is stored and its SDP learned, before the terminal handling. -/
theorem settled_received (c : Correlator) (msg : SipMsg) (learned : Option NegotiatedMedia)
    (holds : Settled c) :
    Settled (((c.observeSip msg).storeMessage msg learned).learnSdp msg.callId learned) := by
  have stored := settled_storeMessage c msg learned holds
  have known : msg.callId ∈ ((c.observeSip msg).storeMessage msg learned).reg.calls :=
    (FiniteMap.mem_modify _ _ _ _).mpr (known_getOrCreateCall _ _).1
  unfold Correlator.learnSdp
  split
  · exact settled_learnEndpoints _ _ _ known stored
  · exact stored

theorem settled_ingestSip (iter : Iteration) (c : Correlator) (msg : SipMsg) (holds : Settled c) :
    Settled (c.ingestSip iter msg) := by
  unfold Correlator.ingestSip
  dsimp only
  generalize (Correlator.sdpOf msg).map NegotiatedMedia.ofSession = learned
  refine kept_latchTerminal iter _ msg.callId ?_
  refine settled_of_books (blind_books.addDiagnostics _ _) (settled_of_books (books_pushEv _ _) ?_)
  exact settled_received c msg learned holds

theorem settled_openRtp (c : Correlator) (ts : UInt64) (flow : Flow5Tuple) (header : RtpHeader)
    (len : Nat) (encap : Encap) (id : String) (known : id ∈ c.reg.calls)
    (fresh : c.reg.streams.lookup { flow, ssrc := header.ssrc } = none) (holds : Settled c) :
    Settled (c.openRtp ts flow header len encap id) := by
  unfold Correlator.openRtp
  dsimp only
  rw [fresh, Option.getD_none]
  generalize opened : Correlator.openStream _ _ _ _ _ _ _ _ = stream
  have owned : stream.callId = id := by
    rw [← opened, openStream_callId]
    rfl
  have noted := consistent_noteStream c.reg id { flow, ssrc := header.ssrc } stream
    holds.kept.consistent fresh known owned
  generalize hnoted : Registry.noteStream _ id _ = reg at noted ⊢
  have removed : (shape reg).removed = [] := by
    rw [← hnoted]
    exact holds.drained
  have kept : ∀ a, a ∈ (shape c.reg).known ∨ a ∈ (shape c.reg).removed →
      a ∈ (shape reg).known ∨ a ∈ (shape reg).removed := by
    rw [← hnoted]
    exact fun a tracked => tracked
  have settled : Settled { c with reg } :=
    ⟨⟨noted, fun a present => kept a (holds.kept.inviteRr a present),
      fun a present => kept a (holds.kept.terminalDone a present)⟩, removed⟩
  generalize hdiag : Correlator.addDiagnostics _ _ = d
  have diagnosed : books d = books { c with reg } := by
    rw [← hdiag, blind_books.addDiagnostics]
    exact books_reg { c with reg } (shape_updateCall _ _ _)
  refine settled_of_books ?_ (settled_of_books diagnosed settled)
  refine books_reg d ((shape_updateCall _ _ _).trans ?_)
  split
  · exact shape_updateStream _ _ _ fun _ => rfl
  · rfl

theorem settled_ingestRtp (c : Correlator) (ts : UInt64) (flow : Flow5Tuple) (header : RtpHeader)
    (len : Nat) (encap : Encap) (holds : Settled c) :
    Settled (c.ingestRtp ts flow header len encap) := by
  unfold Correlator.ingestRtp
  dsimp only
  split
  · refine settled_of_books (blind_books.addDiagnostics _ _) (settled_of_books ?_ holds)
    refine books_reg c ((shape_updateCall _ _ _).trans ?_)
    exact shape_updateStream _ _ _ fun s => observe_callId s ts header len
  · next fresh =>
    split
    · next id found =>
      have known : id ∈ c.reg.calls := by
        rcases Option.or_eq_some_iff.mp found with source | ⟨_, destination⟩
        · exact holds.kept.consistent.endpointKnown _ id source
        · exact holds.kept.consistent.endpointKnown _ id destination
      exact settled_openRtp c ts flow header len encap id known fresh holds
    · exact holds

theorem books_attachSample (ts : UInt64) (c : Correlator) (sample : Correlator.RtcpSample) :
    books (Correlator.attachSample ts c sample) = books c := by
  have attached := books_reg c (shape_updateStreams c.reg (Correlator.ssrcKeys c.reg sample.ssrc)
    (fun _ => (·.addTiming sample.rttMs sample.onewayMs)) fun _ _ => rfl)
  unfold Correlator.attachSample
  dsimp only
  split
  · exact (books_pushEv _ _).trans attached
  · exact attached

theorem settled_ingestRtcp (c : Correlator) (ts : UInt64) (flow : Flow5Tuple) (msg : RtcpMessage)
    (holds : Settled c) : Settled (c.ingestRtcp ts flow msg) := by
  unfold Correlator.ingestRtcp
  dsimp only
  refine settled_of_books (books_foldl (books_attachSample ts) _ _) ?_
  split
  · exact settled_of_books (books_reg c (shape_updateCall _ _ _)) holds
  · exact holds

/-! ## Runs -/

theorem settled_new (iter : Iteration) (config : Config) (source : String) :
    Settled (.new iter config source) where
  drained := rfl
  kept :=
    { consistent :=
        { orderNodup := List.nodup_nil
          orderKnown := fun id => by
            change id ∈ ([] : List String) ↔ id ∈ (∅ : AList fun _ : String => Call)
            simp
          indexed := ⟨.empty, .empty⟩
          ownerKnown := fun _ _ row => nomatch row
          endpointKnown := fun _ _ registered => nomatch registered }
      inviteRr := fun id present => (AList.notMem_empty id present).elim
      terminalDone := fun id latched => (Finset.notMem_empty id latched).elim }

/-- Clearing leaves the books of a new correlator. -/
theorem settled_clear (c : Correlator) (holds : Settled c) : Settled c.clear := by
  refine settled_of_books (c := .new .stored {} "") ?_ (settled_new .stored {} "")
  change Books.mk { shape c.reg.clear with removed := c.reg.removed } _ _ = _
  rw [holds.drained]
  rfl

theorem settled_step (c : Correlator) (input : Iteration × Op) (holds : Settled c) :
    Settled (c.step input) := by
  obtain ⟨iter, op⟩ := input
  cases op with
  | sip msg => exact settled_ingestSip iter c msg holds
  | rtp ts flow header len encap => exact settled_ingestRtp c ts flow header len encap holds
  | rtcp ts flow msg => exact settled_ingestRtcp c ts flow msg holds
  | terminal id => exact settled_onCallTerminal iter c id holds.kept
  | flush ts => exact settled_maybePeriodicFlush iter c ts holds
  | clear => exact settled_clear c holds
  | search q => exact settled_of_books (books_reg c (shape_setSearchHint iter c.reg q)) holds
  | touchTime _ | focus _ | takeEvents | disableEvlogEmit | enableSessionStats =>
    exact settled_of_books (c := c) rfl holds

/-- Index consistency, on the tables of the correlator themselves. -/
structure IndexConsistent (c : Correlator) : Prop where
  order_nodup : c.reg.order.Nodup
  order_keys : ∀ id, id ∈ c.reg.order ↔ id ∈ c.reg.calls
  stream_once : ∀ k s, c.reg.streams.lookup k = some s →
    (members s.callId c.reg.streamIndex).count k = 1 ∧ (members k.ssrc c.reg.ssrcIndex).count k = 1
  stream_index_only : ∀ id ks, c.reg.streamIndex.lookup id = some ks →
    ks ≠ [] ∧ ∀ k ∈ ks, ∃ s, c.reg.streams.lookup k = some s ∧ s.callId = id
  ssrc_index_only : ∀ ssrc ks, c.reg.ssrcIndex.lookup ssrc = some ks →
    ks ≠ [] ∧ ∀ k ∈ ks, k ∈ c.reg.streams ∧ k.ssrc = ssrc
  stream_call : ∀ k s, c.reg.streams.lookup k = some s → s.callId ∈ c.reg.calls
  endpoint_call : ∀ ep id, c.reg.endpointCall.lookup ep = some id → id ∈ c.reg.calls
  invite_rr : ∀ id ∈ c.inviteRr, id ∈ c.reg.calls
  terminal_done : ∀ id ∈ c.terminalDone, id ∈ c.reg.calls

theorem Settled.indexConsistent {c : Correlator} (holds : Settled c) : IndexConsistent c := by
  have consistent : Consistent (shape c.reg) := holds.kept.consistent
  have undrained : ∀ id, id ∉ (shape c.reg).removed := fun id waiting => by
    rw [show (shape c.reg).removed = [] from holds.drained] at waiting
    exact List.not_mem_nil waiting
  have owner : ∀ k id, (shape c.reg).owner k = some id ↔
      ∃ s, c.reg.streams.lookup k = some s ∧ s.callId = id := fun k id => Option.map_eq_some_iff
  constructor
  case order_nodup => exact consistent.orderNodup
  case order_keys => exact consistent.orderKnown
  case stream_once =>
    intro k s present
    have row := (owner k s.callId).mpr ⟨s, present, rfl⟩
    exact ⟨consistent.indexed.byCall.once k _ row,
      consistent.indexed.bySsrc.once k _ (by rw [ssrcOwner, row]; rfl)⟩
  case stream_index_only =>
    intro id ks present
    refine ⟨consistent.indexed.byCall.tight id ks present, fun k member => ?_⟩
    have listed : k ∈ members id c.reg.streamIndex := by rwa [members, present]
    exact (owner k id).mp (consistent.indexed.byCall.only k id listed)
  case ssrc_index_only =>
    intro ssrc ks present
    refine ⟨consistent.indexed.bySsrc.tight ssrc ks present, fun k member => ?_⟩
    have listed : k ∈ members ssrc c.reg.ssrcIndex := by rwa [members, present]
    obtain ⟨id, row, same⟩ := Option.map_eq_some_iff.mp (consistent.indexed.bySsrc.only k ssrc listed)
    obtain ⟨s, found, _⟩ := (owner k id).mp row
    exact ⟨AList.lookup_isSome.mp (Option.isSome_of_eq_some found), same⟩
  case stream_call =>
    intro k s present
    exact consistent.ownerKnown k _ ((owner k s.callId).mpr ⟨s, present, rfl⟩)
  case endpoint_call => exact consistent.endpointKnown
  case invite_rr => exact fun id present => (holds.kept.inviteRr id present).resolve_right (undrained id)
  case terminal_done =>
    exact fun id present => (holds.kept.terminalDone id present).resolve_right (undrained id)

/-- Every reachable state of the correlator has consistent indexes, for every
configuration, every interleaving of operations and every hash-table order. -/
theorem reachable_index_consistent (iter : Iteration) (config : Config) (source : String)
    (inputs : List (Iteration × Op)) :
    IndexConsistent ((Correlator.new iter config source).run inputs) :=
  (Run.invariant settled_step inputs (settled_new iter config source)).indexConsistent

end Sipmon.Guarantees.RegistryIndex
