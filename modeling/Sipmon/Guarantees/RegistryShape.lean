import Mathlib.Data.Set.Basic
import Sipmon.Source.Ingest

/-!
# The shape of the registry

`shape` keeps the call and stream tables only as far as the indexes refer to
them: which calls are known, in what order, and who owns each stream. Most
updates leave it alone (the `@[simp]` frame lemmas); streams and calls leave it
through `Shape.dropKey` and `Shape.dropCalls`.
-/
namespace Sipmon.Guarantees.RegistryShape
open Source Lib
open Lib.GroupIndex (Indexes members)

@[ext]
structure Shape where
  known : Set String
  order : List String
  owner : StreamKey → Option String
  endpointCall : FiniteMap SocketAddr String
  streamIndex : FiniteMap String (List StreamKey)
  ssrcIndex : FiniteMap UInt32 (List StreamKey)
  removed : List String

def shape (reg : Registry) : Shape :=
  { known := {id | id ∈ reg.calls}
    order := reg.order
    owner := fun k => (reg.streams.lookup k).map RtpStream.callId
    endpointCall := reg.endpointCall
    streamIndex := reg.streamIndex
    ssrcIndex := reg.ssrcIndex
    removed := reg.removed }

/-! ## Frames -/

@[simp] theorem shape_updateCall (reg : Registry) (id : String) (update : Call → Call) :
    shape (reg.updateCall id update) = shape reg := by
  have known : {a | a ∈ reg.calls.modify id update} = {a | a ∈ reg.calls} :=
    Set.ext fun a => FiniteMap.mem_modify a id update reg.calls
  simp only [shape, Registry.updateCall, known]

theorem shape_updateStream (reg : Registry) (key : StreamKey) (update : RtpStream → RtpStream)
    (keeps : ∀ s, (update s).callId = s.callId) :
    shape (reg.updateStream key update) = shape reg := by
  have owner : ∀ k, ((reg.streams.modify key update).lookup k).map RtpStream.callId =
      (reg.streams.lookup k).map RtpStream.callId := by
    intro k
    rw [FiniteMap.lookup_modify]
    split
    · rw [Option.map_map]
      exact congrArg (Option.map · _) (funext keeps)
    · rfl
  simp only [shape, Registry.updateStream, owner]

/-- Updates of several streams. -/
theorem shape_updateStreams (reg : Registry) (keys : List StreamKey)
    (update : StreamKey → RtpStream → RtpStream)
    (keeps : ∀ k s, (update k s).callId = s.callId) :
    shape (keys.foldl (fun reg k => reg.updateStream k (update k)) reg) = shape reg := by
  induction keys generalizing reg with
  | nil => rfl
  | cons k rest ih => rw [List.foldl_cons, ih, shape_updateStream reg k (update k) (keeps k)]

@[simp] theorem shape_pushEvent (reg : Registry) (line : String) :
    shape (reg.pushEvent line) = shape reg := by
  simp only [shape, Registry.pushEvent]

@[simp] theorem shape_pushDiagnostic (reg : Registry) (d : Diagnostic) :
    shape (reg.pushDiagnostic d) = shape reg := by
  simp only [shape, Registry.pushDiagnostic]

@[simp] theorem shape_pruneHeatmap (reg : Registry) : shape reg.pruneHeatmap = shape reg := by
  unfold Registry.pruneHeatmap
  split <;> rfl

@[simp] theorem shape_refreshSearchMatches (iter : Iteration) (reg : Registry) :
    shape (reg.refreshSearchMatches iter) = shape reg := by
  unfold Registry.refreshSearchMatches
  split <;> rfl

@[simp] theorem shape_setSearchHint (iter : Iteration) (reg : Registry) (q : Option String) :
    shape (reg.setSearchHint iter q) = shape reg := by
  unfold Registry.setSearchHint
  dsimp only
  split
  · rfl
  · rw [shape_refreshSearchMatches]
    rfl

@[simp] theorem shape_flushStreamIpattr (reg : Registry) (key : StreamKey) :
    shape (reg.flushStreamIpattr key) = shape reg := by
  unfold Registry.flushStreamIpattr
  split
  · exact shape_updateStream reg key Registry.markAttributed fun _ => rfl
  · rfl

theorem lookup_getOrCreateCall (reg : Registry) (id : String) :
    (reg.getOrCreateCall id).calls.lookup id = some ((reg.calls.lookup id).getD (.new id)) := by
  unfold Registry.getOrCreateCall
  split
  · next present =>
    obtain ⟨call, found⟩ := Option.isSome_iff_exists.mp (AList.lookup_isSome.mpr present)
    rw [found, Option.getD_some]
  · next absent =>
    rw [AList.lookup_eq_none.mpr absent, Option.getD_none]
    exact AList.lookup_insert reg.calls

theorem lookup_getOrCreateCall_other (reg : Registry) {id a : String} (other : a ≠ id) :
    (reg.getOrCreateCall id).calls.lookup a = reg.calls.lookup a := by
  unfold Registry.getOrCreateCall
  split
  · rfl
  · exact AList.lookup_insert_ne other

/-! ## Callee by callee: what a stream update keeps -/

@[simp] theorem applyClockRate_callId (s : RtpStream) (rate : UInt32) :
    (s.applyClockRate rate).callId = s.callId := by
  unfold RtpStream.applyClockRate
  split <;> rfl

@[simp] theorem observe_callId (s : RtpStream) (ts : UInt64) (header : RtpHeader) (len : Nat) :
    (s.observe ts header len).callId = s.callId := by
  unfold RtpStream.observe
  dsimp only
  split
  · exact applyClockRate_callId _ _
  · rfl

@[simp] theorem sample_callId (s : RtpStream) (ts : UInt64) : (s.sample ts).callId = s.callId := by
  unfold RtpStream.sample
  split <;> rfl

@[simp] theorem reclock_callId (neg : NegotiatedMedia) (s : RtpStream) :
    (Correlator.reclock neg s).callId = s.callId := by
  unfold Correlator.reclock
  split
  · split
    · exact applyClockRate_callId _ _
    · rfl
  · rfl

@[simp] theorem openStream_callId (neg : Option NegotiatedMedia) (leg : Option Leg) (encap : Encap)
    (reverse : Bool) (ts : UInt64) (header : RtpHeader) (len : Nat) (s : RtpStream) :
    (Correlator.openStream neg leg encap reverse ts header len s).callId = s.callId := by
  unfold Correlator.openStream
  cases neg <;> simp

/-! ## Removal -/

/-- The SSRC of every stream: the grouping of the SSRC index. -/
def ssrcOwner (owner : StreamKey → Option String) (k : StreamKey) : Option UInt32 :=
  (owner k).map fun _ => k.ssrc

namespace Shape

/-- Both stream indexes are exact. -/
structure Indexed (s : Shape) : Prop where
  byCall : Indexes s.owner s.streamIndex
  bySsrc : Indexes (ssrcOwner s.owner) s.ssrcIndex

/-- One stream leaves with its index entries. -/
def dropKey (s : Shape) (key : StreamKey) : Shape :=
  { s with
    owner := Function.update s.owner key none
    streamIndex := match s.owner key with
      | some id => GroupIndex.forget id key s.streamIndex
      | none => s.streamIndex
    ssrcIndex := GroupIndex.forget key.ssrc key s.ssrcIndex }

/-- Owners without the streams of `id`. -/
def hide (id : String) (owner : StreamKey → Option String) (k : StreamKey) : Option String :=
  (owner k).filter (· ≠ id)

end Shape

theorem ssrcOwner_update (owner : StreamKey → Option String) (key : StreamKey) :
    ssrcOwner (Function.update owner key none) = Function.update (ssrcOwner owner) key none := by
  funext k
  by_cases here : k = key
  · subst here
    simp [ssrcOwner]
  · simp [ssrcOwner, Function.update_of_ne here]

theorem Shape.dropKey_bySsrc {s : Shape} (key : StreamKey)
    (exact : Indexes (ssrcOwner s.owner) s.ssrcIndex) :
    Indexes (ssrcOwner (s.dropKey key).owner) (s.dropKey key).ssrcIndex := by
  have removed := exact.remove (k := key) (g := key.ssrc) (by simp [ssrcOwner])
  rwa [← ssrcOwner_update] at removed

theorem Shape.Indexed.dropKey {s : Shape} (holds : s.Indexed) (key : StreamKey) :
    (s.dropKey key).Indexed where
  byCall := by
    unfold Shape.dropKey
    cases row : s.owner key with
    | some id => exact holds.byCall.remove (by simp [row])
    | none =>
      have unchanged : Function.update s.owner key none = s.owner :=
        Function.update_eq_self_iff.mpr row.symm
      simpa only [unchanged] using holds.byCall
  bySsrc := Shape.dropKey_bySsrc key holds.bySsrc

theorem shape_erase (reg : Registry) (key : StreamKey) :
    shape { reg with streams := reg.streams.erase key } =
      { shape reg with owner := Function.update (shape reg).owner key none } := by
  have owner : (fun k => ((reg.streams.erase key).lookup k).map RtpStream.callId) =
      Function.update (shape reg).owner key none := by
    funext k
    rw [FiniteMap.lookup_erase_iff]
    by_cases here : k = key
    · subst here
      simp
    · rw [if_neg here, Function.update_of_ne here]
      rfl
  simp only [shape] at owner ⊢
  rw [owner]

theorem shape_forgetStream (reg : Registry) (key : StreamKey) :
    shape (reg.forgetStream key) = { (shape reg).dropKey key with owner := (shape reg).owner } := by
  unfold Registry.forgetStream Shape.dropKey
  cases present : reg.streams.lookup key with
  | some s => simp only [shape, present, Option.map_some]
  | none => simp only [shape, present, Option.map_none]

theorem shape_evictStream (reg : Registry) (key : StreamKey) :
    shape (reg.evictStream key) = (shape reg).dropKey key := by
  unfold Registry.evictStream
  rw [shape_erase, shape_forgetStream]
  rfl

theorem shape_dropStream (reg : Registry) (key : StreamKey) :
    shape (reg.dropStream key) = (shape reg).dropKey key := by
  unfold Registry.dropStream
  rw [shape_erase, shape_forgetStream, shape_flushStreamIpattr]
  rfl

/-! ## Removing a call and its streams -/

/-- The loop over the streams of `id`, entered once the call index has lost the
group: the other groups keep their entries, the SSRC index loses one by one. -/
theorem Shape.dropKeys_group {id : String} (keys : List StreamKey) {s : Shape}
    (absent : s.streamIndex.lookup id = none) (own : ∀ k ∈ keys, ∀ h, s.owner k = some h → h = id)
    (bySsrc : Indexes (ssrcOwner s.owner) s.ssrcIndex) :
    ∃ ssrcIndex,
      keys.foldl Shape.dropKey s =
        { s with owner := fun k => if k ∈ keys then none else s.owner k, ssrcIndex } ∧
      Indexes (ssrcOwner fun k => if k ∈ keys then none else s.owner k) ssrcIndex := by
  induction keys generalizing s with
  | nil => exact ⟨s.ssrcIndex, by simp, by simpa using bySsrc⟩
  | cons key rest ih =>
    have streamIndex : (s.dropKey key).streamIndex = s.streamIndex := by
      unfold Shape.dropKey
      cases row : s.owner key with
      | some h =>
        obtain rfl := own key List.mem_cons_self h row
        exact GroupIndex.forget_absent key absent
      | none => rfl
    have owned : ∀ k ∈ rest, ∀ h, (s.dropKey key).owner k = some h → h = id := by
      intro k member h row
      simp only [Shape.dropKey, Function.update_apply] at row
      split at row
      · exact nomatch row
      · exact own k (List.mem_cons_of_mem key member) h row
    obtain ⟨ssrcIndex, folded, exact⟩ :=
      ih (by rw [streamIndex]; exact absent) owned (Shape.dropKey_bySsrc key bySsrc)
    have owner : (fun k => if k ∈ rest then none else (s.dropKey key).owner k) =
        fun k => if k ∈ key :: rest then none else s.owner k := by
      funext k
      by_cases here : k = key <;> simp [Shape.dropKey, here]
    rw [owner] at folded exact
    refine ⟨ssrcIndex, ?_, exact⟩
    rw [List.foldl_cons, folded, streamIndex]
    rfl

theorem shape_foldl_dropStream (keys : List StreamKey) (reg : Registry) :
    shape (keys.foldl Registry.dropStream reg) = keys.foldl Shape.dropKey (shape reg) := by
  induction keys generalizing reg with
  | nil => rfl
  | cons key rest ih => rw [List.foldl_cons, ih, shape_dropStream, List.foldl_cons]

theorem shape_foldl_evictStream (keys : List StreamKey) (reg : Registry) :
    shape (keys.foldl Registry.evictStream reg) = keys.foldl Shape.dropKey (shape reg) := by
  induction keys generalizing reg with
  | nil => rfl
  | cons key rest ih => rw [List.foldl_cons, ih, shape_evictStream, List.foldl_cons]

/-- Calls leave with all their streams: what the removal of `ids` does to a shape. -/
structure Shape.Without (ids : List String) (s t : Shape) : Prop where
  known : ∀ id, id ∈ t.known ↔ id ∈ s.known ∧ id ∉ ids
  owner : ∀ k id, t.owner k = some id ↔ s.owner k = some id ∧ id ∉ ids
  order : t.order = s.order
  endpointCall : t.endpointCall = s.endpointCall
  removed : t.removed = s.removed ++ ids
  indexed : t.Indexed

theorem shape_dropCall (reg : Registry) (id : String) (holds : (shape reg).Indexed) :
    Shape.Without [id] (shape reg) (shape (reg.dropCall id)) := by
  let keys := reg.callStreamKeys id
  have rows : ∀ k, k ∈ keys ↔ (shape reg).owner k = some id := fun k => holds.byCall.member_iff k id
  let cut : Registry := { reg with calls := reg.calls.erase id, removed := reg.removed ++ [id]
                                   streamIndex := reg.streamIndex.erase id }
  have absent : (shape cut).streamIndex.lookup id = none := AList.lookup_erase id reg.streamIndex
  obtain ⟨ssrcIndex, folded, bySsrc⟩ := Shape.dropKeys_group keys (s := shape cut) absent
    (fun k member h row => Option.some.inj (row.symm.trans ((rows k).mp member))) holds.bySsrc
  have owner : (fun k => if k ∈ keys then none else (shape reg).owner k) =
      Shape.hide id (shape reg).owner := by
    funext k
    simp only [rows k, Shape.hide]
    cases (shape reg).owner k with
    | none => simp
    | some g => by_cases same : g = id <;> simp [Option.filter, same]
  have dropped : shape (reg.dropCall id) =
      { shape cut with owner := Shape.hide id (shape reg).owner, ssrcIndex } := by
    rw [← owner]
    exact (shape_foldl_dropStream keys cut).trans folded
  have bySsrc : Indexes (ssrcOwner (Shape.hide id (shape reg).owner)) ssrcIndex := by
    rw [← owner]
    exact bySsrc
  rw [dropped]
  exact
    { known := fun a => by
        change a ∈ reg.calls.erase id ↔ a ∈ reg.calls ∧ a ∉ [id]
        rw [AList.mem_erase, List.mem_singleton, and_comm]
      owner := fun k a => by
        simp only [Shape.hide, Option.filter_eq_some_iff, List.mem_singleton, decide_eq_true_eq]
      order := rfl
      endpointCall := rfl
      removed := rfl
      indexed := { byCall := holds.byCall.drop id, bySsrc := bySsrc } }

theorem shape_dropCalls (ids : List String) (reg : Registry) (holds : (shape reg).Indexed) :
    Shape.Without ids (shape reg) (shape (ids.foldl Registry.dropCall reg)) := by
  induction ids generalizing reg with
  | nil => exact ⟨by simp, by simp, rfl, rfl, by simp, holds⟩
  | cons id rest ih =>
    have one := shape_dropCall reg id holds
    have others := ih (reg.dropCall id) one.indexed
    refine ⟨?_, ?_, others.order.trans one.order, others.endpointCall.trans one.endpointCall, ?_,
      others.indexed⟩
    · intro a
      rw [List.foldl_cons, others.known, one.known]
      simp [and_assoc]
    · intro k a
      rw [List.foldl_cons, others.owner, one.owner]
      simp [and_assoc]
    · rw [List.foldl_cons, others.removed, one.removed]
      simp

end Sipmon.Guarantees.RegistryShape
