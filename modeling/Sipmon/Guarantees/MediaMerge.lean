import Sipmon.Guarantees.CallSignals
import Sipmon.Lib.FirstSeen
import Sipmon.Source.Ingest

/-!
# What a call learns from an SDP

The first SDP that lists a payload type sets what a call has negotiated. Each later one
adds its endpoints, the payload types that are new, and the codec names that are new.
-/
namespace Sipmon.Guarantees.MediaMerge
open Source Lib.FirstSeen NegotiatedMedia Correlator CallSignals

/-- What a call has negotiated once it has learned a further SDP. -/
def learn (neg : NegotiatedMedia) (sess : SdpSession) : NegotiatedMedia := neg.merge (ofSession sess)

/-- The names of the payload types of an SDP, where they have one. -/
def names (sess : SdpSession) : List String := sess.payloadTypes.filterMap sess.codecNameForPt

/-- The payload types an SDP adds. -/
def newTypes (neg : NegotiatedMedia) (sess : SdpSession) : List UInt8 :=
  sess.payloadTypes.filter fun pt => pt ∉ neg.pts

/-- The names an SDP adds: all of them when it comes first. -/
def newNames (neg : NegotiatedMedia) (sess : SdpSession) : List String :=
  if neg.pts = [] then names sess else (order (names sess)).filter fun name => name ∉ neg.codecs

theorem nodup_payloadTypes (sess : SdpSession) : sess.payloadTypes.Nodup :=
  (List.perm_insertionSort _ _).nodup_iff.mpr (List.nodup_dedup _)

theorem nodup_newTypes (neg : NegotiatedMedia) (sess : SdpSession) : (newTypes neg sess).Nodup :=
  (nodup_payloadTypes sess).filter _

/-! ## Payload types one by one -/

theorem addPt_foldl (n : NegotiatedMedia) (pts : List UInt8) (neg : NegotiatedMedia) :
    (pts.foldl n.addPt neg).pts = pts.foldl note neg.pts ∧
      (pts.foldl n.addPt neg).endpoints = neg.endpoints ∧ (pts.foldl n.addPt neg).codecs = neg.codecs := by
  induction pts generalizing neg with
  | nil => exact ⟨rfl, rfl, rfl⟩
  | cons pt rest ih =>
    obtain ⟨listed, endpoints, codecs⟩ := ih (n.addPt neg pt)
    rw [List.foldl_cons, listed, endpoints, codecs, List.foldl_cons]
    unfold addPt note
    split <;> exact ⟨rfl, rfl, rfl⟩

/-- Each payload type that is new brings its clock. -/
theorem addPt_clockRates (n : NegotiatedMedia) {pts : List UInt8} (distinct : pts.Nodup)
    (neg : NegotiatedMedia) : (pts.foldl n.addPt neg).clockRates =
      neg.clockRates ++ (pts.filter fun pt => pt ∉ neg.pts).map n.clockRateForPt := by
  induction pts generalizing neg with
  | nil => simp
  | cons pt rest ih =>
    obtain ⟨apart, further⟩ := List.nodup_cons.mp distinct
    rw [List.foldl_cons, ih further]
    by_cases known : pt ∈ neg.pts
    · simp [addPt, known]
    · have others : (rest.filter fun a => a ∉ neg.pts ++ [pt]) = rest.filter fun a => a ∉ neg.pts := by
        apply List.filter_congr
        intro a member
        have different : a ≠ pt := fun same => apart (same ▸ member)
        simp [different]
      simp only [addPt, known, if_false, others, List.filter_cons, decide_true, not_false_eq_true,
        List.map_cons, List.append_assoc, List.singleton_append, if_true]

/-! ## A merge -/

section Merge

variable (neg : NegotiatedMedia) (sess : SdpSession)

theorem learn_first (empty : neg.pts = []) : learn neg sess = ofSession sess := by
  rw [learn, merge, empty]
  rfl

theorem learn_endpoints : (learn neg sess).endpoints =
    if neg.pts = [] then sess.endpoints else neg.endpoints ++ sess.endpoints := by
  unfold learn merge
  split
  · next empty => rw [if_pos (List.isEmpty_iff.mp empty)]; rfl
  · next some_listed =>
    rw [if_neg (mt List.isEmpty_iff.mpr some_listed)]
    exact (addPt_foldl _ _ _).2.1

theorem learn_pts : (learn neg sess).pts = neg.pts ++ newTypes neg sess := by
  by_cases empty : neg.pts = []
  · rw [learn_first neg sess empty, newTypes, empty]
    simp [ofSession]
  · have merged : (learn neg sess).pts = sess.payloadTypes.foldl note neg.pts := by
      unfold learn merge
      rw [if_neg (mt List.isEmpty_iff.mp empty)]
      exact (addPt_foldl _ _ _).1
    rw [merged, foldl_note_eq, order_of_nodup (nodup_payloadTypes sess), newTypes]

theorem learn_codecs_later (listed : neg.pts ≠ []) :
    (learn neg sess).codecs = (names sess).foldl note neg.codecs := by
  unfold learn merge
  rw [if_neg (mt List.isEmpty_iff.mp listed)]
  exact congrArg ((names sess).foldl note) (addPt_foldl _ _ _).2.2

theorem learn_codecs (unlisted : neg.pts = [] → neg.codecs = []) :
    (learn neg sess).codecs = neg.codecs ++ newNames neg sess := by
  by_cases empty : neg.pts = []
  · rw [learn_first neg sess empty, newNames, if_pos empty, unlisted empty]
    rfl
  · rw [learn_codecs_later neg sess empty, foldl_note_eq, newNames, if_neg empty]

theorem learn_clockRates_later (listed : neg.pts ≠ []) : (learn neg sess).clockRates =
    neg.clockRates ++ (newTypes neg sess).map (ofSession sess).clockRateForPt := by
  unfold learn merge
  rw [if_neg (mt List.isEmpty_iff.mp listed)]
  exact addPt_clockRates _ (nodup_payloadTypes sess) _

end Merge

/-- A message changes what its call has negotiated by its SDP alone. -/
theorem negotiated_receive (msg : SipMsg) (call : Call) :
    (receive msg ((sdpOf msg).map NegotiatedMedia.ofSession) call).negotiated =
      ((sdpOf msg).map (learn call.negotiated)).getD call.negotiated := by
  have kept : (call.applySip msg).negotiated = call.negotiated := by
    refine (congrArg Roster.negotiated (roster_applySip call msg)).trans ?_
    split <;> rfl
  unfold receive learn
  cases sdpOf msg with
  | none =>
    dsimp only [Option.map_none, Option.getD_none]
    exact kept
  | some sess =>
    dsimp only [Option.map_some, Option.getD_some]
    rw [kept]

end Sipmon.Guarantees.MediaMerge
