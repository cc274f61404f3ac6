import Sipmon.Lib.FirstSeen
import Sipmon.Source.Legs
import Sipmon.Guarantees.CallSignals

/-!
# Legs and dialogs

A dialog is named by two tags, one from each side, and a request carries them in
the order of its sender. The legs are numbered by the From tag alone.
-/
namespace Sipmon.Guarantees.DialogLegs
open Lib Lib.FirstSeen Source

/-- The keys the legs are numbered by, in the order of the messages. -/
def legKeys (msgs : List SipMsg) : List String := (msgs.map legKey).filter (· ≠ "")

/-- The leg of a key that is `n`-th. -/
def legIndex (n : Nat) : UInt8 := UInt8.ofNat (min n 255)

/-- The map holds the keys seen so far under their numbers. -/
structure Numbers (legOf : FiniteMap String UInt8) (seen : List String) : Prop where
  nodup : seen.Nodup
  size : legOf.size = seen.length
  found : ∀ k ∈ seen, legOf.lookup k = some (legIndex (seen.idxOf k))
  fresh : ∀ k, k ∉ seen → legOf.lookup k = none

theorem numbers_empty : Numbers FiniteMap.empty [] :=
  ⟨List.nodup_nil, rfl, fun k member => by simp at member, fun k _ => rfl⟩

theorem size_insert_fresh {legOf : FiniteMap String UInt8} {k : String} (fresh : legOf.lookup k = none)
    (leg : UInt8) : FiniteMap.size (AList.insert k leg legOf) = legOf.size + 1 := by
  rw [AList.insert_of_notMem (AList.lookup_eq_none.mp fresh)]
  rfl

/-- One message: its leg, and the key it adds. -/
theorem assignLeg_spec {legOf : FiniteMap String UInt8} {seen : List String} (numbers : Numbers legOf seen)
    (msg : SipMsg) :
    let seen' := if legKey msg = "" then seen else note seen (legKey msg)
    Numbers (assignLeg legOf msg).2 seen' ∧
      (assignLeg legOf msg).1 = if legKey msg = "" then 0 else legIndex (seen'.idxOf (legKey msg)) := by
  unfold assignLeg
  by_cases blank : legKey msg = ""
  · simp [blank, numbers]
  · simp only [if_neg blank]
    by_cases known : legKey msg ∈ seen
    · rw [numbers.found _ known, note_of_mem known]
      exact ⟨numbers, rfl⟩
    · have absent := numbers.fresh _ known
      have size : legOf.size = seen.length := numbers.size
      have place : (seen ++ [legKey msg]).idxOf (legKey msg) = seen.length := by
        rw [List.idxOf_append_of_notMem known]
        simp
      rw [absent, note_of_new known]
      dsimp only
      refine ⟨⟨?_, ?_, ?_, ?_⟩, ?_⟩
      · apply numbers.nodup.append (List.nodup_singleton _)
        simpa using known
      · rw [size_insert_fresh absent, size]
        simp
      · intro k member
        rw [FiniteMap.lookup_insert_iff]
        by_cases own : k = legKey msg
        · rw [if_pos own, own, place, size, legIndex]
        · have old : k ∈ seen := by simpa [own] using member
          rw [if_neg own, numbers.found k old, List.idxOf_append_of_mem old]
      · intro k missing
        simp only [List.mem_append, List.mem_singleton, not_or] at missing
        rw [FiniteMap.lookup_insert_iff, if_neg missing.2, numbers.fresh k missing.1]
      · rw [place, size, legIndex]

theorem legKeys_cons (msg : SipMsg) (rest : List SipMsg) :
    legKeys (msg :: rest) = if legKey msg = "" then legKeys rest else legKey msg :: legKeys rest := by
  by_cases blank : legKey msg = "" <;> simp [legKeys, blank]

theorem assignLegs_spec (msgs : List SipMsg) {legOf : FiniteMap String UInt8} {seen : List String}
    (numbers : Numbers legOf seen) :
    let all := (legKeys msgs).foldl note seen
    Numbers (assignLegs legOf msgs).2 all ∧ (assignLegs legOf msgs).1 =
      msgs.map fun msg => if legKey msg = "" then 0 else legIndex (all.idxOf (legKey msg)) := by
  induction msgs generalizing legOf seen with
  | nil => exact ⟨numbers, rfl⟩
  | cons msg rest ih =>
    obtain ⟨next, leg⟩ := assignLeg_spec numbers msg
    obtain ⟨last, legs⟩ := ih next
    rw [legKeys_cons]
    simp only [assignLegs, List.map_cons]
    by_cases blank : legKey msg = ""
    · simp only [blank, if_true] at last legs leg ⊢
      exact ⟨last, by rw [leg, legs]⟩
    · simp only [blank, if_false] at last legs leg ⊢
      refine ⟨last, ?_⟩
      have known : legKey msg ∈ note seen (legKey msg) := (mem_note seen _ _).mpr (Or.inr rfl)
      rw [leg, legs, List.foldl_cons, idxOf_foldl_note _ known]

theorem legs_eq (msgs : List SipMsg) : (dialogLegs msgs).1 =
    msgs.map fun msg => if legKey msg = "" then 0 else legIndex (place (legKeys msgs) (legKey msg)) :=
  (assignLegs_spec msgs numbers_empty).2

theorem count_eq (msgs : List SipMsg) :
    (dialogLegs msgs).2 = UInt8.ofNat (min (max (order (legKeys msgs)).length 1) 255) := by
  have size := (assignLegs_spec msgs numbers_empty).1.size
  change UInt8.ofNat (min (max (assignLegs FiniteMap.empty msgs).2.size 1) 255) = _
  rw [size]
  rfl

/-! ## Dialogs -/

/-- The message carries both tags. -/
def Tagged (msg : SipMsg) : Prop :=
  ∃ a b, msg.fromTag = some a ∧ msg.toTag = some b ∧ a ≠ "" ∧ b ≠ ""

/-- The same two tags, the sender's first. -/
def SameDialog (m n : SipMsg) : Prop :=
  (m.fromTag = n.fromTag ∧ m.toTag = n.toTag) ∨ (m.fromTag = n.toTag ∧ m.toTag = n.fromTag)

/-- A message of the dialog the tags `a` and `b` name, opened from `a`'s side. -/
def InDialog (a b : String) (msg : SipMsg) : Prop :=
  (msg.fromTag = some a ∧ (msg.toTag = none ∨ msg.toTag = some b)) ∨
    (msg.fromTag = some b ∧ msg.toTag = some a)

/-- All messages belong to one dialog. -/
def SingleDialog (msgs : List SipMsg) : Prop :=
  ∃ a b, a ≠ "" ∧ b ≠ "" ∧ ∀ msg ∈ msgs, InDialog a b msg

/-- The legs stand for the dialogs of the call. -/
structure Identified (msgs : List SipMsg) : Prop where
  parallel : (dialogLegs msgs).1.length = msgs.length
  same : ∀ p ∈ msgs.zip (dialogLegs msgs).1, ∀ q ∈ msgs.zip (dialogLegs msgs).1,
    Tagged p.1 → Tagged q.1 → (p.2 = q.2 ↔ SameDialog p.1 q.1)
  below : ∀ leg ∈ (dialogLegs msgs).1, leg < (dialogLegs msgs).2
  single : SingleDialog msgs → (dialogLegs msgs).2 = 1 ∧ b2bua msgs = none

/-- Every dialog speaks from one side, and the From tags tell the dialogs apart. -/
structure OneSided (msgs : List SipMsg) : Prop where
  /-- No two dialogs share a From tag. -/
  unforked : ∀ m ∈ msgs, ∀ n ∈ msgs, Tagged m → Tagged n → m.fromTag = n.fromTag → m.toTag = n.toTag
  /-- No message comes from the other side of a dialog. -/
  unswapped : ∀ m ∈ msgs, ∀ n ∈ msgs, Tagged m → Tagged n → m.fromTag = n.toTag → m.toTag = n.fromTag →
    m.fromTag = n.fromTag
  /-- Nor from the other side than the request that opened the only dialog. -/
  opened : SingleDialog msgs → ∀ m ∈ msgs, ∀ n ∈ msgs, m.fromTag = n.fromTag
  few : (legKeys msgs).dedup.length ≤ 255

theorem parallel_legs (msgs : List SipMsg) : (dialogLegs msgs).1.length = msgs.length := by
  rw [legs_eq, List.length_map]

theorem mem_zip_map {α β : Type} (f : α → β) (l : List α) (p : α × β) :
    p ∈ l.zip (l.map f) ↔ p.1 ∈ l ∧ p.2 = f p.1 := by
  have pairs : l.zip (l.map f) = l.map fun a => (a, f a) := by
    have both : (l.map fun a => a).zip (l.map f) = l.map fun a => (a, f a) := List.zip_map'
    rwa [List.map_id'] at both
  rw [pairs, List.mem_map]
  constructor
  · rintro ⟨a, member, rfl⟩
    exact ⟨member, rfl⟩
  · rintro ⟨member, second⟩
    exact ⟨p.1, member, Prod.ext rfl second.symm⟩

/-- The leg of a message. -/
def legOfMsg (msgs : List SipMsg) (msg : SipMsg) : UInt8 :=
  if legKey msg = "" then 0 else legIndex (place (legKeys msgs) (legKey msg))

theorem mem_legKeys {msgs : List SipMsg} {msg : SipMsg} (member : msg ∈ msgs) (named : legKey msg ≠ "") :
    legKey msg ∈ legKeys msgs := by
  simp only [legKeys, ne_eq, decide_not, List.mem_filter, List.mem_map, Bool.not_eq_eq_eq_not,
    Bool.not_true, decide_eq_false_iff_not]
  exact ⟨⟨msg, member, rfl⟩, named⟩

theorem mem_legKeys_iff (msgs : List SipMsg) (k : String) :
    k ∈ legKeys msgs ↔ k ≠ "" ∧ ∃ msg ∈ msgs, legKey msg = k := by
  simp [legKeys, and_comm]

theorem toNat_legIndex (n : Nat) : (legIndex n).toNat = min n 255 := by
  simp [legIndex]

theorem toNat_count (msgs : List SipMsg) :
    (dialogLegs msgs).2.toNat = min (max (order (legKeys msgs)).length 1) 255 := by
  rw [count_eq]
  simp

theorem legs_agree_iff {msgs : List SipMsg} (few : (order (legKeys msgs)).length ≤ 255) {m n : SipMsg}
    (memberM : m ∈ msgs) (memberN : n ∈ msgs) (namedM : legKey m ≠ "") (namedN : legKey n ≠ "") :
    legOfMsg msgs m = legOfMsg msgs n ↔ legKey m = legKey n := by
  have belowM := place_lt (mem_legKeys memberM namedM)
  have belowN := place_lt (mem_legKeys memberN namedN)
  rw [legOfMsg, legOfMsg, if_neg namedM, if_neg namedN, ← UInt8.toNat_inj, toNat_legIndex,
    toNat_legIndex, min_eq_left (by omega), min_eq_left (by omega)]
  exact place_inj (mem_legKeys memberM namedM) _

/-- The legs stay below their count while there are no more keys than indices. -/
theorem below_iff (msgs : List SipMsg) :
    (∀ leg ∈ (dialogLegs msgs).1, leg < (dialogLegs msgs).2) ↔ (order (legKeys msgs)).length ≤ 255 := by
  rw [show (dialogLegs msgs).1 = msgs.map (legOfMsg msgs) from legs_eq msgs]
  simp only [List.mem_map, forall_exists_index, and_imp, forall_apply_eq_imp_iff₂, UInt8.lt_iff_toNat_lt,
    toNat_count]
  constructor
  · intro below
    by_contra many
    obtain ⟨k, member, last⟩ := place_surj (show 255 < (order (legKeys msgs)).length by omega)
    obtain ⟨named, msg, inCall, rfl⟩ := (mem_legKeys_iff msgs k).mp member
    have leg := below msg inCall
    rw [legOfMsg, if_neg named, last, toNat_legIndex] at leg
    omega
  · intro few msg inCall
    unfold legOfMsg
    by_cases blank : legKey msg = ""
    · rw [if_pos blank]
      change 0 < _
      omega
    · have number := place_lt (mem_legKeys inCall blank)
      rw [if_neg blank, toNat_legIndex]
      omega

/-- One key at most is one leg. -/
theorem count_one_iff (msgs : List SipMsg) :
    (dialogLegs msgs).2 = 1 ↔ ∀ k ∈ legKeys msgs, ∀ l ∈ legKeys msgs, k = l := by
  have one : (dialogLegs msgs).2 = 1 ↔ (order (legKeys msgs)).length ≤ 1 := by
    rw [← UInt8.toNat_inj, toNat_count]
    change _ = 1 ↔ _
    omega
  rw [one]
  constructor
  · intro short k memberK l memberL
    have first := place_lt memberK
    have second := place_lt memberL
    exact (place_inj memberK l).mp (by omega)
  · intro same
    by_contra long
    obtain ⟨k, memberK, zero⟩ := place_surj (show 0 < (order (legKeys msgs)).length by omega)
    obtain ⟨l, memberL, one⟩ := place_surj (show 1 < (order (legKeys msgs)).length by omega)
    rw [same k memberK l memberL] at zero
    omega

theorem legKey_tagged {msg : SipMsg} (tagged : Tagged msg) :
    legKey msg ≠ "" ∧ msg.fromTag = some (legKey msg) := by
  obtain ⟨a, b, fromTag, -, notBlank, -⟩ := tagged
  have key : legKey msg = a := by simp [legKey, fromTag]
  rw [key]
  exact ⟨notBlank, fromTag⟩

theorem legKey_inDialog {a b : String} (namedA : a ≠ "") (namedB : b ≠ "") {msg : SipMsg}
    (inDialog : InDialog a b msg) : legKey msg ≠ "" ∧ msg.fromTag = some (legKey msg) := by
  rcases inDialog with ⟨fromTag, -⟩ | ⟨fromTag, -⟩
  · have key : legKey msg = a := by simp [legKey, fromTag]
    rw [key]
    exact ⟨namedA, fromTag⟩
  · have key : legKey msg = b := by simp [legKey, fromTag]
    rw [key]
    exact ⟨namedB, fromTag⟩

theorem same_key_iff {m n : SipMsg} (keyM : m.fromTag = some (legKey m)) (keyN : n.fromTag = some (legKey n)) :
    legKey m = legKey n ↔ m.fromTag = n.fromTag := by
  rw [keyM, keyN, Option.some.injEq]

/-- The legs of a call stand for its dialogs exactly while each dialog speaks
from one side under a From tag of its own, and there are at most 255 keys. -/
theorem legs_identify_dialogs_iff (msgs : List SipMsg) : Identified msgs ↔ OneSided msgs := by
  have legs : (dialogLegs msgs).1 = msgs.map (legOfMsg msgs) := legs_eq msgs
  constructor
  · intro identified
    have few := (below_iff msgs).mp identified.below
    have same : ∀ m ∈ msgs, ∀ n ∈ msgs, Tagged m → Tagged n →
        (m.fromTag = n.fromTag ↔ SameDialog m n) := by
      intro m memberM n memberN taggedM taggedN
      obtain ⟨namedM, keyM⟩ := legKey_tagged taggedM
      obtain ⟨namedN, keyN⟩ := legKey_tagged taggedN
      rw [← same_key_iff keyM keyN, ← legs_agree_iff few memberM memberN namedM namedN]
      have beside : ∀ msg ∈ msgs, (msg, legOfMsg msgs msg) ∈ msgs.zip (dialogLegs msgs).1 := by
        intro msg member
        rw [legs, mem_zip_map]
        exact ⟨member, rfl⟩
      exact identified.same _ (beside m memberM) _ (beside n memberN) taggedM taggedN
    refine ⟨?_, ?_, ?_, ?_⟩
    · intro m memberM n memberN taggedM taggedN fromTags
      rcases (same m memberM n memberN taggedM taggedN).mp fromTags with ⟨-, toTags⟩ | ⟨first, second⟩
      · exact toTags
      · rw [second, ← fromTags, first]
    · intro m memberM n memberN taggedM taggedN first second
      exact (same m memberM n memberN taggedM taggedN).mpr (Or.inr ⟨first, second⟩)
    · intro single m memberM n memberN
      have one := (count_one_iff msgs).mp (identified.single single).1
      obtain ⟨a, b, namedA, namedB, all⟩ := single
      obtain ⟨namedM, keyM⟩ := legKey_inDialog namedA namedB (all m memberM)
      obtain ⟨namedN, keyN⟩ := legKey_inDialog namedA namedB (all n memberN)
      exact (same_key_iff keyM keyN).mp (one _ (mem_legKeys memberM namedM) _ (mem_legKeys memberN namedN))
    · rwa [← length_order]
  · intro sides
    have few : (order (legKeys msgs)).length ≤ 255 := by
      rw [length_order]
      exact sides.few
    refine ⟨parallel_legs msgs, ?_, (below_iff msgs).mpr few, ?_⟩
    · intro p memberP q memberQ taggedP taggedQ
      rw [legs, mem_zip_map] at memberP memberQ
      obtain ⟨inP, legP⟩ := memberP
      obtain ⟨inQ, legQ⟩ := memberQ
      obtain ⟨namedP, keyP⟩ := legKey_tagged taggedP
      obtain ⟨namedQ, keyQ⟩ := legKey_tagged taggedQ
      rw [legP, legQ, legs_agree_iff few inP inQ namedP namedQ, same_key_iff keyP keyQ]
      constructor
      · intro fromTags
        exact Or.inl ⟨fromTags, sides.unforked _ inP _ inQ taggedP taggedQ fromTags⟩
      · rintro (⟨fromTags, -⟩ | ⟨first, second⟩)
        · exact fromTags
        · exact sides.unswapped _ inP _ inQ taggedP taggedQ first second
    · intro single
      have one : (dialogLegs msgs).2 = 1 := by
        apply (count_one_iff msgs).mpr
        intro k memberK l memberL
        obtain ⟨namedK, m, inM, rfl⟩ := (mem_legKeys_iff msgs k).mp memberK
        obtain ⟨namedL, n, inN, rfl⟩ := (mem_legKeys_iff msgs l).mp memberL
        have fromTags := sides.opened single m inM n inN
        obtain ⟨a, b, namedA, namedB, all⟩ := single
        exact (same_key_iff (legKey_inDialog namedA namedB (all m inM)).2
          (legKey_inDialog namedA namedB (all n inN)).2).mpr fromTags
      refine ⟨one, ?_⟩
      change (if 2 ≤ (dialogLegs msgs).2 then _ else _) = none
      rw [one]
      rfl

open CallSignals in
/-- An answered call that the callee hangs up. -/
def hungUpByCallee : List SipMsg :=
  [{ sampleMsg 1000 true (some .invite) none "INVITE" none with fromTag := some "a" },
    { sampleMsg 2000 false none (some 200) "INVITE" (some "b") with fromTag := some "a" },
    { sampleMsg 3000 true (some .bye) none "BYE" (some "a") with fromTag := some "b" }]

/-- One dialog, but the BYE has a leg of its own and the call passes for a B2BUA. -/
theorem callee_bye_is_second_leg :
    SingleDialog hungUpByCallee ∧ dialogLegs hungUpByCallee = ([0, 0, 1], 2) ∧
      (b2bua hungUpByCallee).isSome ∧ ¬ Identified hungUpByCallee := by
  have single : SingleDialog hungUpByCallee := by
    refine ⟨"a", "b", by decide, by decide, ?_⟩
    simp [hungUpByCallee, InDialog, CallSignals.sampleMsg]
  have legs : dialogLegs hungUpByCallee = ([0, 0, 1], 2) := by decide +kernel
  refine ⟨single, legs, by decide +kernel, fun identified => ?_⟩
  have one := (identified.single single).1
  rw [legs] at one
  cases one

end Sipmon.Guarantees.DialogLegs
