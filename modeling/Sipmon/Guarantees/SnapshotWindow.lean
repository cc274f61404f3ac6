import Sipmon.Guarantees.SearchPins
import Sipmon.Source.Snapshot

/-!
# The calls of a snapshot

A snapshot shows the calls created last and the search matches outside that
window, each once. Its state counts are taken over the calls it shows, its
averages over all.
-/
namespace Sipmon.Guarantees.SnapshotWindow
open Source Lib
open CallSignals (sampleMsg)
open SearchPins (Named matchingCalls matchesHint mem_searchMatches calls_refreshSearchMatches)

/-- The order list names every call once, each under its own Call-ID. -/
structure Enumerated (reg : Registry) : Prop where
  once : reg.order.Nodup
  known : ∀ id, id ∈ reg.order ↔ id ∈ reg.calls
  named : Named reg
  /-- A vector holds at most `usize::MAX` elements. -/
  fits : reg.order.length ≤ usizeMax

/-- Every reachable registry enumerates its calls. -/
theorem reachable_enumerated (iter : Iteration) (config : Config) (source : String)
    (inputs : List (Iteration × Correlator.Op))
    (fits : ((Correlator.new iter config source).run inputs).reg.order.length ≤ usizeMax) :
    Enumerated ((Correlator.new iter config source).run inputs).reg := by
  have consistent := RegistryIndex.reachable_index_consistent iter config source inputs
  exact ⟨consistent.order_nodup, consistent.order_keys, SearchPins.reachable_named iter config source inputs, fits⟩

/-- The calls created last. -/
def window (reg : Registry) (limit : Nat) : List String := reg.order.reverse.take limit

/-- The tracked matches that a list does not show. -/
def unshown (reg : Registry) (shown pins : List String) : List String :=
  pins.filter fun id => decide (id ∉ shown ∧ id ∈ reg.calls)

def outside (reg : Registry) (limit : Nat) : List String :=
  unshown reg (window reg limit) reg.searchMatches

/-! ## What is shown -/

/-- The summaries of the calls named by a list. -/
def summaries (iter : Iteration) (reg : Registry) (ids : List String) : List CallSummary :=
  (ids.filterMap reg.calls.lookup).map (reg.callSummary iter)

theorem summaries_append (iter : Iteration) (reg : Registry) (ids more : List String) :
    summaries iter reg (ids ++ more) = summaries iter reg ids ++ summaries iter reg more := by
  rw [summaries, List.filterMap_append, List.map_append]
  rfl

theorem callIds_summaries (iter : Iteration) {reg : Registry} (named : Named reg) {ids : List String}
    (tracked : ∀ id ∈ ids, id ∈ reg.calls) : (summaries iter reg ids).map CallSummary.callId = ids := by
  induction ids with
  | nil => rfl
  | cons id rest ih =>
    obtain ⟨call, present⟩ := Option.isSome_iff_exists.mp
      (AList.lookup_isSome.mpr (tracked id List.mem_cons_self))
    have others := ih fun a member => tracked a (List.mem_cons_of_mem id member)
    rw [summaries, List.filterMap_cons, present, List.map_cons, List.map_cons, ← summaries, others]
    exact congrArg (· :: rest) (named id call present)

theorem mem_summaries (iter : Iteration) (reg : Registry) (ids : List String) (s : CallSummary) :
    s ∈ summaries iter reg ids ↔
      ∃ id ∈ ids, ∃ call, reg.calls.lookup id = some call ∧ reg.callSummary iter call = s := by
  simp only [summaries, List.mem_map, List.mem_filterMap]
  constructor
  · rintro ⟨call, ⟨id, member, present⟩, shown⟩
    exact ⟨id, member, call, present, shown⟩
  · rintro ⟨id, member, call, present, shown⟩
    exact ⟨call, ⟨id, member, present⟩, shown⟩

/-- While there is room, every tracked match that is not shown yet is appended. -/
theorem foldl_showMatch (iter : Iteration) (reg : Registry) (cap : Nat) (shown pins : List String)
    (acc : List CallSummary) (room : acc.length + (unshown reg shown pins).length ≤ cap) :
    pins.foldl (reg.showMatch iter cap shown) acc = acc ++ summaries iter reg (unshown reg shown pins) := by
  induction pins generalizing acc with
  | nil => exact (List.append_nil acc).symm
  | cons id rest ih =>
    rw [List.foldl_cons]
    by_cases fresh : id ∉ shown ∧ id ∈ reg.calls
    · have first : unshown reg shown (id :: rest) = id :: unshown reg shown rest :=
        List.filter_cons_of_pos (decide_eq_true fresh)
      rw [first, List.length_cons] at room
      obtain ⟨call, present⟩ := Option.isSome_iff_exists.mp (AList.lookup_isSome.mpr fresh.2)
      have free : ¬ (cap ≤ acc.length ∨ id ∈ shown) := by
        rintro (full | listed)
        · omega
        · exact fresh.1 listed
      have pushed : reg.showMatch iter cap shown acc id = acc ++ [reg.callSummary iter call] := by
        unfold Registry.showMatch
        rw [if_neg free, present]
      have single : summaries iter reg [id] = [reg.callSummary iter call] := by
        rw [summaries, List.filterMap_cons, present]
        rfl
      have rest := ih (acc ++ [reg.callSummary iter call]) (by simp only [List.length_append, List.length_singleton]; omega)
      rw [pushed, rest, first, List.append_assoc, ← single, ← summaries_append, List.singleton_append]
    · have first : unshown reg shown (id :: rest) = unshown reg shown rest :=
        List.filter_cons_of_neg (by simpa using fresh)
      have skipped : reg.showMatch iter cap shown acc id = acc := by
        unfold Registry.showMatch
        split
        · rfl
        · next free =>
          have unknown : id ∉ reg.calls := fun present => fresh ⟨fun listed => free (.inr listed), present⟩
          rw [AList.lookup_eq_none.mpr unknown]
      rw [first] at room ⊢
      rw [skipped, ih acc room]

theorem recentCalls_eq (iter : Iteration) (reg : Registry) (limit : Nat) :
    reg.recentCalls iter limit = summaries iter reg (window reg limit) := rfl

section Shown

variable {reg : Registry} (enumerated : Enumerated reg) (limit : Nat)
include enumerated

theorem window_tracked : ∀ id ∈ window reg limit, id ∈ reg.calls := fun id member =>
  (enumerated.known id).mp (List.mem_reverse.mp (List.mem_of_mem_take member))

theorem window_nodup : (window reg limit).Nodup :=
  (List.nodup_reverse.mpr enumerated.once).sublist (List.take_sublist _ _)

theorem window_all : window reg usizeMax = reg.order.reverse :=
  List.take_of_length_le (by rw [List.length_reverse]; exact enumerated.fits)

/-- The window and the matches outside it have no call in common. -/
theorem shown_nodup (distinct : reg.searchMatches.Nodup) :
    (window reg limit ++ outside reg limit).Nodup := by
  refine List.nodup_append.mpr ⟨window_nodup enumerated limit, distinct.filter _, ?_⟩
  rintro a inside b matched rfl
  exact (of_decide_eq_true (List.mem_filter.mp matched).2).1 inside

theorem shown_known : ∀ id ∈ window reg limit ++ outside reg limit, id ∈ reg.order := by
  intro id member
  obtain inside | matched := List.mem_append.mp member
  · exact List.mem_reverse.mp (List.mem_of_mem_take inside)
  · exact (enumerated.known id).mpr (of_decide_eq_true (List.mem_filter.mp matched).2).2

theorem shown_length (distinct : reg.searchMatches.Nodup) :
    (window reg limit ++ outside reg limit).length ≤ reg.order.length :=
  (List.subperm_of_subset (shown_nodup enumerated limit distinct) (shown_known enumerated limit)).length_le

/-- The snapshot shows the window and the matches outside it. -/
theorem displayed_eq (iter : Iteration) (distinct : reg.searchMatches.Nodup)
    (few : reg.searchMatches.length ≤ Registry.searchPinMax) :
    reg.displayed iter limit = summaries iter reg (window reg limit ++ outside reg limit) := by
  unfold Registry.displayed
  dsimp only
  rw [recentCalls_eq]
  have ids := callIds_summaries iter enumerated.named (window_tracked enumerated limit)
  split
  · next full =>
    have none : outside reg limit = [] := by
      refine List.filter_eq_nil_iff.mpr fun id matched => ?_
      have inside : id ∈ reg.calls → id ∈ window reg limit := by
        intro tracked
        rw [full, window_all enumerated]
        exact List.mem_reverse.mpr ((enumerated.known id).mpr tracked)
      simpa using fun fresh tracked => fresh (inside tracked)
    rw [none, List.append_nil]
  · have total := shown_length enumerated limit distinct
    have inside : (window reg limit).length ≤ limit := by
      rw [window, List.length_take]
      omega
    have matched : (outside reg limit).length ≤ reg.searchMatches.length := List.length_filter_le _ _
    have fits := enumerated.fits
    have length := congrArg List.length ids
    rw [List.length_map] at length
    rw [List.length_append, outside] at total
    rw [outside] at matched
    rw [ids, foldl_showMatch _ _ _ _ _ _ (by rw [length]; omega), ← summaries_append]
    rfl

end Shown

/-! ## Searching -/

/-- The registry right after a refresh with the query as the hint. -/
def searching (iter : Iteration) (reg : Registry) (q : String) : Registry :=
  { reg with searchHint := some q }.refreshSearchMatches iter

/-- Whether a shown call matches the query under the filter of the UI. -/
def hit (q : String) (s : CallSummary) : Bool := Filter.matchesAll s.like (Filter.parse q.toList)

/-- Newest INVITE first. -/
def newerFirst (a b : CallSummary) : Prop := (b.inviteTs.getD 0).toNat ≤ (a.inviteTs.getD 0).toNat

instance : DecidableRel newerFirst := fun _ _ => Nat.decLe _ _
instance : Std.Total newerFirst := ⟨fun _ _ => Nat.le_total _ _⟩
instance : IsTrans CallSummary newerFirst := ⟨fun _ _ _ first second => Nat.le_trans second first⟩

/-- What the calls of a snapshot are, given a query. -/
structure ShowsSearch (iter : Iteration) (reg : Registry) (q : String) (limit : Nat)
    (calls : List CallSummary) : Prop where
  once : (calls.map CallSummary.callId).Nodup
  exact : ∀ s, s ∈ calls ↔ ∃ id call, reg.calls.lookup id = some call ∧ reg.callSummary iter call = s ∧
    (id ∈ window reg limit ∨ hit q s = true)
  sorted : calls.Pairwise newerFirst

theorem enumerated_searching {reg : Registry} (enumerated : Enumerated reg) (iter : Iteration) (q : String) :
    Enumerated (searching iter reg q) := by
  have calls : (searching iter reg q).calls = reg.calls := calls_refreshSearchMatches iter _
  have order : (searching iter reg q).order = reg.order := SearchPins.order_refreshSearchMatches iter _
  constructor
  case once => exact order ▸ enumerated.once
  case known => intro id; rw [order, calls]; exact enumerated.known id
  case named => intro id call present; rw [calls] at present; exact enumerated.named id call present
  case fits => exact order ▸ enumerated.fits

/-- Right after a search the snapshot shows the calls created last and every other
call that matches, each once, newest INVITE first. -/
theorem search_shown (iter iter' : Iteration) (reg : Registry) (enumerated : Enumerated reg) (q : String)
    (few : (matchingCalls { reg with searchHint := some q }).length ≤ Registry.searchPinMax)
    (limit streamLimit : Nat) :
    ShowsSearch iter' (searching iter reg q) q limit
      ((searching iter reg q).snapshotWith iter' limit streamLimit).1.calls := by
  have named : Named { reg with searchHint := some q } := enumerated.named
  have listed := enumerated_searching enumerated iter q
  have distinct : (searching iter reg q).searchMatches.Nodup := SearchPins.nodup_searchMatches iter named
  have shown := displayed_eq listed limit iter' distinct (SearchPins.length_searchMatches iter _)
  have matched : ∀ id, id ∈ (searching iter reg q).searchMatches ↔
      ∃ call, (searching iter reg q).calls.lookup id = some call ∧
        Filter.matchesAll call.like (Filter.parse q.toList) = true := by
    have calls : (searching iter reg q).calls = reg.calls := calls_refreshSearchMatches iter _
    rw [calls]
    exact mem_searchMatches iter named few
  generalize searching iter reg q = found at listed distinct shown matched ⊢
  have perm : ((found.snapshotWith iter' limit streamLimit).1.calls).Perm
      (summaries iter' found (window found limit ++ outside found limit)) := by
    rw [← shown]
    exact List.perm_insertionSort newerFirst _
  constructor
  case once =>
    refine (perm.map CallSummary.callId).nodup_iff.mpr ?_
    rw [callIds_summaries iter' listed.named fun id member =>
      (listed.known id).mp (shown_known listed limit id member)]
    exact shown_nodup listed limit distinct
  case exact =>
    intro s
    rw [perm.mem_iff, mem_summaries]
    constructor
    · rintro ⟨id, member, call, present, rfl⟩
      refine ⟨id, call, present, rfl, ?_⟩
      obtain inside | out := List.mem_append.mp member
      · exact .inl inside
      · obtain ⟨call', present', pass⟩ := (matched id).mp (List.mem_filter.mp out).1
        obtain rfl : call' = call := Option.some.inj (present'.symm.trans present)
        exact .inr pass
    · rintro ⟨id, call, present, rfl, inside | pass⟩
      · exact ⟨id, List.mem_append_left _ inside, call, present, rfl⟩
      · refine ⟨id, List.mem_append.mpr ?_, call, present, rfl⟩
        by_cases inside : id ∈ window found limit
        · exact .inl inside
        · have tracked : id ∈ found.calls := AList.lookup_isSome.mp (Option.isSome_of_eq_some present)
          have pinned := (matched id).mpr ⟨call, present, pass⟩
          exact .inr (List.mem_filter.mpr ⟨pinned, decide_eq_true ⟨inside, tracked⟩⟩)
  case sorted => exact List.pairwise_insertionSort newerFirst _

/-- Two calls, the older of which is searched for. -/
def twoCalls : Registry :=
  ((Correlator.new .stored {} "eth0").run
    [(.stored, .sip (sampleMsg 1 true (some .invite) none "INVITE" none)),
      (.stored, .sip { sampleMsg 2 true (some .invite) none "INVITE" none with callId := "c2" })]).reg

theorem search_shown_twoCalls : ShowsSearch .stored (searching .stored twoCalls "c1") "c1" 1
    ((searching .stored twoCalls "c1").snapshotWith .stored 1 1000).1.calls :=
  search_shown .stored .stored twoCalls
    (reachable_enumerated .stored {} "eth0" _ (by decide +kernel)) "c1" (by decide +kernel) 1 1000

end Sipmon.Guarantees.SnapshotWindow
