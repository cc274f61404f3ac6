import Sipmon.Guarantees.Views

/-!
# Per-IP traffic, attributed and pending

A meter reads one all-time counter off the rows of the per-IP store and the
matching residual off the streams. What a meter holds is the sum of both. While
it fits into 64 bits, every stage of the pipeline but two keeps it: an accepted
packet adds to it, and a stream evicted at the stream cap takes its residual away.
-/
namespace Sipmon.Guarantees.IpTraffic
open Source Lib Views

/-- One all-time counter per direction, of packets and of bytes. -/
inductive Meter where
  | txPkts | rxPkts | txBytes | rxBytes
  deriving DecidableEq

namespace Meter

/-- The counter in a row of the per-IP store. -/
def row : Meter → IpStats → Nat
  | .txPkts => fun s => s.pktsTx.toNat
  | .rxPkts => fun s => s.pktsRx.toNat
  | .txBytes => fun s => s.bytesTx.toNat
  | .rxBytes => fun s => s.bytesRx.toNat

/-- What a stream has counted and not attributed yet. -/
def pending : Meter → RtpStream → Nat
  | .txPkts | .rxPkts => fun s => s.acc.packetCount - s.ipattrPkts
  | .txBytes | .rxBytes => fun s => s.bytes - s.ipattrBytes

/-- What one packet of a payload length adds. -/
def weight : Meter → Nat → Nat
  | .txPkts | .rxPkts => fun _ => 1
  | .txBytes | .rxBytes => fun len => len

end Meter

/-- The counters of a stream, and how far each is attributed. -/
structure Counts where
  packets : Nat
  bytes : Nat
  attributedPackets : Nat
  attributedBytes : Nat

def counts (s : RtpStream) : Counts := ⟨s.acc.packetCount, s.bytes, s.ipattrPkts, s.ipattrBytes⟩

/-- No counter is attributed beyond its value. -/
structure Counts.Sound (n : Counts) : Prop where
  packets : n.attributedPackets ≤ n.packets
  bytes : n.attributedBytes ≤ n.bytes

theorem pending_of_counts {s t : RtpStream} (same : counts s = counts t) (m : Meter) :
    m.pending s = m.pending t := by
  obtain ⟨packets, bytes, attrPackets, attrBytes⟩ := Counts.mk.inj same
  cases m <;> simp only [Meter.pending, packets, bytes, attrPackets, attrBytes]

/-! ## One stream -/

theorem counts_applyClockRate (s : RtpStream) (rate : UInt32) :
    counts (s.applyClockRate rate) = counts s := by
  unfold RtpStream.applyClockRate MediaStatsAccumulator.setClockRate
  split
  · rfl
  · split <;> rfl

theorem counts_reclock (neg : NegotiatedMedia) (s : RtpStream) :
    counts (Correlator.reclock neg s) = counts s := by
  unfold Correlator.reclock
  split
  · split
    · exact counts_applyClockRate s _
    · rfl
  · rfl

theorem counts_sample (s : RtpStream) (ts : UInt64) : counts (s.sample ts) = counts s := by
  unfold RtpStream.sample
  split <;> rfl

theorem packetCount_observeSequence (acc : MediaStatsAccumulator) (seq : UInt16) :
    (acc.observeSequence seq).packetCount = acc.packetCount := by
  have forward : ∀ diff, (acc.forward seq diff).packetCount = acc.packetCount := by
    intro diff
    unfold MediaStatsAccumulator.forward
    split <;> rfl
  have reordered : ∀ age, (acc.reordered age).packetCount = acc.packetCount := by
    intro age
    unfold MediaStatsAccumulator.reordered
    split <;> rfl
  unfold MediaStatsAccumulator.observeSequence
  split
  · rfl
  · split
    · rfl
    · dsimp only
      split
      · rfl
      · split
        · exact forward _
        · exact reordered _

theorem packetCount_observe (acc : MediaStatsAccumulator) (ts : UInt64) (header : RtpHeader) :
    (acc.observe ts header).packetCount = acc.packetCount + 1 := by
  have jittered : ∀ (a : MediaStatsAccumulator) (rate : UInt32),
      (a.observeJitter ts header.timestamp rate).packetCount = a.packetCount := by
    intro a rate
    unfold MediaStatsAccumulator.observeJitter
    dsimp only
    split
    · split <;> rfl
    · rfl
  unfold MediaStatsAccumulator.observe
  dsimp only
  rw [jittered, packetCount_observeSequence]

/-- A packet counts once, and its attribution stays behind. -/
theorem counts_observe (s : RtpStream) (ts : UInt64) (header : RtpHeader) (len : Nat) :
    counts (s.observe ts header len) =
      { counts s with packets := s.acc.packetCount + 1, bytes := s.bytes + len } := by
  unfold RtpStream.observe
  dsimp only
  split
  · next unclocked =>
    have clocked := counts_applyClockRate { s with
      firstTsUs := s.firstTsUs.or (some ts), lastTsUs := some ts, bytes := s.bytes + len
      payloadType := s.payloadType.or (some header.payloadType) }
      (rtpClockRateForPayloadType header.payloadType)
    obtain ⟨packets, bytes, attrPackets, attrBytes⟩ := Counts.mk.inj clocked
    simp only [counts, packetCount_observe, packets, bytes, attrPackets, attrBytes]
  · simp only [counts, packetCount_observe]

theorem sound_observe {s : RtpStream} (sound : (counts s).Sound) (ts : UInt64) (header : RtpHeader)
    (len : Nat) : (counts (s.observe ts header len)).Sound := by
  rw [counts_observe]
  exact ⟨sound.packets.trans (Nat.le_add_right _ 1), sound.bytes.trans (Nat.le_add_right _ len)⟩

/-- What a packet adds to the residual of its stream. -/
theorem pending_observe {s : RtpStream} (sound : (counts s).Sound) (ts : UInt64) (header : RtpHeader)
    (len : Nat) (m : Meter) : m.pending (s.observe ts header len) = m.pending s + m.weight len := by
  obtain ⟨packets, bytes, attrPackets, attrBytes⟩ := Counts.mk.inj (counts_observe s ts header len)
  have packetsSound : s.ipattrPkts ≤ s.acc.packetCount := sound.packets
  have bytesSound : s.ipattrBytes ≤ s.bytes := sound.bytes
  cases m <;> simp only [Meter.pending, Meter.weight, packets, bytes, attrPackets, attrBytes, counts] <;>
    omega

theorem pending_marked (s : RtpStream) (m : Meter) : m.pending (Registry.markAttributed s) = 0 := by
  cases m <;> exact Nat.sub_self _

theorem sound_marked (s : RtpStream) : (counts (Registry.markAttributed s)).Sound :=
  ⟨le_refl _, le_refl _⟩

/-! ## The rows of the store -/

theorem toNat_add_of_fits {a b : UInt64} (fits : a.toNat + b.toNat < 2 ^ 64) :
    (a + b).toNat = a.toNat + b.toNat := by
  rw [UInt64.toNat_add, Nat.mod_eq_of_lt fits]

/-- The row an update starts from. -/
def before (store : IpStatsStore) (ip : IpAddr) : IpStats := (AList.lookup ip store).getD (.new ip)

/-- The total moves with the row. -/
theorem total_entry_add (m : Meter) (store : IpStatsStore) (ip : IpAddr) (update : IpStats → IpStats) :
    FiniteMap.total m.row (store.entry ip update) + m.row (before store ip) =
      FiniteMap.total m.row store + m.row (update (before store ip)) := by
  have inserted := FiniteMap.total_insert m.row ip (update (before store ip)) store
  have fresh : m.row (.new ip) = 0 := by cases m <;> rfl
  unfold IpStatsStore.entry FiniteMap.upsert before
  unfold before at inserted
  cases present : AList.lookup ip store with
  | none =>
    rw [present] at inserted
    simp only [Option.map_none, Option.getD_none, fresh] at inserted ⊢
    exact inserted
  | some s =>
    rw [present] at inserted
    simp only [Option.map_some, Option.getD_some] at inserted ⊢
    exact inserted

/-- A row that keeps the counter. -/
theorem total_entry_of_keeps (m : Meter) (store : IpStatsStore) (ip : IpAddr)
    {update : IpStats → IpStats} (keeps : ∀ s, m.row (update s) = m.row s) :
    FiniteMap.total m.row (store.entry ip update) = FiniteMap.total m.row store := by
  have moved := total_entry_add m store ip update
  rw [keeps] at moved
  exact Nat.add_right_cancel moved

/-- A row that gains `inc` while it fits. -/
theorem total_entry (m : Meter) (store : IpStatsStore) (ip : IpAddr) {update : IpStats → IpStats}
    {inc : Nat} (moves : ∀ s, m.row s + inc < 2 ^ 64 → m.row (update s) = m.row s + inc)
    (fits : FiniteMap.total m.row store + inc < 2 ^ 64) :
    FiniteMap.total m.row (store.entry ip update) = FiniteMap.total m.row store + inc := by
  have least : m.row (before store ip) ≤ FiniteMap.total m.row store := by
    have kept := total_entry_add m store ip fun _ => .new ip
    have fresh : m.row (.new ip) = 0 := by cases m <;> rfl
    omega
  have moved := total_entry_add m store ip update
  rw [moves (before store ip) (by omega)] at moved
  omega

theorem total_addActive (m : Meter) (store : IpStatsStore) (ip : IpAddr) (delta : Int) :
    FiniteMap.total m.row (store.addActive ip delta) = FiniteMap.total m.row store := by
  refine total_entry_of_keeps m store ip fun s => ?_
  cases m <;> rfl

/-- What a direction adds to a counter of one row. -/
def Meter.counted (m : Meter) (dir : Dir) (pkts bytes : UInt64) : Nat :=
  match m, dir with
  | .txPkts, .tx | .rxPkts, .rx => pkts.toNat
  | .txBytes, .tx | .rxBytes, .rx => bytes.toNat
  | _, _ => 0

theorem row_bump (m : Meter) (s : IpStats) (ts : UInt64) (update : Bucket → Bucket) :
    m.row (s.bump ts update) = m.row s := by cases m <;> rfl

theorem row_addPackets (m : Meter) (s : IpStats) (ts pkts bytes : UInt64) (dir : Dir)
    (fits : m.row s + m.counted dir pkts bytes < 2 ^ 64) :
    m.row (s.addPackets ts pkts bytes dir) = m.row s + m.counted dir pkts bytes := by
  unfold IpStats.addPackets
  split
  · next nothing =>
    obtain ⟨rfl, rfl⟩ := nothing
    cases m <;> cases dir <;> rfl
  · cases dir <;> dsimp only <;> rw [row_bump] <;> cases m
    all_goals first
      | rfl
      | exact toNat_add_of_fits fits

theorem row_addLost (m : Meter) (s : IpStats) (ts lost : UInt64) (dir : Dir) :
    m.row (s.addLost ts lost dir) = m.row s := by
  unfold IpStats.addLost
  split
  · rfl
  · cases dir <;> dsimp only <;> rw [row_bump] <;> cases m <;> rfl

/-- Attribution moves the residual of a stream to the rows of its two ends. -/
theorem total_attributeTo (m : Meter) (store : IpStatsStore) (s : RtpStream)
    (fits : FiniteMap.total m.row store + m.pending s < 2 ^ 64) :
    FiniteMap.total m.row (Registry.attributeTo store (Registry.ipAttr s)) =
      FiniteMap.total m.row store + m.pending s := by
  have packets : ∀ (store : IpStatsStore) (ip : IpAddr) (ts pkts bytes : UInt64) (dir : Dir),
      FiniteMap.total m.row store + m.counted dir pkts bytes < 2 ^ 64 →
      FiniteMap.total m.row (store.observePackets ip ts pkts bytes dir) =
        FiniteMap.total m.row store + m.counted dir pkts bytes := fun store ip ts pkts bytes dir =>
    total_entry m store ip fun s => row_addPackets m s ts pkts bytes dir
  have losses : ∀ (store : IpStatsStore) (ip : IpAddr) (ts lost : UInt64) (dir : Dir),
      FiniteMap.total m.row (store.observeLost ip ts lost dir) = FiniteMap.total m.row store :=
    fun store ip ts lost dir => total_entry_of_keeps m store ip fun s => row_addLost m s ts lost dir
  have both : m.counted .tx (Registry.ipAttr s).pkts (Registry.ipAttr s).bytes +
      m.counted .rx (Registry.ipAttr s).pkts (Registry.ipAttr s).bytes = m.pending s := by
    have small : m.pending s < 2 ^ 64 := by omega
    cases m <;> simp only [Meter.counted, Registry.ipAttr, RtpStream.snapshotStats,
      MediaStatsAccumulator.snapshot, Nat.add_zero, Nat.zero_add]
    all_goals exact UInt64.toNat_ofNat_of_lt' small
  unfold Registry.attributeTo
  dsimp only
  have moved : FiniteMap.total m.row
      (if 0 < (Registry.ipAttr s).pkts ∨ 0 < (Registry.ipAttr s).bytes then
        (store.observePackets (Registry.ipAttr s).srcIp (Registry.ipAttr s).tsUs
          (Registry.ipAttr s).pkts (Registry.ipAttr s).bytes .tx).observePackets
          (Registry.ipAttr s).dstIp (Registry.ipAttr s).tsUs
          (Registry.ipAttr s).pkts (Registry.ipAttr s).bytes .rx
      else store) = FiniteMap.total m.row store + m.pending s := by
    split
    · have sent := packets store (Registry.ipAttr s).srcIp (Registry.ipAttr s).tsUs
        (Registry.ipAttr s).pkts (Registry.ipAttr s).bytes .tx (by omega)
      rw [packets _ _ _ _ _ .rx (by omega), sent]
      omega
    · next nothing =>
      have zero : (Registry.ipAttr s).pkts = 0 ∧ (Registry.ipAttr s).bytes = 0 := by
        simpa only [UInt64.pos_iff_ne_zero, not_or, not_not] using nothing
      rw [zero.1, zero.2] at both
      have nothingMore : m.counted .tx 0 0 + m.counted .rx 0 0 = 0 := by cases m <;> rfl
      omega
  split
  · rw [losses, losses, moved]
  · exact moved

/-! ## What a registry holds -/

def held (m : Meter) (reg : Registry) : Nat :=
  FiniteMap.total m.row reg.ipstats + FiniteMap.total m.pending reg.streams

/-- The counters of every tracked stream are as `P` says. -/
def Every (P : Counts → Prop) (reg : Registry) : Prop :=
  ∀ k s, reg.streams.lookup k = some s → P (counts s)

/-- What attribution establishes of a stream. -/
def Attributed (P : Counts → Prop) : Prop := ∀ s, P (counts (Registry.markAttributed s))

/-- A stage that keeps what is held while it fits, except for the residuals it loses. -/
structure Balanced (lost : Meter → Nat) (reg after : Registry) : Prop where
  held : ∀ m, held m reg < 2 ^ 64 → held m after + lost m = held m reg
  every : ∀ P, Attributed P → Every P reg → Every P after

/-- A stage that loses nothing. -/
abbrev Keeps (reg after : Registry) : Prop := Balanced (fun _ => 0) reg after

theorem Balanced.trans {lost more : Meter → Nat} {a b c : Registry} (first : Balanced lost a b)
    (second : Balanced more b c) : Balanced (fun m => lost m + more m) a c := by
  refine ⟨fun m fits => ?_, fun P marked all => second.every P marked (first.every P marked all)⟩
  have early := first.held m fits
  have late := second.held m (by omega)
  omega

theorem Balanced.then_keeps {lost : Meter → Nat} {a b c : Registry} (first : Balanced lost a b)
    (second : Keeps b c) : Balanced lost a c := first.trans second

theorem Balanced.andThen {lost : Meter → Nat} {a b c : Registry} (first : Keeps a b)
    (second : Balanced lost b c) : Balanced lost a c := by
  have both := first.trans second
  simpa only [Nat.zero_add] using both

theorem Balanced.of_same {reg after : Registry} (streams : after.streams = reg.streams)
    (ipstats : after.ipstats = reg.ipstats) : Keeps reg after := by
  refine ⟨fun m _ => ?_, fun P _ all k s present => all k s (by rwa [← streams])⟩
  simp only [IpTraffic.held, streams, ipstats, Nat.add_zero]

theorem Balanced.refl (reg : Registry) : Keeps reg reg := .of_same rfl rfl

theorem Balanced.foldl {α : Type} {op : Registry → α → Registry} (one : ∀ reg a, Keeps reg (op reg a))
    (l : List α) (reg : Registry) : Keeps reg (l.foldl op reg) := by
  induction l generalizing reg with
  | nil => exact .refl reg
  | cons a rest ih => exact (one reg a).andThen (ih (op reg a))

theorem keeps_updateStream (reg : Registry) (key : StreamKey) {f : RtpStream → RtpStream}
    (same : ∀ s, counts (f s) = counts s) : Keeps reg (reg.updateStream key f) := by
  refine ⟨fun m _ => ?_, fun P _ all k s present => ?_⟩
  · have kept := FiniteMap.total_modify_of_keeps (fun s => pending_of_counts (same s) m) key reg.streams
    simp only [held, Registry.updateStream, kept, Nat.add_zero]
  · unfold Registry.updateStream at present
    rw [FiniteMap.lookup_modify] at present
    split at present
    · obtain ⟨t, before, rfl⟩ := Option.map_eq_some_iff.mp present
      rw [same t]
      exact all k t before
    · exact all k s present

theorem keeps_addActive (reg : Registry) (ip : IpAddr) (delta : Int) :
    Keeps reg { reg with ipstats := reg.ipstats.addActive ip delta } :=
  ⟨fun m _ => by simp only [held, total_addActive, Nat.add_zero], fun _ _ all => all⟩

/-- Attribution moves a residual from the stream to the store. -/
theorem keeps_flushStreamIpattr (reg : Registry) (key : StreamKey) :
    Keeps reg (reg.flushStreamIpattr key) := by
  unfold Registry.flushStreamIpattr
  cases present : reg.streams.lookup key with
  | none => exact .refl reg
  | some s =>
    refine ⟨fun m fits => ?_, fun P marked all k t listed => ?_⟩
    · have tracked := FiniteMap.total_erase m.pending key reg.streams
      rw [present, Option.map_some, Option.getD_some] at tracked
      rw [IpTraffic.held] at fits
      have rows := total_attributeTo m reg.ipstats s (by omega)
      have streams := FiniteMap.total_modify m.pending key Registry.markAttributed reg.streams
      rw [present] at streams
      simp only [Option.map_some, Option.getD_some, Function.comp_apply, pending_marked] at streams
      simp only [held, Registry.updateStream]
      omega
    · simp only [Registry.updateStream] at listed
      rw [FiniteMap.lookup_modify] at listed
      split at listed
      · obtain ⟨u, _, rfl⟩ := Option.map_eq_some_iff.mp listed
        exact marked u
      · exact all k t listed

/-- The residual of a stream that may be tracked. -/
def residual (reg : Registry) (key : StreamKey) (m : Meter) : Nat :=
  ((reg.streams.lookup key).map m.pending).getD 0

theorem balanced_erase (reg : Registry) (key : StreamKey) :
    Balanced (residual reg key) reg { reg with streams := reg.streams.erase key } := by
  refine ⟨fun m _ => ?_, fun P _ all k s present => ?_⟩
  · have erased := FiniteMap.total_erase m.pending key reg.streams
    simp only [held, residual]
    omega
  · rw [FiniteMap.lookup_erase_iff] at present
    split at present
    · cases present
    · exact all k s present

theorem residual_flushed (reg : Registry) (key : StreamKey) (m : Meter) :
    residual (reg.flushStreamIpattr key) key m = 0 := by
  unfold residual Registry.flushStreamIpattr
  cases present : reg.streams.lookup key with
  | none => simp only [present, Option.map_none, Option.getD_none]
  | some s =>
    simp only [Registry.updateStream, FiniteMap.lookup_modify, if_pos, present, Option.map_some,
      Option.getD_some, pending_marked]

theorem keeps_dropStream (reg : Registry) (key : StreamKey) : Keeps reg (reg.dropStream key) := by
  have flushed := keeps_flushStreamIpattr reg key
  have forgotten : Keeps (reg.flushStreamIpattr key) ((reg.flushStreamIpattr key).forgetStream key) :=
    .of_same rfl rfl
  have erased := balanced_erase ((reg.flushStreamIpattr key).forgetStream key) key
  have nothing : residual ((reg.flushStreamIpattr key).forgetStream key) key = fun _ => 0 :=
    funext (residual_flushed reg key)
  rw [nothing] at erased
  exact (flushed.andThen forgotten).andThen erased

theorem keeps_removeCalls (reg : Registry) (ids : List String) : Keeps reg (reg.removeCalls ids) := by
  have dropped : ∀ (reg : Registry) (id : String), Keeps reg (reg.dropCall id) := by
    intro reg id
    have removed : Keeps reg { reg with calls := reg.calls.erase id, removed := reg.removed ++ [id]
                                        streamIndex := reg.streamIndex.erase id } := .of_same rfl rfl
    exact removed.andThen (.foldl keeps_dropStream (reg.callStreamKeys id) _)
  have all := Balanced.foldl dropped ids reg
  exact all.andThen (.of_same rfl rfl)

/-! ## The stream cap -/

theorem excessStreams_nodup (iter : Iteration) (reg : Registry) : (reg.excessStreams iter).Nodup := by
  unfold Registry.excessStreams
  dsimp only
  refine List.Nodup.sublist (List.Sublist.map Prod.fst (List.take_sublist _ _)) ?_
  have listed : (reg.streams.toList.map Prod.fst).Nodup := by
    have keys := reg.streams.keys_nodup
    rw [FiniteMap.toList, List.map_map]
    exact keys
  have sorted := ((List.perm_insertionSort (fun a b : StreamKey × RtpStream =>
    (a.2.firstTsUs.map UInt64.toNat).getD (2 ^ 64 - 1) ≤
      (b.2.firstTsUs.map UInt64.toNat).getD (2 ^ 64 - 1)) (iter.order reg.streams.toList)).trans
    (iter.perm _)).map Prod.fst
  exact sorted.nodup_iff.mpr listed

theorem balanced_evictStreams {keys : List StreamKey} (unique : keys.Nodup) (reg : Registry) :
    Balanced (fun m => ((keys.filterMap reg.streams.lookup).map m.pending).sum) reg
      (keys.foldl Registry.evictStream reg) := by
  induction keys generalizing reg with
  | nil => exact Balanced.refl reg
  | cons key rest ih =>
    have nodup := List.nodup_cons.mp unique
    have forgotten : Keeps reg (reg.forgetStream key) := .of_same rfl rfl
    have erased := forgotten.andThen (balanced_erase (reg.forgetStream key) key)
    have evicted := erased.trans (ih nodup.2 (reg.evictStream key))
    have others : rest.filterMap (reg.evictStream key).streams.lookup =
        rest.filterMap reg.streams.lookup := by
      refine List.filterMap_congr fun k member => ?_
      have different : k ≠ key := fun same => nodup.1 (same ▸ member)
      exact (FiniteMap.lookup_erase_iff k key reg.streams).trans (if_neg different)
    rw [others] at evicted
    refine ⟨fun m fits => ?_, evicted.every⟩
    have moved := evicted.held m fits
    rw [List.foldl_cons]
    rw [← moved]
    have first : residual (reg.forgetStream key) key m =
        ((reg.streams.lookup key).map m.pending).getD 0 := rfl
    rw [first, List.filterMap_cons]
    cases reg.streams.lookup key with
    | none => simp
    | some s => simp

/-- The registry once the calls beyond the cap are gone. -/
def cutCalls (reg : Registry) : Registry :=
  if reg.maxCalls < reg.calls.size then reg.removeCalls reg.excessCalls else reg

/-- The streams evicted at the stream cap. -/
def capTails (iter : Iteration) (reg : Registry) : List RtpStream :=
  if (cutCalls reg).maxStreams < (cutCalls reg).streams.size then
    ((cutCalls reg).excessStreams iter).filterMap (cutCalls reg).streams.lookup
  else []

/-- What a list of streams has pending. -/
def tailsPending (tails : List RtpStream) (m : Meter) : Nat := (tails.map m.pending).sum

theorem balanced_evictIfNeeded (iter : Iteration) (reg : Registry) :
    Balanced (tailsPending (capTails iter reg)) reg (reg.evictIfNeeded iter) := by
  have cut : Keeps reg (cutCalls reg) := by
    unfold cutCalls
    split
    · exact keeps_removeCalls reg _
    · exact .refl reg
  refine cut.andThen ?_
  have unfolded : reg.evictIfNeeded iter =
      if (cutCalls reg).maxStreams < (cutCalls reg).streams.size then
        ((cutCalls reg).excessStreams iter).foldl Registry.evictStream (cutCalls reg)
      else cutCalls reg := rfl
  rw [unfolded]
  unfold capTails
  split
  · exact balanced_evictStreams (excessStreams_nodup iter _) _
  · exact Balanced.refl _

end Sipmon.Guarantees.IpTraffic
