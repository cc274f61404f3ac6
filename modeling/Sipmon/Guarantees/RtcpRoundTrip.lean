import Sipmon.Lib.Framing
import Sipmon.Source.RtcpDecode

/-!
# Compound RTCP decodes to its members

A compound packet is a stream of members that carry their length. The decoder
accesses no byte that is not there, and computes the list the ingest model reads.
-/
namespace Sipmon.Guarantees.RtcpRoundTrip
open Source
open Lib Lib.BigEndian Lib.CheckedAccess Lib.Framing
open Lib.ByteReader (Bytes)

/-! ## Checked accesses -/

section Reads
variable {data : Bytes} {i : Nat}

theorem be32At_eq (inside : i + 4 ≤ data.length) : RtcpDecode.be32At data i = .ok (be32 data i) := by
  obtain ⟨a, b, c, d, rest, behind⟩ : ∃ a b c d rest, data.drop i = a :: b :: c :: d :: rest := by
    have long : 4 ≤ (data.drop i).length := by
      rw [List.length_drop]
      omega
    match data.drop i, long with
    | a :: b :: c :: d :: rest, _ => exact ⟨a, b, c, d, rest, rfl⟩
  have read (k : Nat) : index data (i + k) = index (a :: b :: c :: d :: rest) k := by rw [index_drop, behind]
  have first : index data i = .ok a := read 0
  unfold RtcpDecode.be32At be32
  rw [first, read 1, read 2, read 3, behind]
  rfl

theorem be16At_eq (inside : i + 2 ≤ data.length) : FrameDecode.be16At data i = .ok (be16 data i) := by
  obtain ⟨a, b, rest, behind⟩ : ∃ a b rest, data.drop i = a :: b :: rest := by
    have long : 2 ≤ (data.drop i).length := by
      rw [List.length_drop]
      omega
    match data.drop i, long with
    | a :: b :: rest, _ => exact ⟨a, b, rest, rfl⟩
  have read (k : Nat) : index data (i + k) = index (a :: b :: rest) k := by rw [index_drop, behind]
  have first : index data i = .ok a := read 0
  unfold FrameDecode.be16At be16
  rw [first, read 1, behind]
  simp [ofBytes]

theorem index_getD (inside : i < data.length) : index data i = .ok (data.getD i 0) := by
  rw [index, List.getElem?_eq_getElem inside, List.getD_eq_getElem?_getD, List.getElem?_eq_getElem inside,
    Option.getD_some]

/-- The shift brings the three bytes back with their sign. -/
theorem cumulativeLostAt_eq (inside : 8 ≤ data.length) :
    RtcpDecode.cumulativeLostAt data = .ok (beI24 data 5) := by
  obtain ⟨a, b, c, rest, behind⟩ : ∃ a b c rest, data.drop 5 = a :: b :: c :: rest := by
    have long : 3 ≤ (data.drop 5).length := by
      rw [List.length_drop]
      omega
    match data.drop 5, long with
    | a :: b :: c :: rest, _ => exact ⟨a, b, c, rest, rfl⟩
  have read (k : Nat) : index data (5 + k) = index (a :: b :: c :: rest) k := by rw [index_drop, behind]
  have value : ofBytes [a, b, c, 0] = ofBytes [a, b, c] * 256 := by
    rw [show [a, b, c, 0] = [a, b, c] ++ [0] from rfl, ofBytes_append_byte, UInt8.toNat_zero, Nat.add_zero]
  have bound := ofBytes_lt [a, b, c]
  have high : index data 5 = .ok a := read 0
  have mid : index data 6 = .ok b := read 1
  have low : index data 7 = .ok c := read 2
  unfold RtcpDecode.cumulativeLostAt beI24
  rw [high, mid, low, behind]
  change Except.ok ((BitVec.ofNat 32 (ofBytes [a, b, c, 0])).sshiftRight 8).toInt = Except.ok
    (if ofBytes [a, b, c] < 2 ^ 23 then (ofBytes [a, b, c] : Int) else ofBytes [a, b, c] - 2 ^ 24)
  rw [value, BitVec.toInt_sshiftRight, Int.shiftRight_eq_div_pow, BitVec.toInt_ofNat']
  generalize ofBytes [a, b, c] = n at bound
  have small : n < 2 ^ 24 := by simpa using bound
  rw [Except.ok.injEq]
  by_cases positive : n < 2 ^ 23
  · rw [if_pos positive, Int.bmod_eq_of_le (by omega) (by omega)]
    omega
  · have wrapped : ((n * 256 : ℕ) : Int).bmod (2 ^ 32) = (n * 256 : ℕ) - 2 ^ 32 := by
      rw [Int.bmod_def]
      omega
    rw [if_neg positive, wrapped]
    omega

end Reads

/-! ## The checked decoder computes the list of the model -/

theorem reportBlockAt_eq {b : Bytes} (whole : 24 ≤ b.length) :
    RtcpDecode.reportBlockAt b = .ok (reportBlock b) := by
  unfold RtcpDecode.reportBlockAt reportBlock
  rw [be32At_eq (by omega), ok_bind, index_getD (by omega), ok_bind, cumulativeLostAt_eq (by omega), ok_bind,
    be32At_eq (by omega), ok_bind, be32At_eq (by omega), ok_bind, be32At_eq (by omega), ok_bind,
    be32At_eq (by omega), ok_bind]
  rfl

/-- A block reads nothing behind its 24 bytes. -/
theorem reportBlock_take (b : Bytes) : reportBlock (b.take 24) = reportBlock b := by
  have window (k n : Nat) (inside : k + n ≤ 24) : ((b.take 24).drop k).take n = (b.drop k).take n := by
    rw [List.drop_take, List.take_take, Nat.min_eq_left (by omega)]
  have fourth : (b.take 24).getD 4 0 = b.getD 4 0 := by
    rw [List.getD_eq_getElem?_getD, List.getD_eq_getElem?_getD, List.getElem?_take_of_lt (by decide)]
  unfold reportBlock be32 beI24
  rw [window 0 4 (by decide), window 8 4 (by decide), window 12 4 (by decide), window 16 4 (by decide),
    window 20 4 (by decide), window 5 3 (by decide), fourth]

theorem parseReportBlocks_eq (member : Bytes) (off count : Nat) :
    RtcpDecode.parseReportBlocks member off count = .ok (parseReportBlocks (member.drop off) count) := by
  induction count generalizing off with
  | zero => rfl
  | succ count ih =>
    rw [RtcpDecode.parseReportBlocks, parseReportBlocks, List.length_drop]
    by_cases short : member.length < off + 24
    · rw [if_pos short, if_pos (by omega)]
    · have long : 24 ≤ ((member.drop off).take 24).length := by
        rw [List.length_take, List.length_drop]
        omega
      rw [if_neg short, if_neg (by omega), slice_drop (by omega), ok_bind, reportBlockAt_eq long, ok_bind, ih,
        ok_bind, reportBlock_take, List.drop_drop]
      rfl

theorem senderInfoAt_eq {member : Bytes} (whole : 28 ≤ member.length) :
    RtcpDecode.senderInfoAt member = .ok
      { ntpSecs := be32 member 8, ntpFrac := be32 member 12, rtpTimestamp := be32 member 16
        senderPacketCount := be32 member 20, senderOctetCount := be32 member 24 } := by
  unfold RtcpDecode.senderInfoAt
  rw [be32At_eq (by omega), ok_bind, be32At_eq (by omega), ok_bind, be32At_eq (by omega), ok_bind,
    be32At_eq (by omega), ok_bind, be32At_eq (by omega), ok_bind]
  rfl

theorem memberMessage_eq (member : Bytes) :
    RtcpDecode.memberMessage member (member.getD 0 0 &&& 0x1f).toNat (member.getD 1 0) =
      .ok (parseMember member) := by
  unfold RtcpDecode.memberMessage parseMember
  dsimp only
  by_cases short : member.length < 8
  · rw [if_pos short, if_pos short]
  · rw [if_neg short, if_neg short, be32At_eq (by omega), ok_bind]
    by_cases sender : member.getD 1 0 = ptSr
    · rw [if_pos sender, if_pos sender]
      by_cases cut : member.length < 28
      · rw [if_pos cut, if_pos cut]
        rfl
      · rw [if_neg cut, if_neg cut, senderInfoAt_eq (by omega), ok_bind, parseReportBlocks_eq, ok_bind]
        rfl
    · rw [if_neg sender, if_neg sender]
      by_cases receiver : member.getD 1 0 = ptRr
      · rw [if_pos receiver, if_pos receiver, parseReportBlocks_eq, ok_bind]
        rfl
      · rw [if_neg receiver, if_neg receiver]
        rfl

theorem parseAllFrom_eq (payload : Bytes) (off : Nat) :
    RtcpDecode.parseAllFrom payload off = .ok (parseAll (payload.drop off)) := by
  induction left : payload.length - off using Nat.strong_induction_on generalizing off with
  | _ left ih =>
    subst left
    have length : (payload.drop off).length = payload.length - off := List.length_drop
    rw [RtcpDecode.parseAllFrom, parseAll]
    dsimp only
    by_cases ended : payload.length < off + 4
    · rw [dif_pos ended, if_pos (by omega)]
    · have word : FrameDecode.be16At payload (off + 2) = .ok (be16 (payload.drop off) 2) := by
        rw [be16At_eq (by omega), be16, be16, List.drop_drop]
      have first : index payload off = .ok ((payload.drop off).getD 0 0) := by
        rw [← index_getD (by omega)]
        exact index_drop payload off 0
      have second : index payload (off + 1) = .ok ((payload.drop off).getD 1 0) := by
        rw [← index_getD (by omega)]
        exact index_drop payload off 1
      rw [dif_neg ended, first, ok_bind, second, ok_bind, word, ok_bind]
      generalize bytes : ((be16 (payload.drop off) 2).toNat + 1) * 4 = memberBytes
      by_cases cut : payload.length < off + memberBytes
      · rw [if_pos cut, if_pos (by omega)]
        rfl
      · have head (k : Nat) (small : k < 4) :
            ((payload.drop off).take memberBytes).getD k 0 = (payload.drop off).getD k 0 := by
          rw [List.getD_eq_getElem?_getD, List.getD_eq_getElem?_getD, List.getElem?_take_of_lt (by omega)]
        rw [if_neg cut, if_neg (by omega), slice_drop (by omega), ok_bind, ← head 0 (by decide),
          ← head 1 (by decide), memberMessage_eq, ok_bind, ih (payload.length - (off + memberBytes)) (by omega) _ rfl,
          ok_bind, List.drop_drop]
        rfl

/-- Nothing is read out of bounds, whatever the bytes. -/
theorem parseAll_eq (payload : Bytes) : RtcpDecode.parseAll payload = .ok (parseAll payload) :=
  parseAllFrom_eq payload 0

/-! ## Members on the wire -/

/-- A member: the header, with the length in words, and what follows it. -/
def framed (first pt : UInt8) (body : Bytes) : Bytes := first :: pt :: (toBytes 2 (body.length / 4) ++ body)

def number (n : UInt32) : Bytes := toBytes 4 n.toNat

/-- A signed number of 24 bits. -/
def signed24 (n : Int) : Bytes := toBytes 3 (n % 2 ^ 24).toNat

def blockBytes (b : ReportBlock) : Bytes :=
  number b.ssrc ++ (b.fractionLost :: (signed24 b.cumulativeLost ++ (number b.highestSeq ++ (number b.jitter ++
    (number b.lsr ++ number b.dlsr)))))

def senderBytes (s : SenderInfo) : Bytes :=
  number s.ntpSecs ++ (number s.ntpFrac ++ (number s.rtpTimestamp ++ (number s.senderPacketCount ++
    number s.senderOctetCount)))

/-- Report blocks that a report can carry. -/
structure Carried (blocks : List ReportBlock) : Prop where
  few : blocks.length ≤ 31
  signed : ∀ b ∈ blocks, -2 ^ 23 ≤ b.cumulativeLost ∧ b.cumulativeLost < 2 ^ 23

inductive Member where
  | sr (report : SrReport) (carried : Carried report.reports)
  | rr (report : RrReport) (carried : Carried report.reports)
  /-- Any other type, of whole words behind the header. -/
  | other (first pt : UInt8) (body : Bytes) (kind : pt ≠ ptSr ∧ pt ≠ ptRr) (filled : 4 ≤ body.length)
      (words : body.length % 4 = 0) (short : body.length / 4 < 2 ^ 16)

namespace Member

def message : Member → RtcpMessage
  | .sr report _ => .sr report
  | .rr report _ => .rr report
  | .other _ pt _ _ _ _ _ => .other pt

/-- Version 2, no padding, and the number of report blocks. -/
def first (reports : List ReportBlock) : UInt8 := UInt8.ofNat (0x80 + reports.length)

def bytes : Member → Bytes
  | .sr report _ => framed (first report.reports) ptSr
      (number report.ssrc ++ (senderBytes report.sender ++ report.reports.flatMap blockBytes))
  | .rr report _ => framed (first report.reports) ptRr (number report.ssrc ++ report.reports.flatMap blockBytes)
  | .other first pt body _ _ _ _ => framed first pt body

end Member

/-! ## Reading a member back -/

theorem be32_of_take {bs : Bytes} {i : Nat} {n : UInt32} (field : (bs.drop i).take 4 = number n) :
    be32 bs i = n := by
  have bound := n.toNat_lt
  unfold be32
  rw [field, number, ofBytes_toBytes 4 _ (by omega), UInt32.ofNat_toNat]

theorem beI24_of_take {bs : Bytes} {i : Nat} {n : Int} (field : (bs.drop i).take 3 = signed24 n)
    (signed : -2 ^ 23 ≤ n ∧ n < 2 ^ 23) : beI24 bs i = n := by
  unfold beI24
  rw [field, signed24, ofBytes_toBytes 3 _ (by omega)]
  dsimp only
  split <;> omega

theorem length_blockBytes (b : ReportBlock) : (blockBytes b).length = 24 := rfl

theorem reportBlock_bytes {b : ReportBlock} (signed : -2 ^ 23 ≤ b.cumulativeLost ∧ b.cumulativeLost < 2 ^ 23)
    (rest : Bytes) : reportBlock (blockBytes b ++ rest) = b := by
  unfold reportBlock
  rw [be32_of_take (n := b.ssrc) rfl, be32_of_take (n := b.highestSeq) rfl, be32_of_take (n := b.jitter) rfl,
    be32_of_take (n := b.lsr) rfl, be32_of_take (n := b.dlsr) rfl,
    beI24_of_take (n := b.cumulativeLost) rfl signed]
  rfl

theorem parseReportBlocks_bytes {blocks : List ReportBlock}
    (signed : ∀ b ∈ blocks, -2 ^ 23 ≤ b.cumulativeLost ∧ b.cumulativeLost < 2 ^ 23) :
    parseReportBlocks (blocks.flatMap blockBytes) blocks.length = blocks := by
  induction blocks with
  | nil => rfl
  | cons b rest ih =>
    have length : (blockBytes b ++ rest.flatMap blockBytes).length = 24 + (rest.flatMap blockBytes).length := by
      rw [List.length_append, length_blockBytes]
    rw [List.flatMap_cons, List.length_cons, parseReportBlocks, if_neg (by omega),
      reportBlock_bytes (signed b List.mem_cons_self), List.drop_left' (length_blockBytes b),
      ih fun b member => signed b (List.mem_cons_of_mem _ member)]

theorem length_framed (first pt : UInt8) (body : Bytes) : (framed first pt body).length = body.length + 4 := by
  unfold framed
  rw [List.length_cons, List.length_cons, List.length_append, toBytes_length]
  omega

theorem length_blocks (blocks : List ReportBlock) : (blocks.flatMap blockBytes).length = 24 * blocks.length := by
  induction blocks with
  | nil => rfl
  | cons b rest ih =>
    rw [List.flatMap_cons, List.length_append, length_blockBytes, ih, List.length_cons]
    omega

theorem count_first {reports : List ReportBlock} (few : reports.length ≤ 31) :
    (Member.first reports &&& 0x1f).toNat = reports.length := by
  have range : ∀ n : Fin 32, (UInt8.ofNat (0x80 + n.val) &&& 0x1f).toNat = n.val := by decide
  exact range ⟨reports.length, by omega⟩

theorem parseMember_bytes (m : Member) : parseMember m.bytes = some m.message := by
  cases m with
  | sr report carried =>
    have count : ((Member.sr report carried).bytes.getD 0 0 &&& 0x1f).toNat = report.reports.length :=
      count_first carried.few
    have length : (Member.sr report carried).bytes.length = 28 + 24 * report.reports.length := by
      rw [Member.bytes, length_framed, List.length_append, List.length_append, length_blocks]
      change 4 + (20 + _) + 4 = _
      omega
    have kind : (Member.sr report carried).bytes.getD 1 0 = ptSr := rfl
    have behind : (Member.sr report carried).bytes.drop 28 = report.reports.flatMap blockBytes := rfl
    unfold parseMember
    dsimp only
    rw [count, length, if_neg (by omega), if_pos kind, if_neg (by omega), behind,
      parseReportBlocks_bytes carried.signed, be32_of_take (n := report.ssrc) rfl,
      be32_of_take (n := report.sender.ntpSecs) rfl, be32_of_take (n := report.sender.ntpFrac) rfl,
      be32_of_take (n := report.sender.rtpTimestamp) rfl, be32_of_take (n := report.sender.senderPacketCount) rfl,
      be32_of_take (n := report.sender.senderOctetCount) rfl]
    rfl
  | rr report carried =>
    have count : ((Member.rr report carried).bytes.getD 0 0 &&& 0x1f).toNat = report.reports.length :=
      count_first carried.few
    have length : (Member.rr report carried).bytes.length = 8 + 24 * report.reports.length := by
      rw [Member.bytes, length_framed, List.length_append, length_blocks]
      change 4 + _ + 4 = _
      omega
    have kind : (Member.rr report carried).bytes.getD 1 0 = ptRr := rfl
    have behind : (Member.rr report carried).bytes.drop 8 = report.reports.flatMap blockBytes := rfl
    have differs : ptRr ≠ ptSr := by decide
    unfold parseMember
    dsimp only
    rw [count, length, if_neg (by omega), kind, if_neg differs, if_pos rfl, behind,
      parseReportBlocks_bytes carried.signed, be32_of_take (n := report.ssrc) rfl]
    rfl
  | other first pt body kind filled words short =>
    have type : (Member.other first pt body kind filled words short).bytes.getD 1 0 = pt := rfl
    unfold parseMember
    dsimp only
    rw [type, Member.bytes, length_framed, if_neg (by omega), if_neg kind.1, if_neg kind.2]
    rfl

/-! ## The stream of members -/

/-- One member off the front, as `parse_all` advances. -/
def cutMember : Framer UInt8 := fun payload =>
  let memberBytes := ((be16 payload 2).toNat + 1) * 4
  if payload.length < 4 ∨ payload.length < memberBytes then none
  else some (payload.take memberBytes, payload.drop memberBytes)

theorem parseAll_drains {payload left : Bytes} {frames : List Bytes} (drained : Drains cutMember payload frames left) :
    parseAll payload = frames.filterMap parseMember := by
  induction drained with
  | @wait buffer waits =>
    unfold cutMember at waits
    rw [parseAll]
    dsimp only at waits ⊢
    by_cases cut : buffer.length < 4 ∨ buffer.length < ((be16 buffer 2).toNat + 1) * 4
    · rw [if_pos cut]
      rfl
    · rw [if_neg cut] at waits
      cases waits
  | @frame buffer front rest frames left cut more ih =>
    unfold cutMember at cut
    rw [parseAll]
    dsimp only at cut ⊢
    split at cut
    · cases cut
    · next whole =>
      obtain ⟨rfl, rfl⟩ := Prod.mk.inj (Option.some.inj cut)
      rw [if_neg whole, ih, List.filterMap_cons]
      cases parseMember (buffer.take (((be16 buffer 2).toNat + 1) * 4)) <;> rfl

theorem be16_append {payload : Bytes} (long : 4 ≤ payload.length) (more : Bytes) :
    be16 (payload ++ more) 2 = be16 payload 2 := by
  unfold be16
  rw [List.drop_append_of_le_length (by omega), List.take_append_of_le_length (by rw [List.length_drop]; omega)]

theorem stable_cutMember : Stable cutMember := by
  intro buffer front rest cut more
  unfold cutMember at cut ⊢
  dsimp only at cut ⊢
  split at cut
  · cases cut
  · next whole =>
    obtain ⟨rfl, rfl⟩ := Prod.mk.inj (Option.some.inj cut)
    rw [be16_append (by omega), if_neg (by rw [List.length_append]; omega),
      List.take_append_of_le_length (by omega), List.drop_append_of_le_length (by omega)]

section Framed
variable (first pt : UInt8) {body : Bytes} (words : body.length % 4 = 0) (short : body.length / 4 < 2 ^ 16)

include short in
theorem words_framed : (be16 (framed first pt body) 2).toNat = body.length / 4 := by
  have field : ((framed first pt body).drop 2).take 2 = toBytes 2 (body.length / 4) := rfl
  unfold be16
  rw [field, ofBytes_toBytes 2 _ (by omega), UInt16.toNat_ofNat']
  omega

include words short in
theorem cut_framed : cutMember (framed first pt body) = some (framed first pt body, []) := by
  have length := length_framed first pt body
  unfold cutMember
  dsimp only
  rw [words_framed first pt short, if_neg (by omega), List.take_of_length_le (by omega),
    List.drop_eq_nil_of_le (by omega)]

include words short in
theorem cut_beginning {k : Nat} (beginning : k < (framed first pt body).length) :
    cutMember ((framed first pt body).take k) = none := by
  have length := length_framed first pt body
  have taken : ((framed first pt body).take k).length = k := by
    rw [List.length_take]
    omega
  unfold cutMember
  dsimp only
  by_cases header : k < 4
  · rw [if_pos (by omega)]
  · have same : be16 ((framed first pt body).take k) 2 = be16 (framed first pt body) 2 := by
      rw [← be16_append (by omega) ((framed first pt body).drop k), List.take_append_drop]
    rw [same, words_framed first pt short, if_pos (by omega)]

end Framed

theorem Member.framed_bytes (m : Member) : ∃ first pt body,
    m.bytes = framed first pt body ∧ body.length % 4 = 0 ∧ body.length / 4 < 2 ^ 16 := by
  cases m with
  | sr report carried =>
    have few := carried.few
    have length : (number report.ssrc ++ (senderBytes report.sender ++ report.reports.flatMap blockBytes)).length =
        24 + 24 * report.reports.length := by
      rw [List.length_append, List.length_append, length_blocks]
      change 4 + (20 + _) = _
      omega
    exact ⟨_, _, _, rfl, by omega, by omega⟩
  | rr report carried =>
    have few := carried.few
    have length : (number report.ssrc ++ report.reports.flatMap blockBytes).length =
        4 + 24 * report.reports.length := by
      rw [List.length_append, length_blocks]
      rfl
    exact ⟨_, _, _, rfl, by omega, by omega⟩
  | other first pt body kind filled words short => exact ⟨first, pt, body, rfl, words, short⟩

/-- The members that lie wholly in the first `n` bytes. -/
def inside (members : List Member) (n : Nat) : List Member := within (fun m => m.bytes.length) members n

theorem parseAll_take (members : List Member) (n : Nat) :
    parseAll ((members.flatMap Member.bytes).take n) = (inside members n).map Member.message := by
  have complete : ∀ front ∈ members.map Member.bytes, cutMember front = some (front, []) := by
    intro front listed
    obtain ⟨m, -, rfl⟩ := List.mem_map.mp listed
    obtain ⟨first, pt, body, same, words, short⟩ := m.framed_bytes
    rw [same]
    exact cut_framed first pt words short
  have incomplete : ∀ front ∈ members.map Member.bytes, ∀ k < front.length, cutMember (front.take k) = none := by
    intro front listed k beginning
    obtain ⟨m, -, rfl⟩ := List.mem_map.mp listed
    obtain ⟨first, pt, body, same, words, short⟩ := m.framed_bytes
    rw [same] at beginning ⊢
    exact cut_beginning first pt words short beginning
  obtain ⟨tail, drained⟩ := drains_take stable_cutMember complete incomplete rfl n
  have frames : within List.length (members.map Member.bytes) n = (inside members n).map Member.bytes :=
    within_map Member.bytes members n
  have read : ∀ m : Member, (parseMember ∘ Member.bytes) m = (some ∘ Member.message) m := parseMember_bytes
  rw [List.flatMap_def, parseAll_drains drained, frames, List.filterMap_map, List.filterMap_congr fun m _ => read m,
    ← List.filterMap_map, List.filterMap_some]

theorem inside_all (members : List Member) : inside members (members.flatMap Member.bytes).length = members := by
  induction members with
  | nil => rfl
  | cons m rest ih =>
    rw [inside, within, List.flatMap_cons, List.length_append, if_pos (Nat.le_add_right _ _),
      Nat.add_sub_cancel_left]
    exact congrArg _ ih

/-- A compound packet decodes to its members, any beginning of it to those that lie
wholly inside, and no bytes make the decoder read out of bounds. -/
theorem compound_decodes :
    (∀ members : List Member,
      RtcpDecode.parseAll (members.flatMap Member.bytes) = .ok (members.map Member.message)) ∧
    (∀ (members : List Member) (n : Nat),
      RtcpDecode.parseAll ((members.flatMap Member.bytes).take n) = .ok ((inside members n).map Member.message)) ∧
    ∀ data : Bytes, Safe (RtcpDecode.parseAll data) := by
  refine ⟨fun members => ?_, fun members n => ?_, fun data => ⟨parseAll data, parseAll_eq data⟩⟩
  · have whole := parseAll_take members (members.flatMap Member.bytes).length
    rw [List.take_length, inside_all] at whole
    rw [parseAll_eq, whole]
  · rw [parseAll_eq, parseAll_take]

end Sipmon.Guarantees.RtcpRoundTrip
