import Sipmon.Source.FrameDecode

/-!
# Frames decode to the flow and payload they carry

The headers of an unfragmented UDP or TCP packet, from the link layer on: with any
options, any values of the fields the decoder does not read, and any padding behind
the packet, the fast path returns exactly the flow and the transport payload. And it
accesses no byte that is not there, whatever the frame.
-/
namespace Sipmon.Guarantees.FrameRoundTrip
open Source Source.FrameDecode
open Lib.ByteReader (Bytes)
open Lib.CheckedAccess

/-! ## No fault -/

section Safe

variable {data : Bytes}

theorem safe_be16At {i : Nat} (inside : i + 1 < data.length) : Safe (be16At data i) :=
  (safe_index (by omega)).bind fun _ => (safe_index inside).bind fun _ => safe_pure _

theorem safe_ipv4At {i : Nat} (inside : i + 3 < data.length) : Safe (ipv4At data i) :=
  (safe_index (by omega)).bind fun _ => (safe_index (by omega)).bind fun _ =>
    (safe_index (by omega)).bind fun _ => (safe_index inside).bind fun _ => safe_pure _

theorem safe_skipTags (n : Nat) (ethertype : UInt16) (off : Nat) :
    Safe (skipTags data n ethertype off) := by
  induction n generalizing ethertype off with
  | zero => exact safe_ok _
  | succ n ih =>
    rw [skipTags]
    split
    · exact safe_ok _
    · split
      · exact safe_ok _
      · exact (safe_be16At (by omega)).bind fun inner => ih inner (off + 4)

theorem safe_ethernetPayload : Safe (ethernetPayload data) := by
  unfold ethernetPayload
  split
  · exact safe_ok _
  · refine (safe_be16At (by omega)).bind fun ethertype => (safe_skipTags 2 ethertype 14).bind fun tags => ?_
    cases tags <;> exact safe_ok _

theorem safe_l2Payload (linktype : UInt32) : Safe (l2Payload linktype data) := by
  unfold l2Payload
  repeat' split
  all_goals first
    | exact safe_ok _
    | exact safe_ethernetPayload
    | skip
  · exact (safe_slice (by omega) (Nat.le_refl _)).bind fun _ => safe_pure _
  · exact (safe_be16At (by omega)).bind fun _ =>
      (safe_slice (by omega) (Nat.le_refl _)).bind fun _ => safe_pure _
  · exact (safe_be16At (by omega)).bind fun _ =>
      (safe_slice (by omega) (Nat.le_refl _)).bind fun _ => safe_pure _

theorem safe_parseL4 (proto : UInt8) (srcIp dstIp : IpAddr) : Safe (parseL4 proto srcIp dstIp data) := by
  unfold parseL4
  split
  · split
    · exact safe_ok _
    · refine (safe_be16At (by omega)).bind fun _ => (safe_be16At (by omega)).bind fun _ =>
        (safe_be16At (by omega)).bind fun ulen => ?_
      split
      · exact (safe_slice (by omega) (by omega)).bind fun _ => safe_pure _
      · exact (safe_slice (by omega) (Nat.le_refl _)).bind fun _ => safe_pure _
  · split
    · split
      · exact safe_ok _
      · refine (safe_be16At (by omega)).bind fun _ => (safe_be16At (by omega)).bind fun _ =>
          (safe_index (by omega)).bind fun offset => ?_
        dsimp only
        split
        · exact safe_pure _
        · exact (safe_slice (by omega) (Nat.le_refl _)).bind fun _ => safe_pure _
    · exact safe_ok _

theorem safe_parseIpv4 : Safe (parseIpv4 data) := by
  unfold parseIpv4
  split
  · exact safe_ok _
  · refine (safe_index (by omega)).bind fun first => ?_
    dsimp only
    split
    · exact safe_pure _
    · refine (safe_be16At (by omega)).bind fun frag => ?_
      split
      · exact safe_pure _
      · refine (safe_index (by omega)).bind fun proto => (safe_ipv4At (by omega)).bind fun src =>
          (safe_ipv4At (by omega)).bind fun dst => (safe_be16At (by omega)).bind fun total => ?_
        refine (safe_slice ?_ ?_).bind fun l4 => safe_parseL4 proto src dst
        · split <;> omega
        · split <;> omega

theorem safe_parseIpv6 : Safe (parseIpv6 data) := by
  unfold parseIpv6
  split
  · exact safe_ok _
  · refine (safe_index (by omega)).bind fun next => ?_
    split
    · exact safe_pure _
    · refine (safe_slice (by omega) (by omega)).bind fun src => (safe_slice (by omega) (by omega)).bind fun dst =>
        (safe_be16At (by omega)).bind fun payloadLen => ?_
      dsimp only
      generalize bound : (if 0 < payloadLen.toNat then min (40 + payloadLen.toNat) data.length
        else data.length) = last
      have inside : last ≤ data.length := by
        rw [← bound]
        split <;> omega
      split
      · exact safe_pure _
      · exact (safe_slice (by omega) inside).bind fun l4 => safe_parseL4 next _ _

/-- Every access of the fast path is within the data. -/
theorem safe_decodeFast (linktype : UInt32) : Safe (decodeFast linktype data) := by
  refine (safe_l2Payload linktype).bind fun l2 => ?_
  cases l2 with
  | miss => exact safe_pure _
  | fallback => exact safe_pure _
  | ip packet =>
    dsimp only
    split
    · exact safe_pure _
    · next filled =>
      have nonempty : 0 < packet.length := by
        rw [List.length_pos_iff]
        simpa using filled
      refine (safe_index nonempty).bind fun first => ?_
      split
      · exact safe_parseIpv4
      · split
        · exact safe_parseIpv6
        · exact safe_pure _

end Safe

/-! ## Encoding -/

def hi (n : UInt16) : UInt8 := UInt8.ofNat (n.toNat / 256)
def lo (n : UInt16) : UInt8 := UInt8.ofNat (n.toNat % 256)

theorem word_eq (n : UInt16) : UInt16.ofNat ((hi n).toNat * 256 + (lo n).toNat) = n := by
  have bound := n.toNat_lt
  have high : (hi n).toNat = n.toNat / 256 := by
    rw [hi, UInt8.toNat_ofNat', Nat.mod_eq_of_lt (by omega)]
  have low : (lo n).toNat = n.toNat % 256 := by
    rw [lo, UInt8.toNat_ofNat', Nat.mod_eq_of_lt (by omega)]
  rw [high, low, Nat.div_add_mod', UInt16.ofNat_toNat]

/-- A word behind some bytes. -/
theorem be16At_word (front : Bytes) (n : UInt16) (rest : Bytes) :
    be16At (front ++ (hi n :: lo n :: rest)) front.length = .ok n := by
  have high : index (front ++ (hi n :: lo n :: rest)) front.length = .ok (hi n) :=
    index_append front (hi n :: lo n :: rest) 0
  have low : index (front ++ (hi n :: lo n :: rest)) (front.length + 1) = .ok (lo n) :=
    index_append front (hi n :: lo n :: rest) 1
  rw [be16At, high, ok_bind, low, ok_bind, word_eq]
  rfl

/-- Options that fill words of 32 bits, ten at most. -/
structure Options where
  bytes : Bytes
  aligned : bytes.length % 4 = 0
  short : bytes.length ≤ 40

/-- The length of a header of 20 bytes with the options, in words. -/
def Options.words (o : Options) : Nat := 5 + o.bytes.length / 4

structure TcpHeader where
  seqHigh : UInt16
  seqLow : UInt16
  ackHigh : UInt16
  ackLow : UInt16
  reserved : Fin 16
  flags : UInt8
  window : UInt16
  checksum : UInt16
  urgent : UInt16
  options : Options

inductive Transport where
  | udp (srcPort dstPort checksum : UInt16) (payload : Bytes)
  | tcp (srcPort dstPort : UInt16) (header : TcpHeader) (payload : Bytes)

namespace Transport

def proto : Transport → Proto
  | udp .. => .udp
  | tcp .. => .tcp

/-- Protocol number. -/
def number : Transport → UInt8
  | udp .. => 17
  | tcp .. => 6

def srcPort : Transport → UInt16
  | udp src _ _ _ => src
  | tcp src _ _ _ => src

def dstPort : Transport → UInt16
  | udp _ dst _ _ => dst
  | tcp _ dst _ _ => dst

def l4 : Transport → L4
  | udp _ _ _ payload => .udp payload
  | tcp _ _ _ payload => .tcp payload

def udpHeader (srcPort dstPort length checksum : UInt16) : Bytes :=
  [hi srcPort, lo srcPort, hi dstPort, lo dstPort, hi length, lo length, hi checksum, lo checksum]

def tcpFixed (srcPort dstPort : UInt16) (h : TcpHeader) : Bytes :=
  [hi srcPort, lo srcPort, hi dstPort, lo dstPort, hi h.seqHigh, lo h.seqHigh, hi h.seqLow, lo h.seqLow,
    hi h.ackHigh, lo h.ackHigh, hi h.ackLow, lo h.ackLow,
    UInt8.ofNat (h.options.words * 16 + h.reserved), h.flags,
    hi h.window, lo h.window, hi h.checksum, lo h.checksum, hi h.urgent, lo h.urgent]

def bytes : Transport → Bytes
  | udp src dst checksum payload =>
    udpHeader src dst (UInt16.ofNat (8 + payload.length)) checksum ++ payload
  | tcp src dst h payload => tcpFixed src dst h ++ h.options.bytes ++ payload

end Transport

/-- The upper four bits of a byte made of two halves. -/
theorem upper_half (a b : Fin 16) : (UInt8.ofNat (a * 16 + b) >>> 4).toNat = a := by
  revert a b
  decide

theorem Options.words_lt (o : Options) : o.words < 16 := by
  have short := o.short
  unfold Options.words
  omega

theorem Options.words_mul (o : Options) : o.words * 4 = 20 + o.bytes.length := by
  have aligned := o.aligned
  unfold Options.words
  omega

theorem parseL4_udp (src dst checksum : UInt16) (payload : Bytes) (srcIp dstIp : IpAddr)
    (short : 8 + payload.length < 2 ^ 16) :
    parseL4 17 srcIp dstIp (Transport.udp src dst checksum payload).bytes =
      .ok (.hit { flow := { proto := .udp, src := ⟨srcIp, src⟩, dst := ⟨dstIp, dst⟩ }
                  l4 := .udp payload }) := by
  unfold Transport.bytes
  dsimp only
  have size : (UInt16.ofNat (8 + payload.length)).toNat = 8 + payload.length := by
    rw [UInt16.toNat_ofNat']
    omega
  generalize UInt16.ofNat (8 + payload.length) = ulen at size
  have length : (Transport.udpHeader src dst ulen checksum ++ payload).length = 8 + payload.length := by
    rw [List.length_append]
    rfl
  have rest := slice_rest (Transport.udpHeader src dst ulen checksum) payload
  have srcAt : be16At (Transport.udpHeader src dst ulen checksum ++ payload) 0 = .ok src :=
    be16At_word [] src _
  have dstAt : be16At (Transport.udpHeader src dst ulen checksum ++ payload) 2 = .ok dst :=
    be16At_word [hi src, lo src] dst _
  have ulenAt : be16At (Transport.udpHeader src dst ulen checksum ++ payload) 4 = .ok ulen :=
    be16At_word [hi src, lo src, hi dst, lo dst] ulen _
  have payloadAt : slice (Transport.udpHeader src dst ulen checksum ++ payload) 8 (8 + payload.length) =
      .ok payload := by
    rw [← length]
    exact rest
  rw [parseL4, if_pos rfl, length, if_neg (by omega), srcAt, ok_bind, dstAt, ok_bind, ulenAt, ok_bind,
    size, if_pos (by omega), payloadAt]
  rfl

theorem parseL4_tcp (src dst : UInt16) (h : TcpHeader) (payload : Bytes) (srcIp dstIp : IpAddr) :
    parseL4 6 srcIp dstIp (Transport.tcp src dst h payload).bytes =
      .ok (.hit { flow := { proto := .tcp, src := ⟨srcIp, src⟩, dst := ⟨dstIp, dst⟩ }
                  l4 := .tcp payload }) := by
  have doff := h.options.words_mul
  have offset : (UInt8.ofNat (h.options.words * 16 + h.reserved) >>> 4).toNat = h.options.words :=
    upper_half ⟨h.options.words, h.options.words_lt⟩ h.reserved
  have header : (Transport.tcpFixed src dst h ++ h.options.bytes).length = h.options.words * 4 := by
    rw [List.length_append, doff]
    rfl
  have length : (Transport.tcp src dst h payload).bytes.length = h.options.words * 4 + payload.length := by
    rw [Transport.bytes, List.length_append, header]
  have rest : slice (Transport.tcp src dst h payload).bytes (h.options.words * 4)
      (Transport.tcp src dst h payload).bytes.length = .ok payload := by
    rw [← header]
    exact slice_rest (Transport.tcpFixed src dst h ++ h.options.bytes) payload
  have srcAt : be16At (Transport.tcp src dst h payload).bytes 0 = .ok src := be16At_word [] src _
  have dstAt : be16At (Transport.tcp src dst h payload).bytes 2 = .ok dst :=
    be16At_word [hi src, lo src] dst _
  have offsetAt : index (Transport.tcp src dst h payload).bytes 12 =
      .ok (UInt8.ofNat (h.options.words * 16 + h.reserved)) := rfl
  rw [parseL4, if_neg (by decide), if_pos rfl, if_neg (by omega), srcAt, ok_bind, dstAt, ok_bind, offsetAt,
    ok_bind]
  dsimp only
  rw [offset, if_neg (by omega), rest]
  rfl

theorem parseL4_bytes (t : Transport) (srcIp dstIp : IpAddr) (short : t.bytes.length < 2 ^ 16) :
    parseL4 t.number srcIp dstIp t.bytes =
      .ok (.hit { flow := { proto := t.proto, src := ⟨srcIp, t.srcPort⟩, dst := ⟨dstIp, t.dstPort⟩ }
                  l4 := t.l4 }) := by
  cases t with
  | udp src dst checksum payload =>
    have length : (Transport.udp src dst checksum payload).bytes.length = 8 + payload.length := by
      rw [Transport.bytes, List.length_append]
      rfl
    exact parseL4_udp src dst checksum payload srcIp dstIp (by omega)
  | tcp src dst h payload => exact parseL4_tcp src dst h payload srcIp dstIp

/-! ## Network -/

structure Ipv4Header where
  tos : UInt8
  id : UInt16
  reserved : Bool
  dontFragment : Bool
  ttl : UInt8
  checksum : UInt16
  options : Options

structure Ipv6Header where
  trafficHigh : Fin 16
  trafficLow : UInt8
  label : UInt16
  hopLimit : UInt8

inductive Network where
  | v4 (src dst : Ipv4Addr) (header : Ipv4Header)
  | v6 (src dst : Ipv6Addr) (header : Ipv6Header)

namespace Network

def src : Network → IpAddr
  | v4 src _ _ => .v4 src
  | v6 src _ _ => .v6 src

def dst : Network → IpAddr
  | v4 _ dst _ => .v4 dst
  | v6 _ dst _ => .v6 dst

/-- The flags of a packet that is not a fragment. -/
def flags (h : Ipv4Header) : UInt8 :=
  (if h.reserved then 0x80 else 0) ||| if h.dontFragment then 0x40 else 0

def v4Fixed (src dst : Ipv4Addr) (h : Ipv4Header) (total : UInt16) (proto : UInt8) : Bytes :=
  [UInt8.ofNat (4 * 16 + h.options.words), h.tos, hi total, lo total, hi h.id, lo h.id, flags h, 0,
    h.ttl, proto, hi h.checksum, lo h.checksum, src.a, src.b, src.c, src.d, dst.a, dst.b, dst.c, dst.d]

def v6Fixed (h : Ipv6Header) (length : UInt16) (proto : UInt8) : Bytes :=
  [UInt8.ofNat (6 * 16 + h.trafficHigh), h.trafficLow, hi h.label, lo h.label, hi length, lo length,
    proto, h.hopLimit]

/-- The header before a transport segment. -/
def header : Network → Transport → Bytes
  | v4 src dst h, t =>
    v4Fixed src dst h (UInt16.ofNat (h.options.words * 4 + t.bytes.length)) t.number ++ h.options.bytes
  | v6 src dst h, t =>
    v6Fixed h (UInt16.ofNat t.bytes.length) t.number ++ src.octets.toList ++ dst.octets.toList

/-- The packet fits the length field of its header. -/
def Fits : Network → Transport → Prop
  | v4 _ _ h, t => h.options.words * 4 + t.bytes.length < 2 ^ 16
  | v6 _ _ _, t => t.bytes.length < 2 ^ 16

end Network

/-- The lower four bits of a byte made of two halves. -/
theorem lower_half (a b : Fin 16) : (UInt8.ofNat (a * 16 + b) &&& 0x0f).toNat = b := by
  revert a b
  decide

theorem unfragmented (h : Ipv4Header) :
    UInt16.ofNat ((Network.flags h).toNat * 256 + (0 : UInt8).toNat) &&& (0x1fff : UInt16) = 0 := by
  unfold Network.flags
  cases h.reserved <;> cases h.dontFragment <;> decide

theorem parseIpv4_bytes (src dst : Ipv4Addr) (h : Ipv4Header) (t : Transport) (padding : Bytes)
    (fits : (Network.v4 src dst h).Fits t) :
    parseIpv4 ((Network.v4 src dst h).header t ++ (t.bytes ++ padding)) =
      parseL4 t.number (.v4 src) (.v4 dst) t.bytes := by
  have words := h.options.words_mul
  have ihl : (UInt8.ofNat (4 * 16 + h.options.words) &&& 0x0f).toNat = h.options.words :=
    lower_half 4 ⟨h.options.words, h.options.words_lt⟩
  have unflagged := unfragmented h
  unfold Network.Fits at fits
  dsimp only at fits
  unfold Network.header
  dsimp only
  have size : (UInt16.ofNat (h.options.words * 4 + t.bytes.length)).toNat =
      h.options.words * 4 + t.bytes.length := by
    rw [UInt16.toNat_ofNat']
    omega
  generalize UInt16.ofNat (h.options.words * 4 + t.bytes.length) = total at size
  generalize packet_eq : Network.v4Fixed src dst h total t.number ++ h.options.bytes ++ (t.bytes ++ padding) =
    packet
  have header : (Network.v4Fixed src dst h total t.number ++ h.options.bytes).length =
      h.options.words * 4 := by
    rw [List.length_append, words]
    rfl
  have length : packet.length = h.options.words * 4 + (t.bytes.length + padding.length) := by
    rw [← packet_eq, List.length_append, header, List.length_append]
  have firstAt : index packet 0 = .ok (UInt8.ofNat (4 * 16 + h.options.words)) := by
    rw [← packet_eq]
    rfl
  have fragAt : be16At packet 6 = .ok (UInt16.ofNat ((Network.flags h).toNat * 256 + (0 : UInt8).toNat)) := by
    rw [← packet_eq]
    rfl
  have protoAt : index packet 9 = .ok t.number := by
    rw [← packet_eq]
    rfl
  have srcAt : ipv4At packet 12 = .ok (.v4 src) := by
    rw [← packet_eq]
    rfl
  have dstAt : ipv4At packet 16 = .ok (.v4 dst) := by
    rw [← packet_eq]
    rfl
  have totalAt : be16At packet 2 = .ok total := by
    rw [← packet_eq]
    exact be16At_word [UInt8.ofNat (4 * 16 + h.options.words), h.tos] total _
  have middle : slice packet (h.options.words * 4) (h.options.words * 4 + t.bytes.length) = .ok t.bytes := by
    rw [← packet_eq, ← header]
    exact slice_append _ t.bytes padding
  rw [parseIpv4, if_neg (by omega), firstAt, ok_bind]
  dsimp only
  rw [ihl, if_neg (by omega), fragAt, ok_bind, if_neg (fun fragment => fragment unflagged), protoAt, ok_bind,
    srcAt, ok_bind, dstAt, ok_bind, totalAt, ok_bind, size, if_pos (by omega), middle, ok_bind]

theorem parseIpv6_bytes (src dst : Ipv6Addr) (h : Ipv6Header) (t : Transport) (padding : Bytes)
    (fits : (Network.v6 src dst h).Fits t) :
    parseIpv6 ((Network.v6 src dst h).header t ++ (t.bytes ++ padding)) =
      parseL4 t.number (.v6 src) (.v6 dst) t.bytes := by
  unfold Network.Fits at fits
  dsimp only at fits
  unfold Network.header
  dsimp only
  have size : (UInt16.ofNat t.bytes.length).toNat = t.bytes.length := by
    rw [UInt16.toNat_ofNat']
    omega
  generalize UInt16.ofNat t.bytes.length = payloadLen at size
  generalize packet_eq : Network.v6Fixed h payloadLen t.number ++ src.octets.toList ++ dst.octets.toList ++
    (t.bytes ++ padding) = packet
  have nonempty : 0 < t.bytes.length := by
    cases t <;> exact Nat.zero_lt_succ _
  have srcLength := src.octets_length
  have dstLength := dst.octets_length
  have fixed : (Network.v6Fixed h payloadLen t.number).length = 8 := rfl
  have length : packet.length = 40 + (t.bytes.length + padding.length) := by
    rw [← packet_eq]
    simp only [List.length_append, fixed, srcLength, dstLength]
  have nextAt : index packet 6 = .ok t.number := by
    rw [← packet_eq]
    rfl
  have lengthAt : be16At packet 4 = .ok payloadLen := by
    rw [← packet_eq]
    exact be16At_word [UInt8.ofNat (6 * 16 + h.trafficHigh), h.trafficLow, hi h.label, lo h.label] payloadLen _
  have srcAt : slice packet 8 24 = .ok src.octets.toList := by
    have cut := slice_append (Network.v6Fixed h payloadLen t.number) src.octets.toList
      (dst.octets.toList ++ (t.bytes ++ padding))
    rw [fixed, srcLength] at cut
    rw [← packet_eq, List.append_assoc, List.append_assoc]
    exact cut
  have dstAt : slice packet 24 40 = .ok dst.octets.toList := by
    have cut := slice_append (Network.v6Fixed h payloadLen t.number ++ src.octets.toList) dst.octets.toList
      (t.bytes ++ padding)
    rw [List.length_append, fixed, srcLength, dstLength] at cut
    rw [← packet_eq, List.append_assoc]
    exact cut
  have middle : slice packet 40 (40 + t.bytes.length) = .ok t.bytes := by
    have cut := slice_append (Network.v6Fixed h payloadLen t.number ++ src.octets.toList ++ dst.octets.toList)
      t.bytes padding
    rw [List.length_append, List.length_append, fixed, srcLength, dstLength] at cut
    rw [← packet_eq]
    exact cut
  have known : ¬(t.number ≠ 6 ∧ t.number ≠ 17) := by
    cases t <;> simp [Transport.number]
  have last : (if 0 < payloadLen.toNat then min (40 + payloadLen.toNat) packet.length else packet.length) =
      40 + t.bytes.length := by
    rw [if_pos (by omega)]
    omega
  rw [parseIpv6, if_neg (by omega), nextAt, ok_bind, if_neg known, srcAt, ok_bind, dstAt, ok_bind, lengthAt,
    ok_bind]
  dsimp only
  rw [last, if_neg (by omega), middle, ok_bind, Ipv6Addr.ofOctets_octets, Ipv6Addr.ofOctets_octets]

/-! ## Link -/

/-- A VLAN tag, by the three identifiers in use. -/
structure Tag where
  tpid : UInt16
  control : UInt16
  vlan : isVlan tpid = true

def Tag.bytes (tag : Tag) : Bytes := [hi tag.tpid, lo tag.tpid, hi tag.control, lo tag.control]

inductive Link where
  /-- Destination and source address, and up to two tags. -/
  | ethernet (addresses : Vector UInt8 12) (tags : List Tag) (few : tags.length ≤ 2)
  /-- What comes before the protocol. -/
  | cooked (front : Vector UInt8 14)
  /-- What comes behind the protocol. -/
  | cooked2 (back : Vector UInt8 18)
  | raw
  | null (family : Vector UInt8 4)
  | loop (family : Vector UInt8 4)

namespace Link

def linktype : Link → UInt32
  | ethernet .. => dltEn10mb
  | cooked _ => dltLinuxSll
  | cooked2 _ => dltLinuxSll2
  | raw => dltRaw
  | null _ => dltNull
  | loop _ => dltLoop

def header (ethertype : UInt16) : Link → Bytes
  | ethernet addresses tags _ => addresses.toList ++ tags.flatMap Tag.bytes ++ [hi ethertype, lo ethertype]
  | cooked front => front.toList ++ [hi ethertype, lo ethertype]
  | cooked2 back => [hi ethertype, lo ethertype] ++ back.toList
  | raw => []
  | null family => family.toList
  | loop family => family.toList

end Link

/-- The protocol of a network header. -/
def Network.ethertype : Network → UInt16
  | v4 .. => 0x0800
  | v6 .. => 0x86dd

/-- The type field that comes first. -/
def firstType (ethertype : UInt16) : List Tag → UInt16
  | [] => ethertype
  | tag :: _ => tag.tpid

section Ethernet

variable {ethertype : UInt16} (packet : Bytes)

theorem firstType_word (tags : List Tag) (ethertype : UInt16) :
    ∃ rest, tags.flatMap Tag.bytes ++ ([hi ethertype, lo ethertype] ++ packet) =
      hi (firstType ethertype tags) :: lo (firstType ethertype tags) :: rest := by
  cases tags with
  | nil => exact ⟨packet, rfl⟩
  | cons tag more => exact ⟨_, rfl⟩

/-- The tags are skipped one by one. -/
theorem skipTags_bytes (plain : isVlan ethertype = false) (tags : List Tag) {n : Nat}
    (few : tags.length ≤ n) (front : Bytes) :
    skipTags (front ++ (tags.flatMap Tag.bytes ++ ([hi ethertype, lo ethertype] ++ packet))) n
        (firstType ethertype tags) (front.length + 2) =
      .ok (some (ethertype, front.length + 2 + 4 * tags.length)) := by
  induction tags generalizing n front with
  | nil =>
    cases n with
    | zero => rfl
    | succ n => rw [skipTags, firstType, plain]; rfl
  | cons tag more ih =>
    cases n with
    | zero => exact absurd few (by simp)
    | succ n =>
      obtain ⟨rest, word⟩ := firstType_word packet more ethertype
      have regrouped : front ++ ((tag :: more).flatMap Tag.bytes ++ ([hi ethertype, lo ethertype] ++ packet)) =
          (front ++ tag.bytes) ++ (more.flatMap Tag.bytes ++ ([hi ethertype, lo ethertype] ++ packet)) := by
        simp only [List.flatMap_cons, List.append_assoc]
      have tagged : (front ++ tag.bytes).length = front.length + 4 := by
        rw [List.length_append]
        rfl
      have next := ih (Nat.le_of_succ_le_succ few) (front ++ tag.bytes)
      have inner := be16At_word (front ++ tag.bytes) (firstType ethertype more) rest
      rw [← word] at inner
      rw [tagged] at next inner
      have long : ¬((front ++ tag.bytes) ++ (more.flatMap Tag.bytes ++
          ([hi ethertype, lo ethertype] ++ packet))).length < front.length + 2 + 4 := by
        rw [List.length_append, tagged, word, List.length_cons, List.length_cons]
        omega
      have vlan : isVlan (firstType ethertype (tag :: more)) = true := tag.vlan
      have count : (tag :: more).length = more.length + 1 := rfl
      rw [regrouped, skipTags, vlan, if_neg (by decide), if_neg long, inner, ok_bind, count]
      refine next.trans ?_
      rw [Nat.mul_add]
      congr 3
      omega

theorem ethernetPayload_bytes (addresses : Vector UInt8 12) (tags : List Tag) (few : tags.length ≤ 2)
    (plain : isVlan ethertype = false) :
    ethernetPayload (addresses.toList ++ tags.flatMap Tag.bytes ++ [hi ethertype, lo ethertype] ++ packet) =
      .ok (ethertypePayload ethertype packet) := by
  have front : addresses.toList.length = 12 := by simp
  have tagBytes : (tags.flatMap Tag.bytes).length = 4 * tags.length := by
    induction tags with
    | nil => rfl
    | cons tag more ih =>
      rw [List.flatMap_cons, List.length_append, ih (Nat.le_of_succ_le few), List.length_cons]
      change 4 + _ = _
      omega
  have header : (addresses.toList ++ tags.flatMap Tag.bytes ++ [hi ethertype, lo ethertype]).length =
      14 + 4 * tags.length := by
    rw [List.length_append, List.length_append, front, tagBytes, List.length_cons, List.length_singleton]
    omega
  have behind : (addresses.toList ++ tags.flatMap Tag.bytes ++ [hi ethertype, lo ethertype] ++ packet).drop
      (14 + 4 * tags.length) = packet := by
    rw [← header, List.drop_left]
  have long : ¬(addresses.toList ++ tags.flatMap Tag.bytes ++ [hi ethertype, lo ethertype] ++
      packet).length < 14 := by
    rw [List.length_append, header]
    omega
  obtain ⟨rest, word⟩ := firstType_word packet tags ethertype
  have skipped := skipTags_bytes packet plain tags few addresses.toList
  have first := be16At_word addresses.toList (firstType ethertype tags) rest
  rw [← word, front] at first
  rw [front] at skipped
  have regrouped : addresses.toList ++ tags.flatMap Tag.bytes ++ [hi ethertype, lo ethertype] ++ packet =
      addresses.toList ++ (tags.flatMap Tag.bytes ++ ([hi ethertype, lo ethertype] ++ packet)) := by
    simp only [List.append_assoc]
  rw [regrouped] at behind long ⊢
  rw [ethernetPayload, if_neg long, first, ok_bind, skipped, ok_bind]
  dsimp only
  rw [behind]
  rfl

end Ethernet

section Cooked

variable {ethertype : UInt16} (packet : Bytes)

theorem cooked_bytes (front : Vector UInt8 14) :
    l2Payload dltLinuxSll (front.toList ++ [hi ethertype, lo ethertype] ++ packet) =
      .ok (ethertypePayload ethertype packet) := by
  have header : (front.toList ++ [hi ethertype, lo ethertype]).length = 16 := by simp
  have regrouped : front.toList ++ [hi ethertype, lo ethertype] ++ packet =
      front.toList ++ (hi ethertype :: lo ethertype :: packet) := List.append_assoc _ _ _
  have typeAt := be16At_word front.toList ethertype packet
  have rest := slice_rest (front.toList ++ [hi ethertype, lo ethertype]) packet
  rw [Vector.length_toList, ← regrouped] at typeAt
  rw [header] at rest
  have long : ¬(front.toList ++ [hi ethertype, lo ethertype] ++ packet).length < 16 := by
    rw [List.length_append, header]
    omega
  rw [l2Payload, if_neg (by decide), if_neg (by decide), if_neg (by decide), if_pos rfl, if_neg long]
  rw [typeAt, ok_bind, rest, ok_bind]
  rfl

theorem cooked2_bytes (back : Vector UInt8 18) :
    l2Payload dltLinuxSll2 ([hi ethertype, lo ethertype] ++ back.toList ++ packet) =
      .ok (ethertypePayload ethertype packet) := by
  have header : ([hi ethertype, lo ethertype] ++ back.toList).length = 20 := by simp
  have typeAt := be16At_word [] ethertype (back.toList ++ packet)
  have rest := slice_rest ([hi ethertype, lo ethertype] ++ back.toList) packet
  rw [header] at rest
  have long : ¬([hi ethertype, lo ethertype] ++ back.toList ++ packet).length < 20 := by
    rw [List.length_append, header]
    omega
  rw [l2Payload, if_neg (by decide), if_neg (by decide), if_neg (by decide), if_neg (by decide), if_pos rfl,
    if_neg long]
  refine (congrArg (· >>= _) typeAt).trans ?_
  rw [ok_bind, rest, ok_bind]
  rfl

end Cooked

theorem family_bytes {linktype : UInt32} (headed : linktype = dltNull ∨ linktype = dltLoop)
    (family : Vector UInt8 4) (packet : Bytes) :
    l2Payload linktype (family.toList ++ packet) = .ok (.ip packet) := by
  have rest := slice_rest family.toList packet
  rw [Vector.length_toList] at rest
  have long : ¬(family.toList ++ packet).length < 4 := by simp
  rw [l2Payload, if_pos headed, if_neg long, rest]
  rfl

/-- Every link type hands on the packet behind its header. -/
theorem l2Payload_bytes (link : Link) {ethertype : UInt16} (known : ethertype = 0x0800 ∨ ethertype = 0x86dd)
    (packet : Bytes) : l2Payload link.linktype (link.header ethertype ++ packet) = .ok (.ip packet) := by
  have passed : ethertypePayload ethertype packet = .ip packet := if_pos known
  cases link with
  | ethernet addresses tags few =>
    have plain : isVlan ethertype = false := by
      rcases known with rfl | rfl <;> decide
    exact passed ▸ ethernetPayload_bytes packet addresses tags few plain
  | cooked front => exact passed ▸ cooked_bytes packet front
  | cooked2 back => exact passed ▸ cooked2_bytes packet back
  | raw => rfl
  | null family => exact family_bytes (Or.inl rfl) family packet
  | loop family => exact family_bytes (Or.inr rfl) family packet

/-! ## Frames -/

/-- An unfragmented packet in a link-layer frame. -/
structure Frame where
  link : Link
  net : Network
  transport : Transport
  fits : net.Fits transport

namespace Frame

def bytes (f : Frame) : Bytes :=
  f.link.header f.net.ethertype ++ (f.net.header f.transport ++ f.transport.bytes)

def decoded (f : Frame) : Decoded where
  flow := { proto := f.transport.proto
            src := ⟨f.net.src, f.transport.srcPort⟩
            dst := ⟨f.net.dst, f.transport.dstPort⟩ }
  l4 := f.transport.l4

theorem decodeFast_bytes (f : Frame) (padding : Bytes) :
    decodeFast f.link.linktype (f.bytes ++ padding) = .ok (.hit f.decoded) := by
  obtain ⟨link, net, t, fits⟩ := f
  have known : net.ethertype = 0x0800 ∨ net.ethertype = 0x86dd := by
    cases net
    · exact Or.inl rfl
    · exact Or.inr rfl
  have l2 := l2Payload_bytes link known (net.header t ++ (t.bytes ++ padding))
  have regrouped : bytes ⟨link, net, t, fits⟩ ++ padding =
      link.header net.ethertype ++ (net.header t ++ (t.bytes ++ padding)) := by
    simp only [bytes, List.append_assoc]
  rw [regrouped, decodeFast]
  dsimp only
  rw [l2, ok_bind]
  dsimp only
  cases net with
  | v4 src dst h =>
    have l4 := parseL4_bytes t (.v4 src) (.v4 dst) (by unfold Network.Fits at fits; dsimp only at fits; omega)
    have version : UInt8.ofNat (4 * 16 + h.options.words) >>> 4 = 4 :=
      UInt8.toNat_inj.mp (upper_half 4 ⟨h.options.words, h.options.words_lt⟩)
    have firstAt : index ((Network.v4 src dst h).header t ++ (t.bytes ++ padding)) 0 =
        .ok (UInt8.ofNat (4 * 16 + h.options.words)) := rfl
    rw [if_neg (by exact Bool.false_ne_true), firstAt, ok_bind, if_pos version,
      parseIpv4_bytes src dst h t padding fits, l4]
    rfl
  | v6 src dst h =>
    have l4 := parseL4_bytes t (.v6 src) (.v6 dst) fits
    have version : UInt8.ofNat (6 * 16 + h.trafficHigh) >>> 4 = 6 :=
      UInt8.toNat_inj.mp (upper_half 6 h.trafficHigh)
    have firstAt : index ((Network.v6 src dst h).header t ++ (t.bytes ++ padding)) 0 =
        .ok (UInt8.ofNat (6 * 16 + h.trafficHigh)) := rfl
    have other : ¬UInt8.ofNat (6 * 16 + h.trafficHigh) >>> 4 = 4 := by
      rw [version]
      decide
    rw [if_neg (by exact Bool.false_ne_true), firstAt, ok_bind, if_neg other, if_pos version,
      parseIpv6_bytes src dst h t padding fits, l4]
    rfl

end Frame

/-- A frame decodes to its flow and payload, with any padding behind it and whatever the
full parser does; and no bytes make the fast path access what is not there. -/
theorem frames_decode (etherparse : UInt32 → Bytes → Option Decoded) :
    (∀ (f : Frame) (padding : Bytes),
      decode etherparse f.link.linktype (f.bytes ++ padding) = .ok (some f.decoded)) ∧
    ∀ (linktype : UInt32) (data : Bytes), Safe (decodeFast linktype data) := by
  refine ⟨fun f padding => ?_, fun linktype data => safe_decodeFast linktype⟩
  rw [decode, f.decodeFast_bytes, ok_bind]
  rfl

end Sipmon.Guarantees.FrameRoundTrip
