import Sipmon.Source.Frame

/-!
# Unwrapping TURN media

Media inside a ChannelData frame, or in the DATA attribute of a Send or Data
indication, reaches `dispatchMedia` as it was wrapped.
-/
namespace Sipmon.Guarantees.TurnDemux
open Source Lib Lib.BigEndian
open Lib.ByteReader (Bytes)

theorem be16_of_take {bs : Bytes} {i n : Nat} (fits : n < 2 ^ 16)
    (field : (bs.drop i).take 2 = toBytes 2 n) : (be16 bs i).toNat = n := by
  unfold be16
  rw [field, ofBytes_toBytes 2 n (by omega), UInt16.toNat_ofNat']
  omega

/-- Media starts with the version bits `10`. -/
theorem media_first {p : Bytes} (media : classify p ≠ .other) :
    ∃ b rest, p = b :: rest ∧ 128 ≤ b.toNat ∧ b.toNat < 192 := by
  unfold classify isRtpLike rtpVersion at media
  cases p with
  | nil => exact absurd rfl media
  | cons b rest =>
    refine ⟨b, rest, rfl, ?_⟩
    have version : b >>> 6 = 2 := by
      by_contra other
      simp [other] at media
    have range : ∀ i : Fin 256, UInt8.ofFin i >>> 6 = 2 → 128 ≤ i.val ∧ i.val < 192 := by
      decide +kernel
    exact range b.toFin version

theorem classify_other {b : UInt8} {rest : Bytes} (version : b >>> 6 ≠ 2) :
    classify (b :: rest) = .other := by
  unfold classify isRtpLike rtpVersion
  simp [version]

/-! ## ChannelData -/

/-- A ChannelData frame: two bytes of channel number that start with `01`, and
what follows the payload. -/
structure ChannelFrame where
  high : UInt8
  low : UInt8
  padding : Bytes
  channel : high &&& 0xC0 = 0x40

namespace ChannelFrame

def bytes (frame : ChannelFrame) (p : Bytes) : Bytes :=
  frame.high :: frame.low :: (toBytes 2 p.length ++ (p ++ frame.padding))

theorem classify_bytes (frame : ChannelFrame) (p : Bytes) : classify (frame.bytes p) = .other := by
  have range : ∀ i : Fin 256, UInt8.ofFin i &&& 0xC0 = 0x40 → UInt8.ofFin i >>> 6 ≠ 2 := by
    decide +kernel
  exact classify_other (range frame.high.toFin frame.channel)

theorem drop_four (frame : ChannelFrame) (p : Bytes) :
    (frame.bytes p).drop 4 = p ++ frame.padding := by
  have header := toBytes_length 2 p.length
  unfold bytes
  rw [List.drop_succ_cons, List.drop_succ_cons, List.drop_append_of_le_length (by omega),
    List.drop_eq_nil_of_le (by omega), List.nil_append]

/-- Where a STUN message has its cookie, the frame has the version bits of the media. -/
theorem isStun_bytes (frame : ChannelFrame) {p : Bytes} (media : classify p ≠ .other) :
    Stun.isStun (frame.bytes p) = false := by
  obtain ⟨b, rest, rfl, atLeast, below⟩ := media_first media
  by_cases long : 20 ≤ (frame.bytes (b :: rest)).length
  · have count : ((rest ++ frame.padding).take 3).length = 3 := by
      have total := congrArg List.length (frame.drop_four (b :: rest))
      rw [List.length_drop, List.cons_append, List.length_cons] at total
      exact List.length_take_of_le (by omega)
    have tail := ofBytes_lt ((rest ++ frame.padding).take 3)
    rw [count] at tail
    have value : be32 (frame.bytes (b :: rest)) 4 ≠ Stun.magicCookie := by
      intro cookie
      have number := congrArg UInt32.toNat cookie
      unfold be32 at number
      rw [frame.drop_four, List.cons_append, List.take_succ_cons, ofBytes_cons, count,
        UInt32.toNat_ofNat'] at number
      have right : Stun.magicCookie.toNat = 0x2112A442 := by decide
      omega
    unfold Stun.isStun
    simp [value]
  · unfold Stun.isStun
    simp [long]

theorem channelDataPayload_bytes (frame : ChannelFrame) {p : Bytes} (short : p.length < 2 ^ 16) :
    Stun.channelDataPayload (frame.bytes p) = some p := by
  have header := toBytes_length 2 p.length
  have field : ((frame.bytes p).drop 2).take 2 = toBytes 2 p.length := by
    unfold bytes
    rw [List.drop_succ_cons, List.drop_succ_cons, List.drop_zero,
      List.take_append_of_le_length (by omega), List.take_of_length_le (by omega)]
  have length : (frame.bytes p).length = 4 + (p.length + frame.padding.length) := by
    unfold bytes
    simp only [List.length_cons, List.length_append, header]
    omega
  have channel : Stun.isChannelData (frame.bytes p) = true := by
    have first : (frame.bytes p).headD 0 = frame.high := rfl
    unfold Stun.isChannelData
    rw [first, frame.channel, length]
    simp
  unfold Stun.channelDataPayload
  rw [channel]
  dsimp only [Bool.not_true]
  rw [be16_of_take short field, if_neg (by simp), if_neg (by omega), frame.drop_four,
    List.take_left]

end ChannelFrame

/-- A ChannelData frame that spells no SIP start line hands its payload on. -/
theorem handleUdp_channel {dec : Decoder} (media : dec.noMedia = false) (iter : Iteration)
    (c : Correlator) (ts : UInt64) (flow : Flow5Tuple) (frame : ChannelFrame) {p : Bytes}
    (carried : classify p ≠ .other) (short : p.length < 2 ^ 16)
    (noSip : looksLikeSip (frame.bytes p) = false) :
    c.handleUdp dec iter ts flow (frame.bytes p) = c.dispatchMedia ts flow p .channelData := by
  unfold Correlator.handleUdp Correlator.handleTurn
  rw [frame.classify_bytes, noSip, media, frame.isStun_bytes carried,
    frame.channelDataPayload_bytes short]
  rfl

/-! ## Attributes -/

/-- An attribute with the padding that fills its last word. -/
structure PaddedAttr where
  attr : StunAttribute
  pad : Bytes
  short : attr.value.length < 2 ^ 16
  padded : attr.value.length + pad.length = (attr.value.length + 3) / 4 * 4

def PaddedAttr.bytes (a : PaddedAttr) : Bytes :=
  toBytes 2 a.attr.typ.toNat ++ (toBytes 2 a.attr.value.length ++ (a.attr.value ++ a.pad))

theorem parseAttrs_bytes (a : PaddedAttr) (rest : Bytes) :
    Stun.parseAttrs (a.bytes ++ rest) = a.attr :: Stun.parseAttrs rest := by
  have typLength := toBytes_length 2 a.attr.typ.toNat
  have lenLength := toBytes_length 2 a.attr.value.length
  have padded := a.padded
  have typ : be16 (a.bytes ++ rest) 0 = a.attr.typ := by
    unfold be16 PaddedAttr.bytes
    rw [List.drop_zero, List.append_assoc, List.take_append_of_le_length (by omega),
      List.take_of_length_le (by omega), ofBytes_toBytes 2 _ a.attr.typ.toNat_lt, UInt16.ofNat_toNat]
  have afterTyp : (a.bytes ++ rest).drop 2 =
      toBytes 2 a.attr.value.length ++ (a.attr.value ++ (a.pad ++ rest)) := by
    unfold PaddedAttr.bytes
    rw [List.append_assoc, List.drop_append_of_le_length (by omega),
      List.drop_eq_nil_of_le (by omega)]
    simp only [List.nil_append, List.append_assoc]
  have len : (be16 (a.bytes ++ rest) 2).toNat = a.attr.value.length := by
    refine be16_of_take a.short ?_
    rw [afterTyp, List.take_append_of_le_length (by omega), List.take_of_length_le (by omega)]
  have afterLen : (a.bytes ++ rest).drop 4 = a.attr.value ++ (a.pad ++ rest) := by
    have twice : (a.bytes ++ rest).drop 4 = ((a.bytes ++ rest).drop 2).drop 2 := by
      rw [List.drop_drop]
    rw [twice, afterTyp, List.drop_append_of_le_length (by omega),
      List.drop_eq_nil_of_le (by omega), List.nil_append]
  have length : (a.bytes ++ rest).length =
      4 + a.attr.value.length + a.pad.length + rest.length := by
    unfold PaddedAttr.bytes
    simp only [List.length_append, typLength, lenLength]
    omega
  have next : (a.bytes ++ rest).drop (4 + (a.attr.value.length + 3) / 4 * 4) = rest := by
    rw [← List.drop_drop, afterLen, ← padded, ← List.append_assoc, ← List.length_append,
      List.drop_left]
  rw [Stun.parseAttrs, len, if_neg (by omega), typ, afterLen, List.take_left, next]

theorem parseAttrs_flatMap (attrs : List PaddedAttr) (rest : Bytes) :
    Stun.parseAttrs (attrs.flatMap PaddedAttr.bytes ++ rest) =
      attrs.map PaddedAttr.attr ++ Stun.parseAttrs rest := by
  induction attrs with
  | nil => rfl
  | cons a more ih =>
    rw [List.flatMap_cons, List.append_assoc, parseAttrs_bytes, ih]
    rfl

/-! ## STUN messages -/

/-- A message: its type, the length of its body, the cookie, the transaction ID and the
body, before what follows it in its datagram. -/
def messageBytes (typ : UInt16) (txnId body trailing : Bytes) : Bytes :=
  toBytes 2 typ.toNat ++ (toBytes 2 body.length ++
    (0x21 :: 0x12 :: 0xA4 :: 0x42 :: (txnId ++ (body ++ trailing))))

section Message

variable (typ : UInt16) {txnId body : Bytes} (trailing : Bytes)

theorem messageBytes_drop_four : (messageBytes typ txnId body trailing).drop 4 =
    0x21 :: 0x12 :: 0xA4 :: 0x42 :: (txnId ++ (body ++ trailing)) := by
  have typLength := toBytes_length 2 typ.toNat
  have lenLength := toBytes_length 2 body.length
  unfold messageBytes
  rw [← List.append_assoc, List.drop_append_of_le_length (by rw [List.length_append]; omega),
    List.drop_eq_nil_of_le (by rw [List.length_append]; omega), List.nil_append]

theorem isStun_messageBytes (body : Bytes) (txnLength : txnId.length = 12) :
    Stun.isStun (messageBytes typ txnId body trailing) = true := by
  have cookie : be32 (messageBytes typ txnId body trailing) 4 = Stun.magicCookie := by
    unfold be32
    rw [messageBytes_drop_four]
    rfl
  have rest := congrArg List.length
    (messageBytes_drop_four typ trailing : (messageBytes typ txnId body trailing).drop 4 = _)
  simp only [List.length_drop, List.length_cons, List.length_append, txnLength] at rest
  unfold Stun.isStun
  rw [cookie]
  simp only [beq_self_eq_true, Bool.and_true, decide_eq_true_eq]
  omega

theorem parse_messageBytes (txnLength : txnId.length = 12) (short : body.length < 2 ^ 16) :
    Stun.parse (messageBytes typ txnId body trailing) = some
      { method := Stun.stunMethod typ, cls := Stun.stunClass typ, txnId := txnId
        attrs := Stun.parseAttrs body } := by
  have typLength := toBytes_length 2 typ.toNat
  have lenLength := toBytes_length 2 body.length
  have typRead : be16 (messageBytes typ txnId body trailing) 0 = typ := by
    unfold be16 messageBytes
    rw [List.drop_zero, List.take_append_of_le_length (by omega), List.take_of_length_le (by omega),
      ofBytes_toBytes 2 _ typ.toNat_lt, UInt16.ofNat_toNat]
  have lenRead : (be16 (messageBytes typ txnId body trailing) 2).toNat = body.length := by
    refine be16_of_take short ?_
    unfold messageBytes
    rw [List.drop_append_of_le_length (by omega), List.drop_eq_nil_of_le (by omega), List.nil_append,
      List.take_append_of_le_length (by omega), List.take_of_length_le (by omega)]
  have eight : (messageBytes typ txnId body trailing).drop 8 = txnId ++ (body ++ trailing) := by
    have further : (messageBytes typ txnId body trailing).drop 8 =
        ((messageBytes typ txnId body trailing).drop 4).drop 4 := by rw [List.drop_drop]
    rw [further, messageBytes_drop_four]
    rfl
  have twenty : (messageBytes typ txnId body trailing).drop 20 = body ++ trailing := by
    have further : (messageBytes typ txnId body trailing).drop 20 =
        ((messageBytes typ txnId body trailing).drop 8).drop 12 := by rw [List.drop_drop]
    rw [further, eight, ← txnLength, List.drop_left]
  have long := congrArg List.length twenty
  rw [List.length_drop, List.length_append] at long
  have header : 20 ≤ (messageBytes typ txnId body trailing).length := by
    have stun := isStun_messageBytes typ trailing body txnLength
    simp only [Stun.isStun, Bool.and_eq_true, decide_eq_true_eq] at stun
    exact stun.1
  rw [Stun.parse, isStun_messageBytes typ trailing body txnLength]
  dsimp only [Bool.not_true]
  rw [if_neg (by simp), lenRead, if_neg (by omega), typRead, eight, twenty, List.take_left,
    List.take_append_of_le_length (by omega), List.take_of_length_le (by omega)]

end Message

/-! ## Send and Data indications -/

/-- A Send or Data indication that carries `p`: its first DATA attribute. -/
structure Indication (p : Bytes) where
  fromServer : Bool
  txnId : Bytes
  before : List PaddedAttr
  carried : PaddedAttr
  /-- Further attributes. -/
  after : Bytes
  /-- What follows the message in its datagram. -/
  trailing : Bytes
  txnLength : txnId.length = 12
  plain : ∀ a ∈ before, a.attr.typ ≠ Stun.attrData
  carries : carried.attr = { typ := Stun.attrData, value := p }
  short : (before.flatMap PaddedAttr.bytes ++ (carried.bytes ++ after)).length < 2 ^ 16

namespace Indication

variable {p : Bytes}

def body (ind : Indication p) : Bytes :=
  ind.before.flatMap PaddedAttr.bytes ++ (ind.carried.bytes ++ ind.after)

/-- The message type: the method with the class bits of an indication. -/
def typ (ind : Indication p) : UInt8 := if ind.fromServer then 0x17 else 0x16

def bytes (ind : Indication p) : Bytes :=
  0 :: ind.typ :: (toBytes 2 ind.body.length ++
    (0x21 :: 0x12 :: 0xA4 :: 0x42 :: (ind.txnId ++ (ind.body ++ ind.trailing))))

theorem bytes_eq (ind : Indication p) :
    ind.bytes = messageBytes ind.typ.toUInt16 ind.txnId ind.body ind.trailing := by
  have header : toBytes 2 ind.typ.toUInt16.toNat = [0, ind.typ] := by
    unfold Indication.typ
    cases ind.fromServer <;> decide
  rw [messageBytes, header]
  rfl

theorem isStun_bytes (ind : Indication p) : Stun.isStun ind.bytes = true := by
  rw [ind.bytes_eq]
  exact isStun_messageBytes _ _ _ ind.txnLength

theorem data_body (ind : Indication p) :
    (Stun.parseAttrs ind.body).findSome? StunAttribute.data = some p := by
  have others : (ind.before.map PaddedAttr.attr).findSome? StunAttribute.data = none := by
    rw [List.findSome?_eq_none_iff]
    intro attr member
    obtain ⟨a, listed, rfl⟩ := List.mem_map.mp member
    exact if_neg (ind.plain a listed)
  unfold body
  rw [parseAttrs_flatMap, parseAttrs_bytes, List.findSome?_append, others, Option.none_or,
    ind.carries, List.findSome?_cons]
  rfl

theorem parse_bytes (ind : Indication p) : ∃ msg, Stun.parse ind.bytes = some msg ∧
    (msg.method = Stun.methodSend ∨ msg.method = Stun.methodData) ∧ msg.cls = .indication ∧
    msg.dataPayload = some p := by
  have parsed := parse_messageBytes ind.typ.toUInt16 ind.trailing ind.txnLength ind.short
  rw [← Indication.body, ← ind.bytes_eq] at parsed
  refine ⟨_, parsed, ?_, ?_, ind.data_body⟩
  · have method : Stun.stunMethod ind.typ.toUInt16 = Stun.methodSend ∨
        Stun.stunMethod ind.typ.toUInt16 = Stun.methodData := by
      unfold Indication.typ
      cases ind.fromServer
      · exact .inl (by decide)
      · exact .inr (by decide)
    exact method
  · have cls : Stun.stunClass ind.typ.toUInt16 = .indication := by
      unfold Indication.typ
      cases ind.fromServer <;> decide
    exact cls

end Indication

theorem looksLikeSip_zero (rest : Bytes) : looksLikeSip (0 :: rest) = false := by
  have heads : ∀ text ∈ "SIP/" :: startTexts, text.toUTF8.toList.head?.all (· != 0) = true ∧
      text.toUTF8.toList ≠ [] := by decide +kernel
  have misses : ∀ text ∈ "SIP/" :: startTexts, startsWith text (0 :: rest) = false := by
    intro text member
    obtain ⟨nonzero, nonempty⟩ := heads text member
    unfold startsWith
    cases bytes : text.toUTF8.toList with
    | nil => exact absurd bytes nonempty
    | cons b more =>
      rw [bytes] at nonzero
      rw [List.isPrefixOf_cons_cons]
      simp only [List.head?_cons, Option.all_some, bne_iff_ne, ne_eq] at nonzero
      simp [nonzero]
  have first := misses "SIP/" List.mem_cons_self
  have others : startTexts.any (startsWith · (0 :: rest)) = false := by
    rw [List.any_eq_false]
    intro text member
    rw [misses text (List.mem_cons_of_mem _ member)]
    exact Bool.false_ne_true
  unfold looksLikeSip
  rw [first, others]
  exact Bool.and_false _

/-- An indication counts as a TURN packet and hands its data on. -/
theorem handleUdp_indication {dec : Decoder} (media : dec.noMedia = false) (iter : Iteration)
    (c : Correlator) (ts : UInt64) (flow : Flow5Tuple) {p : Bytes} (ind : Indication p) :
    c.handleUdp dec iter ts flow ind.bytes =
      { c with turn := { c.turn with pktsTurn := c.turn.pktsTurn + 1 } }.dispatchMedia ts flow p
        .sendIndication := by
  obtain ⟨msg, parsed, method, cls, data⟩ := ind.parse_bytes
  have other : classify ind.bytes = .other := classify_other (by decide)
  have ingested : c.turn.ingest ts flow ind.bytes =
      ({ c.turn with pktsTurn := c.turn.pktsTurn + 1 }, [], [p]) := by
    unfold TurnTracker.ingest
    dsimp only
    rw [parsed]
    dsimp only
    rw [cls, data]
    rcases method with send | data
    · rw [send]; rfl
    · rw [data]; rfl
  unfold Correlator.handleUdp Correlator.handleTurn
  rw [other, media, ingested, ind.isStun_bytes]
  have noSip : looksLikeSip ind.bytes = false := looksLikeSip_zero _
  rw [noSip]
  rfl

end Sipmon.Guarantees.TurnDemux
