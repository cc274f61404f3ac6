import Mathlib.Tactic.IntervalCases
import Sipmon.Guarantees.TurnDemux

/-!
# STUN messages decode to what was encoded

The class, the transaction ID, the attributes and the addresses behind the XOR come
back from every encoded message. The method comes back without its five upper bits:
`stunMethod` reads the two lower groups of the three that the message type has.
-/
namespace Sipmon.Guarantees.StunRoundTrip
open Source Lib Lib.BigEndian TurnDemux
open Lib.ByteReader (Bytes)

/-! ## Message type -/

/-- The two class bits, at their places in the message type. -/
def classBits : StunClass → UInt16
  | .request => 0x0000
  | .indication => 0x0010
  | .success => 0x0100
  | .error => 0x0110

/-- The bits of the method in three groups, with a class bit between each two. -/
def messageType (method : UInt16) (cls : StunClass) : UInt16 :=
  (method &&& (0x000F : UInt16)) ||| ((method &&& (0x0070 : UInt16)) <<< (1 : UInt16)) |||
    ((method &&& (0x0F80 : UInt16)) <<< (2 : UInt16)) ||| classBits cls

section Bits

variable (m c : BitVec 16)

def typeBits : BitVec 16 := (m &&& 0x000F#16) ||| ((m &&& 0x0070#16) <<< 1) ||| ((m &&& 0x0F80#16) <<< 2) ||| c

theorem method_of_typeBits (class_only : c &&& 0x0110#16 = c) :
    (typeBits m c &&& 0x000F#16) ||| ((typeBits m c >>> 1) &&& 0x0070#16) = m &&& 0x007F#16 := by
  rw [← class_only]
  ext i inside
  unfold typeBits
  interval_cases i <;> simp

theorem high_of_typeBits : (typeBits m c >>> 8) &&& 1#16 = (c >>> 8) &&& 1#16 := by
  ext i inside
  unfold typeBits
  interval_cases i <;> simp

theorem low_of_typeBits : (typeBits m c >>> 4) &&& 1#16 = (c >>> 4) &&& 1#16 := by
  ext i inside
  unfold typeBits
  interval_cases i <;> simp

end Bits

/-- The decoder keeps seven bits of the method. -/
theorem stunMethod_messageType (method : UInt16) (cls : StunClass) :
    Stun.stunMethod (messageType method cls) = method &&& 0x007F := by
  apply UInt16.toBitVec_inj.mp
  have class_only : (classBits cls).toBitVec &&& 0x0110#16 = (classBits cls).toBitVec := by
    cases cls <;> decide
  exact method_of_typeBits method.toBitVec (classBits cls).toBitVec class_only

theorem stunClass_messageType (method : UInt16) (cls : StunClass) :
    Stun.stunClass (messageType method cls) = cls := by
  have high : (messageType method cls >>> 8) &&& (1 : UInt16) = (classBits cls >>> 8) &&& (1 : UInt16) :=
    UInt16.toBitVec_inj.mp (high_of_typeBits method.toBitVec (classBits cls).toBitVec)
  have low : (messageType method cls >>> 4) &&& (1 : UInt16) = (classBits cls >>> 4) &&& (1 : UInt16) :=
    UInt16.toBitVec_inj.mp (low_of_typeBits method.toBitVec (classBits cls).toBitVec)
  unfold Stun.stunClass
  rw [high, low]
  cases cls <;> rfl

theorem seven_bits_iff (method : UInt16) : method &&& 0x007F = method ↔ method < 128 := by
  have masked : (method &&& 0x007F).toNat = method.toNat % 128 := Nat.and_two_pow_sub_one_eq_mod _ 7
  rw [← UInt16.toNat_inj, masked, UInt16.lt_iff_toNat_lt]
  exact Nat.mod_eq_iff_lt (by decide)

/-! ## XOR addresses -/

theorem xor_xor {bytes key : Bytes} (covered : bytes.length ≤ key.length) :
    List.zipWith (· ^^^ ·) (List.zipWith (· ^^^ ·) bytes key) key = bytes := by
  induction bytes generalizing key with
  | nil => rfl
  | cons b rest ih =>
    cases key with
    | nil => exact absurd covered (by simp)
    | cons k more =>
      have tail := ih (Nat.le_of_succ_le_succ covered)
      simp only [List.zipWith_cons_cons, tail, UInt8.xor_assoc, UInt8.xor_self, UInt8.xor_zero]

/-- The types of the attributes that hold an XOR address. -/
def xorTypes : List UInt16 :=
  [Stun.attrXorMappedAddress, Stun.attrXorRelayedAddress, Stun.attrXorPeerAddress]

/-- Family and octets of an address. -/
def family : IpAddr → UInt8 × Bytes
  | .v4 ip => (1, ip.octets)
  | .v6 ip => (2, ip.octets.toList)

/-- The value of an XOR address attribute, with whatever its reserved byte holds. -/
def xorValue (reserved : UInt8) (addr : SocketAddr) (txnId : Bytes) : Bytes :=
  reserved :: (family addr.ip).1 :: (toBytes 2 (addr.port ^^^ 0x2112).toNat ++
    List.zipWith (· ^^^ ·) (family addr.ip).2 (StunAttribute.xorKey txnId))

section Value

variable (reserved : UInt8) (addr : SocketAddr) (txnId : Bytes)

theorem be16_xorValue : be16 (xorValue reserved addr txnId) 2 = addr.port ^^^ 0x2112 := by
  have header := toBytes_length 2 (addr.port ^^^ 0x2112).toNat
  unfold be16 xorValue
  rw [List.drop_succ_cons, List.drop_succ_cons, List.drop_zero, List.take_append_of_le_length (by omega),
    List.take_of_length_le (by omega), ofBytes_toBytes 2 _ (UInt16.toNat_lt _), UInt16.ofNat_toNat]

theorem drop_four_xorValue : (xorValue reserved addr txnId).drop 4 =
    List.zipWith (· ^^^ ·) (family addr.ip).2 (StunAttribute.xorKey txnId) := by
  have header := toBytes_length 2 (addr.port ^^^ 0x2112).toNat
  unfold xorValue
  rw [List.drop_succ_cons, List.drop_succ_cons, List.drop_append_of_le_length (by omega),
    List.drop_eq_nil_of_le (by omega), List.nil_append]

end Value

theorem xorAddress_xorValue {attr : StunAttribute} {txnId : Bytes} (txnLength : txnId.length = 12)
    (xored : attr.typ ∈ xorTypes) {reserved : UInt8} {addr : SocketAddr}
    (encoded : attr.value = xorValue reserved addr txnId) : attr.xorAddress txnId = some addr := by
  have keyLength : (StunAttribute.xorKey txnId).length = 16 := by
    rw [StunAttribute.xorKey, List.length_append, txnLength]
    rfl
  have covered : (family addr.ip).2.length ≤ 16 := by
    cases addr.ip <;> simp [family]
  have octetsLength : (List.zipWith (· ^^^ ·) (family addr.ip).2 (StunAttribute.xorKey txnId)).length =
      (family addr.ip).2.length := by
    rw [List.length_zipWith]
    omega
  have length : attr.value.length = 4 + (family addr.ip).2.length := by
    have rest := congrArg List.length (drop_four_xorValue reserved addr txnId)
    have header := toBytes_length 2 (addr.port ^^^ 0x2112).toNat
    rw [encoded, xorValue, List.length_cons, List.length_cons, List.length_append, header, octetsLength]
    omega
  have port : be16 attr.value 2 ^^^ (Stun.magicCookie >>> 16).toUInt16 = addr.port := by
    have half : (Stun.magicCookie >>> 16).toUInt16 = 0x2112 := by decide
    rw [encoded, be16_xorValue, half, UInt16.xor_assoc, UInt16.xor_self, UInt16.xor_zero]
  have octets : List.zipWith (· ^^^ ·) ((attr.value.drop 4).take (family addr.ip).2.length)
      (StunAttribute.xorKey txnId) = (family addr.ip).2 := by
    rw [encoded, drop_four_xorValue, List.take_of_length_le (by omega), xor_xor (by omega)]
  have familyAt : attr.value.getD 1 0 = (family addr.ip).1 := by
    rw [encoded]
    rfl
  have typed : ¬((attr.typ ≠ Stun.attrXorMappedAddress ∧ attr.typ ≠ Stun.attrXorRelayedAddress ∧
      attr.typ ≠ Stun.attrXorPeerAddress) ∨ attr.value.length < 4) := by
    simp only [xorTypes, List.mem_cons, List.not_mem_nil, or_false] at xored
    rintro (other | shorter)
    · exact xored.elim other.1 fun rest => rest.elim other.2.1 other.2.2
    · omega
  obtain ⟨ip, _⟩ := addr
  rw [StunAttribute.xorAddress, if_neg typed]
  dsimp only at *
  rw [familyAt, port]
  cases ip with
  | v4 ip =>
    have size : (family (.v4 ip)).2.length = 4 := rfl
    rw [size] at octets length
    have long : ¬attr.value.length < 8 := by omega
    have rebuilt := congrArg Ipv4Addr.ofOctets octets
    change (if attr.value.length < 8 then none else some _) = _
    rw [if_neg long, rebuilt]
    rfl
  | v6 ip =>
    have size : (family (.v6 ip)).2.length = 16 := ip.octets_length
    rw [size] at octets length
    have long : ¬attr.value.length < 20 := by omega
    have rebuilt := congrArg Ipv6Addr.ofOctets octets
    change (if attr.value.length < 20 then none else some _) = _
    rw [if_neg long, rebuilt]
    rw [family, Ipv6Addr.ofOctets_octets]

/-! ## Messages -/

structure Message where
  method : UInt16
  cls : StunClass
  txnId : Vector UInt8 12
  attrs : List PaddedAttr
  twelve : method.toNat < 2 ^ 12
  short : (attrs.flatMap PaddedAttr.bytes).length < 2 ^ 16

namespace Message

def bytes (m : Message) : Bytes :=
  messageBytes (messageType m.method m.cls) m.txnId.toList (m.attrs.flatMap PaddedAttr.bytes) []

/-- Everything but the method: the attributes in order, and with them each address. -/
structure RestDecoded (m : Message) (msg : StunMessage) : Prop where
  cls : msg.cls = m.cls
  txnId : msg.txnId = m.txnId.toList
  attrs : msg.attrs = m.attrs.map PaddedAttr.attr
  addresses : ∀ attr ∈ msg.attrs, attr.typ ∈ xorTypes → ∀ reserved addr,
    attr.value = xorValue reserved addr m.txnId.toList → attr.xorAddress msg.txnId = some addr

/-- What `parse` returns for any encoded message. -/
theorem parse_bytes (m : Message) : ∃ msg, Stun.parse m.bytes = some msg ∧
    msg.method = m.method &&& 0x007F ∧ m.RestDecoded msg := by
  have txnLength : m.txnId.toList.length = 12 := Vector.length_toList
  have ended : Stun.parseAttrs [] = [] := by
    rw [Stun.parseAttrs]
    exact if_pos (Or.inl (by decide))
  have attrs : Stun.parseAttrs (m.attrs.flatMap PaddedAttr.bytes) = m.attrs.map PaddedAttr.attr := by
    have all := parseAttrs_flatMap m.attrs []
    rwa [List.append_nil, ended, List.append_nil] at all
  refine ⟨_, parse_messageBytes (messageType m.method m.cls) [] txnLength m.short,
    stunMethod_messageType m.method m.cls, ?_⟩
  exact
    { cls := stunClass_messageType m.method m.cls
      txnId := rfl
      attrs := attrs
      addresses := fun attr _ xored _ _ encoded => xorAddress_xorValue txnLength xored encoded }

end Message

/-- A message decodes to what was encoded exactly when its method fits seven bits. -/
theorem stun_decodes_iff (m : Message) :
    (∃ msg, Stun.parse m.bytes = some msg ∧ msg.method = m.method ∧ m.RestDecoded msg) ↔
      m.method < 128 := by
  obtain ⟨msg, parsed, method, rest⟩ := m.parse_bytes
  rw [← seven_bits_iff]
  constructor
  · rintro ⟨again, parsedAgain, exact_method, -⟩
    rw [parsed, Option.some_inj] at parsedAgain
    rw [← method, parsedAgain, exact_method]
  · intro kept
    exact ⟨msg, parsed, method.trans kept, rest⟩

/-- A request with the method 0x083. -/
def wideMethod : Message where
  method := 0x083
  cls := .request
  txnId := Vector.replicate 12 0
  attrs := []
  twelve := by decide
  short := by decide

/-- It decodes as an Allocate request. -/
theorem wide_method_truncated :
    (∃ msg, Stun.parse wideMethod.bytes = some msg ∧ msg.method = Stun.methodAllocate) ∧
    ¬∃ msg, Stun.parse wideMethod.bytes = some msg ∧ msg.method = wideMethod.method ∧
      wideMethod.RestDecoded msg := by
  obtain ⟨msg, parsed, method, -⟩ := wideMethod.parse_bytes
  have allocate : wideMethod.method &&& 0x007F = Stun.methodAllocate := by decide
  refine ⟨⟨msg, parsed, method.trans allocate⟩, ?_⟩
  rintro ⟨again, parsedAgain, exact_method, -⟩
  rw [parsed, Option.some_inj] at parsedAgain
  rw [parsedAgain, exact_method] at method
  exact absurd method (by decide)

end Sipmon.Guarantees.StunRoundTrip
