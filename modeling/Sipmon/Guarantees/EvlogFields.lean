import Sipmon.Lib.Leb128
import Sipmon.Source.Evlog.Reader
import Sipmon.Source.Evlog.Writer

/-!
# Field round trips of the event log

For each `write_*` helper the matching `read_*` helper consumes exactly the
written bytes and returns the written value. Strings carry the only premise:
their length must fit the varint that announces it.
-/
namespace Sipmon.Guarantees.EvlogFields
open Lib.ByteReader Lib.BigEndian Source Source.Evlog
open Text (fromUtf8 fromUtf8Lossy)
open Lib.Leb128 (digit continues encode value Terminated)

/-! ## Varints -/

theorem and_low_toNat (b : UInt8) : (b &&& 0x7f).toNat = digit b := by
  rw [UInt8.toNat_and]
  exact Nat.and_two_pow_sub_one_eq_mod b.toNat 7

theorem and_high_eq_zero_iff (b : UInt8) : b &&& 0x80 = 0 ↔ ¬ continues b := by
  have masked : (b &&& 0x80).toNat = (b.toNat.testBit 7).toNat * 2 ^ 7 := by
    rw [UInt8.toNat_and]
    exact Nat.and_two_pow b.toNat 7
  have bound := b.toNat_lt
  rw [← UInt8.toNat_inj, masked, Nat.testBit_eq_decide_div_mod_eq, continues]
  by_cases high : b.toNat / 2 ^ 7 % 2 = 1
  · simp only [high, decide_true, Bool.toNat_true, UInt8.toNat_zero]
    omega
  · simp only [high, decide_false, Bool.toNat_false, UInt8.toNat_zero]
    omega

/-- One more group: its digit joins the accumulator below the later groups. -/
theorem group_joins (acc shift d later : Nat) (small : d < 128) :
    (acc ||| d <<< shift) ||| later <<< (shift + 7) = acc ||| (d + 128 * later) <<< shift := by
  have joined : d + 128 * later = later <<< 7 ||| d := by
    rw [Nat.add_comm, Nat.shiftLeft_eq, Nat.mul_comm later]
    exact Nat.two_pow_add_eq_or_of_lt (i := 7) small later
  rw [joined, Nat.shiftLeft_or_distrib, ← Nat.shiftLeft_add, Nat.add_comm 7 shift, Nat.or_assoc,
    Nat.or_comm (d <<< shift)]

theorem step_accumulates (acc shift : Nat) (b : UInt8) (inRange : shift < 64) :
    UInt64.ofNat acc ||| ((b &&& 0x7f).toUInt64 <<< UInt64.ofNat shift) =
      UInt64.ofNat (acc ||| digit b <<< shift) := by
  rw [UInt64.ofNat_or, UInt64.ofNat_shiftLeft _ _ inRange, ← UInt64.ofNat_uInt8ToNat, and_low_toNat]

/-- Every terminated group list of at most ten groups is read to its value. -/
theorem readVarintFrom_groups (groups rest : Bytes) (terminated : Terminated groups)
    (acc shift : Nat) (fits : shift + 7 * groups.length ≤ 70) :
    readVarintFrom (UInt64.ofNat acc) shift (groups ++ rest) =
      .ok (UInt64.ofNat (acc ||| value groups <<< shift), rest) := by
  induction groups generalizing acc shift with
  | nil => exact terminated.elim
  | cons b groups ih =>
    rw [List.length_cons] at fits
    rw [List.cons_append, readVarintFrom_cons, step_accumulates _ _ _ (by omega)]
    cases groups with
    | nil =>
      rw [if_pos ((and_high_eq_zero_iff b).mpr terminated)]
      simp [value]
    | cons c groups =>
      rw [List.length_cons] at fits
      rw [if_neg (mt (and_high_eq_zero_iff b).mp (not_not_intro terminated.1)), if_neg (by omega),
        ih terminated.2 _ _ (by rw [List.length_cons]; omega)]
      rw [group_joins acc shift (digit b) _ (Nat.mod_lt _ (by decide))]
      rfl

/-- A list of continuing groups that ends early asks for another byte. -/
theorem readVarintFrom_starves (cut : Bytes) (open_ : ∀ b ∈ cut, continues b) (acc : UInt64)
    (shift : Nat) (room : shift + 7 * cut.length < 64) :
    readVarintFrom acc shift cut = .error .unexpectedEof := by
  induction cut generalizing acc shift with
  | nil => exact readVarintFrom_nil acc shift
  | cons b cut ih =>
    rw [List.length_cons] at room
    have more := open_ b (List.mem_cons_self)
    rw [readVarintFrom_cons, if_neg (mt (and_high_eq_zero_iff b).mp (not_not_intro more)),
      if_neg (by omega)]
    exact ih (fun c member => open_ c (List.mem_cons_of_mem b member)) _ _ (by omega)

theorem shiftRight_seven_toNat (n : UInt64) : (n >>> 7).toNat = n.toNat / 128 := by
  simp [UInt64.toNat_shiftRight, Nat.shiftRight_eq_div_pow]

theorem low_byte (n : UInt64) : (n &&& 0x7f).toUInt8 = UInt8.ofNat (n.toNat % 128) := by
  have masked : (n &&& 0x7f).toNat = n.toNat % 128 := by
    rw [UInt64.toNat_and]
    exact Nat.and_two_pow_sub_one_eq_mod n.toNat 7
  rw [← masked]
  rfl

theorem mark_continues (d : Nat) (small : d < 128) :
    UInt8.ofNat d ||| 0x80 = UInt8.ofNat (d + 128) := by
  have joined : d + 128 = d ||| 128 := by
    rw [Nat.add_comm, Nat.or_comm]
    exact Nat.two_pow_add_eq_or_of_lt (i := 7) small 1
  rw [joined, UInt8.ofNat_or]
  rfl

theorem writeVarint_eq (n : UInt64) : writeVarint n = encode n.toNat := by
  induction n using writeVarint.induct with
  | case1 n zero =>
    have small : n.toNat / 128 = 0 := by rw [← shiftRight_seven_toNat, zero]; rfl
    rw [writeVarint, if_pos zero, Lib.Leb128.encode_of_lt (by omega), low_byte,
      Nat.mod_eq_of_lt (by omega)]
  | case2 n more ih =>
    have large : n.toNat / 128 ≠ 0 := by
      rw [← shiftRight_seven_toNat]
      exact fun zero => more (UInt64.toNat_inj.mp zero)
    rw [writeVarint, if_neg more, Lib.Leb128.encode_of_ge (by omega), low_byte,
      mark_continues _ (Nat.mod_lt _ (by decide)), ih, shiftRight_seven_toNat]

theorem writeVarint_length (n : UInt64) : (writeVarint n).length ≤ 10 := by
  rw [writeVarint_eq]
  exact Lib.Leb128.encode_length_le 9 _ (Nat.lt_trans n.toNat_lt (by decide))

theorem writeVarint_length_pos (n : UInt64) : 0 < (writeVarint n).length := by
  rw [writeVarint_eq]
  exact Lib.Leb128.encode_length_pos _

theorem readVarint_decodes (n : UInt64) : Decodes readVarint (writeVarint n) n := by
  intro rest
  have groups := Lib.Leb128.encode_terminated n.toNat
  have short := writeVarint_length n
  have reads := readVarintFrom_groups (encode n.toNat) rest groups 0 0
    (by rw [← writeVarint_eq]; omega)
  rw [writeVarint_eq]
  rw [Lib.Leb128.value_encode, Nat.shiftLeft_zero, Nat.zero_or, UInt64.ofNat_toNat] at reads
  exact reads

theorem readVarint_starves (n : UInt64) : Starves readVarint (writeVarint n) := by
  intro cut isPrefix proper
  have short := writeVarint_length n
  rw [writeVarint_eq] at isPrefix proper short
  have open_ := (Lib.Leb128.encode_terminated n.toNat).prefix_continues isPrefix proper
  exact readVarintFrom_starves cut open_ 0 0 (by omega)

/-! ## Strings and byte strings -/

theorem fromUtf8_stringBytes (str : String) : fromUtf8 (stringBytes str) = some str := Source.Text.fromUtf8_toUTF8 str

theorem fromUtf8Lossy_stringBytes (str : String) : fromUtf8Lossy (stringBytes str) = str := by
  rw [fromUtf8Lossy, fromUtf8_stringBytes, Option.getD_some]

theorem lenU64_toNat (bs : Bytes) (fits : bs.length < 2 ^ 64) : (lenU64 bs).toNat = bs.length := by
  rw [lenU64, UInt64.toNat_ofNat', Nat.mod_eq_of_lt fits]

/-- Every length in a record is announced by a `u64`. -/
abbrev Codes {α : Type} (r : Reader α) (bs : Bytes) (a : α) : Prop := DecodesBelow (2 ^ 64) r bs a

theorem readBytes_codes (bs : Bytes) : Codes readBytes (writeBytes bs) bs := by
  intro short
  rw [writeBytes, List.length_append] at short
  refine (readVarint_decodes (lenU64 bs)).bind ?_
  rw [lenU64_toNat bs (by omega)]
  exact readExact_decodes bs

theorem readString_codes (str : String) : Codes readString (writeString str) str := by
  intro short
  rw [writeString, List.length_append] at short
  refine (readVarint_decodes (lenU64 (stringBytes str))).bind ?_
  rw [lenU64_toNat _ (by omega)]
  have body := (readExact_decodes (stringBytes str)).bind_pure (f := fromUtf8Lossy)
  rw [fromUtf8Lossy_stringBytes] at body
  exact body

theorem readOptString_codes (v : Option String) : Codes readOptString (writeOptString v) v := by
  intro short
  cases v with
  | none =>
    rw [writeOptString, ← List.append_nil (writeVarint 0)]
    exact (readVarint_decodes 0).bind (Decodes.pure none)
  | some str =>
    have prefixed := writeVarint_length_pos (lenU64 (stringBytes str) + 1)
    rw [writeOptString, List.length_append] at short
    have length := lenU64_toNat (stringBytes str) (by omega)
    have announced : (lenU64 (stringBytes str) + 1).toNat = (stringBytes str).length + 1 := by
      rw [UInt64.toNat_add, length]
      exact Nat.mod_eq_of_lt (by change (stringBytes str).length + 1 < 2 ^ 64; omega)
    have present : lenU64 (stringBytes str) + 1 ≠ 0 := by
      intro zero
      rw [zero] at announced
      cases announced
    have real : (lenU64 (stringBytes str) + 1 - 1).toNat = (stringBytes str).length := by
      rw [UInt64.add_sub_cancel, length]
    refine (readVarint_decodes _).bind ?_
    rw [if_neg present, real]
    have body := (readExact_decodes (stringBytes str)).bind_pure (f := some ∘ fromUtf8Lossy)
    rw [Function.comp_apply, fromUtf8Lossy_stringBytes] at body
    exact body

/-! ## Fixed-width fields -/

theorem readOpt_decodes {α : Type} (read : Reader α) (write : α → Bytes)
    (decodes : ∀ x, Decodes read (write x) x) (v : Option α) :
    Decodes (readOpt read) (writeOpt write v) v := by
  cases v with
  | none => exact (readByte_decodes 0).bind (Decodes.pure none)
  | some x =>
    refine (readByte_decodes 1).bind ?_
    exact (decodes x).bind_pure

/-- A fixed-width number comes back through any conversion that undoes `toNat`. -/
theorem readFixed_decodes {α : Type} (k n : Nat) (fits : n < 256 ^ k) (convert : Nat → α) (v : α)
    (undoes : convert n = v) :
    Decodes (readExact k >>= fun b => pure (convert (ofBytes b))) (toBytes k n) v := by
  have body := (readExact_decodes (toBytes k n)).bind_pure (f := convert ∘ ofBytes)
  rw [toBytes_length, Function.comp_apply, ofBytes_toBytes k n fits, undoes] at body
  exact body

theorem readU16_decodes (v : UInt16) : Decodes readU16 (toBytes 2 v.toNat) v :=
  readFixed_decodes 2 v.toNat v.toNat_lt UInt16.ofNat v UInt16.ofNat_toNat

theorem readU32_decodes (v : UInt32) : Decodes readU32 (writeU32 v) v :=
  readFixed_decodes 4 v.toNat v.toNat_lt UInt32.ofNat v UInt32.ofNat_toNat

theorem readF64_decodes (v : F64) : Decodes readF64 (writeF64 v) v :=
  readFixed_decodes 8 v.bits.toNat v.bits.toNat_lt (fun n => F64.mk (UInt64.ofNat n)) v
    (by rw [UInt64.ofNat_toNat])

theorem readBool_decodes (b : Bool) : Decodes readBool (writeBool b) b := by
  cases b with
  | false => exact (readByte_decodes 0).bind_pure
  | true => exact (readByte_decodes 1).bind_pure

theorem readOptU8_decodes (v : Option UInt8) : Decodes readOptU8 (writeOptU8 v) v :=
  readOpt_decodes _ _ readByte_decodes v

theorem readOptU16_decodes (v : Option UInt16) : Decodes readOptU16 (writeOptU16 v) v :=
  readOpt_decodes _ _ readU16_decodes v

theorem readOptU64_decodes (v : Option UInt64) : Decodes readOptU64 (writeOptU64 v) v :=
  readOpt_decodes _ _ readVarint_decodes v

theorem readOptF64_decodes (v : Option F64) : Decodes readOptF64 (writeOptF64 v) v :=
  readOpt_decodes _ _ readF64_decodes v

theorem readOptU32_decodes (v : Option UInt32) : Decodes readOptU32 (writeOptU32 v) v := by
  refine readOpt_decodes _ _ (fun x => ?_) v
  have body := (readVarint_decodes x.toUInt64).bind_pure (f := UInt64.toUInt32)
  rw [UInt32.toUInt32_toUInt64] at body
  exact body

/-! ## Flows and metric cells -/

theorem readIp_four_decodes (ip : Ipv4Addr) : Decodes (readIp 4) ip.octets (.v4 ip) :=
  (readExact_decodes ip.octets).bind_pure

theorem readIp_six_decodes (ip : Ipv6Addr) : Decodes (readIp 6) ip.octets.toList (.v6 ip) := by
  have body := (readExact_decodes ip.octets.toList).bind_pure
    (f := fun b => IpAddr.v6 (Ipv6Addr.ofOctets b))
  rw [Ipv6Addr.octets_length, Ipv6Addr.ofOctets_octets] at body
  exact body

theorem readSockaddr_decodes (sa : SocketAddr) : Decodes readSockaddr (writeSockaddr sa) sa := by
  obtain ⟨ip, port⟩ := sa
  cases ip with
  | v4 ip =>
    refine (readByte_decodes 4).bind ((readIp_four_decodes ip).bind ?_)
    exact (readU16_decodes port).bind_pure
  | v6 ip =>
    refine (readByte_decodes 6).bind ((readIp_six_decodes ip).bind ?_)
    exact (readU16_decodes port).bind_pure

theorem readFlow_decodes (flow : Flow5Tuple) : Decodes readFlow (writeFlow flow) flow := by
  unfold writeFlow
  rw [List.append_assoc]
  refine (readByte_decodes _).bind ((readSockaddr_decodes flow.src).bind ?_)
  have last := (readSockaddr_decodes flow.dst).bind_pure (f := fun dst =>
    { proto := if protoByte flow.proto = 1 then .tcp else .udp, src := flow.src, dst : Flow5Tuple })
  cases flow with
  | mk proto src dst => cases proto <;> exact last

theorem readMetricSet_decodes (m : MetricSet) : Decodes readMetricSet (writeMetricSet m) m := by
  unfold writeMetricSet
  simp only [List.append_assoc]
  exact (readVarint_decodes _).bind <| (readVarint_decodes _).bind <| (readVarint_decodes _).bind <|
    (readF64_decodes _).bind <| (readVarint_decodes _).bind <| (readF64_decodes _).bind <|
    (readVarint_decodes _).bind <| (readF64_decodes _).bind <| (readVarint_decodes _).bind <|
    (readF64_decodes _).bind <| (readVarint_decodes _).bind <| (readF64_decodes _).bind <|
    (readVarint_decodes _).bind_pure

end Sipmon.Guarantees.EvlogFields
