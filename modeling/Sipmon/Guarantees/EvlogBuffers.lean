import Sipmon.Guarantees.EvlogFields
import Sipmon.Source.Evlog.Buffers

/-!
# What the payload decoder asks memory for

A length prefix is believed before the bytes behind it are seen. The walk of a
payload ends as the decoder does, unless a request panics first.
-/
namespace Sipmon.Guarantees.EvlogBuffers
open Lib.ByteReader Source.Evlog EvlogFields

/-! ## The layouts are those of the decoder -/

theorem erase_bind {α β : Type} {r : Reader α} {next : α → Reader β} {after : Reader Unit}
    (rest : ∀ a, discard (next a) = after) : discard (r >>= next) = (discard r >>= fun _ => after) := by
  have erased : ∀ a, (Functor.mapConst () (next a) : Reader Unit) = after := rest
  simp only [discard, map_const, Function.comp_apply, map_bind, bind_map_left] at erased ⊢
  exact bind_congr erased

theorem erase_pure {α : Type} (a : α) : discard (pure a : Reader α) = pure () := rfl

theorem erase_map {α β : Type} (f : α → β) (r : Reader α) : discard (f <$> r) = discard r := by
  simp [discard, map_const]

theorem discard_apply {α : Type} (r : Reader α) (bytes : Bytes) :
    (discard r) bytes = match r bytes with
      | .ok (_, rest) => .ok ((), rest)
      | .error e => .error e := by
  change (Functor.mapConst () r).run bytes = _
  rw [map_const, Function.comp_apply, StateT.run_map]
  change (fun p : α × Bytes => ((), p.2)) <$> r bytes = _
  cases r bytes <;> rfl

theorem skipTail_nil : (fun bytes => if bytes.isEmpty then .ok ((), bytes) else skipAll [] bytes) =
    (pure () : Reader Unit) := by
  funext bytes
  cases bytes <;> rfl

/-- A layout without tail is its fields. -/
theorem skip_no_tail (fields : List Field) : ({ fields } : Layout).skip = skipAll fields := by
  unfold Layout.skip
  rw [skipTail_nil]
  exact bind_pure (skipAll fields)

theorem skip_sipMsg (tsUs : UInt64) : discard (decodeSipMsg tsUs) = sipMsgLayout.skip := by
  rw [sipMsgLayout, skip_no_tail, decodeSipMsg]
  repeat apply erase_bind; intro _
  exact erase_pure _

theorem skip_txn (tsUs : UInt64) : discard (decodeTxn tsUs) = txnLayout.skip := by
  rw [txnLayout, skip_no_tail, decodeTxn]
  repeat apply erase_bind; intro _
  exact erase_pure _

theorem skip_call (tsUs : UInt64) : discard (decodeCall tsUs) = callLayout.skip := by
  rw [callLayout, skip_no_tail, decodeCall]
  repeat apply erase_bind; intro _
  exact erase_pure _

theorem skip_rtcpRtt (tsUs : UInt64) : discard (decodeRtcpRtt tsUs) = rtcpRttLayout.skip := by
  rw [rtcpRttLayout, skip_no_tail, decodeRtcpRtt]
  repeat apply erase_bind; intro _
  exact erase_pure _

theorem skip_healthBucket : discard decodeHealthBucket = healthBucketLayout.skip := by
  rw [healthBucketLayout, skip_no_tail, decodeHealthBucket]
  repeat apply erase_bind; intro _
  exact erase_pure _

theorem skip_error (tsUs : UInt64) : discard (decodeError tsUs) = errorLayout.skip := by
  rw [errorLayout, skip_no_tail, decodeError]
  repeat apply erase_bind; intro _
  exact erase_pure _

theorem skip_diag (tsUs : UInt64) : discard (decodeDiag tsUs) = diagLayout.skip := by
  rw [diagLayout, skip_no_tail, decodeDiag]
  repeat apply erase_bind; intro _
  exact erase_pure _

theorem skip_snapFields : discard readSnapFields = skipAll streamSnapLayout.tail := by
  rw [readSnapFields]
  repeat apply erase_bind; intro _
  exact erase_pure _

/-- Older logs stop before the tail. -/
theorem skip_snapTail : discard readSnapTail =
    fun bytes => if bytes.isEmpty then .ok ((), bytes) else skipAll streamSnapLayout.tail bytes := by
  funext bytes
  rw [← skip_snapFields, discard_apply, discard_apply, readSnapTail]
  cases bytes <;> rfl

theorem skip_streamSnap (tsUs : UInt64) : discard (decodeStreamSnap tsUs) = streamSnapLayout.skip := by
  have fields : discard (decodeStreamSnap tsUs) = (do
      skipAll streamSnapLayout.fields
      discard readSnapTail) := by
    rw [decodeStreamSnap, streamSnapLayout]
    simp only [skipAll, bind_assoc, pure_bind]
    repeat apply erase_bind; intro _
    exact (erase_bind fun _ => erase_pure _).trans bind_pure_unit
  rw [fields, skip_snapTail]
  rfl

theorem skip_decodeEvent (ty : UInt8) (tsUs : UInt64) : discard (decodeEvent ty tsUs) = (layoutOf ty).skip := by
  unfold decodeEvent layoutOf
  have unknown : discard (pure (unknownEvent ty tsUs)) = ({ fields := [] } : Layout).skip := (skip_no_tail []).symm
  generalize ty.toNat = n
  rcases n with _ | _ | _ | _ | _ | _ | _ | _ | _ | n
  · exact unknown
  · exact (erase_map _ _).trans (skip_sipMsg tsUs)
  · exact (erase_map _ _).trans (skip_txn tsUs)
  · exact (erase_map _ _).trans (skip_call tsUs)
  · exact (erase_map _ _).trans (skip_streamSnap tsUs)
  · exact (erase_map _ _).trans (skip_rtcpRtt tsUs)
  · exact (erase_map _ _).trans skip_healthBucket
  · exact (erase_map _ _).trans (skip_error tsUs)
  · exact (erase_map _ _).trans (skip_diag tsUs)
  · exact unknown

/-! ## What a length prefix announces -/

/-- The buffer a field asks for next, and the bytes behind its length prefix. -/
def announces : Field → Bytes → Option (Nat × Bytes)
  | .plain _, _ => none
  | .string, bytes | .bytes, bytes =>
    match readVarint bytes with
    | .ok (len, rest) => some (len.toNat, rest)
    | .error _ => none
  | .optString, bytes =>
    match readVarint bytes with
    | .ok (len, rest) => if len = 0 then none else some ((len - 1).toNat, rest)
    | .error _ => none

theorem endingOf_discard {α : Type} (r : Reader α) (bytes : Bytes) :
    endingOf ((discard r) bytes) = endingOf (r bytes) := by
  rw [discard_apply]
  cases r bytes <;> rfl

theorem endingOf_bind_pure {α β : Type} (r : Reader α) (f : α → β) (bytes : Bytes) :
    endingOf ((r >>= fun a => pure (f a)).run bytes) = endingOf (r bytes) := by
  rw [StateT.run_bind]
  change endingOf (r bytes >>= _) = _
  cases r bytes <;> rfl

theorem run_bind_error {α β : Type} {r : Reader α} {next : α → Reader β} {bytes : Bytes} {e : ReadError}
    (failed : r.run bytes = .error e) : (r >>= next).run bytes = .error e := by
  rw [StateT.run_bind, failed]
  rfl

theorem walk_of_silent {field : Field} {bytes : Bytes} (silent : announces field bytes = none) :
    field.walk bytes = .quiet (endingOf (field.skip bytes)) := by
  cases field with
  | plain read => rfl
  | string =>
    unfold announces at silent
    cases prefixed : readVarint bytes with
    | ok result => simp [prefixed] at silent
    | error e =>
      have failed : readString bytes = .error e := run_bind_error prefixed
      simp only [Field.walk, walkString, prefixed, Field.skip, endingOf_discard, failed]
      rfl
  | bytes =>
    unfold announces at silent
    cases prefixed : readVarint bytes with
    | ok result => simp [prefixed] at silent
    | error e =>
      have failed : readBytes bytes = .error e := run_bind_error prefixed
      simp only [Field.walk, walkString, prefixed, Field.skip, endingOf_discard, failed]
      rfl
  | optString =>
    unfold announces at silent
    cases prefixed : readVarint bytes with
    | error e =>
      have failed : readOptString bytes = .error e := run_bind_error prefixed
      simp only [Field.walk, walkOptString, prefixed, Field.skip, endingOf_discard, failed]
      rfl
    | ok result =>
      obtain ⟨len, rest⟩ := result
      by_cases absent : len = 0
      · have read : readOptString bytes = .ok (none, rest) := by
          rw [show readOptString bytes = _ from run_bind_ok prefixed, if_pos absent]
          rfl
        simp only [Field.walk, walkOptString, prefixed, if_pos absent, Field.skip, endingOf_discard, read]
        rfl
      · simp [prefixed, absent] at silent

theorem walk_of_announced {field : Field} {bytes rest : Bytes} {len : Nat}
    (announced : announces field bytes = some (len, rest)) :
    field.walk bytes = fillBuffer len rest ∧ endingOf (field.skip bytes) = endingOf (readExact len rest) := by
  cases field with
  | plain read => cases announced
  | string =>
    unfold announces at announced
    cases prefixed : readVarint bytes with
    | error e => simp [prefixed] at announced
    | ok result =>
      obtain ⟨n, left⟩ := result
      simp only [prefixed, Option.some.injEq, Prod.mk.injEq] at announced
      obtain ⟨rfl, rfl⟩ := announced
      simp only [Field.walk, walkString, prefixed, Field.skip, endingOf_discard, true_and]
      rw [show readString bytes = _ from run_bind_ok prefixed]
      exact endingOf_bind_pure _ _ _
  | bytes =>
    unfold announces at announced
    cases prefixed : readVarint bytes with
    | error e => simp [prefixed] at announced
    | ok result =>
      obtain ⟨n, left⟩ := result
      simp only [prefixed, Option.some.injEq, Prod.mk.injEq] at announced
      obtain ⟨rfl, rfl⟩ := announced
      simp only [Field.walk, walkString, prefixed, Field.skip, endingOf_discard, true_and]
      rw [show readBytes bytes = _ from run_bind_ok prefixed]
      rfl
  | optString =>
    unfold announces at announced
    cases prefixed : readVarint bytes with
    | error e => simp [prefixed] at announced
    | ok result =>
      obtain ⟨n, left⟩ := result
      by_cases absent : n = 0
      · simp [prefixed, absent] at announced
      · simp only [prefixed, if_neg absent, Option.some.injEq, Prod.mk.injEq] at announced
        obtain ⟨rfl, rfl⟩ := announced
        simp only [Field.walk, walkOptString, prefixed, if_neg absent, Field.skip, endingOf_discard, true_and]
        rw [show readOptString bytes = _ from run_bind_ok prefixed, if_neg absent]
        exact endingOf_bind_pure _ _ _

/-! ## One field after another -/

/-- The walk ends as the plain decoder does and asks for nothing longer than
what is left. -/
def Sound (walk : Walk) (ending : Ending) : Prop :=
  walk.ending = ending ∧ ∀ request ∈ walk.requests, request.len ≤ request.remaining

/-- No length prefix on the way through the fields announces more than the bytes
behind it, and `after` holds of what the fields leave. -/
def CoveredThen (after : Bytes → Prop) : List Field → Bytes → Prop
  | [], bytes => after bytes
  | field :: fields, bytes =>
    (∀ announced ∈ announces field bytes, announced.1 ≤ announced.2.length) ∧
      ∀ rest, field.skip bytes = .ok ((), rest) → CoveredThen after fields rest

theorem andThen_assoc (walk : Walk) (next last : Bytes → Walk) :
    (walk.andThen next).andThen last = walk.andThen fun rest => (next rest).andThen last := by
  unfold Walk.andThen
  cases ending : walk.ending with
  | done rest =>
    cases later : (next rest).ending <;> simp [later]
  | failed e => simp [ending]
  | panicked => simp [ending]

theorem andThen_done (walk : Walk) : (walk.andThen fun rest => .quiet (.done rest)) = walk := by
  unfold Walk.andThen
  cases walk with
  | mk requests ending => cases ending <;> simp [Walk.quiet]

theorem sound_andThen {walk : Walk} {rest : Bytes} (done : walk.ending = .done rest) (next : Bytes → Walk)
    (ending : Ending) : Sound (walk.andThen next) ending ↔
      (∀ request ∈ walk.requests, request.len ≤ request.remaining) ∧ Sound (next rest) ending := by
  simp only [Sound, Walk.andThen, done, List.mem_append]
  constructor
  · rintro ⟨same, bounded⟩
    exact ⟨fun r member => bounded r (Or.inl member), same, fun r member => bounded r (Or.inr member)⟩
  · rintro ⟨early, same, late⟩
    exact ⟨same, fun r member => member.elim (early r) (late r)⟩

theorem announces_shrinks {field : Field} {bytes rest : Bytes} {len : Nat}
    (announced : announces field bytes = some (len, rest)) : rest.length < bytes.length := by
  unfold announces at announced
  split at announced
  · cases announced
  all_goals
    split at announced
    · next prefixed =>
      have consumed := readVarintFrom_consumes _ _ _ _ _ prefixed
      first
        | (cases announced; exact consumed)
        | (split at announced <;> cases announced; exact consumed)
    · cases announced

theorem mem_andThen {walk : Walk} {request : Request} (member : request ∈ walk.requests) (next : Bytes → Walk) :
    request ∈ (walk.andThen next).requests := by
  unfold Walk.andThen
  cases walk.ending with
  | done rest => exact List.mem_append_left _ member
  | failed e => exact member
  | panicked => exact member

theorem ok_of_ending {r : Reader Unit} {bytes rest : Bytes} (ending : endingOf (r bytes) = .done rest) :
    r bytes = .ok ((), rest) := by
  cases read : r bytes with
  | error e =>
    rw [read] at ending
    cases ending
  | ok result =>
    rw [read] at ending
    cases ending
    rfl

/-- A field that is read goes on; its walk must have asked for no more than there is. -/
theorem sound_goes_on {field : Field} {bytes rest : Bytes} (skipped : field.skip bytes = .ok ((), rest))
    (ends : (field.walk bytes).ending = .done rest)
    (bounded : ∀ request ∈ (field.walk bytes).requests, request.len ≤ request.remaining)
    (next : Bytes → Walk) (read : Reader Unit) :
    Sound ((field.walk bytes).andThen next) (endingOf ((field.skip >>= fun _ => read) bytes)) ↔
      Sound (next rest) (endingOf (read rest)) := by
  have reads : (field.skip >>= fun _ => read) bytes = read rest := run_bind_ok skipped
  rw [sound_andThen ends, reads]
  exact ⟨fun both => both.2, fun sound => ⟨bounded, sound⟩⟩

/-- One field in front: the walk goes on behind it exactly as the decoder does. -/
theorem sound_field {field : Field} {bytes : Bytes} (short : bytes.length < 2 ^ 63)
    (shrinks : Shrinks field.skip) {next : Bytes → Walk} {read : Reader Unit} {after : Bytes → Prop}
    (later : ∀ rest, rest.length < 2 ^ 63 → (Sound (next rest) (endingOf (read rest)) ↔ after rest)) :
    Sound ((field.walk bytes).andThen next) (endingOf ((field.skip >>= fun _ => read) bytes)) ↔
      (∀ announced ∈ announces field bytes, announced.1 ≤ announced.2.length) ∧
        ∀ rest, field.skip bytes = .ok ((), rest) → after rest := by
  cases announced : announces field bytes with
  | none =>
    have walk := walk_of_silent announced
    cases skipped : field.skip bytes with
    | error e =>
      have failed : (field.skip >>= fun _ => read) bytes = .error e := run_bind_error skipped
      rw [skipped] at walk
      rw [walk, failed]
      simp [Sound, Walk.andThen, Walk.quiet, endingOf]
    | ok result =>
      obtain ⟨⟨⟩, rest⟩ := result
      rw [skipped] at walk
      have ends : (field.walk bytes).ending = .done rest := by rw [walk]; rfl
      have bounded : ∀ request ∈ (field.walk bytes).requests, request.len ≤ request.remaining := by
        rw [walk]
        intro request member
        cases member
      have fits : rest.length < 2 ^ 63 := (shrinks bytes () rest skipped).trans_lt short
      rw [sound_goes_on skipped ends bounded, later rest fits]
      simp
  | some result =>
    obtain ⟨len, rest⟩ := result
    obtain ⟨walk, skipped⟩ := walk_of_announced announced
    have less := announces_shrinks announced
    by_cases fits : len ≤ rest.length
    · have read : endingOf (readExact len rest) = .done (rest.drop len) := by
        rw [readExact, if_pos fits]
        rfl
      have ends : (field.walk bytes).ending = .done (rest.drop len) := by
        rw [walk, fillBuffer, if_neg (by omega), read]
      have bounded : ∀ request ∈ (field.walk bytes).requests, request.len ≤ request.remaining := by
        rw [walk]
        simpa [fillBuffer] using fits
      have goes := ok_of_ending (skipped.trans read)
      have left : (rest.drop len).length < 2 ^ 63 := by
        rw [List.length_drop]
        omega
      rw [sound_goes_on goes ends bounded, later _ left, goes]
      simp [fits]
    · have asked : ({ len, remaining := rest.length } : Request) ∈ (field.walk bytes).requests := by
        rw [walk]
        exact List.mem_singleton.mpr rfl
      constructor
      · intro sound
        exact absurd (sound.2 _ (mem_andThen asked next)) fits
      · intro covered
        exact absurd (covered.1 _ rfl) fits

theorem sound_walkAll (fields : List Field) {bytes : Bytes} (short : bytes.length < 2 ^ 63)
    (shrinks : ∀ field ∈ fields, Shrinks field.skip) {next : Bytes → Walk} {read : Reader Unit}
    {after : Bytes → Prop}
    (later : ∀ rest, rest.length < 2 ^ 63 → (Sound (next rest) (endingOf (read rest)) ↔ after rest)) :
    Sound ((walkAll fields bytes).andThen next) (endingOf ((skipAll fields >>= fun _ => read) bytes)) ↔
      CoveredThen after fields bytes := by
  induction fields generalizing bytes with
  | nil => exact later bytes short
  | cons field fields ih =>
    rw [walkAll, andThen_assoc, skipAll, bind_assoc]
    apply sound_field short (shrinks field List.mem_cons_self)
    intro rest fits
    exact ih fits fun f member => shrinks f (List.mem_cons_of_mem field member)

/-! ## The readers of the layouts -/

theorem shrinks_discard {α : Type} {r : Reader α} (shrinks : Shrinks r) : Shrinks (discard r) := by
  intro input a rest read
  have erased := discard_apply r input
  rw [show discard r input = _ from read] at erased
  cases plain : r input with
  | error e =>
    rw [plain] at erased
    cases erased
  | ok result =>
    rw [plain] at erased
    cases erased
    exact shrinks input result.1 result.2 plain

theorem shrinks_readByte : Shrinks readByte :=
  fun input b rest read => (readByte_consumes b input rest read).le

theorem shrinks_readExact (n : Nat) : Shrinks (readExact n) := by
  intro input b rest read
  have consumed := readExact_consumes n input rest b read
  omega

theorem shrinks_readVarint : Shrinks readVarint :=
  fun input n rest read => (readVarintFrom_consumes 0 n 0 input rest read).le

theorem shrinks_readOpt {α : Type} {read : Reader α} (shrinks : Shrinks read) : Shrinks (readOpt read) := by
  apply shrinks_readByte.bind
  intro flag
  split
  · exact Shrinks.pure none
  · exact shrinks.bind fun value => Shrinks.pure (some value)

theorem shrinks_readOptU32 : Shrinks readOptU32 :=
  shrinks_readOpt (shrinks_readVarint.bind fun n => Shrinks.pure n.toUInt32)

theorem shrinks_readU16 : Shrinks readU16 := (shrinks_readExact 2).bind fun _ => Shrinks.pure _
theorem shrinks_readU32 : Shrinks readU32 := (shrinks_readExact 4).bind fun _ => Shrinks.pure _
theorem shrinks_readF64 : Shrinks readF64 := (shrinks_readExact 8).bind fun _ => Shrinks.pure _
theorem shrinks_readBool : Shrinks readBool := shrinks_readByte.bind fun _ => Shrinks.pure _

theorem shrinks_readIp (tag : UInt8) : Shrinks (readIp tag) := by
  unfold readIp
  split
  · exact (shrinks_readExact 4).bind fun _ => Shrinks.pure _
  · exact (shrinks_readExact 16).bind fun _ => Shrinks.pure _

theorem shrinks_readSockaddr : Shrinks readSockaddr :=
  shrinks_readByte.bind fun tag => (shrinks_readIp tag).bind fun _ => shrinks_readU16.bind fun _ => Shrinks.pure _

theorem shrinks_readFlow : Shrinks readFlow :=
  shrinks_readByte.bind fun _ => shrinks_readSockaddr.bind fun _ => shrinks_readSockaddr.bind fun _ =>
    Shrinks.pure _

theorem shrinks_readMetricSet : Shrinks readMetricSet := by
  unfold readMetricSet
  repeat
    first | apply shrinks_readVarint.bind | apply shrinks_readF64.bind
    intro _
  exact Shrinks.pure _

theorem shrinks_readString : Shrinks readString :=
  shrinks_readVarint.bind fun _ => (shrinks_readExact _).bind fun _ => Shrinks.pure _

theorem shrinks_readBytes : Shrinks readBytes := shrinks_readVarint.bind fun _ => shrinks_readExact _

theorem shrinks_readOptString : Shrinks readOptString := by
  apply shrinks_readVarint.bind
  intro len
  split
  · exact Shrinks.pure none
  · exact (shrinks_readExact _).bind fun _ => Shrinks.pure _

/-- A field none of whose reads goes back. -/
def Forward (field : Field) : Prop := Shrinks field.skip

theorem forward_of {α : Type} {read : Reader α} (shrinks : Shrinks read) : Forward (Field.of read) :=
  shrinks_discard shrinks

theorem forward_string : Forward .string := shrinks_discard shrinks_readString
theorem forward_optString : Forward .optString := shrinks_discard shrinks_readOptString
theorem forward_bytes : Forward .bytes := shrinks_discard shrinks_readBytes

theorem forward_layout (ty : UInt8) : ∀ field ∈ (layoutOf ty).fields ++ (layoutOf ty).tail, Forward field := by
  have byte := forward_of shrinks_readByte
  have varint := forward_of shrinks_readVarint
  have u32 := forward_of shrinks_readU32
  have f64 := forward_of shrinks_readF64
  have bool := forward_of shrinks_readBool
  have flow := forward_of shrinks_readFlow
  have metrics := forward_of shrinks_readMetricSet
  have optU8 : Forward (Field.of readOptU8) := forward_of (shrinks_readOpt shrinks_readByte)
  have optU16 : Forward (Field.of readOptU16) := forward_of (shrinks_readOpt shrinks_readU16)
  have optU32 := forward_of shrinks_readOptU32
  have optU64 : Forward (Field.of readOptU64) := forward_of (shrinks_readOpt shrinks_readVarint)
  have optF64 : Forward (Field.of readOptF64) := forward_of (shrinks_readOpt shrinks_readF64)
  unfold layoutOf
  split <;> simp only [sipMsgLayout, txnLayout, callLayout, streamSnapLayout, rtcpRttLayout, healthBucketLayout,
    errorLayout, diagLayout, List.append_nil, List.cons_append, List.nil_append, List.forall_mem_cons,
    List.not_mem_nil, false_imp_iff, implies_true, forward_string, forward_optString, forward_bytes,
    *, and_self]

/-! ## Payloads -/

theorem endingOf_skip (ty : UInt8) (tsUs : UInt64) (bytes : Bytes) :
    endingOf ((layoutOf ty).skip bytes) = endingOf (decodeEvent ty tsUs bytes) := by
  rw [← skip_decodeEvent ty tsUs, endingOf_discard]

theorem field_ends (field : Field) (bytes : Bytes) :
    (field.walk bytes).ending = .panicked ∨ (field.walk bytes).ending = endingOf (field.skip bytes) := by
  cases announced : announces field bytes with
  | none =>
    rw [walk_of_silent announced]
    exact Or.inr rfl
  | some result =>
    obtain ⟨walk, skipped⟩ := walk_of_announced announced
    rw [walk, skipped, fillBuffer]
    split
    · exact Or.inl rfl
    · exact Or.inr rfl

/-- A walk ends as a reader does unless it panics; so do two in a row. -/
theorem andThen_ends {walk : Walk} {bytes : Bytes} {read later : Reader Unit} {next : Bytes → Walk}
    (first : walk.ending = .panicked ∨ walk.ending = endingOf (read bytes))
    (second : ∀ rest, (next rest).ending = .panicked ∨ (next rest).ending = endingOf (later rest)) :
    (walk.andThen next).ending = .panicked ∨
      (walk.andThen next).ending = endingOf ((read >>= fun _ => later) bytes) := by
  rcases first with panic | ends
  · apply Or.inl
    simp [Walk.andThen, panic]
  · cases result : read bytes with
    | error e =>
      have failed : (read >>= fun _ => later) bytes = .error e := run_bind_error result
      rw [result] at ends
      apply Or.inr
      simp [Walk.andThen, ends, failed, endingOf]
    | ok done =>
      obtain ⟨⟨⟩, rest⟩ := done
      have reads : (read >>= fun _ => later) bytes = later rest := run_bind_ok result
      rw [result] at ends
      have goes : (walk.andThen next).ending = (next rest).ending := by simp [Walk.andThen, ends, endingOf]
      rw [goes, reads]
      exact second rest

theorem walkAll_ends (fields : List Field) (bytes : Bytes) : (walkAll fields bytes).ending = .panicked ∨
    (walkAll fields bytes).ending = endingOf (skipAll fields bytes) := by
  induction fields generalizing bytes with
  | nil => exact Or.inr rfl
  | cons field fields ih => exact andThen_ends (field_ends field bytes) ih

/-- The walk is the decoder's: where it does not panic, it ends as the decoder does. -/
theorem walk_ends (ty : UInt8) (tsUs : UInt64) (bytes : Bytes) :
    ((layoutOf ty).walk bytes).ending = .panicked ∨
      ((layoutOf ty).walk bytes).ending = endingOf (decodeEvent ty tsUs bytes) := by
  rw [← endingOf_skip]
  apply andThen_ends (walkAll_ends _ _)
  intro rest
  split
  · exact Or.inr rfl
  · exact walkAll_ends _ _

/-- A field that can be read has asked for no more than there is. -/
theorem walk_of_read {field : Field} {bytes rest : Bytes} (short : bytes.length < 2 ^ 63)
    (read : field.skip bytes = .ok ((), rest)) : (field.walk bytes).ending = .done rest := by
  cases announced : announces field bytes with
  | none =>
    rw [walk_of_silent announced, read]
    rfl
  | some result =>
    obtain ⟨len, behind⟩ := result
    obtain ⟨walk, skipped⟩ := walk_of_announced announced
    have less := announces_shrinks announced
    rw [read] at skipped
    by_cases fits : len ≤ behind.length
    · rw [walk, fillBuffer, if_neg (by omega), ← skipped]
      rfl
    · rw [readExact, if_neg fits] at skipped
      cases skipped

theorem walkAll_of_read {fields : List Field} {bytes rest : Bytes} (short : bytes.length < 2 ^ 63)
    (forward : ∀ field ∈ fields, Forward field) (read : skipAll fields bytes = .ok ((), rest)) :
    (walkAll fields bytes).ending = .done rest := by
  induction fields generalizing bytes with
  | nil =>
    cases read
    rfl
  | cons field fields ih =>
    cases first : field.skip bytes with
    | error e =>
      have failed : (field.skip >>= fun _ => skipAll fields) bytes = .error e := run_bind_error first
      rw [skipAll, failed] at read
      cases read
    | ok result =>
      obtain ⟨⟨⟩, mid⟩ := result
      have goes : (field.skip >>= fun _ => skipAll fields) bytes = skipAll fields mid := run_bind_ok first
      rw [skipAll, goes] at read
      have left := (forward field List.mem_cons_self bytes () mid first).trans_lt short
      have later := ih left (fun f member => forward f (List.mem_cons_of_mem field member)) read
      simp only [walkAll, Walk.andThen, walk_of_read short first]
      exact later

theorem shrinks_skipAll {fields : List Field} (forward : ∀ field ∈ fields, Forward field) :
    Shrinks (skipAll fields) := by
  induction fields with
  | nil => exact Shrinks.pure ()
  | cons field fields ih =>
    exact (forward field List.mem_cons_self).bind fun _ => ih fun f member =>
      forward f (List.mem_cons_of_mem field member)

/-- A payload that decodes has not panicked. -/
theorem walk_of_decoded {ty : UInt8} {tsUs : UInt64} {bytes : Bytes} {ev : Event}
    (short : bytes.length < 2 ^ 63) (decoded : decodePayload ty tsUs bytes = .ok ev) :
    ((layoutOf ty).walk bytes).ending ≠ .panicked := by
  have forward := forward_layout ty
  rw [List.forall_mem_append] at forward
  obtain ⟨rest, skipped⟩ : ∃ rest, (layoutOf ty).skip bytes = .ok ((), rest) := by
    rw [← skip_decodeEvent ty tsUs, discard_apply]
    rw [decodePayload] at decoded
    cases read : decodeEvent ty tsUs bytes with
    | error e =>
      rw [read] at decoded
      cases decoded
    | ok result => exact ⟨result.2, rfl⟩
  unfold Layout.walk
  cases first : skipAll (layoutOf ty).fields bytes with
  | error e =>
    have failed : (layoutOf ty).skip bytes = .error e := run_bind_error first
    rw [failed] at skipped
    cases skipped
  | ok result =>
    obtain ⟨⟨⟩, mid⟩ := result
    have goes : (layoutOf ty).skip bytes =
        if mid.isEmpty then .ok ((), mid) else skipAll (layoutOf ty).tail mid := run_bind_ok first
    rw [goes] at skipped
    simp only [Walk.andThen, walkAll_of_read short forward.1 first]
    split
    · nofun
    · next more =>
      rw [if_neg more] at skipped
      have left := (shrinks_skipAll forward.1 bytes () mid first).trans_lt short
      rw [walkAll_of_read left forward.2 skipped]
      nofun

/-- Decoding returns a value or an error, and asks for no buffer longer than
what is left of the payload. -/
structure Safe (ty : UInt8) (tsUs : UInt64) (payload : Slice) : Prop where
  returns : ((layoutOf ty).walk payload).ending = endingOf (decodeEvent ty tsUs payload)
  bounded : ∀ request ∈ ((layoutOf ty).walk payload).requests, request.len ≤ request.remaining

/-- No length prefix of the payload announces more than the bytes behind it. -/
def Covered (layout : Layout) (bytes : Bytes) : Prop :=
  CoveredThen (fun rest => rest ≠ [] → CoveredThen (fun _ => True) layout.tail rest) layout.fields bytes

theorem sound_tail {tail : List Field} (forward : ∀ field ∈ tail, Forward field) {rest : Bytes}
    (short : rest.length < 2 ^ 63) :
    Sound (if rest.isEmpty then .quiet (.done rest) else walkAll tail rest)
        (endingOf (if rest.isEmpty then .ok ((), rest) else skipAll tail rest)) ↔
      (rest ≠ [] → CoveredThen (fun _ => True) tail rest) := by
  by_cases empty : rest = []
  · subst empty
    simp [Sound, Walk.quiet, endingOf]
  · have more : ¬ rest.isEmpty = true := by simpa using empty
    have closed : Sound ((walkAll tail rest).andThen fun left => .quiet (.done left))
        (endingOf ((skipAll tail >>= fun _ => pure ()) rest)) ↔ CoveredThen (fun _ => True) tail rest := by
      apply sound_walkAll tail short forward
      intro left _
      exact ⟨fun _ => trivial, fun _ => ⟨rfl, fun request member => by cases member⟩⟩
    have plain : (skipAll tail >>= fun _ => pure ()) = skipAll tail := bind_pure_unit
    rw [andThen_done, plain] at closed
    rw [if_neg more, if_neg more, closed]
    exact ⟨fun covered _ => covered, fun covered => covered empty⟩

/-- Every payload is decoded safely exactly if its length prefixes are covered
by the bytes behind them. -/
theorem decoder_safe_iff (ty : UInt8) (tsUs : UInt64) (payload : Slice) :
    Safe ty tsUs payload ↔ Covered (layoutOf ty) payload := by
  have forward := forward_layout ty
  rw [List.forall_mem_append] at forward
  have walked := sound_walkAll (layoutOf ty).fields payload.2 forward.1
    fun rest short => sound_tail forward.2 short
  rw [Covered, ← walked]
  constructor
  · intro safe
    exact ⟨safe.returns.trans (endingOf_skip ty tsUs payload).symm, safe.bounded⟩
  · intro sound
    exact ⟨sound.1.trans (endingOf_skip ty tsUs payload), sound.2⟩

/-- An error record whose first length prefix is the largest 64-bit number. -/
def hugeLength : Slice := ⟨writeVarint 18446744073709551615, by decide +kernel⟩

/-- Decoding it overflows the capacity of a vector, which aborts the release build. -/
theorem huge_length_panics :
    ((layoutOf 7).walk hugeLength).ending = .panicked ∧ ¬ Safe 7 0 hugeLength := by
  have read : readVarint hugeLength.1 = .ok (18446744073709551615, []) := by
    exact (readVarint_decodes 18446744073709551615).run_self
  have walk : Field.walk .string hugeLength.1 = fillBuffer 18446744073709551615 [] := by
    rw [Field.walk, walkString, read]
    rfl
  have panics : ((layoutOf 7).walk hugeLength).ending = .panicked := by
    change (((Field.walk .string hugeLength.1).andThen _).andThen _).ending = _
    rw [walk]
    decide
  refine ⟨panics, fun safe => ?_⟩
  have returns := safe.returns
  rw [panics] at returns
  cases decoded : decodeEvent 7 0 hugeLength.1 <;> rw [decoded] at returns <;> cases returns

end Sipmon.Guarantees.EvlogBuffers
