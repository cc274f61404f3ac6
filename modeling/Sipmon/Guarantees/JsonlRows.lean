import Sipmon.Guarantees.AddressText
import Sipmon.Source.Jsonl

/-!
# The rows of a JSONL export

A call and a diagnostic come back from their line as they were. A stream comes
back rounded and a bucket with sums made up from its averages, and both are
printed as before.
-/
namespace Sipmon.Guarantees.JsonlRows
open Lib.Digits Lib.Rounding Source Source.Jsonl AddressText

/-! ## Values -/

section Opt

variable {α : Type} (value : α → Json) (x : Option α)

@[simp] theorem asStr_opt : (Json.opt value x).asStr = x.bind fun a => (value a).asStr := by
  cases x <;> rfl

@[simp] theorem asU64_opt : (Json.opt value x).asU64 = x.bind fun a => (value a).asU64 := by
  cases x <;> rfl

@[simp] theorem asF64_opt : (Json.opt value x).asF64 = x.bind fun a => (value a).asF64 := by
  cases x <;> rfl

end Opt

@[simp] theorem opt_some {α : Type} (value : α → Json) (a : α) : Json.opt value (some a) = value a := rfl
@[simp] theorem asStr_string (s : String) : (Json.string s).asStr = some s := rfl
@[simp] theorem asU64_posInt (n : UInt64) : (Json.posInt n).asU64 = some n := rfl
@[simp] theorem asU64_u32 (n : UInt32) : (Json.u32 n).asU64 = some n.toUInt64 := rfl
@[simp] theorem asF64_float (x : ℚ) : (Json.float x).asF64 = some x := rfl
@[simp] theorem asBool_bool (b : Bool) : (Json.bool b).asBool = some b := rfl
@[simp] theorem asArray_array (items : List Json) : (Json.array items).asArray = some items := rfl

/-! ## Labels -/

@[simp] theorem parseState_label (s : CallState) : parseState (some (Correlator.stateLabel s)) = s := by
  cases s <;> rfl

@[simp] theorem parseOutcome_text (o : Outcome) : parseOutcome (some (outcomeText o)) = o := by
  cases o <;> rfl

@[simp] theorem parseSeverity_label (s : Severity) : parseSeverity (some s.label) = s := by
  cases s <;> rfl

@[simp] theorem parseHangupBy_text (b : Option HangupBy) :
    parseHangupBy (b.bind fun b => some (hangupText b)) = b := by
  rcases b with _ | b
  · rfl
  · cases b <;> rfl

@[simp] theorem parse_ip (ip : Option IpAddr) :
    ((ip.bind fun ip => some ip.display).bind fun s => parseIpAddr s.toList) = ip := by
  cases ip with
  | none => rfl
  | some ip => exact parseIpAddr_display ip

@[simp] theorem parse_ips (ips : List IpAddr) :
    (ips.filterMap (Json.asStr ∘ fun ip => Json.string ip.display)).filterMap
      (fun s => parseIpAddr s.toList) = ips := by
  rw [List.filterMap_filterMap]
  have each : ∀ ip : IpAddr, ((Json.asStr ∘ fun ip : IpAddr => Json.string ip.display) ip).bind
      (fun s => parseIpAddr s.toList) = some ip := fun ip => parseIpAddr_display ip
  simp only [each, List.filterMap_some]

/-! ## Numbers -/

theorem u32FromHex_digits (n : UInt32) : u32FromHex (Nat.toDigits 16 n.toNat) = some n := by
  have digits : ∀ ch ∈ Nat.toDigits 16 n.toNat, (toDigit 16 ch).isSome = true := by
    intro ch member
    obtain ⟨d, small, rfl⟩ := mem_toDigits (by decide) n.toNat member
    rw [base_sixteen.reads d small]
    rfl
  have unsigned : Text.stripPrefix ['+'] (Nat.toDigits 16 n.toNat) = none := by
    unfold Text.stripPrefix
    cases text : Nat.toDigits 16 n.toNat with
    | nil => rfl
    | cons ch rest =>
      have digit := digits ch (text ▸ List.mem_cons_self)
      have other : ch ≠ '+' := by
        rintro rfl
        exact absurd digit (by decide)
      simp [List.isPrefixOf, Ne.symm other]
  have value : (Nat.toDigits 16 n.toNat).foldl (fun acc ch => acc * 16 + (toDigit 16 ch).getD 0) 0 = n.toNat :=
    foldl_toDigits (by decide) (fun d small => by rw [base_sixteen.reads d small, Option.getD_some]) n.toNat
  have all : (Nat.toDigits 16 n.toNat).all (fun ch => (toDigit 16 ch).isSome) = true := List.all_eq_true.mpr digits
  have bound := n.toNat_lt
  unfold u32FromHex
  rw [unsigned, Option.getD_none]
  dsimp only
  rw [all, value, if_neg (by simp), if_pos bound, UInt32.ofNat_toNat]

theorem ssrc_hex (n : UInt32) :
    (u32FromHex ((Text.stripPrefix ['0', 'x'] (hexPrefixed n.toNat).toList).getD
      (hexPrefixed n.toNat).toList)).getD 0 = n := by
  have text : (hexPrefixed n.toNat).toList = '0' :: 'x' :: Nat.toDigits 16 n.toNat := by
    simp [hexPrefixed, hex]
  have stripped : Text.stripPrefix ['0', 'x'] ('0' :: 'x' :: Nat.toDigits 16 n.toNat) =
      some (Nat.toDigits 16 n.toNat) := by
    simp [Text.stripPrefix, List.isPrefixOf]
  rw [text, stripped, Option.getD_some, u32FromHex_digits, Option.getD_some]

/-- What is rounded stays. -/
@[simp] theorem round2_round2 (v : ℚ) : round2 (round2 v) = round2 v := by
  have whole : round2 v * 100 = (halfAway (v * 100) : ℚ) := by
    unfold round2
    rw [div_mul_cancel₀ _ (by norm_num)]
  unfold round2 at whole ⊢
  rw [whole, halfAway_intCast]

theorem opt_round2 (x : Option ℚ) :
    Json.opt (fun x => .float (round2 x)) (x.bind fun a => some (round2 a)) =
      Json.opt (fun x => .float (round2 x)) x := by
  cases x with
  | none => rfl
  | some a => exact congrArg Json.float (round2_round2 a)

/-- The average of a sum that was made up from it. -/
theorem avg_mul {n : UInt64} (counted : n ≠ 0) (v : ℚ) : avg (v * n.toNat) n = v := by
  have positive : (n.toNat : ℚ) ≠ 0 := by
    intro zero
    exact counted (UInt64.toNat_inj.mp (by exact_mod_cast zero))
  rw [avg, if_neg counted, mul_div_cancel_right₀ v positive]

/-! ## Rows -/

theorem importCall_exportCall (c : ExactCall) : importCall (exportCall c) = c := by
  obtain ⟨callId, fromUser, toUser, callerIp, callerSrc, state, outcome, inviteTs, durationMs, pddMs, setupMs,
    ringMs, ringCode, earlyMedia, hangupBy, hangupCode, pktsSip, pktsRtp, bestMos, warnCount, criticalCount,
    streamCount, viaTurn, ips⟩ := c
  simp [importCall, exportCall, optStr, optU64, optU32, optF64, optBool, Json.get, List.lookup_cons]

theorem exportStream_again (s : ExactStream) :
    exportStream (importStream (exportStream s)) = exportStream s := by
  obtain ⟨callId, ssrc, flow, codec, payloadType, packets, lost, expected, lossPct, jitterMs, firstTsUs,
    lastTsUs, rttMinMs, rttAvgMs, rttMaxMs, onewayMs, mos, direction, leg, viaTurn, bytes⟩ := s
  -- the flow comes back as a UDP one: the protocol is not printed
  cases flow <;>
    simp [importStream, exportStream, parseSsrc, optStr, optU64, optF64, optBool, Json.get, List.lookup_cons,
      ssrc_hex, parseSocketAddr_display, opt_round2]

theorem importDiag_exportDiag {d : Diagnostic} (known : codeFromStr d.code = d.code) :
    importDiag (exportDiag d) = d := by
  obtain ⟨tsUs, callId, severity, code, message⟩ := d
  simp only at known
  simp [importDiag, exportDiag, optStr, optU64, Json.get, List.lookup_cons, known]

theorem exportBucket_again {b : UInt64 × String × ExactMetrics} (counted : b.2.2.calls ≠ 0) :
    exportBucket (importBucket (exportBucket b)) = exportBucket b := by
  obtain ⟨bucketUs, key, m⟩ := b
  simp only at counted
  have ratio : ∀ made : ExactMetrics, made.calls = m.calls → made.answered = m.answered → made.asr = m.asr := by
    intro made calls answered
    rw [ExactMetrics.asr, ExactMetrics.asr, calls, answered]
  simp [importBucket, exportBucket, optStr, optU64, optF64, Json.get, List.lookup_cons, avg_mul counted, ratio]

/-! ## Files -/

theorem kind_exportCall (c : ExactCall) : optStr (exportCall c) "kind" = some "call" := rfl
theorem kind_exportStream (s : ExactStream) : optStr (exportStream s) "kind" = some "stream" := rfl
theorem kind_exportDiag (d : Diagnostic) : optStr (exportDiag d) "kind" = some "diag" := rfl
theorem kind_exportBucket (b : UInt64 × String × ExactMetrics) :
    optStr (exportBucket b) "kind" = some "bucket" := rfl

/-- Lines of one kind, read one by one. -/
theorem foldl_lines {α : Type} {line : α → Json} {G : ExactSnapshot → List α → ExactSnapshot}
    (nil : ∀ snap, G snap [] = snap)
    (cons : ∀ snap a rest, G (importLine snap (line a)) rest = G snap (a :: rest)) (rows : List α)
    (snap : ExactSnapshot) : (rows.map line).foldl importLine snap = G snap rows := by
  induction rows generalizing snap with
  | nil => exact (nil snap).symm
  | cons a rest ih => rw [List.map_cons, List.foldl_cons, ih, cons]

section Lines

variable (snap : ExactSnapshot)

theorem import_calls (calls : List ExactCall) : (calls.map exportCall).foldl importLine snap =
    { snap with calls := snap.calls ++ calls.map fun c => importCall (exportCall c) } := by
  apply foldl_lines (G := fun s l => { s with calls := s.calls ++ l.map fun c => importCall (exportCall c) })
  · simp
  · simp [importLine, kind_exportCall]

theorem import_streams (streams : List ExactStream) : (streams.map exportStream).foldl importLine snap =
    { snap with streams := snap.streams ++ streams.map fun s => importStream (exportStream s) } := by
  apply foldl_lines (G := fun s l =>
    { s with streams := s.streams ++ l.map fun s => importStream (exportStream s) })
  · simp
  · simp [importLine, kind_exportStream]

theorem import_diags (diags : List Diagnostic) : (diags.map exportDiag).foldl importLine snap =
    { snap with diagnostics := snap.diagnostics ++ diags.map fun d => importDiag (exportDiag d) } := by
  apply foldl_lines (G := fun s l =>
    { s with diagnostics := s.diagnostics ++ l.map fun d => importDiag (exportDiag d) })
  · simp
  · simp [importLine, kind_exportDiag]

theorem import_buckets (buckets : List (UInt64 × String × ExactMetrics)) :
    (buckets.map exportBucket).foldl importLine snap =
      { snap with buckets := snap.buckets ++ buckets.map fun b => importBucket (exportBucket b) } := by
  apply foldl_lines (G := fun s l =>
    { s with buckets := s.buckets ++ l.map fun b => importBucket (exportBucket b) })
  · simp
  · simp [importLine, kind_exportBucket]

end Lines

/-- What the import needs of a snapshot: its calls in export order, codes it
knows, and no bucket without calls. -/
structure Restorable (snap : ExactSnapshot) : Prop where
  sorted : snap.calls.Pairwise fun a b => (b.inviteTs.getD 0).toNat ≤ (a.inviteTs.getD 0).toNat
  known : ∀ d ∈ snap.diagnostics, codeFromStr d.code = d.code
  counted : ∀ b ∈ snap.buckets, b.2.2.calls ≠ 0

theorem exportSnapshot_again {snap : ExactSnapshot} (restorable : Restorable snap) :
    exportSnapshot (importSnapshot (exportSnapshot snap)) = exportSnapshot snap := by
  have lines : (exportSnapshot snap).foldl importLine {} =
      { calls := snap.calls, streams := snap.streams.map fun s => importStream (exportStream s)
        diagnostics := snap.diagnostics, buckets := snap.buckets.map fun b => importBucket (exportBucket b) } := by
    have calls : snap.calls.map (fun c => importCall (exportCall c)) = snap.calls := by
      simp only [importCall_exportCall, List.map_id']
    have diags : snap.diagnostics.map (fun d => importDiag (exportDiag d)) = snap.diagnostics :=
      (List.map_congr_left fun d member => importDiag_exportDiag (restorable.known d member)).trans
        (List.map_id' _)
    unfold exportSnapshot
    rw [List.foldl_append, List.foldl_append, List.foldl_append, import_calls, import_streams, import_diags,
      import_buckets, calls, diags]
    rfl
  have kept := restorable.sorted.insertionSort_eq
  have streams : (snap.streams.map fun s => importStream (exportStream s)).map exportStream =
      snap.streams.map exportStream := by
    rw [List.map_map]
    exact List.map_congr_left fun s _ => exportStream_again s
  have buckets : (snap.buckets.map fun b => importBucket (exportBucket b)).map exportBucket =
      snap.buckets.map exportBucket := by
    rw [List.map_map]
    exact List.map_congr_left fun b member => exportBucket_again (restorable.counted b member)
  unfold importSnapshot
  dsimp only
  rw [lines]
  unfold exportSnapshot
  dsimp only
  rw [kept, streams, buckets]

end Sipmon.Guarantees.JsonlRows
