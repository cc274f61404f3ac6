import Mathlib.Data.List.Induction
import Sipmon.Guarantees.EvlogRecords
import Sipmon.Lib.Run

/-!
# Two sessions in one file

A second `EvlogWriter::create` appends a second header, which the reader takes
for a record: `S` is its delta, `M` its type and `O` its length. The two
sessions read back when the second wrote nothing and the first ran its clock
forward.
-/
namespace Sipmon.Guarantees.EvlogSessions
open Lib.ByteReader Source Source.Evlog EvlogPayloads EvlogRecords

/-- The claim of append sessions on one input. -/
def SessionsReadBack (tz₁ : Int32) (s₁ : List Event) (tz₂ : Int32) (s₂ : List Event) : Prop :=
  replayFile (appendSession (sessionImage tz₁ s₁) tz₂ s₂) = (s₁ ++ s₂, .ok ())

/-- Every event that shows the reader's clock was written before any backward
step of the timestamps, or at the end of the `u64` range. -/
def RunsForward (evs : List Event) : Prop :=
  ∀ before ev after, evs = before ++ ev :: after → ev.isHealthBucket = true ∨
    (before ++ [ev]).Pairwise (·.tsUs ≤ ·.tsUs) ∨ ev.tsUs = 0xffffffffffffffff

/-! ## The clock of one session -/

/-- The reader's clock beside the writer's base. -/
def track (s : UInt64 × UInt64) (ev : Event) : UInt64 × UInt64 :=
  (clockAfter s.1 s.2 ev, ev.tsUs)

/-- The events so far never stepped back. -/
abbrev Sorted (evs : List Event) : Prop := evs.Pairwise (·.tsUs ≤ ·.tsUs)

/-- What the two clocks say about the events read so far. -/
structure Tracked (before : List Event) (clock base : UInt64) : Prop where
  ahead : base.toNat ≤ clock.toNat
  attained : base = 0 ∨ ∃ ev ∈ before, ev.tsUs = base
  bound : Sorted before → ∀ ev ∈ before, ev.tsUs ≤ base
  inStep : clock = base ↔ Sorted before ∨ base = 0xffffffffffffffff

/-- One more event extends a sorted history when it is not behind the base. -/
theorem sorted_snoc_iff {before : List Event} {clock base : UInt64} (s : Tracked before clock base)
    (ev : Event) : Sorted (before ++ [ev]) ↔ Sorted before ∧ base ≤ ev.tsUs := by
  rw [Sorted, List.pairwise_append]
  constructor
  · rintro ⟨sorted, _, below⟩
    refine ⟨sorted, ?_⟩
    rcases s.attained with rfl | ⟨e, member, rfl⟩
    · exact UInt64.zero_le
    · exact below e member ev List.mem_cons_self
  · rintro ⟨sorted, forward⟩
    refine ⟨sorted, List.pairwise_singleton _ _, fun e member late isLast => ?_⟩
    rw [List.mem_singleton.mp isLast]
    exact UInt64.le_trans (s.bound sorted e member) forward

theorem tracked_snoc {before : List Event} {clock base : UInt64} (s : Tracked before clock base)
    (ev : Event) : Tracked (before ++ [ev]) (clockAfter clock base ev) ev.tsUs := by
  have reached : (clockAfter clock base ev).toNat =
      min (clock.toNat + (ev.tsUs.toNat - base.toNat)) (2 ^ 64 - 1) := by
    rw [clockAfter, satAdd_toNat, satSub_toNat]
  have range := ev.tsUs.toNat_lt
  have ahead := s.ahead
  refine ⟨by omega, Or.inr ⟨ev, by simp, rfl⟩, ?_, ?_⟩
  · intro sorted e member
    rcases List.mem_append.mp member with earlier | isLast
    · exact (List.pairwise_append.mp sorted).2.2 e earlier ev List.mem_cons_self
    · rw [List.mem_singleton.mp isLast]
      exact UInt64.le_refl _
  · have inStep := s.inStep
    rw [sorted_snoc_iff s ev]
    rw [← UInt64.toNat_inj, ← UInt64.toNat_inj] at inStep ⊢
    rw [UInt64.le_iff_toNat_le, reached]
    change _ ↔ _ ∨ _ = 2 ^ 64 - 1
    change _ ↔ _ ∨ _ = 2 ^ 64 - 1 at inStep
    by_cases sorted : Sorted before
    · simp only [sorted, true_and, true_or, iff_true] at inStep ⊢
      omega
    · simp only [sorted, false_and, false_or] at inStep ⊢
      omega

theorem tracked (before : List Event) :
    Tracked before (before.foldl track (0, 0)).1 (before.foldl track (0, 0)).2 := by
  induction before using List.reverseRecOn with
  | nil => exact ⟨le_refl _, Or.inl rfl, by simp, by simp⟩
  | append_singleton before ev ih =>
    rw [List.foldl_append]
    exact tracked_snoc ih ev

theorem reread_eq_self_iff (evs : List Event) (clock base : UInt64) :
    reread clock base evs = evs ↔ Lib.Run.Along track
      (fun s ev => ev.isHealthBucket = true ∨ clockAfter s.1 s.2 ev = ev.tsUs) (clock, base) evs := by
  induction evs generalizing clock base with
  | nil => simp [reread, Lib.Run.Along]
  | cons ev rest ih =>
    rw [reread, List.cons.injEq, Event.retime_eq_self_iff, ih]
    rfl

theorem reread_session_iff (evs : List Event) : reread 0 0 evs = evs ↔ RunsForward evs := by
  rw [reread_eq_self_iff, Lib.Run.along_iff]
  refine forall_congr' fun before => forall_congr' fun ev => forall_congr' fun after =>
    imp_congr_right fun _ => or_congr_right ?_
  have now := (tracked (before ++ [ev])).inStep
  rw [List.foldl_append] at now
  exact now

/-! ## The second header -/

/-- What the header holds after the `SMO` that passes for a record's framing. -/
def headerTail (tz : Int32) : Bytes :=
  [0x4e, 0, 2, 0, 0] ++ Lib.BigEndian.toBytes 4 tz.toUInt32.toNat

theorem headerTail_length (tz : Int32) : (headerTail tz).length = 9 := by
  rw [headerTail, List.length_append, Lib.BigEndian.toBytes_length]
  rfl

theorem readVarint_byte (b : UInt8) (v : UInt64) (rest : Bytes) (ends : b &&& 0x80 = 0)
    (is : 0 ||| ((b &&& 0x7f).toUInt64 <<< UInt64.ofNat 0) = v) :
    readVarint (b :: rest) = .ok (v, rest) := by
  rw [readVarint, readVarintFrom_cons, if_pos ends, is]

/-- The header frames as type 77 with 79 payload bytes: nine of its own and
seventy of what follows. -/
theorem nextRaw_header (r : EvlogReader) (tz : Int32) (body : Bytes)
    (unread : r.rest = header tz ++ body) :
    (body.length < 70 → r.nextRaw.1 = .ok none) ∧
      (70 ≤ body.length → ∃ payload after,
        r.nextRaw = (.ok (some { ty := 77, tsUs := satAdd r.lastTs 83, payload }), after)) := by
  have laidOut : r.rest = 0x53 :: 0x4d :: 0x4f :: (headerTail tz ++ body) := by
    rw [unread]
    rfl
  have delta := readVarint_byte 0x53 83 (0x4d :: 0x4f :: (headerTail tz ++ body)) rfl rfl
  have length := readVarint_byte 0x4f 79 (headerTail tz ++ body) rfl rfl
  have within : ¬ maxRecordLen < 79 := by decide
  have size : (headerTail tz ++ body).length = 9 + body.length := by
    rw [List.length_append, headerTail_length]
  have seventyNine : (79 : UInt64).toNat = 79 := rfl
  unfold EvlogReader.nextRaw
  rw [laidOut, delta]
  simp only [readByte, length, seventyNine, if_neg within, readExact, size]
  constructor
  · intro short
    simp only [if_neg (show ¬ 79 ≤ 9 + body.length by omega)]
  · intro enough
    simp only [if_pos (show 79 ≤ 9 + body.length by omega)]
    exact ⟨_, _, rfl⟩

/-- A reader that meets the second header stops or reports an unknown record. -/
theorem replay_header (r : EvlogReader) (tz : Int32) (body : Bytes)
    (unread : r.rest = header tz ++ body) :
    (body.length < 70 ∧ r.replay = ([], .ok ())) ∨
      ∃ ts, r.replay.1.head? = some (unknownEvent 77 ts) := by
  have framed := nextRaw_header r tz body unread
  by_cases short : body.length < 70
  · exact Or.inl ⟨short, r.replay_end (framed.1 short)⟩
  · obtain ⟨payload, after, raw⟩ := framed.2 (Nat.not_lt.mp short)
    have decoded : ∀ ts, decodePayload 77 ts payload = .ok (unknownEvent 77 ts) := fun _ => rfl
    refine Or.inr ⟨satAdd r.lastTs 83, ?_⟩
    rw [EvlogReader.replay_eq, EvlogReader.nextEvent_eq, raw]
    simp only [decoded]
    rfl

/-! ## Both sessions -/

theorem replay_sessions (tz₁ tz₂ : Int32) (s₁ s₂ : List Event)
    (fits : ∀ ev ∈ s₁, (payloadOf ev).length ≤ maxRecordLen) :
    ∃ r : EvlogReader, r.rest = header tz₂ ++ records 0 s₂ ∧
      replayFile (appendSession (sessionImage tz₁ s₁) tz₂ s₂) =
        (reread 0 0 s₁ ++ r.replay.1, r.replay.2) := by
  obtain ⟨offset, reader⟩ := new_header tz₁ (records 0 s₁ ++ (header tz₂ ++ records 0 s₂))
  refine ⟨{ rest := header tz₂ ++ records 0 s₂, lastTs := finalClock 0 0 s₁,
            tzOffsetSecs := offset }, rfl, ?_⟩
  rw [replayFile, appendSession, sessionImage_eq, sessionImage_eq, List.append_assoc, reader]
  exact replay_records s₁ _ 0 _ rfl fits

/-- When two sessions read back. The condition is sufficient always, and
necessary unless the second session opens with the very event that the reader
makes of an unknown record. -/
theorem sessions_read_back (tz₁ tz₂ : Int32) (s₁ s₂ : List Event)
    (vecs : ∀ ev ∈ s₁, (payloadOf ev).length < 2 ^ 64) :
    (s₂ = [] ∧ (∀ ev ∈ s₁, (payloadOf ev).length ≤ maxRecordLen) ∧ RunsForward s₁ →
        SessionsReadBack tz₁ s₁ tz₂ s₂) ∧
      ((∀ ts, s₂.head? ≠ some (unknownEvent 77 ts)) → SessionsReadBack tz₁ s₁ tz₂ s₂ →
        s₂ = [] ∧ (∀ ev ∈ s₁, (payloadOf ev).length ≤ maxRecordLen) ∧ RunsForward s₁) := by
  constructor
  · rintro ⟨rfl, fits, forward⟩
    obtain ⟨r, unread, replayed⟩ := replay_sessions tz₁ tz₂ s₁ [] fits
    rw [SessionsReadBack, replayed, (reread_session_iff s₁).mpr forward]
    rcases replay_header r tz₂ _ unread with ⟨_, stops⟩ | ⟨ts, unknown⟩
    · rw [stops]
    · have framed := (nextRaw_header r tz₂ _ unread).1 (by simp [records])
      rw [r.replay_end framed] at unknown
      cases unknown
  · intro foreign reads
    have fits : ∀ ev ∈ s₁, (payloadOf ev).length ≤ maxRecordLen := by
      intro ev member
      by_contra large
      obtain ⟨offset, reader⟩ := new_header tz₁ (records 0 s₁ ++ (header tz₂ ++ records 0 s₂))
      have refused := replay_oversized s₁ _ 0 (header tz₂ ++ records 0 s₂)
        (congrArg EvlogReader.rest reader) vecs ⟨ev, member, Nat.lt_of_not_le large⟩
      rw [SessionsReadBack, replayFile, appendSession, sessionImage_eq, sessionImage_eq,
        List.append_assoc] at reads
      exact refused (congrArg Prod.snd reads)
    obtain ⟨r, unread, replayed⟩ := replay_sessions tz₁ tz₂ s₁ s₂ fits
    rw [SessionsReadBack, replayed] at reads
    obtain ⟨first, second⟩ := List.append_inj (congrArg Prod.fst reads) (reread_length 0 0 s₁)
    refine ⟨?_, fits, (reread_session_iff s₁).mp first⟩
    rcases replay_header r tz₂ _ unread with ⟨_, stops⟩ | ⟨ts, unknown⟩
    · rw [← second, stops]
    · rw [second] at unknown
      exact (foreign ts unknown).elim

theorem sessions_read_back_one :
    ([] = ([] : List Event) ∧ (∀ ev ∈ [diagAt 5], (payloadOf ev).length ≤ maxRecordLen) ∧
          RunsForward [diagAt 5] → SessionsReadBack 0 [diagAt 5] 0 []) ∧
      ((∀ ts, ([] : List Event).head? ≠ some (unknownEvent 77 ts)) →
        SessionsReadBack 0 [diagAt 5] 0 [] → [] = ([] : List Event) ∧
          (∀ ev ∈ [diagAt 5], (payloadOf ev).length ≤ maxRecordLen) ∧ RunsForward [diagAt 5]) :=
  sessions_read_back 0 0 [diagAt 5] [] (by decide +kernel)

/-- The one event of a short second session is lost with its header. -/
theorem second_session_lost : ¬ ∀ tz₁ s₁ tz₂ s₂, SessionsReadBack tz₁ s₁ tz₂ s₂ := by
  intro always
  have reads := always 0 [diagAt 5] 0 [diagAt 7]
  obtain ⟨r, unread, replayed⟩ := replay_sessions 0 0 [diagAt 5] [diagAt 7] (by decide +kernel)
  have short : (records 0 [diagAt 7]).length < 70 := by decide +kernel
  rw [SessionsReadBack, replayed, r.replay_end ((nextRaw_header r 0 _ unread).1 short)] at reads
  have lengths := congrArg (fun result => result.1.length) reads
  simp at lengths

end Sipmon.Guarantees.EvlogSessions
