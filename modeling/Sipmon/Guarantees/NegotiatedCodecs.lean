import Sipmon.Guarantees.CallIsolation
import Sipmon.Guarantees.CallRecords
import Sipmon.Guarantees.MediaMerge
import Sipmon.Lib.History

/-!
# The codec of a new stream

The lists of payload types, codec names and clock rates of a call are read by position,
but a payload type without a name has no place among the names, and a name that is known
is not added again. A new stream gets the codec and the clock of the SDP that introduced
its payload type exactly as long as the names an SDP adds line up with the payload types
it adds.
-/
namespace Sipmon.Guarantees.NegotiatedCodecs
open Source Lib Lib.Run Correlator CallRecords MediaMerge

/-! ## The codec that was negotiated -/

/-- What a call that has learned these SDPs has negotiated. -/
def negotiate (sessions : List SdpSession) : NegotiatedMedia := sessions.foldl learn {}

/-- The clock an SDP gives a payload type. -/
def clockOf (sess : SdpSession) (pt : UInt8) : UInt32 :=
  (sess.clockRateForPt pt).getD (rtpClockRateForPayloadType pt)

/-- Codec name and clock rate of a payload type in the first SDP that lists it. -/
def introduced (sessions : List SdpSession) (pt : UInt8) : Option String × UInt32 :=
  match sessions.find? fun sess => pt ∈ sess.payloadTypes with
  | some sess => (sess.codecNameForPt pt, clockOf sess pt)
  | none => (none, rtpClockRateForPayloadType pt)

/-- Codec name and clock rate that a call assigns. -/
def assigned (neg : NegotiatedMedia) (pt : UInt8) : Option String × UInt32 :=
  (neg.codecForPt pt, neg.clockRateForPt pt)

/-- What a further SDP adds lines up with what the call has: no name while a payload type
of the call has none, else a name for each payload type that is added, in its order, until
the first without; and no clock of zero. -/
structure LinesUp (neg : NegotiatedMedia) (sess : SdpSession) : Prop where
  unnamed : neg.codecs.length < neg.pts.length → newNames neg sess = []
  named : ∀ i pt, (newTypes neg sess)[i]? = some pt →
    (neg.codecs ++ newNames neg sess)[neg.pts.length + i]? = sess.codecNameForPt pt
  clocked : ∀ pt ∈ newTypes neg sess, sess.clockRateForPt pt ≠ some 0

/-! ## Positions -/

section Positions

variable {neg : NegotiatedMedia} {i : Nat} {pt : UInt8}

theorem position {pts : List UInt8} (distinct : pts.Nodup) (at_i : pts[i]? = some pt) :
    pts.findIdx? (· == pt) = some i := by
  obtain ⟨inside, value⟩ := List.getElem?_eq_some_iff.mp at_i
  refine List.findIdx?_eq_some_iff_getElem.mpr ⟨inside, by simp [value], fun j before => ?_⟩
  have different : pts[j] ≠ pt := by
    rw [← value]
    exact fun same => (Nat.ne_of_lt before) ((distinct.getElem_inj_iff).mp same)
  simp [different]

theorem codecForPt_at (distinct : neg.pts.Nodup) (at_i : neg.pts[i]? = some pt) :
    neg.codecForPt pt = neg.codecs[i]? := by
  rw [NegotiatedMedia.codecForPt, position distinct at_i, Option.bind_some]

/-- A clock of zero is replaced by the default. -/
def usable (pt : UInt8) (rate : UInt32) : UInt32 :=
  if 0 < rate then rate else rtpClockRateForPayloadType pt

theorem clockRateForPt_at (distinct : neg.pts.Nodup) (at_i : neg.pts[i]? = some pt) {rate : UInt32}
    (rated : neg.clockRates[i]? = some rate) : neg.clockRateForPt pt = usable pt rate := by
  rw [NegotiatedMedia.clockRateForPt, position distinct at_i, Option.bind_some, rated, usable]
  by_cases positive : 0 < rate <;> simp [Option.filter, positive]

end Positions

theorem default_pos (pt : UInt8) : 0 < rtpClockRateForPayloadType pt := by
  unfold rtpClockRateForPayloadType
  repeat' split
  all_goals decide

theorem usable_pos (pt : UInt8) (rate : UInt32) : 0 < usable pt rate := by
  unfold usable
  split
  · next positive => exact positive
  · exact default_pos pt

theorem usable_usable (pt : UInt8) (rate : UInt32) : usable pt (usable pt rate) = usable pt rate :=
  if_pos (usable_pos pt rate)

/-- Only a clock of zero is not taken over. -/
theorem usable_clockOf_iff (sess : SdpSession) (pt : UInt8) :
    usable pt (clockOf sess pt) = clockOf sess pt ↔ sess.clockRateForPt pt ≠ some 0 := by
  unfold clockOf
  cases sess.clockRateForPt pt with
  | none => exact iff_of_true (if_pos (default_pos pt)) (by simp)
  | some rate =>
    rw [Option.getD_some, ne_eq, Option.some_inj]
    by_cases zero : rate = 0
    · have positive := usable_pos pt rate
      have kept : usable pt rate ≠ rate := by
        rw [zero] at positive ⊢
        exact fun same => absurd (same ▸ positive) (by decide)
      exact iff_of_false kept (not_not.mpr zero)
    · exact iff_of_true (if_pos (UInt32.pos_iff_ne_zero.mpr zero)) zero

/-! ## One SDP -/

/-- What holds of a call that has learned these SDPs, apart from its codec names. -/
structure Learned (past : List SdpSession) (neg : NegotiatedMedia) : Prop where
  listed : ∀ pt, pt ∈ neg.pts ↔ ∃ sess ∈ past, pt ∈ sess.payloadTypes
  distinct : neg.pts.Nodup
  clocked : neg.clockRates.length = neg.pts.length
  unlisted : neg.pts = [] → neg.codecs = []

theorem introduced_listed {past : List SdpSession} {pt : UInt8}
    (listed : ∃ sess ∈ past, pt ∈ sess.payloadTypes) (sess : SdpSession) :
    introduced (past ++ [sess]) pt = introduced past pt := by
  have found : (past.find? fun sess => pt ∈ sess.payloadTypes).isSome := by
    simpa [List.find?_isSome] using listed
  obtain ⟨first, found⟩ := Option.isSome_iff_exists.mp found
  rw [introduced, introduced, List.find?_append, found, Option.some_or]

theorem introduced_new {past : List SdpSession} {pt : UInt8} {sess : SdpSession}
    (unlisted : ¬∃ earlier ∈ past, pt ∈ earlier.payloadTypes) (lists : pt ∈ sess.payloadTypes) :
    introduced (past ++ [sess]) pt = (sess.codecNameForPt pt, clockOf sess pt) := by
  have missed : (past.find? fun sess => pt ∈ sess.payloadTypes) = none := by
    rw [List.find?_eq_none]
    intro earlier member here
    exact unlisted ⟨earlier, member, by simpa using here⟩
  have here : ([sess].find? fun sess => pt ∈ sess.payloadTypes) = some sess :=
    List.find?_cons_of_pos (by simpa using lists)
  rw [introduced, List.find?_append, missed, Option.none_or, here]

section Step

variable {past : List SdpSession} {neg : NegotiatedMedia} (sess : SdpSession)

theorem mem_newTypes (pt : UInt8) : pt ∈ newTypes neg sess ↔ pt ∈ sess.payloadTypes ∧ pt ∉ neg.pts := by
  simp [newTypes]

/-- The clocks that are added, up to the default for a clock of zero. -/
theorem learn_clockRates (learned : Learned past neg) : ∃ rate : UInt8 → UInt32,
    (learn neg sess).clockRates = neg.clockRates ++ (newTypes neg sess).map rate ∧
      ∀ pt ∈ newTypes neg sess, usable pt (rate pt) = usable pt (clockOf sess pt) := by
  by_cases empty : neg.pts = []
  · have unclocked : neg.clockRates = [] := by
      rw [← List.length_eq_zero_iff, learned.clocked, empty]
      rfl
    have all : newTypes neg sess = sess.payloadTypes := by simp [newTypes, empty]
    refine ⟨clockOf sess, ?_, fun _ _ => rfl⟩
    rw [learn_first neg sess empty, unclocked, all]
    rfl
  · refine ⟨_, learn_clockRates_later neg sess empty, fun pt member => ?_⟩
    obtain ⟨i, at_i⟩ := List.getElem?_of_mem ((mem_newTypes sess pt).mp member).1
    have rated : (NegotiatedMedia.ofSession sess).clockRates[i]? = some (clockOf sess pt) := by
      change (sess.payloadTypes.map (clockOf sess))[i]? = _
      rw [List.getElem?_map, at_i, Option.map_some]
    have read : (NegotiatedMedia.ofSession sess).clockRateForPt pt = usable pt (clockOf sess pt) :=
      clockRateForPt_at (nodup_payloadTypes sess) at_i rated
    rw [read, usable_usable]

theorem distinct_learn (learned : Learned past neg) : (learn neg sess).pts.Nodup := by
  rw [learn_pts]
  exact learned.distinct.append (nodup_newTypes neg sess) fun pt known added =>
    ((mem_newTypes sess pt).mp added).2 known

theorem Learned.further (learned : Learned past neg) : Learned (past ++ [sess]) (learn neg sess) where
  listed pt := by
    rw [learn_pts, List.mem_append, mem_newTypes, learned.listed]
    constructor
    · rintro (⟨earlier, member, lists⟩ | ⟨lists, -⟩)
      · exact ⟨earlier, List.mem_append_left _ member, lists⟩
      · exact ⟨sess, by simp, lists⟩
    · rintro ⟨found, member, lists⟩
      rcases List.mem_append.mp member with earlier | last
      · exact .inl ⟨found, earlier, lists⟩
      · rw [List.mem_singleton.mp last] at lists
        by_cases known : ∃ sess ∈ past, pt ∈ sess.payloadTypes
        · exact .inl known
        · exact .inr ⟨lists, known⟩
  distinct := distinct_learn sess learned
  clocked := by
    obtain ⟨rate, clocks, -⟩ := learn_clockRates sess learned
    rw [clocks, learn_pts, List.length_append, List.length_append, List.length_map, learned.clocked]
  unlisted := by
    intro empty
    rw [learn_pts, List.append_eq_nil_iff] at empty
    have none_listed : sess.payloadTypes = [] := by
      simpa [newTypes, empty.1] using empty.2
    rw [learn_first neg sess empty.1]
    change sess.payloadTypes.filterMap sess.codecNameForPt = []
    rw [none_listed]
    rfl

/-- A payload type keeps its place and its clock. -/
theorem assigned_known (learned : Learned past neg) {i : Nat} {pt : UInt8} (at_i : neg.pts[i]? = some pt) :
    assigned (learn neg sess) pt =
      ((neg.codecs ++ newNames neg sess)[i]?, neg.clockRateForPt pt) := by
  obtain ⟨inside, -⟩ := List.getElem?_eq_some_iff.mp at_i
  obtain ⟨rate, clocks, -⟩ := learn_clockRates sess learned
  have still : (learn neg sess).pts[i]? = some pt := by
    rw [learn_pts, List.getElem?_append_left inside, at_i]
  obtain ⟨clock, rated⟩ : ∃ clock, neg.clockRates[i]? = some clock := by
    rw [← learned.clocked] at inside
    exact ⟨_, List.getElem?_eq_getElem inside⟩
  have stillRated : (learn neg sess).clockRates[i]? = some clock := by
    rw [clocks, List.getElem?_append_left (by rw [learned.clocked]; exact inside), rated]
  rw [assigned, codecForPt_at (distinct_learn sess learned) still, learn_codecs neg sess learned.unlisted,
    clockRateForPt_at (distinct_learn sess learned) still stillRated,
    clockRateForPt_at learned.distinct at_i rated]

/-- The payload types that are added come behind. -/
theorem assigned_added (learned : Learned past neg) {i : Nat} {pt : UInt8}
    (at_i : (newTypes neg sess)[i]? = some pt) :
    assigned (learn neg sess) pt =
      ((neg.codecs ++ newNames neg sess)[neg.pts.length + i]?, usable pt (clockOf sess pt)) := by
  obtain ⟨rate, clocks, rates⟩ := learn_clockRates sess learned
  have place : (learn neg sess).pts[neg.pts.length + i]? = some pt := by
    rw [learn_pts, List.getElem?_append_right (by omega), Nat.add_sub_cancel_left, at_i]
  have rated : (learn neg sess).clockRates[neg.pts.length + i]? = some (rate pt) := by
    rw [clocks, ← learned.clocked, List.getElem?_append_right (by omega), Nat.add_sub_cancel_left,
      List.getElem?_map, at_i, Option.map_some]
  rw [assigned, codecForPt_at (distinct_learn sess learned) place, learn_codecs neg sess learned.unlisted,
    clockRateForPt_at (distinct_learn sess learned) place rated, rates pt (List.mem_of_getElem? at_i)]

/-- Every payload type has the codec and the clock it was introduced with. -/
def Right (past : List SdpSession) (neg : NegotiatedMedia) : Prop :=
  ∀ pt ∈ neg.pts, assigned neg pt = introduced past pt

theorem introduced_known (learned : Learned past neg) {pt : UInt8} (known : pt ∈ neg.pts) :
    introduced (past ++ [sess]) pt = introduced past pt :=
  introduced_listed ((learned.listed pt).mp known) sess

theorem introduced_added (learned : Learned past neg) {pt : UInt8} (added : pt ∈ newTypes neg sess) :
    introduced (past ++ [sess]) pt = (sess.codecNameForPt pt, clockOf sess pt) := by
  obtain ⟨lists, unknown⟩ := (mem_newTypes sess pt).mp added
  exact introduced_new (fun listed => unknown ((learned.listed pt).mpr listed)) lists

theorem right_of_linesUp (learned : Learned past neg) (right : Right past neg) (lines : LinesUp neg sess) :
    Right (past ++ [sess]) (learn neg sess) := by
  intro pt member
  rw [learn_pts] at member
  rcases List.mem_append.mp member with known | added
  · obtain ⟨i, at_i⟩ := List.getElem?_of_mem known
    obtain ⟨inside, -⟩ := List.getElem?_eq_some_iff.mp at_i
    have codec : (neg.codecs ++ newNames neg sess)[i]? = neg.codecForPt pt := by
      rw [codecForPt_at learned.distinct at_i]
      by_cases short : i < neg.codecs.length
      · rw [List.getElem?_append_left short]
      · rw [lines.unnamed (by omega), List.append_nil]
    rw [assigned_known sess learned at_i, codec, introduced_known sess learned known]
    exact right pt known
  · obtain ⟨i, at_i⟩ := List.getElem?_of_mem added
    rw [assigned_added sess learned at_i, lines.named i pt at_i, introduced_added sess learned added,
      (usable_clockOf_iff sess pt).mpr (lines.clocked pt added)]

theorem linesUp_of_right (learned : Learned past neg) (right : Right past neg)
    (still : Right (past ++ [sess]) (learn neg sess)) : LinesUp neg sess := by
  have added : ∀ {i : Nat} {pt : UInt8}, (newTypes neg sess)[i]? = some pt →
      (neg.codecs ++ newNames neg sess)[neg.pts.length + i]? = sess.codecNameForPt pt ∧
        usable pt (clockOf sess pt) = clockOf sess pt := by
    intro i pt at_i
    have member := List.mem_of_getElem? at_i
    have same := still pt (by rw [learn_pts]; exact List.mem_append_right _ member)
    rw [assigned_added sess learned at_i, introduced_added sess learned member, Prod.mk.injEq] at same
    exact same
  refine ⟨fun short => ?_, fun i pt at_i => (added at_i).1, fun pt member => ?_⟩
  · -- The first payload type without a name would get the first name that is added.
    have at_end : neg.pts[neg.codecs.length]? = some neg.pts[neg.codecs.length] :=
      List.getElem?_eq_getElem short
    have known : neg.pts[neg.codecs.length] ∈ neg.pts := List.getElem_mem short
    have was := right _ known
    have same := still _ (by rw [learn_pts]; exact List.mem_append_left _ known)
    rw [introduced_known sess learned known, ← was, assigned_known sess learned at_end, assigned,
      Prod.mk.injEq, codecForPt_at learned.distinct at_end, List.getElem?_append_right (Nat.le_refl _),
      Nat.sub_self, List.getElem?_eq_none (Nat.le_refl _)] at same
    exact List.eq_nil_of_length_eq_zero (Nat.le_zero.mp (List.getElem?_eq_none_iff.mp same.1))
  · obtain ⟨i, at_i⟩ := List.getElem?_of_mem member
    exact (usable_clockOf_iff sess pt).mp (added at_i).2

end Step

theorem learned_nothing : Learned [] {} where
  listed pt := by simp
  distinct := List.nodup_nil
  clocked := rfl
  unlisted _ := rfl

/-- After every SDP the codecs are right, exactly when each lines up with those before it. -/
theorem right_negotiate_iff (sessions : List SdpSession) :
    (∀ before, before <+: sessions → Right before (negotiate before)) ↔
      Along learn LinesUp {} sessions := by
  refine history_iff (D := fun _ _ => True) (I := fun past neg => Learned past neg ∧ Right past neg)
    ⟨learned_nothing, fun _ member => nomatch member⟩ (fun _ _ both => both.2) ?_ ?_ fun _ _ _ _ => trivial
  · intro past neg sess _ lines both
    exact ⟨both.1.further sess, right_of_linesUp sess both.1 both.2 lines⟩
  · intro past neg sess _ both still
    exact linesUp_of_right sess both.1 both.2 still

/-! ## The stream -/

/-- A packet opens a stream of a call that has negotiated so. -/
structure Opens (c : Correlator) (flow : Flow5Tuple) (header : RtpHeader) (id : String)
    (neg : NegotiatedMedia) : Prop where
  untracked : c.reg.streams.lookup { flow, ssrc := header.ssrc } = none
  owner : callOfFlow c.reg flow = some id
  negotiated : (c.reg.calls.lookup id).map Call.negotiated = some neg

/-- The codec and the clock of a stream. -/
def codecClock (s : RtpStream) : Option String × Option UInt32 := (s.codec, s.clockRate)

theorem clockRateForPt_pos (neg : NegotiatedMedia) (pt : UInt8) : 0 < neg.clockRateForPt pt := by
  unfold NegotiatedMedia.clockRateForPt
  dsimp only
  cases positive : ((neg.pts.findIdx? (· == pt)).bind fun i => neg.clockRates[i]?).filter (0 < ·) with
  | none => exact default_pos pt
  | some rate => simpa using (Option.filter_eq_some_iff.mp positive).2

theorem codecClock_openStream (neg : NegotiatedMedia) (leg : Option Leg) (encap : Encap) (reverse : Bool)
    (ts : UInt64) (header : RtpHeader) (len : Nat) (stream : RtpStream) :
    codecClock (openStream (some neg) leg encap reverse ts header len stream) =
      (neg.codecForPt header.payloadType, some (neg.clockRateForPt header.payloadType)) := by
  have clocked : neg.clockRateForPt header.payloadType ≠ 0 :=
    UInt32.pos_iff_ne_zero.mp (clockRateForPt_pos neg header.payloadType)
  unfold openStream RtpStream.applyClockRate RtpStream.observe
  simp [codecClock, clocked]

theorem mute_streams : Views.Mute fun c : Correlator => c.reg.streams where
  diag c d := by
    unfold addDiagnostic
    dsimp only
    split <;> rfl
  heatmap _ _ := rfl

/-- The first packet of a stream gives it the codec and the clock that its call assigns. -/
theorem ingestRtp_assigns {c : Correlator} {flow : Flow5Tuple} {header : RtpHeader} {id : String}
    {neg : NegotiatedMedia} (opens : Opens c flow header id neg) (ts : UInt64) (len : Nat) (encap : Encap) :
    ((c.ingestRtp ts flow header len encap).reg.streams.lookup { flow, ssrc := header.ssrc }).map codecClock =
      some (neg.codecForPt header.payloadType, some (neg.clockRateForPt header.payloadType)) := by
  unfold ingestRtp
  dsimp only
  rw [opens.untracked]
  dsimp only
  rw [opens.owner]
  dsimp only
  unfold openRtp
  dsimp only
  rw [opens.negotiated]
  generalize openDiagnostics _ _ _ _ _ ts flow header = diags
  have first := codecClock_openStream neg (c.turn.legOf flow) encap
    ((c.reg.callStreamKeys id).any fun k => k.flow == flow.reverse) ts header len
    ((c.reg.streams.lookup { flow, ssrc := header.ssrc }).getD (.new flow header.ssrc id))
  generalize openStream _ _ _ _ ts header len _ = stream at first ⊢
  generalize opened : Registry.updateCall _ id (noteMedia flow _) = reg
  have inserted : reg.streams = c.reg.streams.insert { flow, ssrc := header.ssrc } stream := by
    rw [← opened]
    rfl
  have reported : ({ c with reg }.addDiagnostics diags).reg.streams = _ :=
    (mute_streams.addDiagnostics { c with reg } diags).trans inserted
  generalize { c with reg }.addDiagnostics diags = r at reported ⊢
  split
  · change ((r.reg.streams.modify _ _).lookup _).map codecClock = _
    rw [FiniteMap.lookup_modify, reported, AList.lookup_insert]
    split <;> exact congrArg some first
  · change (r.reg.streams.lookup _).map codecClock = _
    rw [reported, AList.lookup_insert, Option.map_some, first]

/-- Every new stream of a call that has learned these SDPs gets, for a payload type the
call has negotiated, the codec and the clock it was introduced with. -/
def Faithful (sessions : List SdpSession) : Prop :=
  ∀ (c : Correlator) (ts : UInt64) (flow : Flow5Tuple) (header : RtpHeader) (len : Nat) (encap : Encap)
    (id : String), Opens c flow header id (negotiate sessions) →
    header.payloadType ∈ (negotiate sessions).pts →
    ((c.ingestRtp ts flow header len encap).reg.streams.lookup { flow, ssrc := header.ssrc }).map codecClock =
      some ((introduced sessions header.payloadType).1, some (introduced sessions header.payloadType).2)

/-- A correlator with one call, to which a flow belongs. -/
def tracking (neg : NegotiatedMedia) (flow : Flow5Tuple) : Correlator :=
  let fresh := Correlator.new .stored {} ""
  { fresh with reg := { fresh.reg with
      calls := fresh.reg.calls.insert "" { Call.new "" with negotiated := neg }
      endpointCall := fresh.reg.endpointCall.insert flow.src "" } }

theorem opens_tracking (neg : NegotiatedMedia) (flow : Flow5Tuple) (header : RtpHeader) :
    Opens (tracking neg flow) flow header "" neg where
  untracked := rfl
  owner := by
    have endpoint : (tracking neg flow).reg.endpointCall.lookup flow.src = some "" := AList.lookup_insert _
    rw [callOfFlow, endpoint, Option.some_or]
  negotiated := by
    have call : (tracking neg flow).reg.calls.lookup "" = some { Call.new "" with negotiated := neg } :=
      AList.lookup_insert _
    rw [call, Option.map_some]

theorem faithful_iff (sessions : List SdpSession) :
    Faithful sessions ↔ Right sessions (negotiate sessions) := by
  have pair : ∀ {a b : Option String × UInt32}, (a.1, some a.2) = (b.1, some b.2) ↔ a = b := by
    rintro ⟨codec, clock⟩ ⟨codec', clock'⟩
    simp
  constructor
  · intro faithful pt listed
    let addr : SocketAddr := ⟨.v4 ⟨0, 0, 0, 0⟩, 0⟩
    let flow : Flow5Tuple := { proto := .udp, src := addr, dst := addr }
    let header : RtpHeader := { version := 2, payloadType := pt, sequenceNumber := 0, timestamp := 0, ssrc := 0 }
    have opens := opens_tracking (negotiate sessions) flow header
    have given := faithful _ 0 flow header 0 .direct "" opens listed
    rw [ingestRtp_assigns opens, Option.some_inj] at given
    exact pair.mp given
  · intro right c ts flow header len encap id opens listed
    rw [ingestRtp_assigns opens, Option.some_inj]
    exact pair.mpr (right header.payloadType listed)

/-! ## The SDPs a call has learned -/

/-- The SDP a step brings to a call. -/
def brought (input : Iteration × Op) (id : String) : Option SdpSession :=
  match input.2 with
  | .sip msg => if msg.callId = id then sdpOf msg else none
  | _ => none

/-- A step, noting what each tracked call has learned since it was created. -/
def record (state : Correlator × (String → Option (List SdpSession))) (input : Iteration × Op) :
    Correlator × (String → Option (List SdpSession)) :=
  (step state.1 input, fun id =>
    if id ∈ (step state.1 input).reg.calls then
      some ((state.2 id).getD [] ++ (brought input id).toList)
    else none)

/-- The SDPs that each tracked call has learned in a run, in order. -/
def learnedSdps (start : Correlator) (inputs : List (Iteration × Op)) (id : String) :
    Option (List SdpSession) := (inputs.foldl record (start, fun _ => none)).2 id

theorem record_run (inputs : List (Iteration × Op)) (start : Correlator)
    (book : String → Option (List SdpSession)) :
    (inputs.foldl record (start, book)).1 = start.run inputs := by
  induction inputs generalizing start book with
  | nil => rfl
  | cons input rest ih => exact ih _ _

/-- Each call has negotiated what it has learned. -/
def Recorded (state : Correlator × (String → Option (List SdpSession))) : Prop :=
  ∀ id, (state.1.reg.calls.lookup id).map Call.negotiated = (state.2 id).map negotiate

theorem negotiated_counting (P : String → NegotiatedMedia → Prop) :
    Closed fun id call => P id call.negotiated := by
  intro update counting id call
  cases counting with
  | diagnostic severity => cases severity <;> exact fun holds => holds
  | rtp | rtcp | media => exact fun holds => holds

theorem Recorded.addressed {c : Correlator} {book : String → Option (List SdpSession)}
    (recorded : Recorded (c, book)) (msg : SipMsg) :
    (addressed c msg).negotiated = negotiate ((book msg.callId).getD []) := by
  have own := recorded msg.callId
  unfold CallRecords.addressed
  dsimp only at own
  cases found : c.reg.calls.lookup msg.callId with
  | none =>
    rw [found, Option.map_none] at own
    rw [Option.map_eq_none_iff.mp own.symm]
    rfl
  | some call =>
    rw [found, Option.map_some] at own
    obtain ⟨sessions, listed, same⟩ := Option.map_eq_some_iff.mp own.symm
    rw [listed]
    exact same.symm

theorem brought_other {input : Iteration × Op} {id : String} (other : addressee input ≠ some id) :
    brought input id = none := by
  obtain ⟨iter, op⟩ := input
  cases op with
  | sip msg => exact if_neg fun same => other (congrArg some same)
  | rtp | rtcp | terminal | flush | clear | touchTime | focus | search | takeEvents
  | disableEvlogEmit | enableSessionStats => rfl

theorem recorded_record {state : Correlator × (String → Option (List SdpSession))}
    (recorded : Recorded state) (input : Iteration × Op) : Recorded (record state input) := by
  obtain ⟨c, book⟩ := state
  have each : Each (fun id call => call.negotiated =
      negotiate ((book id).getD [] ++ (brought input id).toList)) (step c input).reg := by
    refine each_step (negotiated_counting fun id neg => neg =
      negotiate ((book id).getD [] ++ (brought input id).toList)) c input ?_ ?_
    · intro id call other found
      have own := recorded id
      dsimp only at own
      rw [found, Option.map_some] at own
      obtain ⟨sessions, listed, same⟩ := Option.map_eq_some_iff.mp own.symm
      rw [brought_other other, listed]
      exact (congrArg negotiate (List.append_nil sessions)).trans same |>.symm
    · intro msg is_msg
      have own : brought input msg.callId = sdpOf msg := by
        rw [brought, is_msg]
        exact if_pos rfl
      rw [own, heard, negotiated_receive, recorded.addressed]
      unfold negotiate
      rw [List.foldl_append]
      cases sdpOf msg <;> rfl
  intro id
  unfold record
  dsimp only
  cases found : (step c input).reg.calls.lookup id with
  | none => rw [if_neg (AList.lookup_eq_none.mp found), Option.map_none, Option.map_none]
  | some call =>
    have tracked : id ∈ (step c input).reg.calls :=
      AList.lookup_isSome.mp (Option.isSome_of_eq_some found)
    rw [if_pos tracked, Option.map_some, Option.map_some, each id call found]

/-- In every run, what a call has negotiated is what the SDPs it has learned make of it.
And new streams get the codec and the clock that their payload type was introduced with,
after every SDP of a sequence, exactly when each SDP lines up with those before it. -/
theorem stream_codecs_iff (iter : Iteration) (config : Config) (source : String)
    (inputs : List (Iteration × Op)) (id : String) :
    ((((Correlator.new iter config source).run inputs).reg.calls.lookup id).map Call.negotiated =
      (learnedSdps (.new iter config source) inputs id).map negotiate) ∧
    ∀ sessions, (∀ before, before <+: sessions → Faithful before) ↔ Along learn LinesUp {} sessions := by
  constructor
  · have all : Recorded (inputs.foldl record (.new iter config source, fun _ => none)) :=
      Run.invariant (P := Recorded) (fun _ input recorded => recorded_record recorded input) inputs
        fun _ => rfl
    have reached := all id
    rw [record_run] at reached
    exact reached
  · intro sessions
    rw [← right_negotiate_iff]
    exact forall_congr' fun before => imp_congr_right fun _ => faithful_iff before

/-- An offer of three static payload types, of which the second has no name. -/
def threeTypes : SipMsg :=
  { CallIsolation.offer "a" "1" with
    raw := "\r\n\r\nc=IN IP4 10.0.0.1\nm=audio 4000 RTP/AVP 0 3 8\n".toList.map
      fun ch => UInt8.ofNat ch.toNat }

/-- The call of the offer, and a packet of a listed payload type. -/
def packetOf (pt : UInt8) : List (Iteration × Op) :=
  [(.stored, .sip threeTypes),
    (.stored, .rtp 2 (CallIsolation.mediaFlow 1) ⟨2, pt, 1, 160, 7⟩ 160 .direct)]

/-- The codec the stream of the packet gets, next to that of the offer. -/
def codecs (pt : UInt8) : Option (Option String) × Option (Option String) :=
  ((((Correlator.new .stored {} "eth0").run (packetOf pt)).reg.streams.lookup
      { flow := CallIsolation.mediaFlow 1, ssrc := 7 }).map RtpStream.codec,
    (learnedSdps (.new .stored {} "eth0") (packetOf pt) "a").map fun sessions => (introduced sessions pt).1)

/-- The payload type without a name gets that of the next one, and the next one none. -/
theorem unnamed_type_shifts :
    codecs 3 = (some (some "PCMA"), some none) ∧ codecs 8 = (some none, some (some "PCMA")) := by
  decide +kernel

end Sipmon.Guarantees.NegotiatedCodecs
