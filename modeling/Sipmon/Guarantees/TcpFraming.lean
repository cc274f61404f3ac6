import Sipmon.Guarantees.FramedMessages

/-!
# Framing SIP over TCP

`frame` is the framing in unbounded arithmetic. The loop of `feed` is the drain
of `frame` as long as no header block it reaches declares a length past the end
of `usize`; a declared length that wraps to zero keeps the loop in place.
-/
namespace Sipmon.Guarantees.TcpFraming
open Source Lib Lib.Framing TcpReassembler
open Lib.ByteReader (Bytes)
open FramedMessages

/-- The length of the first message of a buffer, its body included. -/
def declaredLength (data : Bytes) : Option Nat :=
  (findDoubleCrlf data).map fun sep => sep + 4 + extractContentLength (data.take sep)

/-- The first message once it is complete. -/
def frame : Framer UInt8 := fun data =>
  match declaredLength data with
  | some total => if data.length < total then none else some (data.take total, data.drop total)
  | none => none

/-! ## The framing does not look ahead -/

theorem findDoubleCrlf_bound {data : Bytes} {sep : Nat} (found : findDoubleCrlf data = some sep) :
    sep + 4 ≤ data.length := by
  induction data generalizing sep with
  | nil => cases found
  | cons b rest ih =>
    unfold findDoubleCrlf at found
    split at found
    · next blank =>
      have long := (List.isPrefixOf_iff_prefix.mp blank).length_le
      obtain rfl := Option.some.inj found
      exact long
    · obtain ⟨n, later, rfl⟩ := Option.map_eq_some_iff.mp found
      have bound := ih later
      rw [List.length_cons]
      omega

theorem findDoubleCrlf_append {data : Bytes} {sep : Nat} (found : findDoubleCrlf data = some sep)
    (more : Bytes) : findDoubleCrlf (data ++ more) = some sep := by
  induction data generalizing sep with
  | nil => cases found
  | cons b rest ih =>
    have long := findDoubleCrlf_bound found
    have same : [13, 10, 13, 10].isPrefixOf (b :: (rest ++ more)) =
        [13, 10, 13, 10].isPrefixOf (b :: rest) := by
      rw [Bool.eq_iff_iff, List.isPrefixOf_iff_prefix, List.isPrefixOf_iff_prefix]
      constructor
      · intro grown
        apply List.prefix_of_prefix_length_le grown (List.prefix_append (b :: rest) more)
        simp only [List.length_cons, List.length_nil] at long ⊢
        omega
      · exact fun here => List.prefix_append_of_prefix here
    rw [List.cons_append]
    unfold findDoubleCrlf at found ⊢
    rw [same]
    split at found
    · next blank => rw [if_pos blank, found]
    · next other =>
      obtain ⟨n, later, rfl⟩ := Option.map_eq_some_iff.mp found
      rw [if_neg other, ih later]
      rfl

theorem declaredLength_append {data : Bytes} {total : Nat}
    (declared : declaredLength data = some total) (more : Bytes) :
    declaredLength (data ++ more) = some total := by
  obtain ⟨sep, found, rfl⟩ := Option.map_eq_some_iff.mp declared
  have bound := findDoubleCrlf_bound found
  unfold declaredLength
  rw [findDoubleCrlf_append found more, Option.map_some, List.take_append_of_le_length (by omega)]

theorem frame_eq_some {data front rest : Bytes} (cut : frame data = some (front, rest)) :
    ∃ total, declaredLength data = some total ∧ total ≤ data.length ∧
      front = data.take total ∧ rest = data.drop total := by
  unfold frame at cut
  split at cut
  · next total declared =>
    split at cut
    · cases cut
    · next complete =>
      obtain ⟨rfl, rfl⟩ := Prod.mk.inj (Option.some.inj cut)
      exact ⟨total, declared, by omega, rfl, rfl⟩
  · cases cut

theorem frame_of_complete {data : Bytes} {total : Nat} (declared : declaredLength data = some total)
    (complete : total ≤ data.length) : frame data = some (data.take total, data.drop total) := by
  unfold frame
  rw [declared]
  exact if_neg (by omega)

theorem stable_frame : Stable frame := by
  intro data front rest cut more
  obtain ⟨total, declared, complete, rfl, rfl⟩ := frame_eq_some cut
  have longer : total ≤ (data ++ more).length := by
    rw [List.length_append]
    omega
  rw [frame_of_complete (declaredLength_append declared more) longer,
    List.take_append_of_le_length complete, List.drop_append_of_le_length complete]

theorem declaredLength_pos {data : Bytes} {total : Nat} (declared : declaredLength data = some total) :
    4 ≤ total := by
  obtain ⟨sep, _, rfl⟩ := Option.map_eq_some_iff.mp declared
  omega

theorem progressive_frame (start : Bytes) : Progressive frame start := by
  intro data front rest _ cut
  obtain ⟨total, declared, complete, _, rfl⟩ := frame_eq_some cut
  have taken := declaredLength_pos declared
  rw [List.length_drop]
  omega

/-! ## The loop is that framing -/

/-- Every Content-Length that framing a stream reads leaves the length of its
message within `usize`. -/
def Fits (stream : Bytes) : Prop :=
  ∀ data sep, Visits frame stream data → findDoubleCrlf data = some sep →
    extractContentLength (data.take sep) < 2 ^ 64 - (sep + 4)

theorem Fits.prefix {stream more : Bytes} (fits : Fits (stream ++ more)) : Fits stream := by
  intro data sep visited found
  have bound := findDoubleCrlf_bound found
  have whole := fits (data ++ more) sep (visited.append stable_frame more)
    (findDoubleCrlf_append found more)
  rwa [List.take_append_of_le_length (by omega)] at whole

theorem Fits.visited {stream data : Bytes} (fits : Fits stream) (visited : Visits frame stream data) :
    Fits data :=
  fun later sep reached => fits later sep (visited.trans reached)

/-- Below the wrap the iteration cuts the declared message. -/
theorem nextMessage_of_fits {data : Bytes}
    (fits : ∀ sep, findDoubleCrlf data = some sep →
      extractContentLength (data.take sep) < 2 ^ 64 - (sep + 4)) : nextMessage data = frame data := by
  unfold nextMessage frame declaredLength
  cases found : findDoubleCrlf data with
  | none => rfl
  | some sep =>
    have below := fits sep found
    have whole : (sep + 4 + extractContentLength (data.take sep)) % 2 ^ 64 =
        sep + 4 + extractContentLength (data.take sep) := Nat.mod_eq_of_lt (by omega)
    dsimp only [Option.map_some]
    rw [whole]

theorem nextMessage_visited {stream data : Bytes} (fits : Fits stream)
    (visited : Visits frame stream data) : nextMessage data = frame data :=
  nextMessage_of_fits fun sep => fits data sep visited

theorem drain_of_fits {stream : Bytes} (fits : Fits stream) (fuel : Nat) :
    drain nextMessage fuel stream = drain frame fuel stream :=
  drain_congr (fun _ visited => nextMessage_visited fits visited) fuel

/-! ## One call -/

theorem buffered_erase (reasm : TcpReassembler) (flow : Flow5Tuple) :
    buffered (reasm.erase flow) flow = [] := by
  unfold buffered
  rw [FiniteMap.lookup_erase_iff, if_pos rfl]
  rfl

theorem buffered_insert (reasm : TcpReassembler) (flow : Flow5Tuple) (b : FlowBuf) :
    buffered (reasm.insert flow b) flow = b.data := by
  unfold buffered
  rw [FiniteMap.lookup_insert_iff, if_pos rfl]
  rfl

/-- What a call makes of the bytes it drained. -/
theorem feed_of_drain {fuel : Nat} {reasm : TcpReassembler} {flow : Flow5Tuple} {data left : Bytes}
    {msgs : List Bytes} (tsUs : UInt64)
    (small : (buffered reasm flow ++ data).length ≤ maxStreamBuf)
    (drained : drain nextMessage fuel (buffered reasm flow ++ data) = some (msgs, left)) :
    ∃ after, feed fuel reasm flow data tsUs = some (msgs, after) ∧
      buffered after flow = left := by
  unfold feed
  rw [if_neg (by omega), drained]
  refine ⟨_, rfl, ?_⟩
  cases left with
  | nil => exact buffered_erase reasm flow
  | cons b rest => exact buffered_insert reasm flow _

/-- With iterations to spare the loop ends, and it has cut the declared messages. -/
theorem drain_fits {stream : Bytes} (fits : Fits stream) {fuel : Nat} (enough : stream.length < fuel) :
    ∃ msgs left, drain nextMessage fuel stream = some (msgs, left) ∧ Drains frame stream msgs left := by
  obtain ⟨msgs, left, drained⟩ := drain_enough (progressive_frame stream) enough
  exact ⟨msgs, left, (drain_of_fits fits fuel).trans drained, drains_of_drain drained⟩

/-! ## Segmentation -/

/-- Feed the segments of one flow, each with its arrival time. -/
def feedAll (fuel : Nat) (reasm : TcpReassembler) (flow : Flow5Tuple) :
    List (UInt64 × Bytes) → Option (List Bytes × TcpReassembler)
  | [] => some ([], reasm)
  | (tsUs, data) :: rest =>
    (feed fuel reasm flow data tsUs).bind fun (msgs, after) =>
      (feedAll fuel after flow rest).map fun (more, last) => (msgs ++ more, last)

/-- The bytes of the segments. -/
def streamOf (segments : List (UInt64 × Bytes)) : Bytes := (segments.map Prod.snd).flatten

/-- A well-framed message declares its own length. -/
theorem declaredLength_wellFramed {msg : Bytes} (framed : WellFramed msg) (small : msg.length < 2 ^ 64) :
    declaredLength msg = some msg.length := by
  obtain ⟨m, rfl⟩ := framed
  have length : m.wire.length = (utf8 (joined m.lines)).length + 4 + m.body.length := by
    rw [Message.wire, List.length_append]
    simp only [List.length_cons]
    omega
  have headers : m.wire.take (utf8 (joined m.lines)).length = utf8 (joined m.lines) := List.take_left
  rw [declaredLength, m.findDoubleCrlf_wire, Option.map_some, headers,
    m.extractContentLength_headers (by omega), length]

theorem frame_wellFramed {msg : Bytes} (framed : WellFramed msg) (small : msg.length < 2 ^ 64) :
    frame msg = some (msg, []) := by
  rw [frame_of_complete (declaredLength_wellFramed framed small) (le_refl _), List.take_length,
    List.drop_length]

theorem length_le_flatten {messages : List Bytes} {msg : Bytes} (member : msg ∈ messages) :
    msg.length ≤ messages.flatten.length := (List.sublist_flatten_of_mem member).length_le

/-- Well-framed messages one after the other declare nothing past the end of `usize`. -/
theorem fits_flatten {messages : List Bytes} (framed : ∀ msg ∈ messages, WellFramed msg)
    (small : messages.flatten.length < 2 ^ 64) : Fits messages.flatten := by
  have each : ∀ msg ∈ messages, msg.length < 2 ^ 64 := fun msg member =>
    Nat.lt_of_le_of_lt (length_le_flatten member) small
  have suffix : ∀ data, Visits frame messages.flatten data →
      ∃ before after, messages = before ++ after ∧ data = after.flatten := by
    intro data visited
    induction visited with
    | start => exact ⟨[], messages, rfl, rfl⟩
    | rest _ cut ih =>
      obtain ⟨before, after, rfl, rfl⟩ := ih
      cases after with
      | nil => cases cut
      | cons msg more =>
        have first := frame_wellFramed (framed msg (by simp)) (each msg (by simp))
        rw [List.flatten_cons, stable_frame _ _ _ first] at cut
        obtain ⟨_, rfl⟩ := Prod.mk.inj (Option.some.inj cut)
        exact ⟨before ++ [msg], more, by simp, rfl⟩
  intro data sep visited found
  obtain ⟨before, after, rfl, rfl⟩ := suffix data visited
  cases after with
  | nil => cases found
  | cons msg more =>
    have alone := declaredLength_wellFramed (framed msg (by simp)) (each msg (by simp))
    have declared := declaredLength_append alone more.flatten
    rw [← List.flatten_cons] at declared
    obtain ⟨sep', found', length⟩ := Option.map_eq_some_iff.mp declared
    obtain rfl := Option.some.inj (found.symm.trans found')
    rw [List.flatten_append, List.flatten_cons, List.length_append, List.length_append] at small
    omega

/-- Feeding in segments is one drain of all bytes. -/
theorem feedAll_drains {fuel : Nat} (flow : Flow5Tuple) (segments : List (UInt64 × Bytes))
    (reasm : TcpReassembler)
    (waits : frame (buffered reasm flow) = none)
    (small : (buffered reasm flow ++ streamOf segments).length ≤ maxStreamBuf)
    (fits : Fits (buffered reasm flow ++ streamOf segments))
    (enough : (buffered reasm flow ++ streamOf segments).length < fuel) :
    ∃ msgs after, feedAll fuel reasm flow segments = some (msgs, after) ∧
      Drains frame (buffered reasm flow ++ streamOf segments) msgs
        (buffered after flow) := by
  induction segments generalizing reasm with
  | nil =>
    refine ⟨[], reasm, rfl, ?_⟩
    rw [streamOf, List.map_nil, List.flatten_nil, List.append_nil]
    exact .wait waits
  | cons segment rest ih =>
    obtain ⟨tsUs, data⟩ := segment
    have regrouped : buffered reasm flow ++ streamOf ((tsUs, data) :: rest) =
        (buffered reasm flow ++ data) ++ streamOf rest := by
      rw [streamOf, List.map_cons, List.flatten_cons, List.append_assoc, ← streamOf]
    rw [regrouped] at small fits enough ⊢
    have lengths : (buffered reasm flow ++ data ++ streamOf rest).length =
        (buffered reasm flow ++ data).length + (streamOf rest).length := List.length_append
    obtain ⟨msgs, left, drained, drains⟩ := drain_fits fits.prefix (show _ < fuel by omega)
    obtain ⟨after, fed, kept⟩ := feed_of_drain tsUs (show _ ≤ maxStreamBuf by omega) drained
    have shorter : left.length ≤ (buffered reasm flow ++ data).length :=
      drains.length_le fun buffer front rest cut =>
        (progressive_frame buffer buffer front rest .start cut).le
    have restLengths : (left ++ streamOf rest).length = left.length + (streamOf rest).length :=
      List.length_append
    have reached := drains.visits.append stable_frame (streamOf rest)
    obtain ⟨more, last, fedRest, drainsRest⟩ := ih after (by rw [kept]; exact drains.left_waits)
      (by rw [kept]; omega) (by rw [kept]; exact fits.visited reached) (by rw [kept]; omega)
    refine ⟨msgs ++ more, last, ?_, ?_⟩
    · simp only [feedAll, fed, fedRest, Option.bind_some, Option.map_some]
    · rw [kept] at drainsRest
      exact drains.append stable_frame drainsRest

/-- A whole request, and the flow it arrives on. -/
def options : Bytes := "OPTIONS sip:x SIP/2.0\r\nl: 2\r\n\r\nhi".toUTF8.toList

theorem wellFramed_options : WellFramed options := by
  have start : ¬ IsLength "OPTIONS sip:x SIP/2.0".toList :=
    contentLengthOf_eq_none_iff.mp (by decide)
  have empty : Blank [] := fun c member => absurd member List.not_mem_nil
  have space : Blank [' '] := by
    intro c member
    obtain rfl := List.mem_singleton.mp member
    rfl
  have length : GivesLength "l: 2".toList 2 :=
    ⟨['l'], 0, ⟨[], [], [' '], [], ⟨empty, empty, space, empty⟩, by decide⟩, .inr (by decide)⟩
  refine ⟨{ lines := ["OPTIONS sip:x SIP/2.0".toList, "l: 2".toList], body := [104, 105]
            headed := by decide, visible := by decide, measured := .other start (.first length) }, ?_⟩
  change utf8 (joined ["OPTIONS sip:x SIP/2.0".toList, "l: 2".toList]) ++ [13, 10, 13, 10, 104, 105] = options
  decide +kernel

def sipFlow : Flow5Tuple :=
  { proto := .tcp, src := ⟨.v4 ⟨10, 0, 0, 1⟩, 5060⟩, dst := ⟨.v4 ⟨10, 0, 0, 2⟩, 5060⟩ }

/-- However a stream is cut into segments, the calls return the messages one
call on the whole stream returns and leave the same bytes; well-framed messages
sent one after the other come out as they are. -/
theorem segments_independent (fuel : Nat) (reasm : TcpReassembler) (flow : Flow5Tuple)
    (segments : List (UInt64 × Bytes)) (tsUs : UInt64)
    (idle : buffered reasm flow = [])
    (small : (streamOf segments).length ≤ maxStreamBuf) (fits : Fits (streamOf segments))
    (enough : (streamOf segments).length < fuel) :
    ∃ msgs parts whole, feedAll fuel reasm flow segments = some (msgs, parts) ∧
      feed fuel reasm flow (streamOf segments) tsUs = some (msgs, whole) ∧
      buffered parts flow = buffered whole flow ∧
      ∀ messages : List Bytes, (∀ msg ∈ messages, WellFramed msg) →
        streamOf segments = messages.flatten →
        msgs = messages ∧ buffered parts flow = [] := by
  have stream : buffered reasm flow ++ streamOf segments = streamOf segments := by
    rw [idle, List.nil_append]
  obtain ⟨msgs, parts, fed, drains⟩ := feedAll_drains flow segments reasm (by rw [idle]; rfl)
    (by rwa [stream]) (by rwa [stream]) (by rwa [stream])
  rw [stream] at drains
  obtain ⟨msgs', left, drained, drains'⟩ := drain_fits fits enough
  obtain ⟨rfl, rfl⟩ := drains.unique drains'
  rw [← stream] at drained
  obtain ⟨whole, fedWhole, kept⟩ := feed_of_drain tsUs (by rwa [stream]) drained
  refine ⟨msgs, parts, whole, fed, fedWhole, kept.symm, ?_⟩
  intro messages framed concatenated
  have nothing : frame [] = none := rfl
  rw [concatenated] at small
  have complete := drains_flatten stable_frame (fun msg member => frame_wellFramed (framed msg member)
    (Nat.lt_of_le_of_lt ((length_le_flatten member).trans small) (by decide))) nothing
  rw [List.append_nil, ← concatenated] at complete
  exact drains.unique complete

/-- Two requests back to back, cut within the first one, come out as two. -/
theorem segments_independent_options :
    ∃ parts whole,
      feedAll 100 TcpReassembler.new sipFlow [(1, options.take 7), (2, options.drop 7 ++ options)] =
        some ([options, options], parts) ∧
      feed 100 TcpReassembler.new sipFlow (options ++ options) 3 = some ([options, options], whole) ∧
      buffered parts sipFlow = [] := by
  have stream : streamOf [(1, options.take 7), (2, options.drop 7 ++ options)] =
      options ++ options := by decide +kernel
  have framed : ∀ msg ∈ [options, options], WellFramed msg := by
    intro msg member
    obtain rfl | rfl := List.mem_pair.mp member
    · exact wellFramed_options
    · exact wellFramed_options
  have concatenated : [options, options].flatten = options ++ options := by decide +kernel
  have fits := fits_flatten framed (by decide +kernel)
  rw [concatenated] at fits
  obtain ⟨msgs, parts, whole, fed, fedWhole, _, exact_⟩ := segments_independent 100 TcpReassembler.new sipFlow
    [(1, options.take 7), (2, options.drop 7 ++ options)] 3 rfl (by rw [stream]; decide +kernel)
    (by rwa [stream]) (by rw [stream]; decide +kernel)
  rw [stream] at fedWhole
  obtain ⟨rfl, left⟩ := exact_ [options, options] framed (stream.trans concatenated.symm)
  exact ⟨parts, whole, fed, fedWhole, left⟩

/-! ## Progress -/

/-- The states the reassembler reaches; a call that never returns leaves none. -/
inductive Reachable : TcpReassembler → Prop
  | new : Reachable TcpReassembler.new
  | prune {reasm} (nowUs : UInt64) (idle : Nat) : Reachable reasm → Reachable (reasm.prune nowUs idle)
  | feed {reasm after} {fuel : Nat} {flow : Flow5Tuple} {data : Bytes} {tsUs : UInt64}
      {msgs : List Bytes} : Reachable reasm → feed fuel reasm flow data tsUs = some (msgs, after) →
      Reachable after

/-- No flow holds more than the cap. -/
def Capped (reasm : TcpReassembler) : Prop :=
  ∀ flow b, reasm.lookup flow = some b → b.data.length ≤ maxStreamBuf

/-- The buffers at which the loop of one call starts an iteration. -/
def Iterates (reasm : TcpReassembler) (flow : Flow5Tuple) (data buffer : Bytes) : Prop :=
  (buffered reasm flow ++ data).length ≤ maxStreamBuf ∧
    Visits nextMessage (buffered reasm flow ++ data) buffer

/-- One call as it should be. -/
structure Progresses (reasm : TcpReassembler) (flow : Flow5Tuple) (data : Bytes) (tsUs : UInt64) :
    Prop where
  /-- The call returns, and no flow is past the cap. -/
  returns : ∃ fuel msgs after, feed fuel reasm flow data tsUs = some (msgs, after) ∧ Capped after
  /-- Every iteration that goes on has removed a byte. -/
  removes : ∀ buffer msg rest, Iterates reasm flow data buffer →
    nextMessage buffer = some (msg, rest) → rest.length < buffer.length
  /-- The length of a message is not wrapped. -/
  unwrapped : ∀ buffer sep, Iterates reasm flow data buffer → findDoubleCrlf buffer = some sep →
    sep + 4 + extractContentLength (buffer.take sep) < 2 ^ 64
  /-- The header block and the message are slices of the buffer. -/
  sliced : ∀ buffer sep, Iterates reasm flow data buffer → findDoubleCrlf buffer = some sep →
    sep ≤ buffer.length ∧ ∀ msg rest, nextMessage buffer = some (msg, rest) →
      buffer = msg ++ rest ∧
        msg.length = (sep + 4 + extractContentLength (buffer.take sep)) % 2 ^ 64

theorem nextMessage_eq_some {data msg rest : Bytes} (cut : nextMessage data = some (msg, rest)) :
    ∃ sep, findDoubleCrlf data = some sep ∧ data = msg ++ rest ∧
      msg.length = (sep + 4 + extractContentLength (data.take sep)) % 2 ^ 64 := by
  unfold nextMessage at cut
  split at cut
  · next sep found =>
    dsimp only at cut
    split at cut
    · cases cut
    · next complete =>
      obtain ⟨rfl, rfl⟩ := Prod.mk.inj (Option.some.inj cut)
      refine ⟨sep, found, (List.take_append_drop _ data).symm, ?_⟩
      exact List.length_take_of_le (by omega)
  · cases cut

theorem capped_erase {reasm : TcpReassembler} (capped : Capped reasm) (flow : Flow5Tuple) :
    Capped (reasm.erase flow) := by
  intro other b present
  rw [FiniteMap.lookup_erase_iff] at present
  split at present
  · cases present
  · exact capped other b present

theorem capped_feed {fuel : Nat} {reasm after : TcpReassembler} {flow : Flow5Tuple} {data : Bytes}
    {tsUs : UInt64} {msgs : List Bytes} (capped : Capped reasm)
    (fed : feed fuel reasm flow data tsUs = some (msgs, after)) : Capped after := by
  unfold feed at fed
  dsimp only at fed
  split at fed
  · obtain ⟨_, rfl⟩ := Prod.mk.inj (Option.some.inj fed)
    exact capped_erase capped flow
  · next small =>
    obtain ⟨⟨drained, left⟩, loop, same⟩ := Option.map_eq_some_iff.mp fed
    obtain ⟨_, rfl⟩ := Prod.mk.inj same
    have bound : left.length ≤ (buffered reasm flow ++ data).length := by
      refine (drains_of_drain loop).length_le fun buffer front rest cut => ?_
      obtain ⟨_, _, same, _⟩ := nextMessage_eq_some cut
      rw [same, List.length_append]
      omega
    split
    · exact capped_erase capped flow
    · intro other b present
      rw [FiniteMap.lookup_insert_iff] at present
      split at present
      · obtain rfl := Option.some.inj present
        exact bound.trans (by omega)
      · exact capped other b present

theorem Reachable.capped {reasm : TcpReassembler} (reachable : Reachable reasm) : Capped reasm := by
  induction reachable with
  | new => exact fun _ _ present => nomatch present
  | @prune reasm nowUs idle _ ih =>
    intro flow b present
    unfold TcpReassembler.prune at present
    rw [FiniteMap.lookup_retain] at present
    exact ih flow b (Option.filter_eq_some_iff.mp present).1
  | feed _ fed ih => exact capped_feed ih fed

/-- Below the wrap the loop visits what the framing visits, and conversely. -/
theorem visits_of_fits {stream buffer : Bytes} (fits : Fits stream)
    (visited : Visits nextMessage stream buffer) : Visits frame stream buffer := by
  induction visited with
  | start => exact .start
  | rest _ cut ih => exact ih.rest ((nextMessage_visited fits ih).symm.trans cut)

theorem fits_of_unwrapped {stream : Bytes}
    (unwrapped : ∀ buffer sep, Visits nextMessage stream buffer → findDoubleCrlf buffer = some sep →
      sep + 4 + extractContentLength (buffer.take sep) < 2 ^ 64) : Fits stream := by
  have reached : ∀ buffer, Visits frame stream buffer → Visits nextMessage stream buffer := by
    intro buffer visited
    induction visited with
    | start => exact .start
    | @rest data front rest _ cut ih =>
      refine ih.rest ((nextMessage_of_fits fun sep found => ?_).trans cut)
      have whole := unwrapped data sep ih found
      omega
  intro buffer sep visited found
  have whole := unwrapped buffer sep (reached buffer visited) found
  omega

/-- A call on a reachable state returns, with every iteration removing a byte
and nothing wrapped, exactly when no header block the framing reaches declares a
body that ends past the end of `usize`. -/
theorem feed_progresses_iff {reasm : TcpReassembler} (reachable : Reachable reasm)
    (flow : Flow5Tuple) (data : Bytes) (tsUs : UInt64) :
    Progresses reasm flow data tsUs ↔
      ((buffered reasm flow ++ data).length ≤ maxStreamBuf →
        Fits (buffered reasm flow ++ data)) := by
  constructor
  · intro progresses small
    exact fits_of_unwrapped fun buffer sep visited => progresses.unwrapped buffer sep ⟨small, visited⟩
  · intro fits
    have framed : ∀ {buffer}, Iterates reasm flow data buffer → Fits buffer ∧
        nextMessage buffer = frame buffer := by
      rintro buffer ⟨small, visited⟩
      have reached := visits_of_fits (fits small) visited
      exact ⟨(fits small).visited reached, nextMessage_visited (fits small) reached⟩
    refine ⟨?_, ?_, ?_, ?_⟩
    · by_cases small : (buffered reasm flow ++ data).length ≤ maxStreamBuf
      · obtain ⟨msgs, left, drained, _⟩ := drain_fits (fits small) (Nat.lt_succ_self _)
        obtain ⟨after, fed, _⟩ := feed_of_drain tsUs small drained
        exact ⟨_, msgs, after, fed, capped_feed reachable.capped fed⟩
      · have fed : feed 0 reasm flow data tsUs = some ([], reasm.erase flow) := if_pos (by omega)
        exact ⟨0, [], _, fed, capped_feed reachable.capped fed⟩
    · intro buffer msg rest iterates cut
      rw [(framed iterates).2] at cut
      exact progressive_frame buffer buffer msg rest .start cut
    · intro buffer sep iterates found
      have below := (framed iterates).1 buffer sep .start found
      omega
    · intro buffer sep _ found
      refine ⟨by have bound := findDoubleCrlf_bound found; omega, fun msg rest cut => ?_⟩
      obtain ⟨sep', found', same, length⟩ := nextMessage_eq_some cut
      obtain rfl := Option.some.inj (found.symm.trans found')
      exact ⟨same, length⟩

/-- A header block of 62 bytes that declares a body ending at 2^64. -/
def wrapping : Bytes :=
  "INVITE sip:x SIP/2.0\r\nContent-Length: 18446744073709551554\r\n\r\n".toUTF8.toList

theorem wrapped_length_never_returns :
    Reachable TcpReassembler.new ∧ (∀ fuel, feed fuel TcpReassembler.new sipFlow wrapping 0 = none) ∧
      ¬ Progresses TcpReassembler.new sipFlow wrapping 0 := by
  have stuck : nextMessage wrapping = some ([], wrapping) := by decide +kernel
  have never : ∀ fuel, feed fuel TcpReassembler.new sipFlow wrapping 0 = none := by
    intro fuel
    have looped := drain_stuck stuck fuel
    unfold feed
    rw [if_neg (by decide +kernel)]
    exact congrArg _ looped
  refine ⟨.new, never, fun progresses => ?_⟩
  obtain ⟨fuel, msgs, after, fed, _⟩ := progresses.returns
  exact nomatch (never fuel).symm.trans fed

theorem feed_progresses_options :
    Progresses TcpReassembler.new sipFlow options 0 := by
  have framed : ∀ msg ∈ [options], WellFramed msg := by
    intro msg member
    obtain rfl := List.mem_singleton.mp member
    exact wellFramed_options
  have fits := fits_flatten framed (by decide +kernel)
  have whole : buffered TcpReassembler.new sipFlow ++ options = [options].flatten := by
    decide +kernel
  refine (feed_progresses_iff .new sipFlow options 0).mpr fun _ => ?_
  rwa [whole]

end Sipmon.Guarantees.TcpFraming
