import Mathlib.Data.List.Basic

/-!
# Framing a byte stream

A framer cuts one frame off the front of a buffer, or says that it needs more.
`Drains` is the exhaustive use of a framer: cut frames until it needs more. A
framer that takes something with every frame and does not change its mind when
more arrives gives the same frames however the stream is cut into segments.
-/
namespace Sipmon.Lib.Framing

variable {α : Type*}

/-- The first frame and what follows it, or nothing while it is incomplete. -/
abbrev Framer (α : Type*) := List α → Option (List α × List α)

/-- Cut frames off the buffer until the framer needs more. -/
inductive Drains (next : Framer α) : List α → List (List α) → List α → Prop
  | wait {buffer} : next buffer = none → Drains next buffer [] buffer
  | frame {buffer front rest frames left} : next buffer = some (front, rest) →
      Drains next rest frames left → Drains next buffer (front :: frames) left

/-- The buffers the framer is asked about while it drains one. -/
inductive Visits (next : Framer α) (start : List α) : List α → Prop
  | start : Visits next start start
  | rest {buffer front rest} : Visits next start buffer → next buffer = some (front, rest) →
      Visits next start rest

/-- The drain as a loop with a bound on its iterations; `none` when the bound is reached. -/
def drain (next : Framer α) : Nat → List α → Option (List (List α) × List α)
  | 0, _ => none
  | fuel + 1, buffer => match next buffer with
    | none => some ([], buffer)
    | some (front, rest) =>
      (drain next fuel rest).map fun drained => (front :: drained.1, drained.2)

variable {next : Framer α}

theorem drain_wait {buffer : List α} (waits : next buffer = none) (fuel : Nat) :
    drain next (fuel + 1) buffer = some ([], buffer) := by
  simp only [drain, waits]

theorem drain_frame {buffer front rest : List α} (cut : next buffer = some (front, rest))
    (fuel : Nat) : drain next (fuel + 1) buffer =
      (drain next fuel rest).map fun drained => (front :: drained.1, drained.2) := by
  simp only [drain, cut]

theorem drains_of_drain {fuel : Nat} {buffer left : List α} {frames : List (List α)}
    (success : drain next fuel buffer = some (frames, left)) : Drains next buffer frames left := by
  induction fuel generalizing buffer frames with
  | zero => cases success
  | succ fuel ih =>
    cases cut : next buffer with
    | none =>
      rw [drain_wait cut] at success
      obtain ⟨rfl, rfl⟩ := Prod.mk.inj (Option.some.inj success)
      exact .wait cut
    | some parts =>
      rw [drain_frame cut] at success
      obtain ⟨⟨more, after⟩, drained, same⟩ := Option.map_eq_some_iff.mp success
      obtain ⟨rfl, rfl⟩ := Prod.mk.inj same
      exact .frame cut (ih drained)

theorem Drains.unique {buffer left left' : List α} {frames frames' : List (List α)}
    (first : Drains next buffer frames left) (second : Drains next buffer frames' left') :
    frames = frames' ∧ left = left' := by
  induction first generalizing frames' left' with
  | wait waits =>
    cases second with
    | wait _ => exact ⟨rfl, rfl⟩
    | frame cut _ => exact nomatch waits.symm.trans cut
  | frame cut _ ih =>
    cases second with
    | wait waits => exact nomatch waits.symm.trans cut
    | frame cut' more =>
      obtain ⟨rfl, rfl⟩ := Prod.mk.inj (Option.some.inj (cut.symm.trans cut'))
      obtain ⟨same, sameLeft⟩ := ih more
      exact ⟨congrArg _ same, sameLeft⟩

/-- Every frame takes something off the buffers visited. -/
def Progressive (next : Framer α) (start : List α) : Prop :=
  ∀ buffer front rest, Visits next start buffer → next buffer = some (front, rest) →
    rest.length < buffer.length

theorem Visits.trans {a b c : List α} (first : Visits next a b) (second : Visits next b c) :
    Visits next a c := by
  induction second with
  | start => exact first
  | rest _ cut ih => exact ih.rest cut

theorem Progressive.rest {start front rest : List α} (shrinks : Progressive next start)
    (cut : next start = some (front, rest)) : Progressive next rest :=
  fun buffer f r visited => shrinks buffer f r ((Visits.start.rest cut).trans visited)

/-- One iteration for each element of the buffer, and one to stop, are enough. -/
theorem drain_enough {fuel : Nat} {buffer : List α} (shrinks : Progressive next buffer)
    (enough : buffer.length < fuel) : ∃ frames left, drain next fuel buffer = some (frames, left) := by
  induction fuel generalizing buffer with
  | zero => omega
  | succ fuel ih =>
    cases cut : next buffer with
    | none => exact ⟨[], buffer, drain_wait cut fuel⟩
    | some parts =>
      obtain ⟨front, rest⟩ := parts
      have shorter := shrinks buffer front rest .start cut
      obtain ⟨frames, left, drained⟩ := ih (shrinks.rest cut) (by omega)
      refine ⟨front :: frames, left, ?_⟩
      rw [drain_frame cut, drained]
      rfl

/-- A framer that cuts nothing off a buffer never stops on it. -/
theorem drain_stuck {buffer front : List α} (stuck : next buffer = some (front, buffer))
    (fuel : Nat) : drain next fuel buffer = none := by
  induction fuel with
  | zero => rfl
  | succ fuel ih =>
    rw [drain_frame stuck, ih]
    rfl

/-- Two framers that agree on what one of them visits drain alike. -/
theorem drain_congr {other : Framer α} {buffer : List α}
    (agree : ∀ visited, Visits next buffer visited → other visited = next visited) (fuel : Nat) :
    drain other fuel buffer = drain next fuel buffer := by
  induction fuel generalizing buffer with
  | zero => rfl
  | succ fuel ih =>
    have here := agree buffer .start
    cases cut : next buffer with
    | none => rw [drain_wait cut, drain_wait (here.trans cut)]
    | some parts =>
      rw [drain_frame cut, drain_frame (here.trans cut), ih fun visited reached =>
        agree visited ((Visits.start.rest cut).trans reached)]

/-- What a framer does not take back: a frame stays the same frame when more arrives. -/
def Stable (next : Framer α) : Prop :=
  ∀ buffer front rest, next buffer = some (front, rest) →
    ∀ more, next (buffer ++ more) = some (front, rest ++ more)

/-- The frames of a buffer stay its first frames, and the drain goes on from what was left. -/
theorem Drains.append (stable : Stable next) {buffer left more after : List α}
    {frames later : List (List α)} (first : Drains next buffer frames left)
    (second : Drains next (left ++ more) later after) :
    Drains next (buffer ++ more) (frames ++ later) after := by
  induction first with
  | wait _ => exact second
  | frame cut _ ih => exact .frame (stable _ _ _ cut more) (ih second)

theorem Visits.append (stable : Stable next) {start buffer : List α}
    (visited : Visits next start buffer) (more : List α) :
    Visits next (start ++ more) (buffer ++ more) := by
  induction visited with
  | start => exact .start
  | rest _ cut ih => exact ih.rest (stable _ _ _ cut more)

theorem Drains.visits {buffer left : List α} {frames : List (List α)}
    (drained : Drains next buffer frames left) : Visits next buffer left := by
  induction drained with
  | wait _ => exact .start
  | frame cut _ ih => exact (Visits.start.rest cut).trans ih

/-- What was left needs more. -/
theorem Drains.left_waits {buffer left : List α} {frames : List (List α)}
    (drained : Drains next buffer frames left) : next left = none := by
  induction drained with
  | wait waits => exact waits
  | frame _ _ ih => exact ih

/-- Draining never adds to the buffer. -/
theorem Drains.length_le (takes : ∀ buffer front rest, next buffer = some (front, rest) →
    rest.length ≤ buffer.length) {buffer left : List α} {frames : List (List α)}
    (drained : Drains next buffer frames left) : left.length ≤ buffer.length := by
  induction drained with
  | wait _ => exact Nat.le_refl _
  | frame cut _ ih => exact Nat.le_trans ih (takes _ _ _ cut)

/-- Frames one after the other drain to themselves, and leave what follows them. -/
theorem drains_flatten (stable : Stable next) {frames : List (List α)} {tail : List α}
    (complete : ∀ front ∈ frames, next front = some (front, [])) (waits : next tail = none) :
    Drains next (frames.flatten ++ tail) frames tail := by
  induction frames with
  | nil => exact .wait waits
  | cons front rest ih =>
    have cut := stable front front [] (complete front List.mem_cons_self) (rest.flatten ++ tail)
    rw [List.flatten_cons, List.append_assoc]
    exact .frame cut (ih fun f member => complete f (List.mem_cons_of_mem front member))

/-! ## Cut streams -/

/-- The first items that fit into `n` elements. -/
def within {β : Type*} (size : β → Nat) : List β → Nat → List β
  | [], _ => []
  | item :: rest, n => if size item ≤ n then item :: within size rest (n - size item) else []

theorem mem_within {β : Type*} {size : β → Nat} {items : List β} {n : Nat} {item : β}
    (fits : item ∈ within size items n) : item ∈ items := by
  induction items generalizing n with
  | nil => exact fits
  | cons first rest ih =>
    rw [within] at fits
    split at fits
    · rcases List.mem_cons.mp fits with rfl | later
      · exact List.mem_cons_self
      · exact List.mem_cons_of_mem first (ih later)
    · cases fits

theorem within_map {β : Type*} (encode : β → List α) (items : List β) (n : Nat) :
    within List.length (items.map encode) n = (within (fun item => (encode item).length) items n).map encode := by
  induction items generalizing n with
  | nil => rfl
  | cons item rest ih =>
    rw [List.map_cons, within, within]
    split
    · rw [ih, List.map_cons]
    · rfl

/-- A cut stream is the frames that fit and the beginning of one that does not. -/
theorem take_flatten (frames : List (List α)) (n : Nat) : ∃ tail,
    frames.flatten.take n = (within List.length frames n).flatten ++ tail ∧
      (tail = [] ∨ ∃ front ∈ frames, ∃ k < front.length, tail = front.take k) := by
  induction frames generalizing n with
  | nil => exact ⟨[], by simp [within], Or.inl rfl⟩
  | cons front rest ih =>
    rw [within, List.flatten_cons]
    by_cases fits : front.length ≤ n
    · obtain ⟨tail, cut, partial_⟩ := ih (n - front.length)
      refine ⟨tail, ?_, partial_.imp_right fun ⟨f, member, k, short, same⟩ =>
        ⟨f, List.mem_cons_of_mem front member, k, short, same⟩⟩
      rw [if_pos fits, List.take_append, List.take_of_length_le fits, cut, List.flatten_cons, List.append_assoc]
    · refine ⟨front.take n, ?_, Or.inr ⟨front, List.mem_cons_self, n, by omega, rfl⟩⟩
      rw [if_neg fits, List.take_append_of_le_length (by omega)]
      rfl

/-- A cut stream drains to the frames that lie wholly in it, when a framer does not
take a beginning for a frame. -/
theorem drains_take (stable : Stable next) {frames : List (List α)}
    (complete : ∀ front ∈ frames, next front = some (front, []))
    (incomplete : ∀ front ∈ frames, ∀ k < front.length, next (front.take k) = none)
    (empty : next [] = none) (n : Nat) :
    ∃ tail, Drains next (frames.flatten.take n) (within List.length frames n) tail := by
  obtain ⟨tail, cut, beginning⟩ := take_flatten frames n
  have waits : next tail = none := by
    rcases beginning with rfl | ⟨front, member, k, short, rfl⟩
    · exact empty
    · exact incomplete front member k short
  rw [cut]
  exact ⟨tail, drains_flatten stable (fun front fits => complete front (mem_within fits)) waits⟩

end Sipmon.Lib.Framing
