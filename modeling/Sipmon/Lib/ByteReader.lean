import Mathlib.Data.List.Basic

/-!
# Sequential readers over byte lists

A `Reader` consumes a byte list from the front and may fail. `Decodes r bs a`
says that `r` reads exactly `bs`, whatever follows, and returns `a`; it composes
along `bind`, so a field-by-field reader is verified field by field against the
concatenation its writer produces. `Starves r bs` says that a proper prefix of
`bs` is not enough for `r`, which then reports the end of the input.
-/
namespace Sipmon.Lib.ByteReader

abbrev Bytes := List UInt8

inductive ReadError where
  | unexpectedEof | invalidData
  deriving DecidableEq, Repr

abbrev Reader (α : Type) := StateT Bytes (Except ReadError) α

variable {α β : Type}

/-- `std::io::Read::read_exact` for `n` bytes. -/
def readExact (n : Nat) : Reader Bytes := fun input =>
  if n ≤ input.length then .ok (input.take n, input.drop n) else .error .unexpectedEof

def readByte : Reader UInt8
  | [] => .error .unexpectedEof
  | b :: rest => .ok (b, rest)

/-- `r` consumes exactly `bs` and returns `a`, whatever comes after. -/
def Decodes (r : Reader α) (bs : Bytes) (a : α) : Prop :=
  ∀ rest, r.run (bs ++ rest) = .ok (a, rest)

/-- Every proper prefix of `bs` leaves `r` waiting for more input. -/
def Starves (r : Reader α) (bs : Bytes) : Prop :=
  ∀ cut, cut <+: bs → cut.length < bs.length → r.run cut = .error .unexpectedEof

theorem Decodes.pure (a : α) : Decodes (Pure.pure a) [] a := fun _ => rfl

theorem Decodes.bind {r : Reader α} {next : α → Reader β} {bs cs : Bytes} {a : α} {b : β}
    (first : Decodes r bs a) (second : Decodes (next a) cs b) :
    Decodes (r >>= next) (bs ++ cs) b := by
  intro rest
  rw [StateT.run_bind, List.append_assoc, first (cs ++ rest)]
  exact second rest

/-- The last field of a sequence leaves no suffix to append. -/
theorem Decodes.bind_pure {r : Reader α} {f : α → β} {bs : Bytes} {a : α}
    (first : Decodes r bs a) : Decodes (r >>= fun x => Pure.pure (f x)) bs (f a) := by
  intro rest
  rw [StateT.run_bind, first rest]
  rfl

theorem Decodes.map {r : Reader α} (f : α → β) {bs : Bytes} {a : α} (first : Decodes r bs a) :
    Decodes (f <$> r) bs (f a) := by
  intro rest
  rw [StateT.run_map, first rest]
  rfl

/-- A whole input that is exactly one encoding is consumed to the end. -/
theorem Decodes.run_self {r : Reader α} {bs : Bytes} {a : α} (decodes : Decodes r bs a) :
    r.run bs = .ok (a, []) := by
  simpa using decodes []

/-! Length-prefixed fields decode only while their length fits its prefix. Such
a bound on a whole encoding is a bound on each of its fields. -/

/-- `r` decodes `bs` to `a` provided `bs` is shorter than `limit`. -/
def DecodesBelow (limit : Nat) (r : Reader α) (bs : Bytes) (a : α) : Prop :=
  bs.length < limit → Decodes r bs a

section Below
variable {limit : Nat}

theorem Decodes.below {r : Reader α} {bs : Bytes} {a : α} (decodes : Decodes r bs a) :
    DecodesBelow limit r bs a := fun _ => decodes

theorem DecodesBelow.bind {r : Reader α} {next : α → Reader β} {bs cs : Bytes} {a : α} {b : β}
    (first : DecodesBelow limit r bs a) (second : DecodesBelow limit (next a) cs b) :
    DecodesBelow limit (r >>= next) (bs ++ cs) b := by
  intro short
  rw [List.length_append] at short
  exact (first (by omega)).bind (second (by omega))

theorem DecodesBelow.bind_pure {r : Reader α} {f : α → β} {bs : Bytes} {a : α}
    (first : DecodesBelow limit r bs a) :
    DecodesBelow limit (r >>= fun x => Pure.pure (f x)) bs (f a) :=
  fun short => (first short).bind_pure

theorem DecodesBelow.map {r : Reader α} (f : α → β) {bs : Bytes} {a : α}
    (first : DecodesBelow limit r bs a) : DecodesBelow limit (f <$> r) bs (f a) :=
  fun short => (first short).map f

/-- One field of an input that ends where the rest of the reader expects it to. -/
theorem DecodesBelow.run_bind {r : Reader α} {next : α → Reader β} {bs cs : Bytes} {a : α}
    {out : Except ReadError (β × Bytes)} (first : DecodesBelow limit r bs a)
    (short : (bs ++ cs).length < limit) (second : cs.length < limit → (next a).run cs = out) :
    (r >>= next).run (bs ++ cs) = out := by
  rw [List.length_append] at short
  rw [StateT.run_bind, first (by omega) cs]
  exact second (by omega)

end Below

theorem readExact_decodes (bs : Bytes) : Decodes (readExact bs.length) bs bs := by
  intro rest
  change (if bs.length ≤ (bs ++ rest).length then _ else _) = _
  rw [if_pos (by simp), List.take_left, List.drop_left]

theorem readExact_starves (bs : Bytes) : Starves (readExact bs.length) bs := by
  intro cut _ proper
  exact if_neg (Nat.not_le.mpr proper)

/-- A proper prefix of two parts ends inside the first or inside the second. -/
theorem proper_prefix_append {cut as bs : Bytes} (isPrefix : cut <+: as ++ bs)
    (proper : cut.length < (as ++ bs).length) :
    (cut <+: as ∧ cut.length < as.length) ∨
      ∃ inner, cut = as ++ inner ∧ inner <+: bs ∧ inner.length < bs.length := by
  rw [List.length_append] at proper
  by_cases early : cut.length < as.length
  · refine Or.inl ⟨?_, early⟩
    exact List.prefix_of_prefix_length_le isPrefix (List.prefix_append as bs) (Nat.le_of_lt early)
  · have covered : as <+: cut :=
      List.prefix_of_prefix_length_le (List.prefix_append as bs) isPrefix (Nat.not_lt.mp early)
    obtain ⟨inner, rfl⟩ := covered
    rw [List.length_append] at proper
    exact Or.inr ⟨inner, rfl, (List.prefix_append_right_inj as).mp isPrefix, by omega⟩

theorem readByte_decodes (b : UInt8) : Decodes readByte [b] b := fun _ => rfl

/-! ## Two readers of one layout

A reader mirrors another one if it reads the same bytes wherever that one
succeeds. It leads on the way of the other one if it may stop before it.
-/

section Mirrors
variable {γ δ : Type}

/-- Where `r` succeeds, `r'` consumes the same input and returns a related value. -/
def Mirrors (rel : α → β → Prop) (r : Reader α) (r' : Reader β) : Prop :=
  ∀ input a rest, r.run input = .ok (a, rest) → ∃ b, rel a b ∧ r'.run input = .ok (b, rest)

/-- Where `r` succeeds, `r'` returns a related value, whatever it leaves. -/
def Leads (rel : α → β → Prop) (r : Reader α) (r' : Reader β) : Prop :=
  ∀ input a rest, r.run input = .ok (a, rest) → ∃ b left, rel a b ∧ r'.run input = .ok (b, left)

theorem bind_ok {r : Reader α} {next : α → Reader β} {input rest : Bytes} {b : β}
    (read : (r >>= next).run input = .ok (b, rest)) :
    ∃ a mid, r.run input = .ok (a, mid) ∧ (next a).run mid = .ok (b, rest) := by
  rw [StateT.run_bind] at read
  cases first : r.run input with
  | error e =>
    rw [first] at read
    cases read
  | ok result =>
    rw [first] at read
    exact ⟨result.1, result.2, rfl, read⟩

theorem run_bind_ok {r : Reader α} {next : α → Reader β} {input mid : Bytes} {a : α}
    (first : r.run input = .ok (a, mid)) : (r >>= next).run input = (next a).run mid := by
  rw [StateT.run_bind, first]
  rfl

theorem map_ok {f : α → β} {r : Reader α} {input rest : Bytes} {b : β}
    (read : (f <$> r).run input = .ok (b, rest)) : ∃ a, f a = b ∧ r.run input = .ok (a, rest) := by
  rw [StateT.run_map] at read
  cases first : r.run input with
  | error e =>
    rw [first] at read
    cases read
  | ok result =>
    rw [first] at read
    cases read
    exact ⟨result.1, rfl, rfl⟩

theorem Mirrors.refl (r : Reader α) : Mirrors Eq r r := fun _ a _ read => ⟨a, rfl, read⟩

theorem Mirrors.leads {rel : α → β → Prop} {r : Reader α} {r' : Reader β} (mirrors : Mirrors rel r r') :
    Leads rel r r' := by
  intro input a rest read
  obtain ⟨b, related, read'⟩ := mirrors input a rest read
  exact ⟨b, rest, related, read'⟩

theorem Mirrors.pure {rel : α → β → Prop} {a : α} {b : β} (related : rel a b) :
    Mirrors rel (Pure.pure a) (Pure.pure b) := by
  intro input a' rest read
  cases read
  exact ⟨b, related, rfl⟩

theorem Mirrors.bind {rel : α → β → Prop} {more : γ → δ → Prop} {r : Reader α} {r' : Reader β}
    {next : α → Reader γ} {next' : β → Reader δ} (first : Mirrors rel r r')
    (second : ∀ a b, rel a b → Mirrors more (next a) (next' b)) :
    Mirrors more (r >>= next) (r' >>= next') := by
  intro input c rest read
  obtain ⟨a, mid, early, late⟩ := bind_ok read
  obtain ⟨b, related, early'⟩ := first input a mid early
  rw [run_bind_ok early']
  exact second a b related mid c rest late

theorem Mirrors.bind_leads {rel : α → β → Prop} {more : γ → δ → Prop} {r : Reader α} {r' : Reader β}
    {next : α → Reader γ} {next' : β → Reader δ} (first : Mirrors rel r r')
    (second : ∀ a b, rel a b → Leads more (next a) (next' b)) :
    Leads more (r >>= next) (r' >>= next') := by
  intro input c rest read
  obtain ⟨a, mid, early, late⟩ := bind_ok read
  obtain ⟨b, related, early'⟩ := first input a mid early
  rw [run_bind_ok early']
  exact second a b related mid c rest late

/-! Fields both readers return: the rest may name their value. -/

theorem Mirrors.chain {more : γ → δ → Prop} {r r' : Reader α} {next : α → Reader γ}
    {next' : α → Reader δ} (first : Mirrors Eq r r') (second : ∀ a, Mirrors more (next a) (next' a)) :
    Mirrors more (r >>= next) (r' >>= next') := by
  refine first.bind ?_
  rintro a _ rfl
  exact second a

theorem Mirrors.chain_leads {more : γ → δ → Prop} {r r' : Reader α} {next : α → Reader γ}
    {next' : α → Reader δ} (first : Mirrors Eq r r') (second : ∀ a, Leads more (next a) (next' a)) :
    Leads more (r >>= next) (r' >>= next') := by
  refine first.bind_leads ?_
  rintro a _ rfl
  exact second a

/-- A reader that has stopped leads past every field it does not look at. -/
theorem Leads.stop {rel : α → β → Prop} {r : Reader γ} {next : γ → Reader α} {b : β}
    (later : ∀ c, Leads rel (next c) (Pure.pure b)) : Leads rel (r >>= next) (Pure.pure b) := by
  intro input a rest read
  obtain ⟨c, mid, _, late⟩ := bind_ok read
  obtain ⟨_, left, related, stopped⟩ := later c mid a rest late
  cases stopped
  exact ⟨b, input, related, rfl⟩

end Mirrors

/-! ## Readers that only move forward -/

/-- What `r` leaves is no longer than what it was given. -/
def Shrinks (r : Reader α) : Prop := ∀ input a rest, r.run input = .ok (a, rest) → rest.length ≤ input.length

theorem Shrinks.pure (a : α) : Shrinks (Pure.pure a) := by
  intro input b rest read
  cases read
  exact Nat.le_refl _

theorem Shrinks.bind {r : Reader α} {next : α → Reader β} (first : Shrinks r)
    (second : ∀ a, Shrinks (next a)) : Shrinks (r >>= next) := by
  intro input b rest read
  obtain ⟨a, mid, early, late⟩ := bind_ok read
  exact Nat.le_trans (second a mid b rest late) (first input a mid early)

end Sipmon.Lib.ByteReader
