import Mathlib.Data.List.Basic

/-!
# Runs of a deterministic machine

A machine is a step function `σ → α → σ`; a run is the left fold of its inputs.
`Along C s inputs` says that every step of the run from `s` meets `C`, a
condition on the state before the step and on the input. The rules below turn
one-step facts into facts about whole runs: invariants, simulations, and
two-run projections that drop the inputs a component must not depend on.
-/
namespace Sipmon.Lib.Run

variable {σ α τ : Type*} {step : σ → α → σ}

/-- Every step of the run from `s` satisfies `C` on its prestate and its input. -/
def Along (step : σ → α → σ) (C : σ → α → Prop) : σ → List α → Prop
  | _, [] => True
  | s, a :: rest => C s a ∧ Along step C (step s a) rest

instance decidableAlong (C : σ → α → Prop) [∀ s a, Decidable (C s a)] :
    (s : σ) → (inputs : List α) → Decidable (Along step C s inputs)
  | _, [] => .isTrue trivial
  | s, a :: rest => @instDecidableAnd _ _ _ (decidableAlong C (step s a) rest)

theorem along_append {C : σ → α → Prop} (s : σ) (before after : List α) :
    Along step C s (before ++ after) ↔
      Along step C s before ∧ Along step C (before.foldl step s) after := by
  induction before generalizing s with
  | nil => simp [Along]
  | cons a rest ih => simp only [List.cons_append, Along, List.foldl_cons, ih, and_assoc]

/-- Index-free reading of `Along`: a split of the inputs exposes each step. -/
theorem along_iff {C : σ → α → Prop} (s : σ) (inputs : List α) :
    Along step C s inputs ↔
      ∀ before a after, inputs = before ++ a :: after → C (before.foldl step s) a := by
  constructor
  · rintro holds before a after rfl
    exact ((along_append s before (a :: after)).mp holds).2.1
  · intro each
    induction inputs generalizing s with
    | nil => trivial
    | cons a rest ih =>
      refine ⟨each [] a rest rfl, ih (step s a) ?_⟩
      rintro before b after rfl
      exact each (a :: before) b after rfl

theorem Along.mono {C D : σ → α → Prop} (weaker : ∀ s a, C s a → D s a) {s : σ} {inputs : List α}
    (holds : Along step C s inputs) : Along step D s inputs := by
  induction inputs generalizing s with
  | nil => trivial
  | cons a rest ih => exact ⟨weaker s a holds.1, ih holds.2⟩

theorem along_congr {C D : σ → α → Prop} (same : ∀ s a, C s a ↔ D s a) (s : σ) (inputs : List α) :
    Along step C s inputs ↔ Along step D s inputs :=
  ⟨Along.mono fun s a => (same s a).mp, Along.mono fun s a => (same s a).mpr⟩

theorem Along.and {C D : σ → α → Prop} {s : σ} {inputs : List α} (first : Along step C s inputs)
    (second : Along step D s inputs) : Along step (fun s a => C s a ∧ D s a) s inputs := by
  induction inputs generalizing s with
  | nil => trivial
  | cons a rest ih => exact ⟨⟨first.1, second.1⟩, ih first.2 second.2⟩

/-- A condition on the inputs alone. -/
theorem along_of_forall {C : α → Prop} (s : σ) {inputs : List α} (each : ∀ a ∈ inputs, C a) :
    Along step (fun _ a => C a) s inputs := by
  induction inputs generalizing s with
  | nil => trivial
  | cons a rest ih =>
    exact ⟨each a List.mem_cons_self, ih (step s a) fun b member => each b (List.mem_cons_of_mem a member)⟩

/-- Invariant rule: what one admitted step preserves, every admitted run preserves. -/
theorem Along.invariant {C : σ → α → Prop} {P : σ → Prop}
    (preserved : ∀ s a, C s a → P s → P (step s a)) {s : σ} {inputs : List α}
    (holds : Along step C s inputs) (initial : P s) : P (inputs.foldl step s) := by
  induction inputs generalizing s with
  | nil => exact initial
  | cons a rest ih => exact ih holds.2 (preserved s a holds.1 initial)

/-- The same rule when every input is admitted. -/
theorem invariant {P : σ → Prop} (preserved : ∀ s a, P s → P (step s a))
    (inputs : List α) {s : σ} (initial : P s) : P (inputs.foldl step s) := by
  induction inputs generalizing s with
  | nil => exact initial
  | cons a rest ih => exact ih (preserved s a initial)

/-- Countdown rule: if, while `P` lasts, every admitted step that counts brings `f` down
and no other brings it up, a run brings it down by as many steps as count. -/
theorem Along.countdown {C : σ → α → Prop} {P : σ → Prop} {f : σ → Nat} {counts : α → Bool}
    (kept : ∀ s a, C s a → P s → P (step s a))
    (goes : ∀ s a, C s a → P s → f (step s a) ≤ f s - if counts a then 1 else 0)
    {s : σ} {inputs : List α} (holds : Along step C s inputs) (initial : P s) :
    f (inputs.foldl step s) ≤ f s - inputs.countP counts := by
  induction inputs generalizing s with
  | nil => exact Nat.le_refl _
  | cons a rest ih =>
    have first := goes s a holds.1 initial
    have later := ih holds.2 (kept s a holds.1 initial)
    rw [List.foldl_cons, List.countP_cons]
    omega

/-- Once `a` has been read, what it establishes and every step keeps still holds. -/
theorem after_mem {P : σ → Prop} {a : α} (established : ∀ s, P (step s a))
    (preserved : ∀ s b, P s → P (step s b)) {inputs : List α} (member : a ∈ inputs) (s : σ) :
    P (inputs.foldl step s) := by
  obtain ⟨before, after, rfl⟩ := List.append_of_mem member
  rw [List.foldl_append, List.foldl_cons]
  exact invariant preserved after (established _)

/-- An invariant that admits every step of every run establishes `Along`. -/
theorem along_of_invariant {C : σ → α → Prop} {P : σ → Prop}
    (preserved : ∀ s a, P s → P (step s a)) (admits : ∀ s a, P s → C s a)
    (inputs : List α) {s : σ} (initial : P s) : Along step C s inputs := by
  induction inputs generalizing s with
  | nil => trivial
  | cons a rest ih => exact ⟨admits s a initial, ih (preserved s a initial)⟩

/-- A property that each admitted step carries on exactly under `C` holds after
every step of a run exactly if `C` holds along it. -/
theorem Along.kept_iff {D C : σ → α → Prop} {P : σ → Prop}
    (carried : ∀ s a, D s a → P s → (P (step s a) ↔ C s a)) {s : σ} {inputs : List α}
    (admitted : Along step D s inputs) (initial : P s) :
    Along step (fun s a => P (step s a)) s inputs ↔ Along step C s inputs := by
  induction inputs generalizing s with
  | nil => exact Iff.rfl
  | cons a rest ih =>
    have first := carried s a admitted.1 initial
    constructor
    · exact fun ⟨kept, later⟩ => ⟨first.mp kept, (ih admitted.2 kept).mp later⟩
    · exact fun ⟨meets, later⟩ => ⟨first.mpr meets, (ih admitted.2 (first.mpr meets)).mpr later⟩

/-- Lock-step simulation between two machines on the same inputs, along a run
of the first. -/
theorem Along.simulation {C : σ → α → Prop} {other : τ → α → τ} {R : σ → τ → Prop}
    (matched : ∀ s t a, C s a → R s t → R (step s a) (other t a))
    {s : σ} {t : τ} {inputs : List α} (holds : Along step C s inputs) (initial : R s t) :
    R (inputs.foldl step s) (inputs.foldl other t) := by
  induction inputs generalizing s t with
  | nil => exact initial
  | cons a rest ih => exact ih holds.2 (matched s t a holds.1 initial)

/-- Two machines on the same inputs stay related after every step exactly if `C`
holds along the first, when that is what keeps them related for one step. -/
theorem Along.lockstep_iff {D C : σ → α → Prop} {other : τ → α → τ} {R : σ → τ → Prop}
    (carried : ∀ s t a, D s a → R s t → (R (step s a) (other t a) ↔ C s a)) {s : σ} {t : τ}
    {inputs : List α} (admitted : Along step D s inputs) (initial : R s t) :
    (∀ n, R ((inputs.take n).foldl step s) ((inputs.take n).foldl other t)) ↔
      Along step C s inputs := by
  induction inputs generalizing s t with
  | nil => simp [Along, initial]
  | cons a rest ih =>
    have first := carried s t a admitted.1 initial
    constructor
    · intro related
      have now : R (step s a) (other t a) := related 1
      exact ⟨first.mp now, (ih admitted.2 now).mp fun n => related (n + 1)⟩
    · rintro ⟨meets, later⟩ n
      cases n with
      | zero => exact initial
      | succ n => exact (ih admitted.2 (first.mpr meets)).mpr later n

/-- Projection rule: the full run is related to the run over the kept inputs
alone, when kept inputs move both sides and dropped inputs move only the full
one without leaving the relation. -/
theorem projection {C : σ → α → Prop} {keep : α → Bool} {R : σ → σ → Prop}
    (kept : ∀ s t a, C s a → keep a = true → R s t → R (step s a) (step t a))
    (dropped : ∀ s t a, C s a → keep a = false → R s t → R (step s a) t)
    {s t : σ} {inputs : List α} (holds : Along step C s inputs) (initial : R s t) :
    R (inputs.foldl step s) ((inputs.filter keep).foldl step t) := by
  induction inputs generalizing s t with
  | nil => exact initial
  | cons a rest ih =>
    cases kind : keep a with
    | true =>
      rw [List.filter_cons_of_pos kind]
      exact ih holds.2 (kept s t a holds.1 kind initial)
    | false =>
      rw [List.filter_cons_of_neg (by simp [kind])]
      exact ih holds.2 (dropped s t a holds.1 kind initial)

/-! ## Steps that may stop -/

/-- A step that stops unless `C` holds stops a run unless `C` holds along it. -/
theorem foldlM_guarded {C : σ → α → Prop} [∀ s a, Decidable (C s a)] {guarded : σ → α → Option σ}
    (stops : ∀ s a, guarded s a = if C s a then some (step s a) else none) (s : σ) (inputs : List α) :
    inputs.foldlM guarded s =
      if Along step C s inputs then some (inputs.foldl step s) else none := by
  induction inputs generalizing s with
  | nil => exact (if_pos trivial).symm
  | cons a rest ih =>
    rw [List.foldlM_cons, stops]
    by_cases meets : C s a
    · have first : Along step C s (a :: rest) ↔ Along step C (step s a) rest := and_iff_right meets
      rw [if_pos meets, List.foldl_cons, if_congr first rfl rfl]
      exact ih (step s a)
    · have never : ¬ Along step C s (a :: rest) := fun all => meets all.1
      rw [if_neg meets, if_neg never]
      rfl

/-- The inputs read so far, the newest first, are a machine of their own. Where they tell
what a condition on the state asks, the condition is one on the inputs. -/
theorem along_iff_history {C : σ → α → Prop} {D : List α → α → Prop} {R : List α → σ → Prop}
    (kept : ∀ past s a, R past s → R (a :: past) (step s a))
    (told : ∀ past s a, R past s → (C s a ↔ D past a)) {past : List α} {s : σ} (inputs : List α)
    (initial : R past s) :
    Along step C s inputs ↔ Along (fun past a => a :: past) D past inputs := by
  induction inputs generalizing past s with
  | nil => exact Iff.rfl
  | cons a rest ih => exact and_congr (told past s a initial) (ih (kept past s a initial))

/-! ## Views -/

section Views

variable {β : Type*}

/-- Of its argument, `f` shows through the view only what the view shows. -/
def Respects (view : σ → β) (f : σ → σ) : Prop := ∀ s t, view s = view t → view (f s) = view (f t)

theorem Respects.comp {view : σ → β} {f g : σ → σ} (outer : Respects view g)
    (inner : Respects view f) : Respects view fun s => g (f s) :=
  fun s t same => outer _ _ (inner s t same)

theorem Respects.foldl {view : σ → β} {f : σ → α → σ} (each : ∀ a, Respects view fun s => f s a)
    (l : List α) : Respects view fun s => l.foldl f s := by
  induction l with
  | nil => exact fun s t same => same
  | cons a rest ih => exact fun s t same => ih _ _ (each a s t same)

/-- What the view does not show. -/
theorem respects_of_blind {view : σ → β} {f : σ → σ} (blind : ∀ s, view (f s) = view s) :
    Respects view f := fun s t same => by rw [blind, blind, same]

end Views

/-! ## Sums along a run -/

/-- The sum of a number read off the prestate and the input of every step. -/
def total (step : σ → α → σ) (f : σ → α → Nat) : σ → List α → Nat
  | _, [] => 0
  | s, a :: rest => f s a + total step f (step s a) rest

theorem total_append (f : σ → α → Nat) (s : σ) (before after : List α) :
    total step f s (before ++ after) =
      total step f s before + total step f (before.foldl step s) after := by
  induction before generalizing s with
  | nil => exact (Nat.zero_add _).symm
  | cons a rest ih => simp only [List.cons_append, total, List.foldl_cons, ih, Nat.add_assoc]

theorem total_eq_zero (f : σ → α → Nat) (s : σ) (inputs : List α) :
    total step f s inputs = 0 ↔ Along step (fun s a => f s a = 0) s inputs := by
  induction inputs generalizing s with
  | nil => simp [total, Along]
  | cons a rest ih => simp only [total, Along, Nat.add_eq_zero_iff, ih]

/-- Balance rule: where every admitted step that stays below a bound gains and loses so
much, a run that stays below it gains and loses the sums. -/
theorem total_balance {C : σ → α → Prop} {P : σ → Prop} (held : σ → Nat) (gained lost : σ → α → Nat)
    {bound : Nat} (preserved : ∀ s a, C s a → P s → P (step s a))
    (balanced : ∀ s a, C s a → P s → held s + gained s a < bound →
      held (step s a) + lost s a = held s + gained s a)
    {s : σ} {inputs : List α} (holds : Along step C s inputs) (initial : P s)
    (fits : held s + total step gained s inputs < bound) :
    held (inputs.foldl step s) + total step lost s inputs =
      held s + total step gained s inputs := by
  induction inputs generalizing s with
  | nil => rfl
  | cons a rest ih =>
    rw [total] at fits
    have first := balanced s a holds.1 initial (by omega)
    have others := ih holds.2 (preserved s a holds.1 initial) (by omega)
    simp only [List.foldl_cons, total]
    omega

end Sipmon.Lib.Run
