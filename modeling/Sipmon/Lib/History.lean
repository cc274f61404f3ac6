import Mathlib.Data.List.Induction
import Sipmon.Lib.Run

/-!
# Runs and the history of their inputs

What a state is, given everything that was read to reach it: relations between
the list of past inputs and the state of the machine that read them.
-/
namespace Sipmon.Lib.Run

variable {σ α : Type*} {step : σ → α → σ}

/-- The inputs of a run are admitted, each against those before it. -/
def Admitted (D : List α → α → Prop) (inputs : List α) : Prop :=
  ∀ before a after, inputs = before ++ a :: after → D before a

theorem admitted_of_pairwise {R : α → α → Prop} {inputs : List α} (ordered : inputs.Pairwise R) :
    Admitted (fun past a => ∀ b ∈ past, R b a) inputs := by
  rintro before a after rfl b member
  exact (List.pairwise_append.mp ordered).2.2 b member a List.mem_cons_self

theorem Admitted.earlier {D : List α → α → Prop} {inputs before : List α}
    (admitted : Admitted D inputs) (first : before <+: inputs) : Admitted D before := by
  rintro head a tail rfl
  obtain ⟨rest, rfl⟩ := first
  exact admitted head a (tail ++ rest) (by simp)

/-- History rule: a relation between the past and the state that every admitted
step carries on holds after every admitted run. -/
theorem history {D : List α → α → Prop} {I : List α → σ → Prop} {start : σ} (initial : I [] start)
    (carried : ∀ past s a, D past a → I past s → I (past ++ [a]) (step s a)) {inputs : List α}
    (admitted : Admitted D inputs) : I inputs (inputs.foldl step start) := by
  induction inputs using List.reverseRecOn with
  | nil => exact initial
  | append_singleton past a ih =>
    rw [List.foldl_append]
    exact carried past _ a (admitted past a [] rfl) (ih (admitted.earlier (List.prefix_append past [a])))

/-- The same rule under a condition on the steps. -/
theorem Along.history {D : List α → α → Prop} {C : σ → α → Prop} {I : List α → σ → Prop} {start : σ}
    (initial : I [] start)
    (carried : ∀ past s a, D past a → C s a → I past s → I (past ++ [a]) (step s a)) {inputs : List α}
    (admitted : Admitted D inputs) (holds : Along step C start inputs) :
    I inputs (inputs.foldl step start) := by
  induction inputs using List.reverseRecOn with
  | nil => exact initial
  | append_singleton past a ih =>
    obtain ⟨before, meets, -⟩ := (along_append start past [a]).mp holds
    rw [List.foldl_append]
    exact carried past _ a (admitted past a [] rfl) meets
      (ih (admitted.earlier (List.prefix_append past [a])) before)

/-- What is read off the past and the state holds after every part of an admitted
run exactly if `C` holds along the run, when `C` is what an inner relation needs to
be carried on, and a step without `C` is seen. -/
theorem history_iff {D : List α → α → Prop} {C : σ → α → Prop} {I Q : List α → σ → Prop} {start : σ}
    (initial : I [] start) (shown : ∀ past s, I past s → Q past s)
    (carried : ∀ past s a, D past a → C s a → I past s → I (past ++ [a]) (step s a))
    (seen : ∀ past s a, D past a → I past s → Q (past ++ [a]) (step s a) → C s a) {inputs : List α}
    (admitted : Admitted D inputs) :
    (∀ before, before <+: inputs → Q before (before.foldl step start)) ↔ Along step C start inputs := by
  constructor
  · intro each
    induction inputs using List.reverseRecOn with
    | nil => trivial
    | append_singleton past a ih =>
      have earlier := List.prefix_append past [a]
      have along := ih (admitted.earlier earlier) fun before first => each before (first.trans earlier)
      have inner := along.history initial carried (admitted.earlier earlier)
      have last := each (past ++ [a]) (List.prefix_refl _)
      rw [List.foldl_append] at last
      exact (along_append start past [a]).mpr
        ⟨along, seen past _ a (admitted past a [] rfl) inner last, trivial⟩
  · rintro along before ⟨rest, rfl⟩
    exact shown _ _ (((along_append start before rest).mp along).1.history initial carried
      (admitted.earlier (List.prefix_append before rest)))

end Sipmon.Lib.Run
