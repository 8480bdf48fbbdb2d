import WorldlandBroker.Foundation.Run
import Mathlib.Logic.Function.Basic

/-!
# Systems in separate parts

Every action reads and writes one part of the state and leaves the others alone.
What the actions on a part are answered is then decided by these actions alone:
any others can be taken out of a history or put into it.
-/

namespace WorldlandBroker.Foundation

/-- The parts are named by `ι`, and each of them holds a state of its own. -/
structure Parts (ι σ α β : Type*) where
  part : α → ι
  act : α → σ → σ
  answer : α → σ → β

namespace Parts

variable {ι σ α β : Type*} [DecidableEq ι] (S : Parts ι σ α β)

def step (g : ι → σ) (a : α) : ι → σ :=
  Function.update g (S.part a) (S.act a (g (S.part a)))

def run (g : ι → σ) (acts : List α) : ι → σ := acts.foldl S.step g

def answers (g : ι → σ) : List α → List (α × β)
  | [] => []
  | a :: acts => (a, S.answer a (g (S.part a))) :: answers (S.step g a) acts

def on (i : ι) (acts : List α) : List α := acts.filter fun a => S.part a = i

def localAnswers (s : σ) : List α → List (α × β)
  | [] => []
  | a :: acts => (a, S.answer a s) :: localAnswers (S.act a s) acts

variable {S} {g : ι → σ} {i : ι} {a : α}

theorem step_same (h : S.part a = i) : S.step g a i = S.act a (g i) := by
  subst h
  exact Function.update_self ..

theorem step_other (h : S.part a ≠ i) : S.step g a i = g i :=
  Function.update_of_ne (Ne.symm h) ..

theorem on_cons_same (h : S.part a = i) (acts : List α) :
    S.on i (a :: acts) = a :: S.on i acts :=
  List.filter_cons_of_pos (by simpa using h)

theorem on_cons_other (h : S.part a ≠ i) (acts : List α) :
    S.on i (a :: acts) = S.on i acts :=
  List.filter_cons_of_neg (by simpa using h)

theorem answers_apply (g : ι → σ) (i : ι) (acts : List α) :
    (S.answers g acts).filter (fun answered => S.part answered.1 = i) =
      S.localAnswers (g i) (S.on i acts) := by
  induction acts generalizing g with
  | nil => rfl
  | cons a acts ih =>
      rw [answers]
      by_cases h : S.part a = i
      · rw [List.filter_cons_of_pos (by simpa using h), ih, on_cons_same h, step_same h, h]
        rfl
      · rw [List.filter_cons_of_neg (by simpa using h), ih, on_cons_other h, step_other h]

theorem answers_eq {acts acts' : List α} (h : S.on i acts = S.on i acts') :
    (S.answers g acts).filter (fun answered => S.part answered.1 = i) =
      (S.answers g acts').filter (fun answered => S.part answered.1 = i) := by
  rw [answers_apply, answers_apply, h]

/-- What is invariant in every part, with the part's name, is so along every run. -/
theorem run_invariant {I : ι → σ → Prop} (h₀ : ∀ i, I i (g i))
    (hact : ∀ a s, I (S.part a) s → I (S.part a) (S.act a s)) (acts : List α) (i : ι) :
    I i (S.run g acts i) := by
  induction acts generalizing g with
  | nil => exact h₀ i
  | cons a acts ih =>
      apply ih
      intro j
      by_cases h : S.part a = j
      · subst h
        rw [step_same rfl]
        exact hact a _ (h₀ _)
      · rw [step_other h]
        exact h₀ j

end Parts

/-! ## Guarded runs of a family -/

variable {ι σ α : Type*} [DecidableEq ι] {step : σ → α → Option σ}

def familyStep (step : σ → α → Option σ) (g : ι → σ) (a : ι × α) : Option (ι → σ) :=
  (step (g a.1) a.2).map (Function.update g a.1)

theorem familyStep_eq_some {g g' : ι → σ} {a : ι × α} (h : familyStep step g a = some g') :
    ∃ s', step (g a.1) a.2 = some s' ∧ g' = Function.update g a.1 s' := by
  obtain ⟨s', hs, rfl⟩ := Option.map_eq_some_iff.mp h
  exact ⟨s', hs, rfl⟩

/-- What every part holds at the start, and each guarded step keeps in its part. -/
theorem Run.family_always {guard : σ → α → Prop} {I : ι → σ → Prop} {g₀ g : ι → σ}
    {past : List (Transition (ι → σ) (ι × α))}
    (hrun : Run (familyStep step) (fun _ g a => guard (g a.1) a.2) g₀ past g)
    (h₀ : ∀ i, I i (g₀ i))
    (hstep : ∀ i s a s', I i s → guard s a → step s a = some s' → I i s') (i : ι) :
    I i (g i) := by
  revert i
  apply hrun.always h₀
  intro past g a g' hg hguard hs i
  obtain ⟨s', hpart, rfl⟩ := familyStep_eq_some hs
  by_cases hi : i = a.1
  · subst hi
    rw [Function.update_self]
    exact hstep _ _ _ _ (hg _) hguard hpart
  · rw [Function.update_of_ne hi]
    exact hg i

end WorldlandBroker.Foundation
