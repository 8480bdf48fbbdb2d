import WorldlandBroker.Foundation.Run
import Mathlib.Algebra.BigOperators.Group.List.Basic
import Mathlib.Algebra.Order.Ring.Int

/-!
# Journals of payments

A journal lists payments between accounts.  Where every step of a system changes
what an account is worth by the payments it makes, a run changes it by all of them.
-/

namespace WorldlandBroker.Foundation

structure Payment (κ : Type*) where
  payer : κ
  payee : κ
  amount : ℕ
  deriving DecidableEq

variable {κ σ α : Type*} [DecidableEq κ]

def Payment.gain (p : Payment κ) (account : κ) : ℤ :=
  (if p.payee = account then (p.amount : ℤ) else 0) -
    (if p.payer = account then (p.amount : ℤ) else 0)

def gained (journal : List (Payment κ)) (account : κ) : ℤ :=
  (journal.map fun p => p.gain account).sum

@[simp]
theorem gained_nil (account : κ) : gained ([] : List (Payment κ)) account = 0 := rfl

theorem gained_cons (p : Payment κ) (journal : List (Payment κ)) (account : κ) :
    gained (p :: journal) account = p.gain account + gained journal account := by
  simp [gained]

theorem gained_append (journal journal' : List (Payment κ)) (account : κ) :
    gained (journal ++ journal') account = gained journal account + gained journal' account := by
  simp [gained]

theorem gained_nonneg {journal : List (Payment κ)} {account : κ}
    (h : ∀ p ∈ journal, p.payer ≠ account) : 0 ≤ gained journal account := by
  induction journal with
  | nil => exact le_rfl
  | cons p journal ih =>
      have hrest := ih fun q hq => h q (List.mem_cons_of_mem _ hq)
      have hfirst : 0 ≤ p.gain account := by
        rw [Payment.gain, if_neg (h p List.mem_cons_self), sub_zero]
        split
        · exact Int.natCast_nonneg _
        · exact le_rfl
      rw [gained_cons]
      exact add_nonneg hfirst hrest

theorem gained_flatMap {ι : Type*} (entries : ι → List (Payment κ)) (l : List ι) (account : κ) :
    gained (l.flatMap entries) account = (l.map fun i => gained (entries i) account).sum := by
  induction l with
  | nil => rfl
  | cons i l ih => rw [List.flatMap_cons, gained_append, ih, List.map_cons, List.sum_cons]

omit [DecidableEq κ] in
/-- What changes by a recorded amount in every step changes by their sum. -/
theorem Run.sum_change {step : σ → α → Option σ} {guard : Guard σ α} {s₀ s : σ}
    {past : List (Transition σ α)} (hrun : Run step guard s₀ past s) (worth : σ → ℤ)
    (change : Transition σ α → ℤ)
    (hstep : ∀ s a s', step s a = some s' → worth s' = worth s + change ⟨s, a, s'⟩) :
    worth s = worth s₀ + (past.map change).sum := by
  induction hrun with
  | nil => simp
  | snoc _ _ hs ih =>
      rw [hstep _ _ _ hs, ih, List.map_append, List.sum_append, add_assoc]
      simp

end WorldlandBroker.Foundation
