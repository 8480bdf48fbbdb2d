import WorldlandBroker.ControlPlane.Credits
import WorldlandBroker.Provider.Usage
import Mathlib.Algebra.BigOperators.Group.Finset.Basic
import Mathlib.Algebra.Order.BigOperators.Group.Finset

/-!
# The jobs whose resources are still out

A job is outstanding from the allocation granted for it until a release that
gives back all of it to the pools it came from.  What a provider has in use is
bounded by the shares of its outstanding jobs.
-/

namespace WorldlandBroker.ControlPlane

open Foundation Provider Job State

variable {K : QuantityAPI} {s s' : State K} {a : Action}
  {past : List (Transition (State K) Action)}

def Release.amount (r : Release) : ResourceAllocation :=
  ⟨r.gpuType, r.gpuCount, r.cpuCores, r.memoryMB⟩

/-- The release takes nothing less, and from the pools the admission came from. -/
def Closes (spec : SystemSpec) (r : Release) (x : Admission) : Prop :=
  r.job = x.job ∧ r.providerID = x.providerID ∧
    resolveGPUType spec r.gpuType = resolveGPUType spec x.allocation.gpuType ∧
    x.allocation.gpuCount ≤ r.gpuCount ∧ x.allocation.cpuCores ≤ r.cpuCores ∧
    x.allocation.memoryMB ≤ r.memoryMB

instance (spec : SystemSpec) (r : Release) (x : Admission) :
    Decidable (Closes spec r x) :=
  inferInstanceAs (Decidable (_ ∧ _))

theorem Closes.share_le {spec : SystemSpec} {r : Release} {x : Admission}
    (h : Closes spec r x) (k : Resource) :
    share spec x.allocation k ≤ share spec r.amount k := by
  obtain ⟨-, -, htype, hgpus, hcpu, hmemory⟩ := h
  cases k with
  | gpus gpuType =>
      simp only [share, Release.amount, htype]
      split
      · exact hgpus
      · exact le_rfl
  | cpu => exact hcpu
  | memory => exact hmemory

def closes (o : Registry) (r : Release) (x : Admission) : Bool :=
  match o x.providerID with
  | none => false
  | some p => decide (Closes p.spec r x)

theorem closes_iff {o : Registry} {r : Release} {x : Admission} :
    closes o r x = true ↔
      ∃ p, o x.providerID = some p ∧ Closes p.spec r x := by
  unfold closes
  cases hp : o x.providerID with
  | none => simp
  | some p => simp

def advance (before : ℕ → Option Admission) (r : Transition (State K) Action) :
    ℕ → Option Admission :=
  match admits r.pre r.act, returns r.pre r.act with
  | some x, _ =>
      if granted r.pre.providers x then Function.update before x.job (some x)
      else before
  | none, some release =>
      if (before release.job).any (closes r.pre.providers release) then
        Function.update before release.job none
      else before
  | none, none => before

def outstanding (past : List (Transition (State K) Action)) :
    ℕ → Option Admission :=
  past.foldl advance fun _ => none

private theorem outstanding_snoc (past : List (Transition (State K) Action))
    (r : Transition (State K) Action) :
    outstanding (past ++ [r]) = advance (outstanding past) r := by
  simp [outstanding]

inductive Settles (s : State K) (a : Action) (before : ℕ → Option Admission) :
    (ℕ → Option Admission) → Prop where
  | kept (hgranted : ∀ x, admits s a = some x → granted s.providers x = false)
      (hopen : ∀ r x, returns s a = some r → before r.job = some x →
        closes s.providers r x = false) : Settles s a before before
  | granted (x : Admission) (hadmits : admits s a = some x)
      (hgranted : granted s.providers x) :
      Settles s a before (Function.update before x.job (some x))
  | closed (r : Release) (x : Admission) (hreturns : returns s a = some r)
      (hbefore : before r.job = some x) (hcloses : closes s.providers r x) :
      Settles s a before (Function.update before r.job none)

theorem returns_of_admits {x : Admission} (h : admits s a = some x) :
    returns s a = none := by
  obtain ⟨rfl, -⟩ := admits_eq_some h
  rfl

theorem outstanding_step (past : List (Transition (State K) Action))
    (s : State K) (a : Action) (s' : State K) :
    Settles s a (outstanding past) (outstanding (past ++ [⟨s, a, s'⟩])) := by
  rw [outstanding_snoc]
  unfold advance
  split
  · rename_i x hadmits
    split
    · rename_i hgranted
      exact .granted x hadmits hgranted
    · rename_i hgranted
      refine .kept (fun y hy => ?_) fun r y hr => ?_
      · rw [hadmits] at hy
        cases hy
        exact Bool.eq_false_iff.mpr hgranted
      · rw [returns_of_admits hadmits] at hr
        contradiction
  · rename_i r hadmits hreturns
    split
    · rename_i hany
      obtain ⟨x, hbefore, hcloses⟩ := (Option.any_eq_true _ _).mp hany
      exact .closed r x hreturns hbefore hcloses
    · rename_i hany
      refine .kept (fun x hx => ?_) fun r' x hr' hx => ?_
      · rw [hadmits] at hx
        contradiction
      · rw [hreturns] at hr'
        cases hr'
        rw [hx] at hany
        exact Bool.eq_false_iff.mpr hany
  · rename_i hadmits hreturns
    refine .kept (fun x hx => ?_) fun r x hr => ?_
    · rw [hadmits] at hx
      contradiction
    · rw [hreturns] at hr
      contradiction

/-! ## Sums over the outstanding jobs -/

def worth (id : String) (spec : SystemSpec) (k : Resource) :
    Option Admission → ℤ
  | none => 0
  | some x => if x.providerID = id then share spec x.allocation k else 0

def owed (jobs : ℕ → Option Admission) (n : ℕ) (id : String) (spec : SystemSpec)
    (k : Resource) : ℤ :=
  ∑ job ∈ Finset.range n, worth id spec k (jobs job)

variable {jobs : ℕ → Option Admission} {n n' job : ℕ} {id : String}
  {spec : SystemSpec} {k : Resource}

theorem owed_update (hjob : job < n) (value : Option Admission) :
    owed (Function.update jobs job value) n id spec k =
      owed jobs n id spec k - worth id spec k (jobs job) +
        worth id spec k value := by
  have hmem : job ∈ Finset.range n := Finset.mem_range.mpr hjob
  have hrest : ∑ j ∈ (Finset.range n).erase job,
        worth id spec k (Function.update jobs job value j) =
      ∑ j ∈ (Finset.range n).erase job, worth id spec k (jobs j) := by
    refine Finset.sum_congr rfl fun j hj => ?_
    rw [Function.update_of_ne (Finset.ne_of_mem_erase hj)]
  unfold owed
  rw [← Finset.add_sum_erase _ _ hmem, hrest, Function.update_self,
    ← Finset.add_sum_erase (Finset.range n)
      (fun j => worth id spec k (jobs j)) hmem]
  ring

theorem owed_of_le (hle : n ≤ n') (hfresh : ∀ job, n ≤ job → jobs job = none) :
    owed jobs n' id spec k = owed jobs n id spec k := by
  refine (Finset.sum_subset (Finset.range_subset_range.mpr hle) ?_).symm
  intro job _ hjob
  rw [hfresh job (not_lt.mp fun hlt => hjob (Finset.mem_range.mpr hlt))]
  rfl

private theorem worth_nonneg
    (h : ∀ x, jobs job = some x → x.providerID = id → x.allocation.Nonneg) :
    0 ≤ worth id spec k (jobs job) := by
  cases hjob : jobs job with
  | none => exact le_rfl
  | some x =>
      simp only [worth]
      split
      · rename_i hid
        exact share_nonneg (h x hjob hid) spec k
      · exact le_rfl

theorem owed_nonneg
    (h : ∀ job x, jobs job = some x → x.providerID = id → x.allocation.Nonneg) :
    0 ≤ owed jobs n id spec k :=
  Finset.sum_nonneg fun job _ => worth_nonneg (h job)

end WorldlandBroker.ControlPlane
