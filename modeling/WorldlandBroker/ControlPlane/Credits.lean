import WorldlandBroker.ControlPlane.Mentions
import WorldlandBroker.Job.Refund

/-!
# What a job has been debited and credited

Both sides of a job's account are read off the record of a run: the allocation
that was granted for it, and every release made in its name.  The release funnel
keeps no track of jobs, so nothing in the code relates the two; the record does.
-/

namespace WorldlandBroker.ControlPlane

open Foundation Provider Job State

variable {K : QuantityAPI} {s s' : State K} {a : Action}
  {past : List (Transition (State K) Action)} {job : ℕ}

def debits (past : List (Transition (State K) Action)) (job : ℕ) :
    List Admission :=
  past.filterMap fun r => (admits r.pre r.act).filter fun x =>
    x.job = job ∧ granted r.pre.providers x

def credits (past : List (Transition (State K) Action)) (job : ℕ) :
    List Release :=
  past.filterMap fun r => (returns r.pre r.act).filter fun x =>
    x.job = job ∧ (r.pre.providers x.providerID).isSome

def returnsFor (job : ℕ) (r : Transition (State K) Action) : Bool :=
  (returns r.pre r.act).any fun x => x.job = job

def debitedGPUs (past : List (Transition (State K) Action)) (job : ℕ) : ℤ :=
  ((debits past job).map fun x => x.allocation.gpuCount).sum

/-- Only a positive number of cores is ever debited; memory goes the same way. -/
def debitedCPU (past : List (Transition (State K) Action)) (job : ℕ) : ℤ :=
  ((debits past job).map fun x => max x.allocation.cpuCores 0).sum

def debitedMemory (past : List (Transition (State K) Action)) (job : ℕ) : ℤ :=
  ((debits past job).map fun x => max x.allocation.memoryMB 0).sum

def creditedGPUs (past : List (Transition (State K) Action)) (job : ℕ) : ℤ :=
  ((credits past job).map Release.gpuCount).sum

def creditedCPU (past : List (Transition (State K) Action)) (job : ℕ) : ℤ :=
  ((credits past job).map Release.cpuCores).sum

def creditedMemory (past : List (Transition (State K) Action)) (job : ℕ) : ℤ :=
  ((credits past job).map Release.memoryMB).sum

theorem returnsFor_iff {r : Transition (State K) Action} :
    returnsFor job r ↔ ∃ x, returns r.pre r.act = some x ∧ x.job = job := by
  cases hreturns : returns r.pre r.act <;> simp [returnsFor, hreturns]

/-! ## The record grows by one step -/

private theorem filterMap_snoc {α β : Type*} (f : α → Option β) (l : List α) (last : α) :
    (l ++ [last]).filterMap f = l.filterMap f ++ (f last).toList := by
  rw [List.filterMap_append]
  cases hlast : f last <;> simp [hlast]

private theorem debits_snoc (past : List (Transition (State K) Action))
    (r : Transition (State K) Action) (job : ℕ) :
    debits (past ++ [r]) job = debits past job ++
      ((admits r.pre r.act).filter fun x =>
        x.job = job ∧ granted r.pre.providers x).toList :=
  filterMap_snoc _ past r

private theorem debits_snoc_of_none
    (h : ∀ x, admits s a = some x → x.job = job → granted s.providers x = false) :
    debits (past ++ [⟨s, a, s'⟩]) job = debits past job := by
  rw [debits_snoc]
  cases hadmits : admits s a with
  | none => simp
  | some x =>
      have hx := h x hadmits
      by_cases hjob : x.job = job
      · simp [Option.filter, hjob, hx hjob]
      · simp [Option.filter, hjob]

private theorem debits_snoc_granted {x : Admission} (hadmits : admits s a = some x)
    (hgranted : granted s.providers x) (hnone : debits past x.job = []) :
    debits (past ++ [⟨s, a, s'⟩]) x.job = [x] := by
  rw [debits_snoc, hnone, hadmits]
  simp [Option.filter, hgranted]

theorem granted_registered {o : Registry} {x : Admission} (h : granted o x) :
    (o x.providerID).isSome := by
  cases hp : o x.providerID with
  | some p => rfl
  | none => simp [granted, Registry.allocateResources, hp] at h

theorem registered_step (h : step s a = some s') {id : String}
    (hid : (s.providers id).isSome) : (s'.providers id).isSome := by
  rcases step_capacity h id with ⟨hnone, -⟩ | ⟨p, c, -, hafter, -⟩
  · simp [hnone] at hid
  · simp [hafter]

/-! ## Every return is owed -/

def Action.readCPU (K : QuantityAPI) (req : CreateJobRequest) : Action → ℤ
  | .rollBack _ => requestedCPU req
  | .release _ => deletedCPU K req
  | _ => watchedCPU K req

def Action.readMemory (K : QuantityAPI) (req : CreateJobRequest) : Action → ℤ
  | .rollBack _ => requestedMemoryMB req
  | .release _ => deletedMemory K req
  | _ => watchedMemory K req

/--
The job of the release was granted its GPUs on its provider, once; `cpu` and
`memory` say how the other amounts were read from the request.
-/
def Owed (past : List (Transition (State K) Action)) (s : State K) (r : Release)
    (cpu memory : CreateJobRequest → ℤ) : Prop :=
  ∃ x, debits past r.job = [x] ∧ x.providerID = r.providerID ∧
    r.gpuCount = x.allocation.gpuCount ∧ r.cpuCores = cpu x.req ∧
    r.memoryMB = memory x.req ∧ (s.providers r.providerID).isSome

theorem Owed.registered {r : Release} {cpu memory : CreateJobRequest → ℤ}
    (h : Owed past s r cpu memory) : (s.providers r.providerID).isSome := by
  obtain ⟨-, -, -, -, -, -, hregistered⟩ := h
  exact hregistered

def intCounts : Guard (State K) Action := fun _ _ a =>
  ∀ user req found allocatable, a = .createJob user req found allocatable →
    req.gpuCount < 2 ^ 63

def Granted (past : List (Transition (State K) Action)) (s : State K)
    (pod : Pod K) : Prop :=
  ∃ x, debits past pod.uid = [x] ∧ x.providerID = pod.providerID ∧
    x.req.gpuCount < 2 ^ 63 ∧
    K.parse (podCPUText x.req) = some pod.cpu ∧
    K.parse (podMemoryText x.req) = some pod.memory ∧
    K.parse (podGPUText x.req) = some pod.gpus ∧
    (s.providers pod.providerID).isSome

structure Idle (s : State K) : Prop where
  pods : ∀ uid, s.pods uid = none
  creates : ∀ job, s.creates job = none
  deletes : ∀ request, s.deletes request = none
  events : s.events = []
  sweep : s.sweep = none

/-- Whatever the system may still return for a job was granted to it once. -/
structure Tracked (past : List (Transition (State K) Action)) (s : State K) :
    Prop where
  opened : ∀ job t, s.creates job = some t → job < s.nextJob
  counts : ∀ job t, s.creates job = some t → t.req.gpuCount < 2 ^ 63
  fresh : ∀ job, s.nextJob ≤ job → debits past job = []
  checked : ∀ job t, s.creates job = some t → t.stage = .checked →
    debits past job = []
  running : ∀ job t x, s.creates job = some t → t.stage ≠ .checked →
    t.admission job = some x →
      debits past job = [x] ∧ (s.providers x.providerID).isSome
  pods : ∀ uid pod, s.pods uid = some pod → pod.providerID ≠ "" →
    Granted past s pod
  mentioned : ∀ info, Mentions s info → info.providerID ≠ "" →
    Owed past s (podRelease info) (watchedCPU K) (watchedMemory K)
  deleting : ∀ request t x, s.deletes request = some t →
    t.allocation = some x →
      Owed past s (explicitRelease t.job x.1 x.2) (deletedCPU K) (deletedMemory K)
  returned : ∀ r ∈ past, ∀ x, returns r.pre r.act = some x →
    (r.pre.providers x.providerID).isSome ∧
      Owed past s x (r.act.readCPU K) (r.act.readMemory K)

theorem Idle.tracked (h : Idle s) : Tracked [] s where
  opened job t ht := by
    rw [h.creates] at ht
    contradiction
  counts job t ht := by
    rw [h.creates] at ht
    contradiction
  fresh _ _ := rfl
  checked _ _ _ _ := rfl
  running job t x ht := by
    rw [h.creates] at ht
    contradiction
  pods uid pod hpod := by
    rw [h.pods] at hpod
    contradiction
  mentioned info hmention := by
    cases hmention with
    | pod uid pod hpod =>
        rw [h.pods] at hpod
        contradiction
    | event event hevent =>
        rw [h.events] at hevent
        contradiction
    | listed w info hw =>
        rw [h.sweep] at hw
        contradiction
  deleting request t x ht := by
    rw [h.deletes] at ht
    contradiction
  returned r hr := by contradiction

theorem debits_pos {x : Admission} (h : x ∈ debits past job) :
    0 < x.allocation.gpuCount := by
  obtain ⟨r, -, hx⟩ := List.mem_filterMap.mp h
  exact admits_gpuCount_pos (Option.filter_eq_some_iff.mp hx).1

theorem Tracked.debits_kept (h : Tracked past s) {x : Admission}
    (hx : debits past job = [x]) :
    debits (past ++ [⟨s, a, s'⟩]) job = [x] := by
  rw [← hx]
  refine debits_snoc_of_none fun y hy hjob => ?_
  obtain ⟨-, t, ht, hstage, -⟩ := admits_eq_some hy
  have hnone := h.checked y.job t ht hstage
  rw [hjob, hx] at hnone
  contradiction

theorem Tracked.owed_kept (h : Tracked past s) (hstep : step s a = some s')
    {r : Release} {cpu memory : CreateJobRequest → ℤ}
    (howed : Owed past s r cpu memory) :
    Owed (past ++ [⟨s, a, s'⟩]) s' r cpu memory := by
  obtain ⟨x, hx, hid, hgpus, hcpu, hmemory, hregistered⟩ := howed
  exact ⟨x, h.debits_kept hx, hid, hgpus, hcpu, hmemory,
    registered_step hstep hregistered⟩

theorem Tracked.granted_kept (h : Tracked past s) (hstep : step s a = some s')
    {pod : Pod K} (hgranted : Granted past s pod) :
    Granted (past ++ [⟨s, a, s'⟩]) s' pod := by
  obtain ⟨x, hx, hid, hint, hcpu, hmemory, hgpus, hregistered⟩ := hgranted
  exact ⟨x, h.debits_kept hx, hid, hint, hcpu, hmemory, hgpus,
    registered_step hstep hregistered⟩

theorem Granted.watched (hK : K.Documented) {pod : Pod K} (h : Granted past s pod) :
    Owed past s (podRelease (parsePodToGPUJobInfo pod)) (watchedCPU K)
      (watchedMemory K) := by
  obtain ⟨x, hx, hid, hint, hcpu, hmemory, hgpus, hregistered⟩ := h
  have hcount : podGPUCount K pod.gpus = x.allocation.gpuCount :=
    podGPUCount_request hK hint hgpus x.gpuModel
  refine ⟨x, hx, hid, hcount, ?_, ?_, hregistered⟩
  · rw [watchedCPU, hcpu]
    rfl
  · rw [watchedMemory, hmemory]
    rfl

theorem Granted.deleted (hK : K.Documented) {pod : Pod K} (h : Granted past s pod)
    {a : ResourceAllocation} (ha : deletedAllocation (getJobStatus pod) = some a) :
    Owed past s (explicitRelease pod.uid pod.providerID a) (deletedCPU K)
      (deletedMemory K) := by
  obtain ⟨x, hx, hid, hint, hcpu, hmemory, hgpus, hregistered⟩ := h
  obtain ⟨-, -, hcount, hcores, hmegabytes⟩ := deletedAllocation_eq_some ha
  have hvalue : K.value pod.gpus = x.allocation.gpuCount :=
    podGPUCount_request hK hint hgpus x.gpuModel
  have hpositive := debits_pos (hx ▸ List.mem_singleton_self x)
  refine ⟨x, hx, hid, ?_, ?_, ?_, hregistered⟩
  · simp only [explicitRelease, hcount, getJobStatus, hvalue]
    exact if_neg hpositive.not_ge
  · simp only [explicitRelease, hcores, getJobStatus, deletedCPU, hcpu,
      Option.elim_some]
  · simp only [explicitRelease, hmegabytes, getJobStatus, deletedMemory, hmemory,
      Option.elim_some]

theorem Tracked.returns_owed (h : Tracked past s) {r : Release}
    (hr : returns s a = some r) :
    Owed past s r (a.readCPU K) (a.readMemory K) := by
  cases returns_path hr with
  | rolledBack job t providerID ht hstage hprovider =>
      obtain ⟨hdebits, hregistered⟩ := h.running job t
        ⟨job, providerID, t.req, t.gpuModel⟩ ht (by simp [hstage])
        (by simp [CreateThread.admission, hprovider])
      exact ⟨_, hdebits, rfl, rfl, rfl, rfl, hregistered⟩
  | deleted request t x ht hallocation => exact h.deleting request t x ht hallocation
  | delivered info hmention hid => exact h.mentioned info hmention hid
  | swept info hmention hid => exact h.mentioned info hmention hid

private theorem allocate_leaves_checked (h : step s (.allocate job) = some s')
    {t : CreateThread} (ht : s'.creates job = some t) : t.stage ≠ .checked := by
  cases step_move h with
  | allocationFailed => simp [setCreate] at ht
  | unallocated | allocated =>
      simp only [setCreate, Function.update_self] at ht
      cases ht
      simp

theorem Tracked.thread_step (h : Tracked past s) (hstep : step s a = some s')
    {t : CreateThread} {x : Admission} (ht : s'.creates job = some t)
    (hstage : t.stage ≠ .checked) (hx : t.admission job = some x) :
    debits (past ++ [⟨s, a, s'⟩]) job = [x] ∧
      (s'.providers x.providerID).isSome := by
  have hkept (t₀ : CreateThread) (ht₀ : s.creates job = some t₀)
      (hstage₀ : t₀.stage ≠ .checked) (hx₀ : t₀.admission job = some x) :
      debits (past ++ [⟨s, a, s'⟩]) job = [x] ∧
        (s'.providers x.providerID).isSome := by
    obtain ⟨hdebits, hregistered⟩ := h.running job t₀ x ht₀ hstage₀ hx₀
    exact ⟨h.debits_kept hdebits, registered_step hstep hregistered⟩
  cases step_creates hstep ht with
  | kept t ht₀ => exact hkept t ht₀ hstage hx
  | opened t hjob hchecked => exact absurd hchecked hstage
  | allocated t ht₀ hchecked haction hgranted =>
      have hx' : t.admission job = some x := hx
      obtain ⟨rfl, -, -⟩ := admission_eq_some hx'
      have hadmits : admits s a = some x := by
        simp only [haction, admits, createAt_eq_some.mpr ⟨ht₀, hchecked⟩,
          Option.bind_some, hx']
      exact ⟨debits_snoc_granted hadmits (hgranted x hx')
          (h.checked x.job t ht₀ hchecked),
        registered_step hstep (granted_registered (hgranted x hx'))⟩
  | podCreated t pod hpod =>
      exact hkept t hpod.thread (by simp [hpod.stage]) hx
  | failed t ht₀ hstage₀ =>
      refine hkept t ht₀ ?_ hx
      rcases hstage₀ with hstage₀ | hstage₀ <;> simp [hstage₀]

theorem Tracked.newPod (h : Tracked past s) {t : CreateThread} {pod : Pod K}
    (hpod : CreatesPod s a job t pod) (hid : pod.providerID ≠ "") :
    Granted past s pod := by
  obtain ⟨now, accepted, -, hbuilt⟩ := hpod.action
  obtain ⟨huid, hprovider, -, hcpu, hmemory, hgpus⟩ := buildGPUPod_eq_some hbuilt
  cases hasked : t.provider with
  | none =>
      rw [hasked] at hprovider
      exact absurd hprovider hid
  | some providerID =>
      rw [hasked] at hprovider
      obtain ⟨hdebits, hregistered⟩ := h.running job t
        ⟨job, providerID, t.req, t.gpuModel⟩ hpod.thread (by simp [hpod.stage])
        (by simp [CreateThread.admission, hasked])
      refine ⟨_, huid ▸ hdebits, hprovider.symm, h.counts job t hpod.thread, hcpu, hmemory,
        hgpus, ?_⟩
      rw [hprovider]
      exact hregistered

theorem Tracked.counts_step (h : Tracked past s) (hint : intCounts past s a)
    (hstep : step s a = some s') {t : CreateThread} (ht : s'.creates job = some t) :
    t.req.gpuCount < 2 ^ 63 := by
  cases step_creates hstep ht with
  | kept t ht₀ | allocated t ht₀ | failed t ht₀ => exact h.counts job t ht₀
  | podCreated t pod hpod => exact h.counts job t hpod.thread
  | opened t _ _ _ hasked =>
      obtain ⟨user, found, allocatable, haction⟩ := hasked
      exact hint user t.req found allocatable haction

theorem Tracked.step (hK : K.Documented) (h : Tracked past s) (hint : intCounts past s a)
    (hstep : step s a = some s') : Tracked (past ++ [⟨s, a, s'⟩]) s' where
  opened _ _ ht := opened_step hstep h.opened ht
  counts _ _ ht := h.counts_step hint hstep ht
  fresh job hjob := by
    have hbefore : s.nextJob ≤ job := (step_nextJob hstep).trans hjob
    rw [← h.fresh job hbefore]
    refine debits_snoc_of_none fun x hx hxjob => ?_
    obtain ⟨-, t, ht, -⟩ := admits_eq_some hx
    have hopened := h.opened x.job t ht
    omega
  checked job t ht hstage := by
    have hnone : debits past job = [] := by
      cases step_creates hstep ht with
      | kept t ht₀ => exact h.checked job t ht₀ hstage
      | opened t hjob => exact h.fresh job hjob.ge
      | _ => contradiction
    rw [← hnone]
    refine debits_snoc_of_none fun x hx hxjob => ?_
    obtain ⟨haction, -⟩ := admits_eq_some hx
    rw [hxjob] at haction
    subst haction
    exact absurd hstage (allocate_leaves_checked hstep ht)
  running job t x ht hstage hx := h.thread_step hstep ht hstage hx
  pods uid pod hpod hid := by
    rcases step_pods hstep hpod with ⟨phase, hold⟩ | ⟨t, hcreates, -⟩
    · have hgranted := h.pods uid _ hold hid
      exact h.granted_kept hstep hgranted
    · exact h.granted_kept hstep (h.newPod hcreates hid)
  mentioned info hmention hid := by
    rcases step_mentions hstep hmention with
      ⟨status, hold⟩ | ⟨job, t, pod, hpod, rfl⟩
    · have howed := h.mentioned _ hold hid
      exact h.owed_kept hstep howed
    · exact h.owed_kept hstep ((h.newPod hpod hid).watched hK)
  deleting request t x ht hx := by
    rcases step_deletes hstep ht hx with
      ⟨t₀, ht₀, hjob, hx₀⟩ | ⟨uid, pod, hpod, hjob, hid, hne, hx₀⟩
    · rw [← hjob]
      exact h.owed_kept hstep (h.deleting request t₀ x ht₀ hx₀)
    · rw [hjob, hid]
      exact h.owed_kept hstep ((h.pods uid pod hpod hne).deleted hK hx₀)
  returned r hr x hx := by
    rcases List.mem_append.mp hr with hr | hr
    · obtain ⟨hregistered, howed⟩ := h.returned r hr x hx
      exact ⟨hregistered, h.owed_kept hstep howed⟩
    · cases List.mem_singleton.mp hr
      have howed := h.returns_owed hx
      exact ⟨howed.registered, h.owed_kept hstep howed⟩

end WorldlandBroker.ControlPlane
