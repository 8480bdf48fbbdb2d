import WorldlandBroker.ControlPlane.Placement
import WorldlandBroker.ControlPlane.Postings
import WorldlandBroker.Job.Tenant
import WorldlandBroker.Provider.Restored

/-!
# `CreateJob` from the request to its response

One request from the body to the response, with nothing else going on.  The
ledger is debited before the job is created; an error from the job manager gives
the resources back, a panic is answered by the recovery middleware.
-/

namespace WorldlandBroker.ControlPlane

open Foundation Provider Job

/-! ## Calls that return, fail or panic -/

inductive Ending where
  | done
  | failed (message : String)
  | panicked
  deriving DecidableEq

namespace Ending

def andThen (first next : Ending) : Ending :=
  match first with
  | .done => next
  | .failed message => .failed message
  | .panicked => .panicked

/-- `fmt.Errorf("context: %w", err)` -/
def wrapped (ending : Ending) (context : String) : Ending :=
  match ending with
  | .failed message => .failed s!"{context}: {message}"
  | .done => .done
  | .panicked => .panicked

def answered (outcome : Outcome) : Ending :=
  match outcome with
  | .error message => .failed message
  | .ok _ => .done

/-- `resource.MustParse` -/
def parsed {α : Type} (value : Option α) : Ending :=
  match value with
  | none => .panicked
  | some _ => .done

variable {first next : Ending} {context : String}

@[simp] theorem andThen_done : first.andThen next = .done ↔ first = .done ∧ next = .done := by
  cases first <;> simp [andThen]

@[simp] theorem andThen_panicked :
    first.andThen next = .panicked ↔ first = .panicked ∨ first = .done ∧ next = .panicked := by
  cases first <;> simp [andThen]

@[simp] theorem wrapped_done : first.wrapped context = .done ↔ first = .done := by
  cases first <;> simp [wrapped]

@[simp] theorem wrapped_panicked : first.wrapped context = .panicked ↔ first = .panicked := by
  cases first <;> simp [wrapped]

@[simp] theorem answered_done {outcome : Outcome} :
    answered outcome = .done ↔ outcome = .ok () := by
  cases outcome <;> simp [answered]

@[simp] theorem answered_panicked {outcome : Outcome} : answered outcome ≠ .panicked := by
  cases outcome <;> simp [answered]

@[simp] theorem parsed_done {α : Type} {value : Option α} :
    parsed value = .done ↔ value ≠ none := by
  cases value <;> simp [parsed]

@[simp] theorem parsed_panicked {α : Type} {value : Option α} :
    parsed value = .panicked ↔ value = none := by
  cases value <;> simp [parsed]

end Ending

open Ending

/-! ## The job manager -/

structure ClusterAnswers where
  tenantExists : Except String Bool
  createNamespace : Outcome
  createResourceQuota : Outcome
  createNetworkPolicies : Outcome
  createPod : Outcome
  createService : Outcome

/-- The namespace is there before the quota is built. -/
def createTenantEnvironment (K : QuantityAPI) (answers : ClusterAnswers)
    (cfg : TenantConfig) : Ending :=
  ((answered answers.createNamespace).wrapped "failed to create namespace").andThen
    (((((parsed (createResourceQuota K cfg)).andThen
        (answered answers.createResourceQuota)).wrapped
          "failed to create resource quota").andThen
      ((answered answers.createNetworkPolicies).wrapped
        "failed to create network policies")))

def ensureTenant (K : QuantityAPI) (isolated : Bool) (answers : ClusterAnswers)
    (user : String) (req : CreateJobRequest) : Ending :=
  if isolated = true ∧ user ≠ "" ∧ user ≠ "anonymous" then
    match answers.tenantExists with
    | .error message => .failed s!"failed to check tenant: {message}"
    | .ok true => .done
    | .ok false =>
        (createTenantEnvironment K answers (firstTenantConfig user req)).wrapped
          "failed to create tenant environment"
  else .done

/-- A pod whose service is refused is deleted again. -/
def createGPUJob (K : QuantityAPI) (isolated : Bool) (answers : ClusterAnswers)
    (job : ℕ) (now : ℤ) (t : CreateThread) : Ending :=
  (ensureTenant K isolated answers t.user t.req).andThen
    ((parsed (buildGPUPod K job t.user (t.provider.getD "") t.gpuModel t.req now)).andThen
      (((answered answers.createPod).wrapped "failed to create pod").andThen
        ((answered answers.createService).wrapped "failed to create service")))

/-! ## The handler -/

structure Response where
  status : ℕ
  error : String
  deriving DecidableEq

def respond : Ending → Response
  | .done => ⟨201, ""⟩
  | .failed _ => ⟨500, "Failed to create job"⟩
  | .panicked => ⟨500, ""⟩

def settle (o : Registry) (job : ℕ) (providerID : String) (a : ResourceAllocation) :
    Ending → Registry
  | .failed _ => o.releaseJobResources (explicitRelease job providerID a)
  | .done | .panicked => o

/-- From the allocation on, for a request that has passed the checks. -/
def runJob (K : QuantityAPI) (isolated : Bool) (o : Registry) (answers : ClusterAnswers)
    (job : ℕ) (now : ℤ) (t : CreateThread) : Response × Registry :=
  let ending := createGPUJob K isolated answers job now t
  match t.provider with
  | none => (respond ending, o)
  | some providerID =>
      match o.allocateResources providerID t.allocation with
      | (.error _, o) => (⟨409, "Resource allocation failed"⟩, o)
      | (.ok _, o) => (respond ending, settle o job providerID t.allocation ending)

/-- `body` is what binding the request has come to. -/
def handleCreateJob (K : QuantityAPI) (isolated : Bool) (o : Registry) (user : String)
    (body : Except String CreateJobRequest) (found : Option (String × ProviderState))
    (allocatable : Option ℤ) (answers : ClusterAnswers) (job : ℕ) (now : ℤ) :
    Response × Registry :=
  match body with
  | .error _ => (⟨400, "Invalid request"⟩, o)
  | .ok req =>
      match State.acceptRequest o user req found allocatable with
      | .error message => (⟨400, message⟩, o)
      | .ok t => runJob K isolated o answers job now t

/-- Every provider's pools are as before, up to what an allocation initialises. -/
def Registry.AsBefore (o o' : Registry) : Prop :=
  ∀ id p, o id = some p → ∃ gpuType c', o' id = some { p with capacity := c' } ∧
    Provider.AsBefore p.spec gpuType p.capacity c'

def FailureRestores (o : Registry) (result : Response × Registry) : Prop :=
  result.1.status ≠ 201 → o.AsBefore result.2

/-! ## How far the job manager gets -/

structure QuotaReadable (K : QuantityAPI) (req : CreateJobRequest) : Prop where
  gpus : K.parse (decimal req.gpuCount) ≠ none
  cpu : K.parse req.cpuCores ≠ none
  memory : K.parse req.memoryGB ≠ none

/-- The texts the pod is built from, with defaults and units filled in. -/
structure PodReadable (K : QuantityAPI) (req : CreateJobRequest) : Prop where
  cpu : K.parse (podCPUText req) ≠ none
  memory : K.parse (podMemoryText req) ≠ none
  gpus : K.parse (podGPUText req) ≠ none
  storage : K.parse (podStorageText req) ≠ none

def NewTenant (isolated : Bool) (answers : ClusterAnswers) (user : String) : Prop :=
  isolated = true ∧ user ≠ "" ∧ user ≠ "anonymous" ∧ answers.tenantExists = .ok false

def TenantReady (K : QuantityAPI) (isolated : Bool) (answers : ClusterAnswers)
    (user : String) (req : CreateJobRequest) : Prop :=
  (isolated = true ∧ user ≠ "" ∧ user ≠ "anonymous" → ∃ found, answers.tenantExists = .ok found) ∧
    (NewTenant isolated answers user →
      answers.createNamespace = .ok () ∧ QuotaReadable K req ∧
        answers.createResourceQuota = .ok () ∧ answers.createNetworkPolicies = .ok ())

structure Parses (K : QuantityAPI) (isolated : Bool) (answers : ClusterAnswers)
    (user : String) (req : CreateJobRequest) : Prop where
  quota : NewTenant isolated answers user → answers.createNamespace = .ok () →
    QuotaReadable K req
  pod : TenantReady K isolated answers user req → PodReadable K req

structure Succeeds (K : QuantityAPI) (isolated : Bool) (answers : ClusterAnswers)
    (user : String) (req : CreateJobRequest) : Prop where
  tenant : TenantReady K isolated answers user req
  texts : PodReadable K req
  pod : answers.createPod = .ok ()
  service : answers.createService = .ok ()

/--
The request is refused with nothing negative to roll back, or it is granted, all
its texts parse, and it succeeds or is restored by its release.
-/
structure Unwound (K : QuantityAPI) (isolated : Bool) (answers : ClusterAnswers)
    (p : ProviderState) (t : CreateThread) : Prop where
  refused : ¬ Holds p t.allocation → RollsBackDebits p.spec p.capacity t.allocation
  parses : Holds p t.allocation → Parses K isolated answers t.user t.req
  failed : Holds p t.allocation → ¬ Succeeds K isolated answers t.user t.req →
    Restorable p.spec p.capacity t.allocation

variable {K : QuantityAPI} {isolated : Bool} {answers : ClusterAnswers} {user : String}
  {req : CreateJobRequest} {t : CreateThread} {p : ProviderState} {o o' : Registry}
  {job : ℕ} {now : ℤ}

private theorem createResourceQuota_ne_none :
    createResourceQuota K (firstTenantConfig user req) ≠ none ↔ QuotaReadable K req := by
  rw [Option.ne_none_iff_exists']
  constructor
  · rintro ⟨quota, hquota⟩
    obtain ⟨hgpus, -, hcpu, hmemory⟩ := createResourceQuota_eq_some.mp hquota
    change K.parse (decimal req.gpuCount) = _ at hgpus
    change K.parse req.cpuCores = _ at hcpu
    change K.parse req.memoryGB = _ at hmemory
    exact ⟨by simp [hgpus], by simp [hcpu], by simp [hmemory]⟩
  · rintro ⟨hgpus, hcpu, hmemory⟩
    obtain ⟨gpus, hgpus⟩ := Option.ne_none_iff_exists'.mp hgpus
    obtain ⟨cpu, hcpu⟩ := Option.ne_none_iff_exists'.mp hcpu
    obtain ⟨memory, hmemory⟩ := Option.ne_none_iff_exists'.mp hmemory
    exact ⟨⟨gpus, gpus, cpu, memory⟩,
      createResourceQuota_eq_some.mpr ⟨hgpus, rfl, hcpu, hmemory⟩⟩

theorem buildGPUPod_eq_none {uid : ℕ} {providerID gpuModel : String} :
    buildGPUPod K uid user providerID gpuModel req now = none ↔ ¬ PodReadable K req := by
  unfold buildGPUPod
  split
  · rename_i hcpu hmemory hgpus hstorage
    refine iff_of_false (by simp) (not_not.mpr ⟨?_, ?_, ?_, ?_⟩)
    · simp [hcpu]
    · simp [hmemory]
    · simp [hgpus]
    · simp [hstorage]
  · rename_i hunread
    refine iff_of_true rfl fun ⟨hcpu, hmemory, hgpus, hstorage⟩ => ?_
    obtain ⟨cpu, hcpu⟩ := Option.ne_none_iff_exists'.mp hcpu
    obtain ⟨memory, hmemory⟩ := Option.ne_none_iff_exists'.mp hmemory
    obtain ⟨gpus, hgpus⟩ := Option.ne_none_iff_exists'.mp hgpus
    obtain ⟨storage, hstorage⟩ := Option.ne_none_iff_exists'.mp hstorage
    exact hunread cpu memory gpus storage hcpu hmemory hgpus hstorage

private theorem ensureTenant_done :
    ensureTenant K isolated answers user req = .done ↔
      TenantReady K isolated answers user req := by
  unfold ensureTenant TenantReady NewTenant
  by_cases hown : isolated = true ∧ user ≠ "" ∧ user ≠ "anonymous"
  · rw [if_pos hown]
    cases answers.tenantExists with
    | error message => simp [hown]
    | ok found =>
        cases found with
        | true => simp
        | false =>
            simp only [createTenantEnvironment, wrapped_done, andThen_done, answered_done,
              parsed_done, createResourceQuota_ne_none]
            simp [hown, and_assoc]
  · rw [if_neg hown]
    refine iff_of_true rfl ⟨fun h => absurd h hown, ?_⟩
    rintro ⟨hisolated, hnamed, hknown, -⟩
    exact absurd ⟨hisolated, hnamed, hknown⟩ hown

private theorem ensureTenant_panicked :
    ensureTenant K isolated answers user req = .panicked ↔
      NewTenant isolated answers user ∧ answers.createNamespace = .ok () ∧
        ¬ QuotaReadable K req := by
  have hquota : createResourceQuota K (firstTenantConfig user req) ≠ none ↔
      QuotaReadable K req := createResourceQuota_ne_none
  rw [← hquota, not_not]
  unfold ensureTenant NewTenant
  by_cases hown : isolated = true ∧ user ≠ "" ∧ user ≠ "anonymous"
  · rw [if_pos hown]
    cases answers.tenantExists with
    | error message => simp
    | ok found =>
        cases found with
        | true => simp
        | false => simp [hown, createTenantEnvironment]
  · rw [if_neg hown]
    refine iff_of_false (by simp) ?_
    rintro ⟨⟨hisolated, hnamed, hknown, -⟩, -⟩
    exact hown ⟨hisolated, hnamed, hknown⟩

private theorem createGPUJob_done :
    createGPUJob K isolated answers job now t = .done ↔
      Succeeds K isolated answers t.user t.req := by
  have hpod : buildGPUPod K job t.user (t.provider.getD "") t.gpuModel t.req now ≠ none ↔
      PodReadable K t.req := by
    rw [Ne, buildGPUPod_eq_none, not_not]
  simp only [createGPUJob, andThen_done, ensureTenant_done, parsed_done, hpod, wrapped_done,
    answered_done]
  exact ⟨fun ⟨htenant, htexts, hpod, hservice⟩ => ⟨htenant, htexts, hpod, hservice⟩,
    fun ⟨htenant, htexts, hpod, hservice⟩ => ⟨htenant, htexts, hpod, hservice⟩⟩

private theorem createGPUJob_panicked :
    createGPUJob K isolated answers job now t = .panicked ↔
      ¬ Parses K isolated answers t.user t.req := by
  simp only [createGPUJob, andThen_panicked, ensureTenant_done, ensureTenant_panicked,
    parsed_panicked, buildGPUPod_eq_none, wrapped_panicked, answered_panicked, and_false,
    or_false]
  constructor
  · rintro (⟨hnew, hnamespace, hunread⟩ | ⟨htenant, hunread⟩) ⟨hquota, hpod⟩
    · exact hunread (hquota hnew hnamespace)
    · exact hunread (hpod htenant)
  · intro hparses
    by_contra hnone
    rw [not_or] at hnone
    refine hparses ⟨fun hnew hnamespace => ?_, fun htenant => ?_⟩
    · by_contra hunread
      exact hnone.1 ⟨hnew, hnamespace, hunread⟩
    · by_contra hunread
      exact hnone.2 ⟨htenant, hunread⟩

/-! ## What the response says about the ledger -/

theorem Registry.asBefore_refl (o : Registry) : o.AsBefore o := fun _ p hp =>
  ⟨"", p.capacity, hp, .refl p.spec "" p.capacity⟩

theorem Registry.asBefore_iff {id : String} {c : ProviderCapacity} (hp : o id = some p)
    (hid : o' id = some { p with capacity := c })
    (hothers : ∀ other, other ≠ id → o' other = o other) :
    o.AsBefore o' ↔ ∃ gpuType, Provider.AsBefore p.spec gpuType p.capacity c := by
  constructor
  · intro hbefore
    obtain ⟨gpuType, c', hc', hpools⟩ := hbefore id p hp
    rw [hid] at hc'
    have hcapacity : c = c' := congrArg ProviderState.capacity (Option.some.inj hc')
    exact ⟨gpuType, hcapacity ▸ hpools⟩
  · rintro ⟨gpuType, hpools⟩ other q hq
    by_cases hother : other = id
    · subst hother
      rw [hp] at hq
      cases hq
      exact ⟨gpuType, c, hid, hpools⟩
    · rw [← hothers other hother] at hq
      exact ⟨"", q.capacity, hq, .refl q.spec "" q.capacity⟩

theorem refused_asBefore_iff {id : String} (hp : o id = some p) {a : ResourceAllocation}
    (hrefused : (Provider.allocateResources p.spec p.capacity a).1 ≠ .ok ()) :
    o.AsBefore (o.allocateResources id a).2 ↔ RollsBackDebits p.spec p.capacity a := by
  have hid : (o.allocateResources id a).2 id =
      some { p with capacity := (Provider.allocateResources p.spec p.capacity a).2 } := by
    rw [Registry.allocateResources_apply, hp, Option.map_some, if_pos rfl]
  have hothers : ∀ other, other ≠ id → (o.allocateResources id a).2 other = o other := by
    intro other hother
    rw [Registry.allocateResources_apply]
    simp [hother]
  rw [Registry.asBefore_iff hp hid hothers]
  cases hresult : (Provider.allocateResources p.spec p.capacity a).1 with
  | ok => exact absurd hresult hrefused
  | error message =>
      have hrefusal := allocateResources_refused hresult
      constructor
      · rintro ⟨gpuType, hbefore⟩
        exact hrefusal.rollsBackDebits hbefore
      · intro hdebits
        exact ⟨_, hrefusal.asBefore hdebits⟩

private theorem granted_not_asBefore {id : String} (hp : o id = some p)
    (hgranted : (Provider.allocateResources p.spec p.capacity t.allocation).1 = .ok ()) :
    ¬ o.AsBefore (o.allocateResources id t.allocation).2 := by
  intro hbefore
  obtain ⟨gpuType, c, hc, hpools⟩ := hbefore id p hp
  rw [Registry.allocateResources_apply, hp, Option.map_some, if_pos rfl] at hc
  have hcapacity : (Provider.allocateResources p.spec p.capacity t.allocation).2 = c :=
    congrArg ProviderState.capacity (Option.some.inj hc)
  have hinUse := hpools.inUse (resolveGPUType p.spec t.allocation.gpuType)
  rw [← hcapacity, allocateResources_granted_inUse hgranted, if_pos rfl] at hinUse
  have hpositive : 0 < t.allocation.gpuCount :=
    requestAllocation_gpuCount_pos t.req t.gpuModel
  omega

theorem released_asBefore_iff {id : String} (hp : o id = some p) {a : ResourceAllocation}
    (hgranted : (Provider.allocateResources p.spec p.capacity a).1 = .ok ()) :
    o.AsBefore ((o.allocateResources id a).2.releaseJobResources
        (explicitRelease job id a)) ↔ Restorable p.spec p.capacity a := by
  have hallocated : (o.allocateResources id a).2 id =
      some { p with capacity := (Provider.allocateResources p.spec p.capacity a).2 } := by
    rw [Registry.allocateResources_apply, hp, Option.map_some, if_pos rfl]
  have hid := Registry.releaseJobResources_explicit hallocated job a
  have hothers : ∀ other, other ≠ id →
      (o.allocateResources id a).2.releaseJobResources (explicitRelease job id a) other =
        o other := by
    intro other hother
    rw [Registry.releaseJobResources_apply, Registry.allocateResources_apply]
    simp [explicitRelease, hother]
  rw [Registry.asBefore_iff hp hid hothers]
  constructor
  · rintro ⟨gpuType, hbefore⟩
    exact .of_inUse hgranted hbefore.inUse hbefore.pool_inUse
  · intro hrestorable
    exact ⟨_, hrestorable.asBefore hgranted⟩

theorem settled_iff {id : String} (hp : o id = some p)
    (hgranted : (Provider.allocateResources p.spec p.capacity t.allocation).1 = .ok ()) :
    FailureRestores o (respond (createGPUJob K isolated answers job now t),
        settle (o.allocateResources id t.allocation).2 job id t.allocation
          (createGPUJob K isolated answers job now t)) ↔
      Parses K isolated answers t.user t.req ∧
        (¬ Succeeds K isolated answers t.user t.req →
          Restorable p.spec p.capacity t.allocation) := by
  have hdone : createGPUJob K isolated answers job now t = .done ↔
      Succeeds K isolated answers t.user t.req := createGPUJob_done
  have hpanicked : createGPUJob K isolated answers job now t = .panicked ↔
      ¬ Parses K isolated answers t.user t.req := createGPUJob_panicked
  unfold FailureRestores
  cases hending : createGPUJob K isolated answers job now t with
  | done =>
      rw [hending] at hdone hpanicked
      have hparses : Parses K isolated answers t.user t.req := by simpa using hpanicked
      exact iff_of_true (fun hstatus => absurd rfl hstatus)
        ⟨hparses, fun hfails => absurd (hdone.mp rfl) hfails⟩
  | failed message =>
      rw [hending] at hdone hpanicked
      have hparses : Parses K isolated answers t.user t.req := by simpa using hpanicked
      have hfails : ¬ Succeeds K isolated answers t.user t.req := by simpa using hdone
      have hreleased : o.AsBefore ((o.allocateResources id t.allocation).2.releaseJobResources
          (explicitRelease job id t.allocation)) ↔
            Restorable p.spec p.capacity t.allocation :=
        released_asBefore_iff hp hgranted
      rw [← hreleased]
      exact ⟨fun h => ⟨hparses, fun _ => h (by simp [respond])⟩, fun h _ => h.2 hfails⟩
  | panicked =>
      rw [hending] at hpanicked
      exact iff_of_false (fun h => granted_not_asBefore hp hgranted (h (by simp [respond])))
        fun h => hpanicked.mp rfl h.1

theorem runJob_restores_iff {id : String} (hprovider : t.provider = some id)
    (hp : o id = some p) :
    FailureRestores o (runJob K isolated o answers job now t) ↔
      Unwound K isolated answers p t := by
  have hholds : (Provider.allocateResources p.spec p.capacity t.allocation).1 = .ok () ↔
      Holds p t.allocation := by
    rw [allocateResources_eq_ok, holds_iff]
  have hsettled : (Provider.allocateResources p.spec p.capacity t.allocation).1 = .ok () →
      (FailureRestores o (respond (createGPUJob K isolated answers job now t),
          settle (o.allocateResources id t.allocation).2 job id t.allocation
            (createGPUJob K isolated answers job now t)) ↔
        Parses K isolated answers t.user t.req ∧
          (¬ Succeeds K isolated answers t.user t.req →
            Restorable p.spec p.capacity t.allocation)) := settled_iff hp
  have hrefused : (Provider.allocateResources p.spec p.capacity t.allocation).1 ≠ .ok () →
      (o.AsBefore (o.allocateResources id t.allocation).2 ↔
        RollsBackDebits p.spec p.capacity t.allocation) := refused_asBefore_iff hp
  have hfirst : (o.allocateResources id t.allocation).1 =
      (Provider.allocateResources p.spec p.capacity t.allocation).1 := by
    simp only [Registry.allocateResources, hp]
  simp only [runJob, hprovider]
  rcases hresult : o.allocateResources id t.allocation with ⟨outcome, o'⟩
  rw [hresult] at hfirst hsettled hrefused
  cases outcome with
  | error message =>
      have hshort : ¬ Holds p t.allocation := by
        rw [← hholds, ← hfirst]
        simp
      have hbefore := hrefused (by rw [← hfirst]; simp)
      constructor
      · intro hrestores
        exact ⟨fun _ => hbefore.mp (hrestores (by simp)), fun h => absurd h hshort,
          fun h => absurd h hshort⟩
      · intro hunwound _
        exact hbefore.mpr (hunwound.refused hshort)
  | ok =>
      have henough : Holds p t.allocation := hholds.mp hfirst.symm
      rw [hsettled hfirst.symm]
      exact ⟨fun h => ⟨fun hshort => absurd henough hshort, fun _ => h.1, fun _ => h.2⟩,
        fun h => ⟨h.parses henough, h.failed henough⟩⟩

/-- A failed request leaves the ledger as it was exactly where it is unwound. -/
theorem failed_create_restores_iff (K : QuantityAPI) (isolated : Bool) (o : Registry)
    (user : String) (body : Except String CreateJobRequest)
    (found : Option (String × ProviderState)) (allocatable : Option ℤ)
    (answers : ClusterAnswers) (job : ℕ) (now : ℤ) :
    FailureRestores o
        (handleCreateJob K isolated o user body found allocatable answers job now) ↔
      ∀ req, body = .ok req →
        ∀ t, State.acceptRequest o user req found allocatable = .ok t →
          ∀ id, t.provider = some id → ∀ p, o id = some p →
            Unwound K isolated answers p t := by
  have hkept (response : Response) : FailureRestores o (response, o) := fun _ =>
    o.asBefore_refl
  cases body with
  | error details => exact iff_of_true (hkept _) (by simp)
  | ok req =>
      simp only [handleCreateJob, Except.ok.injEq, forall_eq']
      cases haccepted : State.acceptRequest o user req found allocatable with
      | error message => exact iff_of_true (hkept _) (by simp)
      | ok t =>
          simp only [Except.ok.injEq, forall_eq']
          cases hprovider : t.provider with
          | none =>
              simp only [runJob, hprovider]
              exact iff_of_true (hkept _) (by simp)
          | some id =>
              simp only [Option.some.injEq, forall_eq']
              cases hp : o id with
              | none =>
                  simp only [runJob, hprovider, Registry.allocateResources, hp]
                  exact iff_of_true (hkept _) (by simp)
              | some p =>
                  simp only [Option.some.injEq, forall_eq']
                  exact runJob_restores_iff hprovider hp

def firstAnswers : ClusterAnswers := ⟨.ok false, .ok (), .ok (), .ok (), .ok (), .ok ()⟩

def onePlace : Registry := fun id =>
  if id = "p1" then some ⟨statusAvailable, sampleSpec, sampleCapacity⟩ else none

def firstJob : Response × Registry :=
  handleCreateJob sampleQuantities true onePlace "alice" (.ok ⟨"p1", "", 1, "", "", "", 24⟩)
    none none firstAnswers 0 0

/-- Building the quota from an empty text panics, and the GPU stays debited. -/
theorem panic_keeps_debit :
    ¬ ∀ (K : QuantityAPI) (isolated : Bool) (o : Registry) (user : String)
      (body : Except String CreateJobRequest) (found : Option (String × ProviderState))
      (allocatable : Option ℤ) (answers : ClusterAnswers) (job : ℕ) (now : ℤ),
      FailureRestores o
        (handleCreateJob K isolated o user body found allocatable answers job now) := by
  intro hall
  have hrestores : FailureRestores onePlace firstJob :=
    hall sampleQuantities true onePlace "alice" _ none none firstAnswers 0 0
  obtain ⟨gpuType, c, hc, hpools⟩ := hrestores (by decide) "p1" _ rfl
  have hheld : (firstJob.2 "p1").map (·.capacity.inUse "RTX 4090") = some 1 := by decide
  rw [hc, Option.map_some, hpools.inUse] at hheld
  revert hheld
  decide

end WorldlandBroker.ControlPlane
