import WorldlandBroker.Foundation.Run
import WorldlandBroker.Foundation.Slots

/-!
# A tenant's fence

The calls of `CreateGPUJob` by one user whose jobs run in a namespace of their
own.  A call that does not find the namespace creates it, its quota and its
network policies one after the other; a call that finds it goes on to the pod.
Calls run side by side, any request to the API server may fail or have its
answer lost, and any call may end between two of them (a quantity that does not
parse ends it where the quota is built).  What the quota holds is in `Job.Tenant`.
-/

namespace WorldlandBroker.Job

open Foundation

inductive FenceObject where
  | gpuQuota
  | allowInternal
  | allowIngressWhitelist
  | allowEgressEssential
  deriving DecidableEq

/-- In the order in which they are created. -/
def fence : List FenceObject :=
  [.gpuQuota, .allowInternal, .allowIngressWhitelist, .allowEgressEssential]

/-- A namespace that is being deleted is found by name and takes nothing new. -/
structure TenantNamespace where
  terminating : Bool
  objects : List FenceObject
  pods : List ℕ
  deriving DecidableEq

/-- How a request to the API server ends; a lost one has been carried out. -/
inductive Reply where
  | done
  | failed
  | lost
  deriving DecidableEq

/-- `todo` lists what is still to be created. -/
inductive Stage where
  | started
  | missing
  | creating (todo : List FenceObject)
  | cleaning
  | podding
  | exposing
  | ended
  deriving DecidableEq

inductive CallAction where
  | tenantExists (answered : Bool)
  | createNamespace (reply : Reply)
  | createObject (reply : Reply)
  | deleteNamespace (reply : Reply)
  | createPod (reply : Reply)
  | createService (created deleted : Bool)
  | crash
  deriving DecidableEq

/-! ## Requests -/

def TenantNamespace.fresh : TenantNamespace := ⟨false, [], []⟩

def Reply.proceed (reply : Reply) (next onError : Stage) : Stage :=
  match reply with
  | .done => next
  | .failed | .lost => onError

/-- That the namespace exists is no error, not even where it is being deleted. -/
def createNamespace (ns : Option TenantNamespace) (reply : Reply) : Option TenantNamespace :=
  match reply with
  | .failed => ns
  | .done | .lost => some (ns.getD .fresh)

def deleteNamespace (ns : Option TenantNamespace) (reply : Reply) : Option TenantNamespace :=
  match reply with
  | .failed => ns
  | .done | .lost => ns.map fun n => { n with terminating := true }

def TenantNamespace.createObject (n : TenantNamespace) (k : FenceObject) (reply : Reply) :
    TenantNamespace :=
  match reply with
  | .failed => n
  | .done | .lost => if k ∈ n.objects then n else { n with objects := n.objects ++ [k] }

def TenantNamespace.createPod (n : TenantNamespace) (c : ℕ) (reply : Reply) :
    TenantNamespace :=
  match reply with
  | .failed => n
  | .done | .lost => { n with pods := n.pods ++ [c] }

def active (ns : Option TenantNamespace) : Option TenantNamespace :=
  ns.filter fun n => !n.terminating

/-! ## Calls -/

def callStep (ns : Option TenantNamespace) (c : ℕ) :
    Stage → CallAction → Option (Option TenantNamespace × Stage)
  | .started, .tenantExists answered =>
      if answered then
        match ns with
        | none => some (ns, .missing)
        | some _ => some (ns, .podding)
      else some (ns, .ended)
  | .missing, .createNamespace reply =>
      some (createNamespace ns reply, reply.proceed (.creating fence) .ended)
  | .creating (k :: todo), .createObject reply =>
      match active ns with
      | none => some (ns, .cleaning)
      | some n => some (n.createObject k reply,
          reply.proceed (if todo = [] then .podding else .creating todo) .cleaning)
  | .cleaning, .deleteNamespace reply => some (deleteNamespace ns reply, .ended)
  | .podding, .createPod reply =>
      match active ns with
      | none => some (ns, .ended)
      | some n => some (n.createPod c reply, reply.proceed .exposing .ended)
  | .exposing, .createService created deleted =>
      if created ∨ ¬ deleted then some (ns, .ended)
      else some (ns.map fun n => { n with pods := n.pods.filter (· ≠ c) }, .ended)
  | .ended, .crash => none
  | _, .crash => some (ns, .ended)
  | _, _ => none

structure Tenant where
  ns : Option TenantNamespace
  calls : List Stage

inductive TenantAction where
  | begin
  | of (c : ℕ) (a : CallAction)
  -- the namespace controller is through with a deletion
  | finalize
  deriving DecidableEq

def tenantStep (s : Tenant) : TenantAction → Option Tenant
  | .begin => some { s with calls := s.calls ++ [.started] }
  | .of c a =>
      match s.calls[c]? with
      | none => none
      | some stage =>
          (callStep s.ns c stage a).map fun (ns, stage) => ⟨ns, s.calls.set c stage⟩
  | .finalize =>
      match s.ns with
      | none => none
      | some n => if n.terminating then some { s with ns := none } else none

/-! ## Fenced pods -/

def TenantNamespace.Fenced (n : TenantNamespace) : Prop := ∀ k ∈ fence, k ∈ n.objects

instance (n : TenantNamespace) : Decidable n.Fenced :=
  inferInstanceAs (Decidable (∀ k ∈ fence, k ∈ n.objects))

def PodsFenced (past : List (Transition Tenant TenantAction)) : Prop :=
  ∀ r ∈ past, ∀ n', r.post.ns = some n' → ∀ c ∈ n'.pods,
    (∃ n, r.pre.ns = some n ∧ c ∈ n.pods) ∨ ∃ n, r.pre.ns = some n ∧ n.Fenced

def Stage.Underway : Stage → Prop
  | .creating todo => todo ≠ fence
  | .podding => True
  | _ => False

instance (stage : Stage) : Decidable stage.Underway :=
  match stage with
  | .creating todo => inferInstanceAs (Decidable (todo ≠ fence))
  | .podding => .isTrue trivial
  | .started | .missing | .cleaning | .exposing | .ended => .isFalse id

/--
No call finds a namespace without its fence, and none is created anew while
another call is still at work in an earlier one.
-/
def Orderly (s : Tenant) : TenantAction → Prop
  | .of _ (.tenantExists answered) => answered = true → ∀ n ∈ active s.ns, n.Fenced
  | .of _ (.createNamespace reply) =>
      reply ≠ .failed → s.ns = none → ∀ stage ∈ s.calls, ¬ stage.Underway
  | _ => True

instance (s : Tenant) (a : TenantAction) : Decidable (Orderly s a) :=
  match a with
  | .of _ (.tenantExists answered) =>
      inferInstanceAs (Decidable (answered = true → ∀ n ∈ active s.ns, n.Fenced))
  | .of _ (.createNamespace reply) =>
      inferInstanceAs (Decidable
        (reply ≠ .failed → s.ns = none → ∀ stage ∈ s.calls, ¬ stage.Underway))
  | .of _ (.createObject _) | .of _ (.deleteNamespace _) | .of _ (.createPod _)
  | .of _ (.createService _ _) | .of _ .crash | .begin | .finalize => .isTrue trivial

/-! ## What a call may rely on -/

def Complete (ns : Option TenantNamespace) (todo : List FenceObject) : Prop :=
  ∀ n, active ns = some n → ∀ k ∈ fence, k ∉ todo → k ∈ n.objects

def Stage.Sound (ns : Option TenantNamespace) : Stage → Prop
  | .creating todo => Complete ns todo
  | .podding => Complete ns []
  | _ => True

def Extends (ns ns' : Option TenantNamespace) : Prop :=
  ∀ n', active ns' = some n' → ∃ n, active ns = some n ∧ ∀ k ∈ n.objects, k ∈ n'.objects

variable {ns ns' : Option TenantNamespace} {n : TenantNamespace} {s s' : Tenant} {c : ℕ}
  {stage stage' : Stage} {todo : List FenceObject}

theorem active_eq_some : active ns = some n ↔ ns = some n ∧ n.terminating = false := by
  simp [active, Option.filter_eq_some_iff]

private theorem complete_fence : Complete ns fence := fun _ _ _ hk hmissing => absurd hk hmissing

theorem Extends.refl (ns : Option TenantNamespace) : Extends ns ns :=
  fun n' hn' => ⟨n', hn', fun _ hk => hk⟩

theorem Complete.extends (h : Complete ns todo) (hextends : Extends ns ns') :
    Complete ns' todo := by
  intro n' hn' k hk hmissing
  obtain ⟨n, hn, hobjects⟩ := hextends n' hn'
  exact hobjects k (h n hn k hk hmissing)

theorem Stage.Sound.extends (h : stage.Sound ns) (hextends : Extends ns ns') :
    stage.Sound ns' := by
  cases stage with
  | creating todo => exact Complete.extends h hextends
  | podding => exact Complete.extends h hextends
  | _ => trivial

theorem Stage.sound_of_not_underway (h : ¬ stage.Underway) (ns : Option TenantNamespace) :
    stage.Sound ns := by
  cases stage with
  | creating todo =>
      have htodo : todo = fence := not_not.mp h
      rw [htodo]
      exact complete_fence
  | podding => exact absurd trivial h
  | _ => trivial

private theorem sound_proceed {reply : Reply} {next onError : Stage}
    (honError : onError = .cleaning ∨ onError = .ended) (hnext : reply = .done → next.Sound ns) :
    (reply.proceed next onError).Sound ns := by
  have hstopped : onError.Sound ns := by
    rcases honError with rfl | rfl <;> trivial
  cases reply with
  | done => exact hnext rfl
  | failed => exact hstopped
  | lost => exact hstopped

/-! ## One call -/

inductive CallMove (ns : Option TenantNamespace) (c : ℕ) :
    Stage → CallAction → Option TenantNamespace → Stage → Prop where
  | found : CallMove ns c .started (.tenantExists true) ns .podding
  | notFound : CallMove ns c .started (.tenantExists true) ns .missing
  | made (reply : Reply) : CallMove ns c .missing (.createNamespace reply)
      (createNamespace ns reply) (reply.proceed (.creating fence) .ended)
  | created (n : TenantNamespace) (k : FenceObject) (todo : List FenceObject) (reply : Reply) :
      active ns = some n →
      CallMove ns c (.creating (k :: todo)) (.createObject reply)
        (some (n.createObject k reply))
        (reply.proceed (if todo = [] then .podding else .creating todo) .cleaning)
  | cleaned (reply : Reply) : CallMove ns c .cleaning (.deleteNamespace reply)
      (deleteNamespace ns reply) .ended
  | posted (n : TenantNamespace) (reply : Reply) : active ns = some n →
      CallMove ns c .podding (.createPod reply) (some (n.createPod c reply))
        (reply.proceed .exposing .ended)
  | removed : CallMove ns c .exposing (.createService false true)
      (ns.map fun n => { n with pods := n.pods.filter (· ≠ c) }) .ended
  -- an error, a crash or a call that is through
  | stopped (stage : Stage) (a : CallAction) (next : Stage) :
      next = .cleaning ∨ next = .ended → CallMove ns c stage a ns next

private theorem callMove_of_callStep {a : CallAction}
    (hs : callStep ns c stage a = some (ns', stage')) : CallMove ns c stage a ns' stage' := by
  unfold callStep at hs
  split at hs
  · rename_i answered
    cases answered with
    | false =>
        cases hs
        exact .stopped _ _ _ (.inr rfl)
    | true =>
        simp only [if_true] at hs
        split at hs
        · cases hs
          exact .notFound
        · cases hs
          exact .found
  · cases hs
    exact .made _
  · split at hs
    · cases hs
      exact .stopped _ _ _ (.inl rfl)
    · rename_i n hactive
      cases hs
      exact .created n _ _ _ hactive
  · cases hs
    exact .cleaned _
  · split at hs
    · cases hs
      exact .stopped _ _ _ (.inr rfl)
    · rename_i n hactive
      cases hs
      exact .posted n _ hactive
  · rename_i created deleted
    split at hs
    · cases hs
      exact .stopped _ _ _ (.inr rfl)
    · rename_i hundo
      cases hs
      obtain ⟨rfl, rfl⟩ : created = false ∧ deleted = true := by simpa using hundo
      exact .removed
  · contradiction
  · cases hs
    exact .stopped _ _ _ (.inr rfl)
  · contradiction

theorem CallMove.sound {a : CallAction} (hs : CallMove ns c stage a ns' stage')
    (hsound : stage.Sound ns)
    (hfound : a = .tenantExists true → ∀ n ∈ active ns, n.Fenced) : stage'.Sound ns' := by
  cases hs with
  | found =>
      intro n hn k hk _
      exact hfound rfl n hn k hk
  | notFound => trivial
  | made reply => exact sound_proceed (.inr rfl) fun _ => complete_fence
  | created n k todo reply hactive =>
      apply sound_proceed (.inl rfl)
      rintro rfl
      have hcomplete : Complete (some (n.createObject k .done)) todo := by
        intro n' hn' k' hk' hmissing
        obtain ⟨hsome, -⟩ := active_eq_some.mp hn'
        obtain rfl := Option.some.inj hsome
        by_cases hself : k' = k
        · subst hself
          simp only [TenantNamespace.createObject]
          split
          · assumption
          · simp
        · have hold : k' ∈ n.objects := hsound n hactive k' hk' (by simp [hself, hmissing])
          simp only [TenantNamespace.createObject]
          split
          · exact hold
          · exact List.mem_append_left _ hold
      split
      · rename_i htodo
        subst htodo
        exact hcomplete
      · exact hcomplete
  | cleaned => trivial
  | posted n reply hactive => exact sound_proceed (.inr rfl) fun _ => trivial
  | removed => trivial
  | stopped =>
      rename_i hnext
      rcases hnext with rfl | rfl <;> trivial

/-- A call changes what the others rely on only by making the namespace. -/
theorem CallMove.extends {a : CallAction} (hs : CallMove ns c stage a ns' stage')
    (hold : ∀ reply, a = .createNamespace reply → reply = .failed ∨ ns ≠ none) :
    Extends ns ns' := by
  cases hs with
  | found => exact .refl ns
  | notFound => exact .refl ns
  | made reply =>
      have hsame : createNamespace ns reply = ns := by
        rcases hold reply rfl with rfl | hns
        · rfl
        · obtain ⟨n, rfl⟩ := Option.ne_none_iff_exists'.mp hns
          cases reply <;> rfl
      rw [hsame]
      exact .refl ns
  | created n k todo reply hactive =>
      intro n' hn'
      obtain ⟨hsome, -⟩ := active_eq_some.mp hn'
      obtain rfl := Option.some.inj hsome
      refine ⟨n, hactive, ?_⟩
      intro k' hk'
      cases reply with
      | failed => exact hk'
      | done | lost =>
          simp only [TenantNamespace.createObject]
          split
          · exact hk'
          · exact List.mem_append_left _ hk'
  | cleaned reply =>
      cases reply with
      | failed => exact .refl ns
      | done | lost =>
          intro n' hn'
          obtain ⟨hsome, hactive⟩ := active_eq_some.mp hn'
          obtain ⟨n, -, rfl⟩ := Option.map_eq_some_iff.mp hsome
          contradiction
  | posted n reply hactive =>
      intro n' hn'
      obtain ⟨hsome, -⟩ := active_eq_some.mp hn'
      obtain rfl := Option.some.inj hsome
      refine ⟨n, hactive, ?_⟩
      cases reply <;> exact fun k hk => hk
  | removed =>
      intro n' hn'
      obtain ⟨hsome, hactive⟩ := active_eq_some.mp hn'
      obtain ⟨n, hn, rfl⟩ := Option.map_eq_some_iff.mp hsome
      exact ⟨n, active_eq_some.mpr ⟨hn, hactive⟩, fun k hk => hk⟩
  | stopped => exact .refl ns

theorem CallMove.pods {a : CallAction} (hs : CallMove ns c stage a ns' stage')
    {n' : TenantNamespace} (hn' : ns' = some n') {p : ℕ} (hp : p ∈ n'.pods) :
    (∃ n, ns = some n ∧ p ∈ n.pods) ∨ stage = .podding ∧ ∃ n, active ns = some n := by
  cases hs with
  | found => exact .inl ⟨n', hn', hp⟩
  | notFound => exact .inl ⟨n', hn', hp⟩
  | made reply =>
      left
      cases ns with
      | none =>
          cases reply with
          | failed => cases hn'
          | done | lost =>
              cases hn'
              cases hp
      | some n =>
          refine ⟨n', ?_, hp⟩
          cases reply <;> exact hn'
  | created n k todo reply hactive =>
      left
      refine ⟨n, (active_eq_some.mp hactive).1, ?_⟩
      cases hn'
      cases reply with
      | failed => exact hp
      | done | lost =>
          simp only [TenantNamespace.createObject] at hp
          split at hp <;> exact hp
  | cleaned reply =>
      left
      cases reply with
      | failed => exact ⟨n', hn', hp⟩
      | done | lost =>
          obtain ⟨n, hn, rfl⟩ := Option.map_eq_some_iff.mp hn'
          exact ⟨n, hn, hp⟩
  | posted n reply hactive => exact .inr ⟨rfl, n, hactive⟩
  | removed =>
      left
      obtain ⟨n, hn, rfl⟩ := Option.map_eq_some_iff.mp hn'
      exact ⟨n, hn, List.mem_of_mem_filter hp⟩
  | stopped => exact .inl ⟨n', hn', hp⟩

/-! ## Runs -/

variable {past : List (Transition Tenant TenantAction)} {s₀ : Tenant} {act : TenantAction}

def AllSound (s : Tenant) : Prop :=
  ∀ (c : ℕ) (stage : Stage), s.calls[c]? = some stage → stage.Sound s.ns

theorem tenantStep_of {a : CallAction} (hs : tenantStep s (.of c a) = some s') :
    ∃ stage stage', s.calls[c]? = some stage ∧ CallMove s.ns c stage a s'.ns stage' ∧
      s'.calls = s.calls.set c stage' := by
  simp only [tenantStep] at hs
  split at hs
  · contradiction
  · rename_i stage hstage
    obtain ⟨⟨ns, stage'⟩, hmove, rfl⟩ := Option.map_eq_some_iff.mp hs
    exact ⟨stage, stage', hstage, callMove_of_callStep hmove, rfl⟩

theorem tenantStep_finalize (hs : tenantStep s .finalize = some s') :
    s'.ns = none ∧ s'.calls = s.calls := by
  simp only [tenantStep] at hs
  split at hs
  · contradiction
  · split at hs
    · cases hs
      exact ⟨rfl, rfl⟩
    · contradiction

theorem AllSound.others {a : CallAction} (h : AllSound s) (horderly : Orderly s (.of c a))
    (hmove : CallMove s.ns c stage a ns' stage') :
    ∀ (c' : ℕ) (other : Stage), s.calls[c']? = some other → other.Sound ns' := by
  intro c' other hother
  by_cases hmake : ∃ reply, a = .createNamespace reply ∧ reply ≠ .failed ∧ s.ns = none
  · obtain ⟨reply, rfl, hreply, hnone⟩ := hmake
    exact Stage.sound_of_not_underway
      (horderly hreply hnone other (List.mem_of_getElem? hother)) ns'
  · have hextends : Extends s.ns ns' := by
      apply hmove.extends
      intro reply ha
      by_contra hnew
      obtain ⟨hreply, hnone⟩ := not_or.mp hnew
      exact hmake ⟨reply, ha, hreply, not_not.mp hnone⟩
    exact (h c' other hother).extends hextends

theorem AllSound.step (h : AllSound s) (horderly : Orderly s act)
    (hs : tenantStep s act = some s') : AllSound s' := by
  cases act with
  | begin =>
      cases hs
      exact forall_append h trivial
  | of c a =>
      obtain ⟨stage, stage', hstage, hmove, hcalls⟩ := tenantStep_of hs
      unfold AllSound
      rw [hcalls]
      apply forall_set (h.others horderly hmove)
      apply hmove.sound (h c stage hstage)
      rintro rfl
      exact horderly rfl
  | finalize =>
      obtain ⟨hns, hcalls⟩ := tenantStep_finalize hs
      unfold AllSound
      rw [hcalls, hns]
      intro c stage hstage
      apply (h c stage hstage).extends
      intro n' hn'
      cases hn'

theorem AllSound.fenced (h : AllSound s) (hs : tenantStep s act = some s')
    {n' : TenantNamespace} (hn' : s'.ns = some n') {p : ℕ} (hp : p ∈ n'.pods) :
    (∃ n, s.ns = some n ∧ p ∈ n.pods) ∨ ∃ n, s.ns = some n ∧ n.Fenced := by
  cases act with
  | begin =>
      cases hs
      exact .inl ⟨n', hn', hp⟩
  | of c a =>
      obtain ⟨stage, stage', hstage, hmove, -⟩ := tenantStep_of hs
      rcases hmove.pods hn' hp with hold | ⟨rfl, n, hn⟩
      · exact .inl hold
      · have hcomplete : Complete s.ns [] := h c .podding hstage
        exact .inr ⟨n, (active_eq_some.mp hn).1, fun k hk => hcomplete n hn k hk (by simp)⟩
  | finalize =>
      obtain ⟨hns, -⟩ := tenantStep_finalize hs
      cases hns.symm.trans hn'

/-- In an orderly run no pod comes without the fence. -/
theorem tenant_pods_fenced
    (hrun : Run tenantStep (fun _ => Orderly) s₀ past s) (hcalls : s₀.calls = []) :
    PodsFenced past := by
  have hboth : AllSound s ∧ PodsFenced past := by
    apply hrun.invariant (I := fun past s => AllSound s ∧ PodsFenced past)
    · constructor
      · intro c stage hstage
        rw [hcalls] at hstage
        cases hstage
      · intro r hr
        cases hr
    · rintro past s a s' - ⟨hsound, hfenced⟩ horderly hs
      refine ⟨hsound.step horderly hs, ?_⟩
      intro r hr
      rcases List.mem_append.mp hr with hr | hr
      · exact hfenced r hr
      · obtain rfl := List.mem_singleton.mp hr
        intro n' hn' p hp
        exact hsound.fenced hs hn' hp
  exact hboth.2

/-! ## Two requests of a new user -/

def newTenant : Tenant := ⟨none, []⟩

def inTurnActions : List TenantAction :=
  [.begin, .of 0 (.tenantExists true), .of 0 (.createNamespace .done)] ++
    fence.map (fun _ => .of 0 (.createObject .done)) ++
    [.of 0 (.createPod .done), .of 0 (.createService true false),
      .begin, .of 1 (.tenantExists true), .of 1 (.createPod .done)]

private theorem inTurnActions_checked :
    ∃ run ∈ trace tenantStep newTenant inTurnActions, ∀ r ∈ run.1, Orderly r.pre r.act := by
  decide +kernel

theorem tenant_pods_fenced_sample :
    ∃ run ∈ trace tenantStep newTenant inTurnActions, PodsFenced run.1 := by
  obtain ⟨run, hrun, horderly⟩ := inTurnActions_checked
  exact ⟨run, hrun, tenant_pods_fenced ((Run.of_trace hrun).guarded horderly) rfl⟩

/-- The second request finds the namespace the first one has just made. -/
def overlappingActions : List TenantAction :=
  [.begin, .of 0 (.tenantExists true), .of 0 (.createNamespace .done),
    .begin, .of 1 (.tenantExists true), .of 1 (.createPod .done)]

private theorem overlappingActions_checked :
    ∃ run ∈ trace tenantStep newTenant overlappingActions, ∃ r ∈ run.1,
      r.post.ns = some ⟨false, [], [1]⟩ ∧ r.pre.ns = some ⟨false, [], []⟩ := by
  decide +kernel

theorem unfenced_pod :
    ¬ ∀ (s₀ s : Tenant) (past : List (Transition Tenant TenantAction)),
      Run tenantStep anyStep s₀ past s → s₀.calls = [] → PodsFenced past := by
  intro hclaim
  obtain ⟨run, hrun, r, hr, hpost, hpre⟩ := overlappingActions_checked
  rcases hclaim newTenant _ _ (Run.of_trace hrun) rfl r hr _ hpost 1 (by simp) with
    ⟨n, hn, hpod⟩ | ⟨n, hn, hfenced⟩
  · cases hpre.symm.trans hn
    cases hpod
  · cases hpre.symm.trans hn
    have hquota := hfenced .gpuQuota (by simp [fence])
    cases hquota

end WorldlandBroker.Job
