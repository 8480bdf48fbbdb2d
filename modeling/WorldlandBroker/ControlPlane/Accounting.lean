import WorldlandBroker.ControlPlane.Covering

/-!
# Every outstanding job is accounted for

An outstanding job is being created, has its pod, has the event of its removal
in the queue, or is about to be returned.  For the jobs of one provider this
holds along every run whose releases cover what was debited to it, and so does
the bound of what it has in use by the sum over its outstanding jobs.
-/

namespace WorldlandBroker.ControlPlane

open Foundation Provider Job State

variable {K : QuantityAPI} {s s' s₀ : State K} {a : Action}
  {past : List (Transition (State K) Action)} {x : Admission} {id : String}

inductive Located (s : State K) (x : Admission) : Prop where
  | starting (t : CreateThread) (ht : s.creates x.job = some t)
      (hstage : t.stage = .allocated)
  | pod (pod : Pod K) (hpod : s.pods x.job = some pod)
      (hcovers : Covers (parsePodToGPUJobInfo pod) x)
  | event (event : PodWatchEvent) (hevent : event ∈ s.events)
      (htype : event.type = .deleted) (hcovers : Covers event.info x)
  | pending (hpending : Pending s x)

structure Known (s : State K) (x : Admission) : Prop where
  opened : x.job < s.nextJob
  registered : (s.providers x.providerID).isSome
  thread : ∀ t, s.creates x.job = some t →
    t.stage ≠ .checked ∧ t.admission x.job = some x

/-- What the condition adds for the jobs of its provider. -/
structure Backed (s : State K) (x : Admission) : Prop where
  named : x.providerID ≠ ""
  nonneg : x.allocation.Nonneg
  located : Located s x

def Unclosed (s : State K) (a : Action) (x : Admission) : Prop :=
  ∀ r, returns s a = some r → closes s.providers r x = false

/-! ## One step -/

private theorem closes_step (h : step s a = some s') (r : Release) (x : Admission) :
    closes s'.providers r x = closes s.providers r x := by
  unfold closes
  rcases step_capacity h x.providerID with ⟨hnone, hnone'⟩ | ⟨p, c, hp, hp', -⟩
  · rw [hnone, hnone']
  · rw [hp, hp']

theorem Known.starting_step (hK : K.Lawful) (hsized : Sized s x.providerID)
    (h : Known s x) {t : CreateThread} (ht : s.creates x.job = some t)
    (hstage : t.stage = .allocated)
    (hstep : step s a = some s') : Located s' x := by
  have hadmission := (h.thread t ht).2
  have hprovider := (admission_eq_some hadmission).2.1
  have hfits := hsized.fits x.job t ht (by simp [hstage]) hprovider
  by_cases hcreation : a.creation = some x.job
  · cases step_creation hstep hcreation ht with
    | panicked _ now hbuilt =>
        obtain ⟨cpu, memory, gpus, storage, hcpu, hmemory, hgpus, hstorage, -⟩ :=
          hfits.quantities
        simp [buildGPUPod, hcpu, hmemory, hgpus, hstorage] at hbuilt
    | podCreated pod hpod hafter =>
        exact .pod pod hafter (hfits.covers hK hadmission hpod).1
    | failed _ hafter => exact .pending (.inl ⟨_, hafter, rfl⟩)
    | allocated hother | served hother | rolledBack hother =>
        rw [hstage] at hother
        contradiction
  · exact .starting t ((creates_kept hstep h.opened hcreation).trans ht) hstage

private theorem located_pod_step (horderly : Orderly s) (hguard : Covered x.providerID past s a)
    (hx : outstanding past x.job = some x) {pod : Pod K}
    (hpod : s.pods x.job = some pod)
    (hcovers : Covers (parsePodToGPUJobInfo pod) x)
    (hstep : step s a = some s') : Located s' x := by
  by_cases huid : a.pod = some x.job
  · cases step_move hstep with
    | podPanicked | podRefused => exact .pod pod hpod hcovers
    | podCreated job t now accepted pod' ht hstage =>
        cases huid
        rw [horderly.unpodded x.job t ht (.inr hstage)] at hpod
        contradiction
    | setPhase uid pod' phase hpod' =>
        cases huid
        cases hpod.symm.trans hpod'
        exact .pod { pod with phase := phase } (Function.update_self _ _ _)
          ⟨hcovers.job, hcovers.provider, hcovers.gpuModel, hcovers.gpus,
            hcovers.cpu, hcovers.memory⟩
    | removePod uid pod' hpod' =>
        cases huid
        cases hpod.symm.trans hpod'
        cases hwatching : s.watching with
        | true =>
            refine .event ⟨.deleted, parsePodToGPUJobInfo pod⟩ ?_ rfl hcovers
            simp [State.removePod, emit, hwatching]
        | false =>
            exact .pending (hguard.removal x.job x rfl hwatching hx rfl)
    | _ => contradiction
  · exact .pod pod ((pods_kept hstep huid).trans hpod) hcovers

theorem Known.event_step (h : Known s x) (hnamed : x.providerID ≠ "") {event : PodWatchEvent}
    (hevent : event ∈ s.events) (htype : event.type = .deleted)
    (hcovers : Covers event.info x) (hunclosed : Unclosed s a x)
    (hstep : step s a = some s') : Located s' x := by
  by_cases hdeliver : a = .deliver
  · subst hdeliver
    cases step_move hstep with
    | deliver first rest hevents =>
        rw [hevents] at hevent
        rcases List.mem_cons.mp hevent with rfl | hrest
        · have hid : event.info.providerID ≠ "" := by
            rwa [hcovers.provider]
          have hreturns : returns s .deliver = some (podRelease event.info) := by
            simp [returns, hevents, eventRelease, htype, hid]
          have hopen := hunclosed _ hreturns
          rw [hcovers.closes h.registered] at hopen
          contradiction
        · exact .event event hrest htype hcovers
  · exact .event event (events_kept hstep hevent hdeliver) htype hcovers

theorem Known.failed_step (hguard : Covered x.providerID past s a)
    (hx : outstanding past x.job = some x) (h : Known s x) {t : CreateThread}
    (ht : s.creates x.job = some t) (hstage : t.stage = .failed)
    (hunclosed : Unclosed s a x) (hstep : step s a = some s') :
    Pending s' x := by
  by_cases hcreation : a.creation = some x.job
  · cases step_creation hstep hcreation ht with
    | rolledBack _ haction =>
        subst haction
        have hadmission := (h.thread t ht).2
        have hreturns : returns s (.rollBack x.job) = some
            (explicitRelease x.job x.providerID t.allocation) := by
          simp [returns, createAt_eq_some.mpr ⟨ht, hstage⟩,
            CreateThread.rollback, (admission_eq_some hadmission).2.1]
        have hcloses := hguard.rollback x.job _ x rfl hreturns hx rfl
        rw [hunclosed _ hreturns] at hcloses
        contradiction
    | podCreated pod hpod =>
        rw [hpod.stage] at hstage
        contradiction
    | failed hother =>
        rcases hother with hother | hother <;>
          rw [hstage] at hother <;> contradiction
    | allocated hother | panicked hother | served hother =>
        rw [hstage] at hother
        contradiction
  · exact .inl ⟨t, (creates_kept hstep h.opened hcreation).trans ht, hstage⟩

private theorem deleting_step (horderly : Orderly s) {request : ℕ} {t : DeleteThread}
    {r : Release} (ht : s.deletes request = some t) (hdeleted : t.deleted = true)
    (hr : t.release = some r) (hcloses : closes s.providers r x)
    (hunclosed : Unclosed s a x) (hstep : step s a = some s') :
    Pending s' x := by
  by_cases hdeletion : a.deletion = some request
  · cases step_move hstep with
    | release request' t' ht' =>
        cases hdeletion
        have hreturns : returns s (.release request) = some r := by
          simp [returns, ht, Option.filter, hdeleted, hr]
        rw [hunclosed r hreturns] at hcloses
        contradiction
    | deletionRefused request' t' _ ht' hbefore
    | deletionAccepted request' t' _ ht' hbefore =>
        cases hdeletion
        cases ht.symm.trans ht'
        rw [hdeleted] at hbefore
        contradiction
    | _ => contradiction
  · have hlt := horderly.requests request t ht
    refine .inr ⟨request, t, r, (deletes_kept hstep hlt hdeletion).trans ht,
      hdeleted, hr, ?_⟩
    rw [closes_step hstep]
    exact hcloses

theorem Known.located_step (hK : K.Lawful) (horderly : Orderly s)
    (hsized : Sized s x.providerID) (hguard : Covered x.providerID past s a)
    (hx : outstanding past x.job = some x) (h : Known s x) (hbacked : Backed s x)
    (hunclosed : Unclosed s a x) (hstep : step s a = some s') :
    Located s' x := by
  cases hbacked.located with
  | starting t ht hstage =>
      exact h.starting_step hK hsized ht hstage hstep
  | pod pod hpod hcovers =>
      exact located_pod_step horderly hguard hx hpod hcovers hstep
  | event event hevent htype hcovers =>
      exact h.event_step hbacked.named hevent htype hcovers hunclosed hstep
  | pending hpending =>
      rcases hpending with ⟨t, ht, hstage⟩ | ⟨request, t, r, ht, hdeleted, hr, hc⟩
      · exact .pending (h.failed_step hguard hx ht hstage hunclosed hstep)
      · exact .pending (deleting_step horderly ht hdeleted hr hc hunclosed hstep)

theorem Known.thread_step (h : Known s x) (hstep : step s a = some s')
    {t : CreateThread} (ht : s'.creates x.job = some t) :
    t.stage ≠ .checked ∧ t.admission x.job = some x := by
  cases step_creates hstep ht with
  | kept t ht₀ => exact h.thread t ht₀
  | opened t hjob => exact absurd h.opened hjob.ge.not_gt
  | allocated t ht₀ hchecked => exact absurd hchecked (h.thread t ht₀).1
  | podCreated t pod hpod => exact ⟨by simp, (h.thread t hpod.thread).2⟩
  | failed t ht₀ => exact ⟨by simp, (h.thread t ht₀).2⟩

private theorem granted_step (hadmits : admits s a = some x)
    (hgranted : granted s.providers x) (hstep : step s a = some s') :
    ∃ t, a = .allocate x.job ∧ s.creates x.job = some t ∧
      t.admission x.job = some x ∧
      s'.creates x.job = some { t with stage := .allocated } := by
  obtain ⟨rfl, t, ht, hstage, hx⟩ := admits_eq_some hadmits
  obtain ⟨-, hprovider, hallocation⟩ := admission_eq_some hx
  refine ⟨t, rfl, ht, hx, ?_⟩
  cases step_move hstep with
  | unallocated job t' ht' _ hnone =>
      cases ht.symm.trans ht'
      rw [hprovider] at hnone
      contradiction
  | allocationFailed job t' providerID message o ht' _ hprovider' hresult =>
      cases ht.symm.trans ht'
      cases hprovider.symm.trans hprovider'
      rw [granted, hallocation, hresult] at hgranted
      contradiction
  | allocated job t' providerID o ht' =>
      cases ht.symm.trans ht'
      exact Function.update_self _ _ _

theorem Known.of_granted (horderly : Orderly s) (hadmits : admits s a = some x)
    (hgranted : granted s.providers x) (hstep : step s a = some s') :
    Known s' x := by
  obtain ⟨t, -, ht, hx, hafter⟩ := granted_step hadmits hgranted hstep
  exact {
    opened := (horderly.opened x.job t ht).trans_le (step_nextJob hstep)
    registered := registered_step hstep (granted_registered hgranted)
    thread := fun t' ht' => by
      cases hafter.symm.trans ht'
      exact ⟨by simp, hx⟩ }

theorem Backed.of_granted (hguard : Covered x.providerID past s a)
    (hadmits : admits s a = some x) (hgranted : granted s.providers x)
    (hstep : step s a = some s') : Backed s' x := by
  obtain ⟨t, haction, ht, hx, hafter⟩ := granted_step hadmits hgranted hstep
  obtain ⟨-, hprovider, hallocation⟩ := admission_eq_some hx
  have hfits := (hguard.admission x.job t x haction ht hx rfl).2 hgranted
  exact {
    named := fun hid => hfits.provider (by rw [hprovider, hid])
    nonneg := hallocation ▸ hfits.amounts
    located := .starting _ hafter rfl }

theorem Known.step (h : Known s x) (hstep : step s a = some s') : Known s' x where
  opened := h.opened.trans_le (step_nextJob hstep)
  registered := registered_step hstep h.registered
  thread _ ht := h.thread_step hstep ht

theorem Backed.step (hK : K.Lawful) (horderly : Orderly s)
    (hsized : Sized s x.providerID) (hguard : Covered x.providerID past s a)
    (hx : outstanding past x.job = some x) (h : Backed s x) (hknown : Known s x)
    (hunclosed : Unclosed s a x) (hstep : step s a = some s') : Backed s' x where
  named := h.named
  nonneg := h.nonneg
  located := hknown.located_step hK horderly hsized hguard hx h hunclosed hstep

/-! ## Every step -/

structure Accounted (id : String) (past : List (Transition (State K) Action))
    (s : State K) : Prop where
  orderly : Orderly s
  sized : Sized s id
  known : ∀ job x, outstanding past job = some x → x.job = job ∧ Known s x
  backed : ∀ job x, outstanding past job = some x → x.providerID = id → Backed s x
  held : ∀ p, s.providers id = some p → ∀ k,
    held p.capacity k ≤ owed (outstanding past) s.nextJob id p.spec k

theorem Accounted.fresh (h : Accounted id past s) {job : ℕ}
    (hjob : s.nextJob ≤ job) : outstanding past job = none := by
  by_contra hsome
  obtain ⟨x, hx⟩ := Option.ne_none_iff_exists'.mp hsome
  obtain ⟨rfl, hknown⟩ := h.known job x hx
  exact absurd hknown.opened hjob.not_gt

theorem Accounted.unasked (h : Accounted id past s) (hadmits : admits s a = some x) :
    outstanding past x.job = none ∧ x.job < s.nextJob := by
  obtain ⟨-, t, ht, hstage, -⟩ := admits_eq_some hadmits
  refine ⟨?_, h.orderly.opened x.job t ht⟩
  by_contra hsome
  obtain ⟨y, hy⟩ := Option.ne_none_iff_exists'.mp hsome
  obtain ⟨hjob, hknown⟩ := h.known x.job y hy
  exact (hknown.thread t (hjob ▸ ht)).1 hstage

private theorem closes_of_ne {o : Registry} {r : Release} (hjob : r.job ≠ x.job) :
    closes o r x = false := by
  by_contra hcloses
  obtain ⟨p, -, hsame, -⟩ := closes_iff.mp (Bool.not_eq_false _ ▸ hcloses)
  exact hjob hsame

/-- A job outstanding after a step has just been granted, or was not returned. -/
theorem outstanding_origin (hjobs : ∀ job x, outstanding past job = some x → x.job = job)
    {job : ℕ} (hx : outstanding (past ++ [⟨s, a, s'⟩]) job = some x) :
    (job = x.job ∧ admits s a = some x ∧ granted s.providers x) ∨
      (outstanding past job = some x ∧ Unclosed s a x) := by
  have hsettles := outstanding_step past s a s'
  generalize outstanding (past ++ [⟨s, a, s'⟩]) = after at hx hsettles
  cases hsettles with
  | kept _ hopen =>
      refine .inr ⟨hx, fun r hr => ?_⟩
      by_cases hjob : r.job = x.job
      · exact hopen r x hr (by rw [hjob, hjobs job x hx]; exact hx)
      · exact closes_of_ne hjob
  | granted y hadmits hgranted =>
      by_cases hjob : job = y.job
      · rw [hjob, Function.update_self] at hx
        cases hx
        exact .inl ⟨hjob, hadmits, hgranted⟩
      · rw [Function.update_of_ne hjob] at hx
        refine .inr ⟨hx, fun r hr => ?_⟩
        rw [returns_of_admits hadmits] at hr
        contradiction
  | closed r y hreturns =>
      by_cases hjob : job = r.job
      · rw [hjob, Function.update_self] at hx
        contradiction
      · rw [Function.update_of_ne hjob] at hx
        refine .inr ⟨hx, fun r' hr' => ?_⟩
        cases hreturns.symm.trans hr'
        exact closes_of_ne fun hsame => hjob (hjobs job x hx ▸ hsame.symm)

theorem Accounted.known_step (h : Accounted id past s)
    (hstep : step s a = some s') {job : ℕ}
    (hx : outstanding (past ++ [⟨s, a, s'⟩]) job = some x) :
    x.job = job ∧ Known s' x := by
  rcases outstanding_origin (fun job x hx => (h.known job x hx).1) hx with
    ⟨hjob, hadmits, hgranted⟩ | ⟨hold, -⟩
  · exact ⟨hjob.symm, .of_granted h.orderly hadmits hgranted hstep⟩
  · obtain ⟨hjob, hknown⟩ := h.known job x hold
    exact ⟨hjob, hknown.step hstep⟩

theorem Accounted.backed_step (hK : K.Lawful) (h : Accounted id past s)
    (hguard : Covered id past s a) (hstep : step s a = some s') {job : ℕ}
    (hx : outstanding (past ++ [⟨s, a, s'⟩]) job = some x)
    (hid : x.providerID = id) : Backed s' x := by
  subst hid
  rcases outstanding_origin (fun job x hx => (h.known job x hx).1) hx with
    ⟨-, hadmits, hgranted⟩ | ⟨hold, hunclosed⟩
  · exact .of_granted hguard hadmits hgranted hstep
  · have hbacked := h.backed job x hold rfl
    obtain ⟨rfl, hknown⟩ := h.known job x hold
    exact hbacked.step hK h.orderly h.sized hguard hold hknown hunclosed hstep

private theorem run_usage (id : String) (p : ProviderState) (call : MiningCall) :
    SameUsage p.capacity (call.run id p) := by
  cases call with
  | allocate gpuType gpuCount => exact allocateMining_usage _ _ gpuCount
  | release gpuType gpuCount => exact releaseMining_usage _ _ gpuCount
  | deploy config first deployed =>
      exact deployMining_usage id p.spec _ config first deployed
  | stop deleted => exact stopMining_usage _ deleted
  | sync reported => exact syncMining_usage _ reported

private theorem asked_held {p : ProviderState} (hp : s.providers x.providerID = some p)
    (hnonneg : x.allocation.Nonneg) (k : Resource) :
    Provider.held (allocateResources p.spec p.capacity x.allocation).2 k =
      Provider.held p.capacity k +
        if granted s.providers x then share p.spec x.allocation k else 0 := by
  rw [allocateResources_held p.spec p.capacity hnonneg]
  unfold granted Registry.allocateResources
  rw [hp]
  simp only []
  cases (allocateResources p.spec p.capacity x.allocation).1 <;> simp [taken]

theorem Accounted.owed_granted (h : Accounted id past s)
    (hadmits : admits s a = some x) (spec : SystemSpec) (k : Resource) :
    owed (Function.update (outstanding past) x.job (some x)) s.nextJob id spec k =
      owed (outstanding past) s.nextJob id spec k + worth id spec k (some x) := by
  obtain ⟨hnone, hlt⟩ := h.unasked hadmits
  rw [owed_update hlt, hnone]
  simp [worth]

theorem Accounted.owed_closed (h : Accounted id past s) {r : Release}
    (hbefore : outstanding past r.job = some x) (spec : SystemSpec) (k : Resource) :
    owed (Function.update (outstanding past) r.job none) s.nextJob id spec k =
      owed (outstanding past) s.nextJob id spec k - worth id spec k (some x) := by
  obtain ⟨hjob, hknown⟩ := h.known r.job x hbefore
  have hlt : r.job < s.nextJob := hjob ▸ hknown.opened
  rw [owed_update hlt, hbefore]
  simp [worth]

theorem Accounted.change_held (h : Accounted id past s) (s' : State K)
    (hguard : Covered id past s a) {p : ProviderState} {c : ProviderCapacity}
    (hp : s.providers id = some p) (hchange : Change s a id p c)
    (hafter : ∀ job y, outstanding (past ++ [⟨s, a, s'⟩]) job = some y →
      y.providerID = id → y.allocation.Nonneg) (k : Resource) :
    Provider.held c k ≤
      owed (outstanding (past ++ [⟨s, a, s'⟩])) s.nextJob id p.spec k := by
  have hheld := h.held p hp k
  have hsettles := outstanding_step past s a s'
  generalize outstanding (past ++ [⟨s, a, s'⟩]) = after at hafter hsettles ⊢
  cases hchange with
  | kept hreturns hadmits =>
      cases hsettles with
      | kept => exact hheld
      | granted x hx =>
          rw [h.owed_granted hx, worth, if_neg (hadmits x hx), add_zero]
          exact hheld
      | closed r x hr hbefore hcloses =>
          obtain ⟨q, -, -, hid, -⟩ := closes_iff.mp hcloses
          rw [h.owed_closed hbefore, worth, if_neg (hid ▸ hreturns r hr), sub_zero]
          exact hheld
  | asked x hadmits hreturns hid =>
      subst hid
      obtain ⟨haction, t, ht, -, hx⟩ := admits_eq_some hadmits
      obtain ⟨-, hprovider, hallocation⟩ := admission_eq_some hx
      have hamounts := (hguard.admission x.job t x haction ht hx rfl).1
      rw [asked_held hp (hallocation ▸ hamounts)]
      cases hsettles with
      | kept hrefused =>
          rw [hrefused x hadmits]
          simpa using hheld
      | granted y hy hgranted =>
          cases hadmits.symm.trans hy
          rw [h.owed_granted hadmits, worth, if_pos rfl, if_pos hgranted]
          exact Int.add_le_add_right hheld _
      | closed r y hr =>
          rw [hreturns] at hr
          contradiction
  | returned r hreturns hadmits hid =>
      have hnonneg := h.sized.returns_nonneg hreturns hid
      refine releaseJobResources_held p.spec p.capacity hnonneg k
        (owed_nonneg hafter) ?_
      have hshare := share_nonneg hnonneg p.spec k
      cases hsettles with
      | kept => omega
      | granted y hy =>
          rw [hadmits] at hy
          contradiction
      | closed r' x hr hbefore hcloses =>
          cases hreturns.symm.trans hr
          obtain ⟨q, hq, hclose⟩ := closes_iff.mp hcloses
          have hsame : x.providerID = id := hclose.2.1.symm.trans hid
          rw [hsame, hp] at hq
          cases hq
          rw [h.owed_closed hbefore, worth, if_pos hsame]
          have hle := hclose.share_le k
          omega
  | mined call haction hcall =>
      subst haction
      rw [(run_usage id p call).held k]
      cases hsettles with
      | kept => exact hheld
      | granted x hx => contradiction
      | closed r x hr => contradiction

theorem Accounted.fresh_step (h : Accounted id past s) {job : ℕ}
    (hjob : s.nextJob ≤ job) :
    outstanding (past ++ [⟨s, a, s'⟩]) job = none := by
  have hnone := h.fresh hjob
  have hsettles := outstanding_step past s a s'
  generalize outstanding (past ++ [⟨s, a, s'⟩]) = after at hsettles ⊢
  cases hsettles with
  | kept => exact hnone
  | granted x hadmits =>
      have hne : job ≠ x.job := ((h.unasked hadmits).2.trans_le hjob).ne'
      rwa [Function.update_of_ne hne]
  | closed r x =>
      rw [Function.update_apply]
      split
      · rfl
      · exact hnone

theorem Accounted.step (hK : K.Lawful) (h : Accounted id past s)
    (hguard : Covered id past s a) (hstep : step s a = some s') :
    Accounted id (past ++ [⟨s, a, s'⟩]) s' where
  orderly := h.orderly.step hstep
  sized := h.sized.step hK hguard hstep
  known _ _ hx := h.known_step hstep hx
  backed _ _ hx hid := h.backed_step hK hguard hstep hx hid
  held p' hp' k := by
    rcases step_capacity hstep id with ⟨-, hnone⟩ | ⟨p, c, hp, hafter, hchange⟩
    · rw [hnone] at hp'
      contradiction
    · rw [hafter] at hp'
      cases hp'
      have hheld := h.change_held s' hguard hp hchange (fun job y hy hid =>
        (h.backed_step hK hguard hstep hy hid).nonneg) k
      rwa [owed_of_le (step_nextJob hstep) fun job hjob => h.fresh_step hjob]

def Unused (s : State K) (id : String) : Prop :=
  ∀ p, s.providers id = some p → ∀ k, Provider.held p.capacity k ≤ 0

theorem Idle.accounted (h : Idle s) (hunused : Unused s id) : Accounted id [] s where
  orderly := {
    opened := fun job t ht => by simp [h.creates] at ht
    requests := fun request t ht => by simp [h.deletes] at ht
    pods := fun uid pod hpod => by simp [h.pods] at hpod
    unpodded := fun job t ht => by simp [h.creates] at ht }
  sized := {
    fits := fun job t ht => by simp [h.creates] at ht
    mentioned := fun info hmention => by
      cases hmention with
      | pod uid pod hpod => simp [h.pods] at hpod
      | event event hevent => simp [h.events] at hevent
      | listed w info hw => simp [h.sweep] at hw
    pods := fun uid pod hpod => by simp [h.pods] at hpod
    deleting := fun request t x ht => by simp [h.deletes] at ht }
  known _ _ hx := by contradiction
  backed _ _ hx := by contradiction
  held p hp k := by
    have hzero : owed (outstanding ([] : List (Transition (State K) Action)))
        s.nextJob id p.spec k = 0 := Finset.sum_eq_zero fun _ _ => rfl
    rw [hzero]
    exact hunused p hp k

theorem accounted (hK : K.Lawful) (h₀ : Idle s₀) (hunused : Unused s₀ id)
    (hrun : Run step (coveredActions id) s₀ past s) : Accounted id past s :=
  hrun.invariant (h₀.accounted hunused) fun _ _ _ _ _ h hguard hstep =>
    h.step hK hguard hstep

end WorldlandBroker.ControlPlane
