import WorldlandBroker.Job.Request
import WorldlandBroker.Registration.Accounting

/-!
# Dead providers and the sweep

The sweep marks a provider offline when its last heartbeat is too old, and looks
for such providers among the joined ones only.  `CreateJob` takes two statuses
more: the one a registration stores and the one the agents report.
-/

namespace WorldlandBroker.Registration

open Foundation Provider Job

def Stale (now : ℤ) (p : RegisteredProvider) : Prop :=
  p.lastHeartbeat < now - staleProviderThreshold

instance (now : ℤ) (p : RegisteredProvider) : Decidable (Stale now p) :=
  inferInstanceAs (Decidable (_ < _))

def Rejected (p : RegisteredProvider) : Prop :=
  ∀ req allocatable,
    checkProvider p.toProviderState req allocatable = .error "Provider not available"

theorem rejected_iff {p : RegisteredProvider} :
    Rejected p ↔ p.status ≠ statusApproved ∧ p.status ≠ statusJoined ∧
      p.status ≠ statusAvailable := by
  constructor
  · intro hrejected
    by_contra hlisted
    have hfirst := hrejected ⟨"", "", 0, "", "", "", 0⟩ none
    unfold checkProvider at hfirst
    rw [if_neg hlisted] at hfirst
    split_ifs at hfirst <;> simp at hfirst
  · intro hlisted req allocatable
    exact if_pos hlisted

/-! ## Where a status comes from -/

/-- The status that a step gives to the provider; a sweep gives none. -/
def report (id : String) (r : Transition State Action) : Option RegistrationStatus :=
  match r.act with
  | .handleHeartbeat hb _ => if hb.providerID = id then some hb.status else none
  | .onNodeJoined _ providerID => if providerID = id then some statusJoined else none
  | .finish _ _ =>
      match r.pre.handling with
      | none => none
      | some h => if h.req.providerID = id ∧ h.joined = none then some statusApproved else none
  | _ => none

def lastReport (past : List (Transition State Action)) (id : String) :
    Option RegistrationStatus :=
  (past.filterMap (report id)).getLast?

private theorem lastReport_snoc (past : List (Transition State Action))
    (r : Transition State Action)
    (id : String) :
    lastReport (past ++ [r]) id =
      match report id r with
      | none => lastReport past id
      | some status => some status := by
  unfold lastReport
  rw [List.filterMap_append]
  cases hreport : report id r with
  | none => simp [hreport]
  | some status => simp [hreport]

/-- A provider stands where the last report put it, or a sweep has moved it from there. -/
def StandsAt (reported : Option RegistrationStatus) (p : RegisteredProvider) : Prop :=
  ∃ status, reported = some status ∧
    (p.status = status ∨ p.status = statusOffline ∧ status = statusJoined)

variable {o : Orchestrator} {s s' : State} {past : List (Transition State Action)}
  {id : String} {p p' : RegisteredProvider}

theorem StandsAt.reported (status : RegistrationStatus) (h : p.status = status) :
    StandsAt (some status) p :=
  ⟨status, rfl, .inl h⟩

theorem StandsAt.markStale {reported : Option RegistrationStatus} (h : StandsAt reported p)
    (now : ℤ) : StandsAt reported (markStale now p) := by
  obtain ⟨status, hreported, hstatus⟩ := h
  refine ⟨status, hreported, ?_⟩
  unfold Registration.markStale
  split
  · rename_i hswept
    rcases hstatus with hsame | ⟨hoffline, hjoined⟩
    · exact .inr ⟨rfl, hsame.symm.trans hswept.1⟩
    · exact .inr ⟨rfl, hjoined⟩
  · exact hstatus

theorem StandsAt.of_status {reported : Option RegistrationStatus} (h : StandsAt reported p)
    (hstatus : p'.status = p.status) : StandsAt reported p' := by
  unfold StandsAt at h ⊢
  rwa [hstatus]

theorem update_map_eq_some {providers : String → Option RegisteredProvider} {id' : String}
    {f : RegisteredProvider → RegisteredProvider}
    (h : Function.update providers id' ((providers id').map f) id = some p') :
    (id' = id ∧ ∃ p, providers id = some p ∧ f p = p') ∨
      (id' ≠ id ∧ providers id = some p') := by
  rcases eq_or_ne id' id with rfl | hne
  · rw [Function.update_self] at h
    exact .inl ⟨rfl, Option.map_eq_some_iff.mp h⟩
  · rw [Function.update_of_ne hne.symm] at h
    exact .inr ⟨hne, h⟩

private theorem standsAt_finish {kubeadm : Option (List String)} {now : ℤ}
    (hstands : ∀ id p, s.providers id = some p → StandsAt (lastReport past id) p)
    (hs : step o s (.finish kubeadm now) = some s') (hp' : s'.providers id = some p') :
    StandsAt (lastReport (past ++ [⟨s, .finish kubeadm now, s'⟩]) id) p' := by
  rw [lastReport_snoc]
  cases hhandling : s.handling with
  | none => simp [step, hhandling] at hs
  | some h =>
      simp only [step, hhandling] at hs
      obtain rfl := Option.some.inj hs
      cases hjoined : h.joined with
      | some nodeName =>
          rw [handleRegistration_joined hjoined kubeadm now] at hp'
          simp only [report, hhandling, hjoined, reduceCtorEq, and_false, if_false]
          exact hstands id p' hp'
      | none =>
          obtain ⟨stored, hstored, hstatus, -⟩ :=
            handleRegistration_unjoined (o := o) hjoined kubeadm now
          simp only [hstored] at hp'
          simp only [report, hhandling, hjoined, and_true]
          rcases eq_or_ne h.req.providerID id with hid | hne
          · subst hid
            rw [Function.update_self] at hp'
            obtain rfl := Option.some.inj hp'
            simp only [if_true]
            exact .reported _ hstatus
          · rw [Function.update_of_ne hne.symm] at hp'
            simp only [hne, if_false]
            exact hstands id p' hp'

private theorem standsAt_step {a : Action}
    (hstands : ∀ id p, s.providers id = some p → StandsAt (lastReport past id) p)
    (hs : step o s a = some s') (hp' : s'.providers id = some p') :
    StandsAt (lastReport (past ++ [⟨s, a, s'⟩]) id) p' := by
  cases a with
  | finish kubeadm now => exact standsAt_finish hstands hs hp'
  | receive req =>
      rw [lastReport_snoc]
      simp only [step] at hs
      split at hs
      · contradiction
      · obtain rfl := Option.some.inj hs
        exact hstands id p' hp'
  | deploy d first deployed =>
      rw [lastReport_snoc]
      simp only [step] at hs
      split at hs
      · contradiction
      · split at hs
        · contradiction
        · obtain rfl := Option.some.inj hs
          rcases update_map_eq_some hp' with ⟨-, p, hp, rfl⟩ | ⟨-, hp⟩
          · exact (hstands id p hp).of_status rfl
          · exact hstands id p' hp
  | handleHeartbeat hb now =>
      rw [lastReport_snoc]
      obtain rfl := Option.some.inj hs
      rcases update_map_eq_some hp' with ⟨hid, p, -, rfl⟩ | ⟨hne, hp⟩
      · simp only [report, hid, if_true]
        exact .reported _ rfl
      · simp only [report, hne, if_false]
        exact hstands id p' hp
  | checkStaleProviders now =>
      rw [lastReport_snoc]
      obtain rfl := Option.some.inj hs
      obtain ⟨p, hp, rfl⟩ := Option.map_eq_some_iff.mp hp'
      exact (hstands id p hp).markStale now
  | onNodeJoined nodeName providerID =>
      rw [lastReport_snoc]
      obtain rfl := Option.some.inj hs
      rcases update_map_eq_some hp' with ⟨hid, p, -, rfl⟩ | ⟨hne, hp⟩
      · simp only [report, hid, if_true]
        exact .reported _ rfl
      · simp only [report, hne, if_false]
        exact hstands id p' hp
  | ledger providerID op =>
      rw [lastReport_snoc]
      obtain rfl := Option.some.inj hs
      rcases update_map_eq_some hp' with ⟨-, p, hp, rfl⟩ | ⟨-, hp⟩
      · exact (hstands id p hp).of_status rfl
      · exact hstands id p' hp

theorem standsAt_run (hrun : Run (step o) anyStep initial past s) :
    ∀ id p, s.providers id = some p → StandsAt (lastReport past id) p := by
  induction hrun with
  | nil =>
      intro id p hp
      cases hp
  | snoc _ _ hs ih =>
      intro id p hp
      exact standsAt_step ih hs hp

/-! ## The sweep -/

def HeartbeatSent (past : List (Transition State Action)) (id : String) : Prop :=
  ∃ r ∈ past, ∃ hb now, r.act = .handleHeartbeat hb now ∧ hb.providerID = id

def DeadRejected (before : List (Transition State Action)) (now : ℤ) (s' : State) : Prop :=
  ∀ id p, s'.providers id = some p → HeartbeatSent before id → Stale now p → Rejected p

/-- Before it, none of them stood where a registration or a usual heartbeat puts a provider. -/
def DeadReported (before : List (Transition State Action)) (now : ℤ) (s : State) : Prop :=
  ∀ id p, s.providers id = some p → HeartbeatSent before id → Stale now p →
    lastReport before id ≠ some statusApproved ∧ lastReport before id ≠ some statusAvailable

private theorem markStale_lastHeartbeat (now : ℤ) (p : RegisteredProvider) :
    (markStale now p).lastHeartbeat = p.lastHeartbeat := by
  unfold markStale
  split
  · rfl
  · rfl

theorem markStale_rejected_iff {now : ℤ} (hstale : Stale now p) :
    Rejected (markStale now p) ↔ p.status ≠ statusApproved ∧ p.status ≠ statusAvailable := by
  rw [rejected_iff]
  by_cases hjoined : p.status = statusJoined
  · have hoffline : (markStale now p).status = statusOffline := by
      unfold markStale
      rw [if_pos ⟨hjoined, hstale⟩]
    rw [hoffline, hjoined]
    decide
  · have hsame : markStale now p = p := if_neg fun h => hjoined h.1
    rw [hsame]
    tauto

theorem StandsAt.schedulable_iff {reported : Option RegistrationStatus}
    (h : StandsAt reported p) :
    (p.status ≠ statusApproved ∧ p.status ≠ statusAvailable) ↔
      reported ≠ some statusApproved ∧ reported ≠ some statusAvailable := by
  obtain ⟨status, rfl, hstatus⟩ := h
  simp only [ne_eq, Option.some.injEq]
  rcases hstatus with hsame | ⟨hoffline, hjoined⟩
  · rw [hsame]
  · rw [hoffline, hjoined]
    decide

theorem sweep_rejects_iff {now : ℤ} (hrun : Run (step o) anyStep initial past s)
    (hsweep : step o s (.checkStaleProviders now) = some s') :
    DeadRejected past now s' ↔ DeadReported past now s := by
  obtain rfl := Option.some.inj hsweep
  constructor
  · intro hdead id p hp hsent hstale
    have hswept : (s.providers id).map (markStale now) = some (markStale now p) := by
      rw [hp, Option.map_some]
    have hstale' : Stale now (markStale now p) := by
      unfold Stale
      rwa [markStale_lastHeartbeat]
    have hrejected := hdead id _ hswept hsent hstale'
    rw [← (standsAt_run hrun id p hp).schedulable_iff]
    exact (markStale_rejected_iff hstale).mp hrejected
  · intro hdead id p' hp' hsent hstale
    obtain ⟨p, hp, rfl⟩ := Option.map_eq_some_iff.mp hp'
    unfold Stale at hstale
    rw [markStale_lastHeartbeat] at hstale
    have hreported := hdead id p hp hsent hstale
    rw [← (standsAt_run hrun id p hp).schedulable_iff] at hreported
    exact (markStale_rejected_iff hstale).mpr hreported

def Swept (past before : List (Transition State Action)) (r : Transition State Action)
    (now : ℤ) : Prop :=
  OccursAfter past before r ∧ r.act = .checkStaleProviders now

/--
After every sweep of a run `CreateJob` rejects all providers that have fallen
silent, exactly when no sweep came upon a silent provider whose last report was a
registration or a heartbeat with the status available or approved.
-/
theorem dead_rejected_iff (hrun : Run (step o) anyStep initial past s) :
    (∀ before r now, Swept past before r now → DeadRejected before now r.post) ↔
      ∀ before r now, Swept past before r now → DeadReported before now r.pre := by
  have hiff : ∀ before r now, Swept past before r now →
      (DeadRejected before now r.post ↔ DeadReported before now r.pre) := by
    rintro before r now ⟨⟨after, hsplit⟩, hact⟩
    obtain ⟨hbefore, -, hs⟩ := hrun.of_split hsplit
    rw [hact] at hs
    exact sweep_rejects_iff hbefore hs
  constructor
  · intro hdead before r now hswept
    exact (hiff before r now hswept).mp (hdead before r now hswept)
  · intro hdead before r now hswept
    exact (hiff before r now hswept).mpr (hdead before r now hswept)

/-! ## A provider that falls silent -/

def reportActions (status : RegistrationStatus) : List Action :=
  [.receive sampleRequest, .finish none 0,
    .handleHeartbeat ⟨"p1", "node-1", status⟩ 30000000000]

def lateSweep : ℤ := 300000000000

private theorem heartbeatSent_of_trace {status : RegistrationStatus}
    {run : List (Transition State Action) × State}
    (hrun : trace (step sampleOrchestrator) initial (reportActions status) = some run) :
    HeartbeatSent run.1 id ↔ id = "p1" := by
  constructor
  · rintro ⟨r, hr, hb, now, hact, rfl⟩
    have hmem : r.act ∈ reportActions status := trace_act_mem hrun hr
    rw [hact] at hmem
    simp only [reportActions, List.mem_cons, reduceCtorEq, Action.handleHeartbeat.injEq,
      List.not_mem_nil, or_false, false_or] at hmem
    rw [hmem.1]
  · rintro rfl
    have hmem : Action.handleHeartbeat ⟨"p1", "node-1", status⟩ 30000000000 ∈
        run.1.map Transition.act := by
      rw [trace_acts hrun]
      simp [reportActions]
    obtain ⟨r, hr, hact⟩ := List.mem_map.mp hmem
    exact ⟨r, hr, _, _, hact, rfl⟩

private theorem not_swept_of_trace {status : RegistrationStatus}
    {run : List (Transition State Action) × State}
    (hrun : trace (step sampleOrchestrator) initial (reportActions status) = some run)
    {r : Transition State Action} (hr : r ∈ run.1) (now : ℤ) :
    r.act ≠ .checkStaleProviders now := by
  have hmem : r.act ∈ reportActions status := trace_act_mem hrun hr
  intro hact
  rw [hact] at hmem
  simp [reportActions] at hmem

private theorem joinedReport_checked :
    ∃ run ∈ trace (step sampleOrchestrator) initial (reportActions statusJoined),
      lastReport run.1 "p1" = some statusJoined ∧
        ∃ s' ∈ step sampleOrchestrator run.2 (.checkStaleProviders lateSweep),
          ∃ p ∈ s'.providers "p1", Stale lateSweep p := by
  decide +kernel

/-- An agent that reports itself joined is found out. -/
theorem dead_rejected_joined :
    ∃ run ∈ trace (step sampleOrchestrator) initial (reportActions statusJoined),
      ∃ s' ∈ step sampleOrchestrator run.2 (.checkStaleProviders lateSweep),
        ∃ p ∈ s'.providers "p1", Rejected p := by
  obtain ⟨run, hrun, hreport, s', hsweep, p, hp, hstale⟩ := joinedReport_checked
  have hwhole : Run (step sampleOrchestrator) anyStep initial
      (run.1 ++ [⟨run.2, .checkStaleProviders lateSweep, s'⟩]) s' :=
    (Run.of_trace hrun).snoc trivial hsweep
  have hreported : ∀ before r now,
      Swept (run.1 ++ [⟨run.2, .checkStaleProviders lateSweep, s'⟩]) before r now →
        DeadReported before now r.pre := by
    rintro before r now ⟨hoccurs, hact⟩
    rcases hoccurs.of_snoc with hearlier | ⟨rfl, rfl⟩
    · exact absurd hact (not_swept_of_trace hrun hearlier.mem now)
    · intro id q _ hsent _
      rw [(heartbeatSent_of_trace hrun).mp hsent, hreport]
      decide
  have hdead := (dead_rejected_iff hwhole).mpr hreported run.1 _ lateSweep
    ⟨OccursAfter.last _ _, rfl⟩
  exact ⟨run, hrun, s', hsweep, p, hp,
    hdead "p1" p hp ((heartbeatSent_of_trace hrun).mpr rfl) hstale⟩

private theorem availableReport_checked :
    ∃ run ∈ trace (step sampleOrchestrator) initial (reportActions statusAvailable),
      ∃ s' ∈ step sampleOrchestrator run.2 (.checkStaleProviders lateSweep),
        ∃ p ∈ s'.providers "p1", Stale lateSweep p ∧ p.status = statusAvailable := by
  decide +kernel

theorem dead_provider_schedulable :
    ¬ ∀ (o : Orchestrator) (past : List (Transition State Action)) (s : State),
      Run (step o) anyStep initial past s →
        ∀ before r now, Swept past before r now → DeadRejected before now r.post := by
  intro hclaim
  obtain ⟨run, hrun, s', hsweep, p, hp, hstale, hstatus⟩ := availableReport_checked
  have hwhole : Run (step sampleOrchestrator) anyStep initial
      (run.1 ++ [⟨run.2, .checkStaleProviders lateSweep, s'⟩]) s' :=
    (Run.of_trace hrun).snoc trivial hsweep
  have hdead := hclaim _ _ _ hwhole run.1 _ lateSweep ⟨OccursAfter.last _ _, rfl⟩
  have hrejected := hdead "p1" p hp ((heartbeatSent_of_trace hrun).mpr rfl) hstale
  exact (rejected_iff.mp hrejected).2.2 hstatus

end WorldlandBroker.Registration
