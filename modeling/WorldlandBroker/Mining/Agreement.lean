import WorldlandBroker.Foundation.Run
import WorldlandBroker.Mining.Tracking

/-!
# The mining ledger and the mining pod

Once no update is in flight and a tick has completed, the pod in the cluster
requests as many GPUs as the ledger counts for mining, in every run that is careful
with the provider.
-/

namespace WorldlandBroker.Mining

open Foundation Provider

structure Unmined (s : State) : Prop where
  updates : s.updates = []
  pods : ∀ id, s.pods id = none
  ledger : ∀ id p, s.providers id = some p → ∀ t, p.capacity.mining t = 0

theorem Unmined.tracked {s : State} (h : Unmined s) (id : String) : Tracked s id where
  nonneg p hp t := (h.ledger id p hp t).ge
  pending := by
    rintro ⟨update, hmem, -⟩
    simp [h.updates] at hmem
  settled _ p hp := by
    rw [State.requested, h.pods id]
    exact .inl (NilMap.total_eq_zero _ (h.ledger id p hp))

theorem tracked_along {s₀ s : State} {past : List (Transition State Action)} {id : String}
    (h₀ : Unmined s₀) (hrun : Run step (careful id) s₀ past s) : Tracked s id := by
  apply hrun.always (h₀.tracked id)
  intro past s a s' htracked hcareful hs
  exact htracked.step hcareful hs

private theorem syncMining_stopped {c : ProviderCapacity}
    (h : (syncMiningPodState c (.ok "stopped")).miningPodName ≠ "") :
    (syncMiningPodState c (.ok "stopped")).miningGPUCount ≤ 0 := by
  unfold syncMiningPodState at h ⊢
  split
  · rename_i hname
    rw [if_pos hname] at h
    contradiction
  · simp only [] at h ⊢
    split
    · exact le_of_eq rfl
    · rename_i hended
      simpa using hended

theorem Tracked.agrees_after_tick {s s' : State} {id : String} {p : ProviderState}
    (h : Tracked s' id) (hs : Mining.step s (.tick id true) = some s')
    (hidle : ¬ InFlight s id) (hp : s'.providers id = some p) :
    podGPUCount (s'.pods id) = p.capacity.miningGPUCount := by
  have hnonneg : 0 ≤ p.capacity.miningGPUCount := NilMap.total_nonneg _ (h.nonneg p hp)
  cases step_effect hs with
  | @ticked _ _ p₀ hp₀ =>
      have hsettled := h.settled hidle p hp
      have hcapacity := setCapacity_self hp
      simp only [State.requested] at hsettled
      cases hpod : s.pods id with
      | some pod =>
          simp only [hpod] at hsettled ⊢
          exact hsettled
      | none =>
          simp only [hpod] at hsettled hcapacity ⊢
          rcases hsettled with hzero | hnamed
          · exact hzero.symm
          · rw [hcapacity] at hnamed hnonneg ⊢
            exact le_antisymm hnonneg (syncMining_stopped hnamed)

theorem mining_ledger_agrees {s₀ s : State} {past : List (Transition State Action)}
    {r : Transition State Action} {id : String} {p : ProviderState} (h₀ : Unmined s₀)
    (hrun : Run step (careful id) s₀ past s) (hr : r ∈ past) (htick : r.act = .tick id true)
    (hidle : ¬ InFlight r.pre id) (hp : r.post.providers id = some p) :
    podGPUCount (r.post.pods id) = p.capacity.miningGPUCount := by
  obtain ⟨before, after, hsplit⟩ := List.append_of_mem hr
  obtain ⟨hbefore, hcareful, hs⟩ := hrun.of_split hsplit
  have htracked : Tracked r.pre id := tracked_along h₀ hbefore
  apply (htracked.step hcareful hs).agrees_after_tick
  · rw [← htick]
    exact hs
  · exact hidle
  · exact hp

/-! ## Runs of one provider -/

def sampleState : State where
  providers := Function.update (fun _ => none) "p1"
    (some ⟨statusAvailable, sampleSpec, sampleCapacity⟩)
  pods _ := none
  updates := []

private theorem sampleState_unmined : Unmined sampleState where
  updates := rfl
  pods _ := rfl
  ledger id p hp t := by
    simp only [sampleState, Function.update_apply] at hp
    split at hp
    · cases hp
      exact NilMap.count_none t
    · contradiction

def deployOne (reply : Job.Reply) : Action := .deploy "p1" ⟨1, 4, 8192⟩ (some "RTX 4090") reply

/-- Two updates overlap, and the newer one creates the pod before the older one ends. -/
def overlappingActions : List Action :=
  [deployOne .done, .allocate "p1" "RTX 4090" 1, .allocate "p1" "RTX 4090" 1,
    .deletePod 0 true, .deletePod 1 true, .removePod "p1", .createPod 1 true,
    .createPod 0 true, .tick "p1" true]

private theorem overlappingActions_checked :
    ∃ run ∈ trace step sampleState overlappingActions,
      (∀ r ∈ run.1, r.act.provider r.pre = some "p1" → Careful r.pre r.act) ∧
      ∃ r ∈ run.1, r.act = .tick "p1" true ∧ ¬ InFlight r.pre "p1" ∧
        ∃ p ∈ r.post.providers "p1", p.capacity.miningGPUCount = 3 := by
  decide +kernel

theorem mining_ledger_agrees_sample :
    ∃ run ∈ trace step sampleState overlappingActions, ∃ r ∈ run.1, r.act = .tick "p1" true ∧
      ∃ p ∈ r.post.providers "p1", p.capacity.miningGPUCount = 3 ∧
        podGPUCount (r.post.pods "p1") = p.capacity.miningGPUCount := by
  obtain ⟨run, htrace, hguard, r, hr, hact, hidle, p, hp, hcount⟩ := overlappingActions_checked
  have hrun : Run step (careful "p1") sampleState run.1 run.2 :=
    (Run.of_trace htrace).guarded hguard
  exact ⟨run, htrace, r, hr, hact, p, hp, hcount,
    mining_ledger_agrees sampleState_unmined hrun hr hact hidle hp⟩

/-- The tick runs between the deletion and the creation of the new pod. -/
def tickBetweenActions : List Action :=
  [deployOne .done, .allocate "p1" "RTX 4090" 1, .deletePod 0 true, .removePod "p1",
    .tick "p1" true, .createPod 0 true, .tick "p1" true]

private theorem tickBetweenActions_checked :
    ∃ run ∈ trace step sampleState tickBetweenActions,
      ∃ r ∈ run.1, r.act = .tick "p1" true ∧ ¬ InFlight r.pre "p1" ∧
        ∃ p ∈ r.post.providers "p1",
          podGPUCount (r.post.pods "p1") = 2 ∧ p.capacity.miningGPUCount = 0 := by
  decide +kernel

theorem recreated_pod_escapes_ledger :
    ¬ ∀ (s₀ s : State) (past : List (Transition State Action)) (r : Transition State Action)
        (id : String) (p : ProviderState), Unmined s₀ → Run step anyStep s₀ past s →
      r ∈ past → r.act = .tick id true → ¬ InFlight r.pre id →
      r.post.providers id = some p →
        podGPUCount (r.post.pods id) = p.capacity.miningGPUCount := by
  intro hclaim
  obtain ⟨run, htrace, r, hr, hact, hidle, p, hp, hpod, hcount⟩ := tickBetweenActions_checked
  have hagrees := hclaim _ _ _ r "p1" p sampleState_unmined (Run.of_trace htrace) hr hact
    hidle hp
  omega

/-- The answer to the creation is lost: nobody looks for the pod that is there. -/
example : ∃ run ∈ trace step sampleState [deployOne .lost, .tick "p1" true],
    podGPUCount (run.2.pods "p1") = 1 ∧
      ∃ p ∈ run.2.providers "p1", p.capacity.miningGPUCount = 0 := by
  decide +kernel

end WorldlandBroker.Mining
