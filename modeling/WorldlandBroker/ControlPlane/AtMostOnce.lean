import WorldlandBroker.ControlPlane.Overlap

/-!
# Credits against debits

`CreateJob`'s rollback, `DeleteJob`, the watch and the sweeper each return a job on
their own, and none of them looks whether another one has.  A job is returned once
when the one that returns it is the last that holds it, and at no more than its debit
when the texts of its request are read back as no more.
-/

namespace WorldlandBroker.ControlPlane

open Foundation Provider Job State

variable {K : QuantityAPI} {s s' s₀ : State K} {a : Action}
  {past : List (Transition (State K) Action)} {job : ℕ}

structure CreditsCovered (past : List (Transition (State K) Action)) (job : ℕ) :
    Prop where
  once : (credits past job).length ≤ 1
  gpus : creditedGPUs past job ≤ debitedGPUs past job
  cpu : creditedCPU past job ≤ debitedCPU past job
  memory : creditedMemory past job ≤ debitedMemory past job

/-! ## The condition on a step -/

/-- The job is returned by one hand while another one holds it. -/
def Overlaps (s : State K) (a : Action) (job : ℕ) : Prop :=
  ∃ hand other, a.handFor job = some hand ∧ HeldBy s job hand ∧ HeldBy s job other ∧ other ≠ hand

/-- The rollback knows the debit; everyone else reads the pod or what it prints. -/
def Hand.ReadsCovered (req : CreateJobRequest) : Hand → Prop
  | .creation | .pod => True
  | .event _ | .listed _ => WatchedCovered req
  | .deletion _ => DeletedCovered req

structure Cautious (job : ℕ) (past : List (Transition (State K) Action)) (s : State K)
    (a : Action) : Prop where
  counts : intCounts past s a
  alone : ¬ Overlaps s a job
  texts : ∀ hand, a.handFor job = some hand → HeldBy s job hand →
    ∀ x ∈ debits past job, hand.ReadsCovered x.req

/-! ## At most one return -/

/-- The job went back at most once, on a path that read no more than the debit. -/
structure ReturnedOnce (past : List (Transition (State K) Action)) (job : ℕ) :
    Prop where
  once : past.countP (returnsFor job) ≤ 1
  covered : ∀ r ∈ past, returnsFor job r → ∀ x ∈ debits past job,
    r.act.readCPU K x.req ≤ max (requestedCPU x.req) 0 ∧
      r.act.readMemory K x.req ≤ max (requestedMemoryMB x.req) 0

private theorem debited_nonneg (past : List (Transition (State K) Action)) (job : ℕ) :
    0 ≤ debitedGPUs past job ∧ 0 ≤ debitedCPU past job ∧
      0 ≤ debitedMemory past job :=
  ⟨List.sum_nonneg (List.forall_mem_map.mpr fun _ hx => (debits_pos hx).le),
    List.sum_nonneg (List.forall_mem_map.mpr fun _ _ => le_max_right _ _),
    List.sum_nonneg (List.forall_mem_map.mpr fun _ _ => le_max_right _ _)⟩

/-- Where no provider is unknown, every return is a credit. -/
theorem Tracked.countP_returnsFor (h : Tracked past s) :
    past.countP (returnsFor job) = (credits past job).length := by
  rw [credits, List.length_filterMap_eq_countP]
  refine List.countP_congr fun r hr => ?_
  rw [returnsFor_iff]
  constructor
  · rintro ⟨x, hx, hjob⟩
    have hregistered := (h.returned r hr x hx).1
    simp [hx, hjob, Option.filter, hregistered]
  · intro hcredit
    obtain ⟨x, hx⟩ := Option.isSome_iff_exists.mp hcredit
    obtain ⟨hx, hjob⟩ := Option.filter_eq_some_iff.mp hx
    exact ⟨x, hx, (of_decide_eq_true hjob).1⟩

theorem Tracked.credited (h : Tracked past s) {y : Release}
    (hy : y ∈ credits past job) :
    ∃ r ∈ past, returnsFor job r ∧ ∃ x, debits past job = [x] ∧
      y.gpuCount = x.allocation.gpuCount ∧ y.cpuCores = r.act.readCPU K x.req ∧
      y.memoryMB = r.act.readMemory K x.req := by
  obtain ⟨r, hr, hcredit⟩ := List.mem_filterMap.mp hy
  obtain ⟨hreturns, hjob⟩ := Option.filter_eq_some_iff.mp hcredit
  obtain ⟨rfl, -⟩ := of_decide_eq_true hjob
  obtain ⟨-, x, hx, -, hgpus, hcpu, hmemory, -⟩ := h.returned r hr y hreturns
  exact ⟨r, hr, returnsFor_iff.mpr ⟨y, hreturns, rfl⟩, x, hx, hgpus, hcpu,
    hmemory⟩

theorem Tracked.once_of_gpus (h : Tracked past s)
    (hgpus : creditedGPUs past job ≤ debitedGPUs past job) :
    past.countP (returnsFor job) ≤ 1 := by
  rw [h.countP_returnsFor]
  match hcredits : credits past job with
  | [] => simp
  | [y] => simp
  | y :: y' :: rest =>
      have howed : ∀ z ∈ credits past job,
          z.gpuCount = debitedGPUs past job := by
        intro z hz
        obtain ⟨-, -, -, x, hdebits, hcount, -⟩ := h.credited hz
        simp [debitedGPUs, hdebits, hcount]
      have hpositive : 0 < debitedGPUs past job := by
        have hmem : y ∈ credits past job := by simp [hcredits]
        obtain ⟨-, -, -, x, hdebits, -⟩ := h.credited hmem
        have hx := debits_pos (hdebits ▸ List.mem_singleton_self x)
        simpa [debitedGPUs, hdebits] using hx
      have hrest : 0 ≤ (rest.map Release.gpuCount).sum := by
        refine List.sum_nonneg (List.forall_mem_map.mpr fun z hz => ?_)
        rw [howed z (by simp [hcredits, hz])]
        exact hpositive.le
      have hfirst := howed y (by simp [hcredits])
      have hsecond := howed y' (by simp [hcredits])
      simp only [creditedGPUs, hcredits, List.map_cons, List.sum_cons] at hgpus
      omega

theorem Tracked.creditsCovered (h : Tracked past s) (honce : ReturnedOnce past job) :
    CreditsCovered past job := by
  obtain ⟨hgpus, hcpu, hmemory⟩ := debited_nonneg past job
  match hcredits : credits past job with
  | [] =>
      exact ⟨by simp [hcredits], by simpa [creditedGPUs, hcredits],
        by simpa [creditedCPU, hcredits], by simpa [creditedMemory, hcredits]⟩
  | [y] =>
      have hmem : y ∈ credits past job := by simp [hcredits]
      obtain ⟨r, hr, hreturns, x, hdebits, hcount, hcores, hmegabytes⟩ :=
        h.credited hmem
      have hx : x ∈ debits past job := by simp [hdebits]
      obtain ⟨hcpu, hmemory⟩ : r.act.readCPU K x.req ≤ max x.allocation.cpuCores 0 ∧
          r.act.readMemory K x.req ≤ max x.allocation.memoryMB 0 :=
        honce.covered r hr hreturns x hx
      refine ⟨by simp [hcredits], ?_, ?_, ?_⟩
      · simp [creditedGPUs, debitedGPUs, hcredits, hdebits, hcount]
      · simpa [creditedCPU, debitedCPU, hcredits, hdebits, hcores] using hcpu
      · simpa [creditedMemory, debitedMemory, hcredits, hdebits, hmegabytes]
          using hmemory
  | y :: y' :: rest =>
      have hone := honce.once
      rw [h.countP_returnsFor] at hone
      simp [hcredits] at hone

/-! ## Cautious runs -/

theorem Hand.ReadsCovered.le {hand : Hand} {req : CreateJobRequest} (h : hand.ReadsCovered req)
    (hK : K.Documented) (hprint : K.Canonical) (hhand : a.handFor job = some hand) :
    a.readCPU K req ≤ max (requestedCPU req) 0 ∧
      a.readMemory K req ≤ max (requestedMemoryMB req) 0 := by
  cases a with
  | rollBack job' => exact ⟨le_max_left _ _, le_max_left _ _⟩
  | release request =>
      cases hhand
      exact DeletedCovered.le h hK hprint
  | deliver =>
      cases hhand
      exact WatchedCovered.le h hK
  | sweepNext =>
      cases hhand
      exact WatchedCovered.le h hK
  | _ => contradiction

theorem Tracked.debits_of_returnsFor (h : Tracked past s) {r : Transition (State K) Action}
    (hr : r ∈ past) (hreturns : returnsFor job r) : ∃ x, debits past job = [x] := by
  obtain ⟨y, hy, rfl⟩ := returnsFor_iff.mp hreturns
  obtain ⟨-, x, hx, -⟩ := h.returned r hr y hy
  exact ⟨x, hx⟩

structure Released (job : ℕ) (past : List (Transition (State K) Action)) (s : State K) :
    Prop where
  between : Between past s
  returned : ReturnedOnce past job
  free : 0 < past.countP (returnsFor job) → job < s.nextJob ∧ ∀ hand, ¬ HeldBy s job hand

theorem Released.kept (h : Released job past s)
    (hbetween : Between (past ++ [⟨s, a, s'⟩]) s') (hstep : step s a = some s')
    (hnot : returnsFor job ⟨s, a, s'⟩ = false) :
    Released job (past ++ [⟨s, a, s'⟩]) s' := by
  have hcount : List.countP (returnsFor job) (past ++ [⟨s, a, s'⟩]) =
      past.countP (returnsFor job) := by
    rw [List.countP_append, List.countP_singleton, hnot]
    rfl
  refine ⟨hbetween, ⟨hcount ▸ h.returned.once, ?_⟩, fun hsome => ?_⟩
  · intro r hr hreturns x hx
    rcases List.mem_append.mp hr with hr | hnew
    · obtain ⟨x', hx'⟩ := h.between.tracked.debits_of_returnsFor hr hreturns
      rw [h.between.tracked.debits_kept hx', ← hx'] at hx
      exact h.returned.covered r hr hreturns x hx
    · rw [List.mem_singleton.mp hnew, hnot] at hreturns
      contradiction
  · obtain ⟨hopened, hfree⟩ := h.free (hcount ▸ hsome)
    refine ⟨hopened.trans_le (step_nextJob hstep), fun hand hheld => ?_⟩
    obtain ⟨before, hbefore⟩ := heldBy_step h.between.orderly hopened hstep hheld
    exact hfree before hbefore

theorem Released.taken (hK : K.Documented) (hprint : K.Canonical) (h : Released job past s)
    (hbetween : Between (past ++ [⟨s, a, s'⟩]) s') (hcautious : Cautious job past s a)
    (hstep : step s a = some s') (hreturns : returnsFor job ⟨s, a, s'⟩) :
    Released job (past ++ [⟨s, a, s'⟩]) s' := by
  obtain ⟨y, hy, rfl⟩ := returnsFor_iff.mp hreturns
  obtain ⟨hand, hhand, hheld⟩ := returns_heldBy hy
  obtain ⟨x, hx, -⟩ := h.between.tracked.returns_owed hy
  have hkept : debits (past ++ [⟨s, a, s'⟩]) y.job = [x] := h.between.tracked.debits_kept hx
  have hnone : past.countP (returnsFor y.job) = 0 := by
    by_contra hsome
    exact (h.free (Nat.pos_of_ne_zero hsome)).2 hand hheld
  refine ⟨hbetween, ⟨?_, ?_⟩, fun _ => ⟨?_, ?_⟩⟩
  · rw [List.countP_append, hnone, List.countP_singleton, if_pos hreturns]
  · intro r hr hreturnsOld x' hx'
    rcases List.mem_append.mp hr with hr | hnew
    · exact absurd hreturnsOld (List.countP_eq_zero.mp hnone r hr)
    · rw [List.mem_singleton.mp hnew]
      rw [hkept, ← hx] at hx'
      exact (hcautious.texts hand hhand hheld x' hx').le hK hprint hhand
  · by_contra hclosed
    have hnext := step_nextJob hstep
    rw [h.between.tracked.fresh y.job (by omega)] at hx
    contradiction
  · intro other hother
    obtain ⟨before, hbefore, hne⟩ := (heldBy_after_return hhand hstep).mp ⟨other, hother⟩
    exact hcautious.alone ⟨hand, before, hhand, hheld, hbefore, hne⟩

private theorem released (hK : K.Documented) (hprint : K.Canonical) (h₀ : Idle s₀)
    (hrun : Run step (Cautious job) s₀ past s) : Released job past s := by
  apply hrun.invariant
  · exact ⟨h₀.between, ⟨by simp, by simp⟩, by simp⟩
  · rintro past s a s' - h hcautious hstep
    have hbetween : Between (past ++ [⟨s, a, s'⟩]) s' :=
      ⟨h.between.tracked.step hK hcautious.counts hstep, h.between.orderly.step hstep,
        h.between.named.step hstep⟩
    cases hreturns : returnsFor job ⟨s, a, s'⟩ with
    | false => exact h.kept hbetween hstep hreturns
    | true => exact h.taken hK hprint hbetween hcautious hstep hreturns

/-! ## Runs that are not -/

/-- An overlap lets the job be returned a second time. -/
theorem Overlaps.returned_twice (hK : K.Documented) (h₀ : Idle s₀)
    (hrun : Run step intCounts s₀ past s) (hint : intCounts past s a)
    (hstep : step s a = some s') (h : Overlaps s a job) :
    ∃ later last, Run step intCounts s₀ (past ++ ⟨s, a, s'⟩ :: later) last ∧
      debitedGPUs (past ++ ⟨s, a, s'⟩ :: later) job <
        creditedGPUs (past ++ ⟨s, a, s'⟩ :: later) job := by
  obtain ⟨hand, other, hhand, hheld, hother, hne⟩ := h
  have hbetween := between hK h₀ hrun
  have hnext := hrun.take a hint hstep
  have hreturns := hbetween.tracked.returnsFor_of_heldBy hhand hheld hstep
  have hafter := between hK h₀ hnext
  obtain ⟨x, hx⟩ := hafter.tracked.debits_of_returnsFor (List.mem_append_right _
    (List.mem_singleton_self _)) hreturns
  obtain ⟨left, hleft⟩ := (heldBy_after_return hhand hstep).mpr ⟨other, hother, hne⟩
  obtain ⟨later, last, hlater, hcount⟩ :=
    hafter.canReturn hK (by simp [hx]) hleft
  have hwhole := hnext.append (fun _ _ _ _ hint => hint) hlater
  rw [List.append_assoc] at hwhole
  refine ⟨later, last, hwhole, lt_of_not_ge fun hle => ?_⟩
  have honce := (between hK h₀ hwhole).tracked.once_of_gpus hle
  rw [List.countP_append, List.countP_append, List.countP_singleton, if_pos hreturns] at honce
  omega

/--
In every run whose steps all meet the condition, whatever their order, the job is
credited once at most and with no more than was debited.  Where a step lets it overlap,
the run can go on so that more GPUs are credited.
-/
theorem credits_covered (hK : K.Documented) (hprint : K.Canonical) (h₀ : Idle s₀) (job : ℕ) :
    (∀ past s, Run step (Cautious job) s₀ past s → CreditsCovered past job) ∧
      ∀ past s a s', Run step intCounts s₀ past s → intCounts past s a → step s a = some s' →
        Overlaps s a job → ∃ later last,
          Run step intCounts s₀ (past ++ ⟨s, a, s'⟩ :: later) last ∧
            debitedGPUs (past ++ ⟨s, a, s'⟩ :: later) job <
              creditedGPUs (past ++ ⟨s, a, s'⟩ :: later) job := by
  constructor
  · intro past s hrun
    have h := released hK hprint h₀ hrun
    exact h.between.tracked.creditsCovered h.returned
  · intro past s a s' hrun hint hstep hoverlaps
    exact hoverlaps.returned_twice hK h₀ hrun hint hstep

theorem Cautious.of_unheld (hint : intCounts past s a)
    (h : ∀ hand, a.handFor job = some hand → ¬ HeldBy s job hand) : Cautious job past s a where
  counts := hint
  alone := fun ⟨hand, _, hhand, hheld, _⟩ => h hand hhand hheld
  texts hand hhand hheld := absurd hheld (h hand hhand)

theorem Cautious.of_only (hint : intCounts past s a) {hand : Hand}
    (hhand : a.handFor job = some hand) (honly : ∀ other, HeldBy s job other → other = hand)
    (htexts : ∀ x ∈ debits past job, hand.ReadsCovered x.req) : Cautious job past s a where
  counts := hint
  alone := by
    rintro ⟨hand', other, hhand', -, hother, hne⟩
    rw [hhand] at hhand'
    cases hhand'
    exact hne (honly other hother)
  texts hand' hhand' _ := by
    rw [hhand] at hhand'
    cases hhand'
    exact htexts

def canonicalState : State canonicalQuantities where
  providers := sampleState.providers
  pods _ := none
  nextJob := 0
  creates _ := none
  nextRequest := 0
  deletes _ := none
  watching := true
  events := []
  sweep := none

private theorem canonicalState_idle : Idle canonicalState :=
  ⟨fun _ => rfl, fun _ => rfl, fun _ => rfl, rfl, rfl⟩

private theorem sampleRequest_watchedCovered : WatchedCovered sampleRequest where
  cores := .inr ⟨_, rfl, .inr (by decide)⟩
  memory := .inr ⟨_, rfl, .inr (by decide)⟩

/-- A job whose pod is removed while the watch is up is returned once. -/
theorem credits_covered_removed : ∃ past s, Run step (Cautious 0) canonicalState past s ∧
    (credits past 0).length = 1 ∧ CreditsCovered past 0 := by
  have hstart : Run step (Cautious 0) canonicalState [] canonicalState := .nil
  have hopened := hstart.take (.createJob "alice" sampleRequest none none)
    (.of_unheld (by rintro _ _ _ _ ⟨⟩; decide) nofun) rfl
  have hallocated := hopened.take (.allocate 0)
    (.of_unheld (intCounts_of (by simp)) nofun) rfl
  have hpod := hallocated.take (.createPod 0 0 true)
    (.of_unheld (intCounts_of (by simp)) nofun) rfl
  have hserved := hpod.take (.createService 0 true)
    (.of_unheld (intCounts_of (by simp)) nofun) rfl
  have hadded := hserved.take .deliver (.of_unheld (intCounts_of (by simp)) (by
    rintro hand ⟨⟩ ⟨event, ⟨⟩, -, -, htells⟩
    rcases htells with htype | ⟨htype, -⟩ <;> cases htype)) rfl
  have hremoved := hadded.take (.removePod 0)
    (.of_unheld (intCounts_of (by simp)) nofun) rfl
  have hreturned := hremoved.take .deliver (.of_only (intCounts_of (by simp)) rfl (by
    intro other hother
    match other with
    | .creation => obtain ⟨t, ⟨⟩, -⟩ := hother
    | .deletion _ => obtain ⟨t, ⟨⟩, -⟩ := hother
    | .event 0 => rfl
    | .event (n + 1) => obtain ⟨event, ⟨⟩, -⟩ := hother
    | .listed _ => obtain ⟨w, info, ⟨⟩, -⟩ := hother
    | .pod => obtain ⟨pod, ⟨⟩, -⟩ := hother) (by
    intro x hx
    cases List.mem_singleton.mp hx
    exact sampleRequest_watchedCovered)) rfl
  exact ⟨_, _, hreturned, rfl, (credits_covered canonicalQuantities_documented
    canonicalQuantities_canonical canonicalState_idle 0).1 _ _ hreturned⟩

/-- The watch returns a failed pod, and so does the sweeper that deletes it. -/
theorem failed_pod_credited_twice : ∃ past s,
    Run step anyStep sampleState past s ∧ debitedGPUs past 0 = 2 ∧
      creditedGPUs past 0 = 4 ∧ ¬ CreditsCovered past 0 := by
  refine ⟨_, _, Run.of_isSome sampleFailure_runs, by decide, by decide,
    fun hcovered => ?_⟩
  exact absurd hcovered.gpus (by decide)

end WorldlandBroker.ControlPlane
