import WorldlandBroker.Job.NodeSteering
import WorldlandBroker.Mining.Resize

/-!
# Which pods a rental node takes

The scheduler places a pod on a node that has the labels it selects and no taint
against it that it does not tolerate.  Rental pods tolerate the taint of a rental
node, and mining pods do not.
-/

namespace WorldlandBroker.Mining.Scheduling

open Foundation Job NodeManager Resize

/-! ## The scheduler -/

/-- A toleration has no value of its own, so it names one only with `Exists`. -/
def tolerates (t : Taint) (toleration : Toleration) : Bool :=
  (toleration.key = "" || toleration.key = t.key) &&
    (toleration.effect = "" || toleration.effect = t.effect) &&
    (toleration.operator = "Exists" || t.value = "")

/-- Keeps a pod away, where another effect only advises against the node. -/
def keepsAway (t : Taint) : Bool := t.effect = "NoSchedule" || t.effect = "NoExecute"

variable {K : QuantityAPI}

def schedulable (tolerations : List Toleration) (selector : List (String × String))
    (node : SteeredNode K) : Bool :=
  (selector.all fun l => node.labels.lookup l.1 = some l.2) &&
    node.taints.all fun t => !keepsAway t || tolerations.any (tolerates t)

/-! ## Rental pods -/

def hostnameLabel : String := "kubernetes.io/hostname"

def buildNodeSelector (nodeHostname : String) : List (String × String) :=
  if nodeHostname ≠ "" then [(hostnameLabel, nodeHostname)] else [(rentalType, "gpu")]

def rentalTolerations : List Toleration := [⟨rentalTaint.key, "Exists", taintEffectNoSchedule⟩]

def isRental (t : Taint) : Bool := sameTaint rentalTaint.key rentalTaint.effect t

theorem tolerated_rental (t : Taint) : rentalTolerations.any (tolerates t) = isRental t := by
  simp [rentalTolerations, tolerates, isRental, sameTaint, taintEffectNoSchedule, rentalTaint,
    @eq_comm _ t.key, @eq_comm _ t.effect]

theorem isGPUFull_not_isRental {t : Taint} (h : isGPUFull t = true) : isRental t = false := by
  have hother : gpuFull ≠ rentalTaint.key := by decide
  simp only [isGPUFull, sameTaint, decide_eq_true_eq] at h
  simp [isRental, sameTaint, h.1, hother]

theorem isGPUFull_keepsAway {t : Taint} (h : isGPUFull t = true) : keepsAway t = true := by
  simp only [isGPUFull, sameTaint, decide_eq_true_eq] at h
  simp [keepsAway, h.2, taintEffectNoSchedule]

theorem isRental_keepsAway {t : Taint} (h : isRental t = true) : keepsAway t = true := by
  simp only [isRental, sameTaint, decide_eq_true_eq] at h
  simp [keepsAway, h.2, rentalTaint]

structure RentalNode (node : SteeredNode K) : Prop where
  dedicated : node.carries rentalTaint.key rentalTaint.effect = true
  gpu : node.labels.lookup rentalType = some "gpu"

def NoOtherTaint (node : SteeredNode K) : Prop :=
  ∀ t ∈ node.taints, keepsAway t = true → isRental t = true ∨ isGPUFull t = true

variable {node node' : SteeredNode K}

theorem selected_iff (h : RentalNode node) (nodeHostname : String) :
    ((buildNodeSelector nodeHostname).all fun l => node.labels.lookup l.1 = some l.2) = true ↔
      nodeHostname = "" ∨ node.labels.lookup hostnameLabel = some nodeHostname := by
  by_cases hname : nodeHostname = ""
  · simp [buildNodeSelector, hname, h.gpu]
  · simp [buildNodeSelector, hname]

theorem taints_pass_iff :
    (node.taints.all fun t => !keepsAway t || rentalTolerations.any (tolerates t)) = true ↔
      node.carries gpuFull taintEffectNoSchedule = false ∧ NoOtherTaint node := by
  simp only [tolerated_rental, List.all_eq_true, Bool.or_eq_true, Bool.not_eq_true',
    SteeredNode.carries, List.any_eq_false]
  constructor
  · intro hpass
    constructor
    · intro t ht hfull
      rcases hpass t ht with haway | hrental
      · rw [isGPUFull_keepsAway hfull] at haway
        cases haway
      · rw [isGPUFull_not_isRental hfull] at hrental
        cases hrental
    · intro t ht haway
      rcases hpass t ht with hstays | hrental
      · rw [haway] at hstays
        cases hstays
      · exact .inl hrental
  · rintro ⟨hfree, hother⟩ t ht
    cases haway : keepsAway t with
    | false => exact .inl rfl
    | true => exact .inr ((hother t ht haway).resolve_right (hfree t ht))

theorem rental_pod_schedulable_iff (h : RentalNode node) (nodeHostname : String) :
    schedulable rentalTolerations (buildNodeSelector nodeHostname) node = true ↔
      (nodeHostname = "" ∨ node.labels.lookup hostnameLabel = some nodeHostname) ∧
        node.carries gpuFull taintEffectNoSchedule = false ∧ NoOtherTaint node := by
  rw [schedulable, Bool.and_eq_true, selected_iff h, taints_pass_iff]

/-! ## Other pods -/

theorem not_schedulable {tolerations : List Toleration} (selector : List (String × String))
    (h : RentalNode node) (hnone : ∀ t, isRental t = true → tolerations.any (tolerates t) = false) :
    schedulable tolerations selector node = false := by
  obtain ⟨t, ht, hrental⟩ := List.any_eq_true.mp h.dedicated
  have hblocked : (!keepsAway t || tolerations.any (tolerates t)) = false := by
    rw [isRental_keepsAway hrental, hnone t hrental]
    rfl
  rw [schedulable, Bool.and_eq_false_iff]
  right
  rw [List.all_eq_false]
  exact ⟨t, ht, by simp [hblocked]⟩

theorem mining_pod_not_schedulable (h : RentalNode node) (providerID : String)
    (config : FullConfig) (nodeName : String) (limits requests : ResourceList K) :
    schedulable (miningPod providerID config nodeName limits requests).tolerations
      (miningPod providerID config nodeName limits requests).nodeSelector node = false := by
  apply not_schedulable _ h
  intro t hrental
  simp only [isRental, sameTaint, decide_eq_true_eq] at hrental
  simp [miningPod, tolerates, hrental.1, rentalTaint]

/-! ## Along every run -/

variable {toLower : Char → Char} {e : NodeEdit K}

theorem Steering.keeps_rental (h : Steering toLower e) :
    (e.label rentalType = none ∨ e.label rentalType = some (some "gpu")) ∧
      (e.taint rentalTaint.key rentalTaint.effect = none ∨
        e.taint rentalTaint.key rentalTaint.effect = some true) := by
  cases h with
  | handleHeartbeat | markNodeGPUFull | unmarkNodeGPUFull | checkStaleProviders
  | markNodeAsRentalBusy => exact ⟨.inl rfl, .inl rfl⟩
  | markNodeAsRentalAvailable => exact ⟨.inr rfl, .inl rfl⟩
  | dedicatedRental => exact ⟨.inl rfl, .inr rfl⟩
  | @labelNode providerID gpuModel label hlabel =>
      refine ⟨?_, .inl rfl⟩
      by_cases hkey : label.1 = rentalType
      · right
        rcases joinedLabels_cases hlabel with hjoined | rfl | hjoined | hjoined
        · exact absurd (hjoined.symm.trans hkey) (by decide)
        · rfl
        · exact absurd (hjoined.symm.trans hkey) (by decide)
        · exact absurd (hjoined.symm.trans hkey) (by decide)
      · exact .inl (label_single hkey)
  | foreign hforeign => exact ⟨.inl (hforeign.label (by decide)), .inl (hforeign.taint (by decide) _)⟩

theorem RentalNode.apply (h : RentalNode node) (hsteering : Steering toLower e)
    (happly : e.apply node = some node') : RentalNode node' := by
  obtain ⟨hlabel, htaint⟩ := Steering.keeps_rental hsteering
  constructor
  · rw [taint_apply happly]
    rcases htaint with htaint | htaint
    · rw [htaint]
      exact h.dedicated
    · rw [htaint]
      rfl
  · rw [label_apply happly]
    rcases hlabel with hlabel | hlabel
    · rw [hlabel]
      exact h.gpu
    · rw [hlabel]
      rfl

variable {κ : Type} [DecidableEq κ] {admits : SteeredNode K → Bool}
  {s₀ s : Shared (SteeredNode K) κ} {past : List (SharedStep (SteeredNode K) κ (NodeEdit K))}

/-- Whether the last edit that went through put the taint of a full node on, or took it off. -/
def markedFull (full : Bool) (past : List (SharedStep (SteeredNode K) κ (NodeEdit K))) : Bool :=
  ((past.filterMap committed).filterMap
    (NodeEdit.taint gpuFull taintEffectNoSchedule)).getLastD full

/--
Whoever reads and writes a rental node in which order: a mining pod never finds
place on it, and a rental pod does exactly where its hostname is not another one, the
last mark that went through does not have the node full, and no taint of anyone
else keeps it away.
-/
theorem rental_node_serves (hunread : ∀ client, s₀.held client = none)
    (hrental : RentalNode s₀.current.value)
    (hrun : Run (access NodeEdit.apply admits) (steered toLower) s₀ past s) :
    (∀ nodeHostname,
      schedulable rentalTolerations (buildNodeSelector nodeHostname) s.current.value = true ↔
        (nodeHostname = "" ∨
          s.current.value.labels.lookup hostnameLabel = some nodeHostname) ∧
        markedFull (s₀.current.value.carries gpuFull taintEffectNoSchedule) past = false ∧
        NoOtherTaint s.current.value) ∧
    ∀ providerID config nodeName (limits requests : ResourceList K),
      schedulable (miningPod providerID config nodeName limits requests).tolerations
        (miningPod providerID config nodeName limits requests).nodeSelector
        s.current.value = false := by
  have hfresh := fresh_of_unread hunread
  have hstill : RentalNode s.current.value :=
    hrun.edited hfresh hrental fun e _ _ hsteering happly _ h => h.apply hsteering happly
  have hfull : s.current.value.carries gpuFull taintEffectNoSchedule =
      markedFull (s₀.current.value.carries gpuFull taintEffectNoSchedule) past :=
    hrun.last_written (f := fun node => node.carries gpuFull taintEffectNoSchedule) hfresh
      fun _ _ _ _ happly => taint_apply happly _ _
  constructor
  · intro nodeHostname
    rw [rental_pod_schedulable_iff hstill, hfull]
  · exact mining_pod_not_schedulable hstill

/-! ## A node that is full for a while -/

def sampleRentalNode : SteeredNode sampleQuantities where
  taints := [rentalTaint]
  gpus := some ⟨2000, false⟩
  labels := setAll ∅ (joinedLabels "p1" (some "RTX 4090"))
  annotations := ∅

def sampleMarks : List (Access Bool (NodeEdit sampleQuantities)) :=
  [.get true, .update true (.addNodeTaint gpuFullTaint) true, .get true, .get false,
    .update true (.removeNodeTaint gpuFull taintEffectNoSchedule) true,
    .update false (.setNodeLabels (statusLabels "busy")) true]

theorem sampleMarks_steered : ∀ a ∈ sampleMarks, ∀ e ∈ a.edit?, Steering Char.toLower e := by
  intro a ha e he
  simp only [sampleMarks, List.mem_cons, List.not_mem_nil, or_false] at ha
  rcases ha with rfl | rfl | rfl | rfl | rfl | rfl <;> cases he
  · exact .markNodeGPUFull
  · exact .unmarkNodeGPUFull
  · exact .markNodeAsRentalBusy

theorem sampleMarks_run :
    ∃ run ∈ trace (access NodeEdit.apply fun _ => true)
      (⟨⟨sampleRentalNode, 1⟩, fun _ => none⟩ : Shared _ Bool) sampleMarks,
      markedFull false run.1 = false ∧ run.2.current.version = 3 ∧
        run.2.current.value.taints = [rentalTaint] := by
  decide +kernel

theorem rental_node_serves_sample :
    ∃ s : Shared (SteeredNode sampleQuantities) Bool, s.current.version = 3 ∧
      schedulable rentalTolerations (buildNodeSelector "") s.current.value = true ∧
      schedulable [⟨"nvidia.com/gpu", "Exists", "NoSchedule"⟩] [] s.current.value = false := by
  obtain ⟨run, hrun, hfree, hversion, htaints⟩ := sampleMarks_run
  have hguarded : Run (access NodeEdit.apply fun _ => true) (steered Char.toLower) _ run.1 run.2 :=
    (Run.of_trace hrun).guarded fun r hr => sampleMarks_steered r.act (trace_act_mem hrun hr)
  obtain ⟨hrentals, hmining⟩ :=
    rental_node_serves (fun _ => rfl) ⟨by decide +kernel, by decide +kernel⟩ hguarded
  refine ⟨run.2, hversion, (hrentals "").mpr ⟨.inl rfl, hfree, ?_⟩, ?_⟩
  · intro t ht haway
    rw [htaints, List.mem_singleton] at ht
    subst ht
    exact .inl (by decide)
  · exact hmining "p1" ⟨⟨1, 1, 1⟩, "", [], ""⟩ "" ⟨⟨0, false⟩, ⟨0, false⟩, none⟩
      ⟨⟨0, false⟩, ⟨0, false⟩, none⟩

end WorldlandBroker.Mining.Scheduling
