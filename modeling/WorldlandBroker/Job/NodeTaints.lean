import WorldlandBroker.Job.Quantity
import WorldlandBroker.Provider.Ledger

/-!
# The taint of a full node

The control plane marks a node that has no GPUs to give with a taint, so that the
scheduler leaves it alone.  Taints are told apart by key and effect.  Whether a
node is full is decided by the GPUs it has and not by those that are left.
-/

namespace WorldlandBroker.Job.NodeManager

open Provider

structure Taint where
  key : String
  value : String
  effect : String
  deriving DecidableEq

/-- `gpus` is `Allocatable["nvidia.com/gpu"]`, where the device plugin reports it. -/
structure Node (K : QuantityAPI) where
  taints : List Taint
  gpus : Option K.Quantity

/-- `gpuRequests` has `Requests["nvidia.com/gpu"]` of each container. -/
structure NodePod (K : QuantityAPI) where
  nodeName : String
  phase : String
  gpuRequests : List (Option K.Quantity)

structure NodeState (K : QuantityAPI) where
  nodes : String → Option (Node K)
  pods : List (NodePod K)

variable {K : QuantityAPI}

/-- How the API server answers one request; a node that does not exist is not found. -/
abbrev Answer := Outcome

def getNode (s : NodeState K) (nodeName : String) (get : Answer) : Except String (Node K) :=
  match get with
  | .error message => .error message
  | .ok _ =>
      match s.nodes nodeName with
      | none => .error s!"nodes \"{nodeName}\" not found"
      | some node => .ok node

def updateNode (s : NodeState K) (nodeName : String) (node : Node K) : NodeState K :=
  { s with nodes := fun name => if name = nodeName then some node else s.nodes name }

/-! ## Taints -/

def sameTaint (key effect : String) (t : Taint) : Bool :=
  t.key = key ∧ t.effect = effect

def addNodeTaint (s : NodeState K) (nodeName : String) (taint : Taint) (get update : Answer) :
    Outcome × NodeState K :=
  match getNode s nodeName get with
  | .error message => (.error s!"failed to get node: {message}", s)
  | .ok node =>
      if node.taints.any (sameTaint taint.key taint.effect) then (.ok (), s)
      else
        match update with
        | .error message => (.error s!"failed to add taint: {message}", s)
        | .ok _ =>
            (.ok (), updateNode s nodeName { node with taints := node.taints ++ [taint] })

def removeNodeTaint (s : NodeState K) (nodeName taintKey effect : String)
    (get update : Answer) : Outcome × NodeState K :=
  match getNode s nodeName get with
  | .error message => (.error s!"failed to get node: {message}", s)
  | .ok node =>
      match update with
      | .error message => (.error s!"failed to remove taint: {message}", s)
      | .ok _ =>
          (.ok (), updateNode s nodeName
            { node with taints := node.taints.filter fun t => !sameTaint taintKey effect t })

/-! ## GPUs -/

def allocatableGPU (node : Node K) : ℤ :=
  match node.gpus with
  | none => 0
  | some gpus => K.value gpus

def getNodeAllocatableGPU (s : NodeState K) (nodeName : String) (get : Answer) :
    Except String ℤ :=
  match getNode s nodeName get with
  | .error message => .error s!"failed to get node: {message}"
  | .ok node => .ok (allocatableGPU node)

def NodePod.requestedGPUs (pod : NodePod K) : ℤ :=
  (pod.gpuRequests.map fun gpuReq => gpuReq.elim 0 K.value).sum

/-- `spec.nodeName=...,status.phase=Running`, in all namespaces. -/
def runningOn (nodeName : String) (pod : NodePod K) : Bool :=
  pod.nodeName = nodeName ∧ pod.phase = "Running"

def usedGPUs (s : NodeState K) (nodeName : String) : ℤ :=
  ((s.pods.filter (runningOn nodeName)).map NodePod.requestedGPUs).sum

def getNodeAvailableGPU (s : NodeState K) (nodeName : String) (get list : Answer) :
    Except String ℤ :=
  match getNodeAllocatableGPU s nodeName get with
  | .error message => .error message
  | .ok allocatable =>
      match list with
      | .error message => .error s!"failed to list pods on node: {message}"
      | .ok _ =>
          let available := allocatable - usedGPUs s nodeName
          .ok (if available < 0 then 0 else available)

/-! ## The GPU-full taint -/

def gpuFull : String := "worldland.io/gpu-full"

def taintEffectNoSchedule : String := "NoSchedule"

def gpuFullTaint : Taint := ⟨gpuFull, "true", taintEffectNoSchedule⟩

def isGPUFull (t : Taint) : Bool := sameTaint gpuFull taintEffectNoSchedule t

def markNodeGPUFull (s : NodeState K) (nodeName : String) (get update : Answer) :
    Outcome × NodeState K :=
  addNodeTaint s nodeName gpuFullTaint get update

def unmarkNodeGPUFull (s : NodeState K) (nodeName : String) (get update : Answer) :
    Outcome × NodeState K :=
  removeNodeTaint s nodeName gpuFull taintEffectNoSchedule get update

/-- The node is read once to decide and once more to be edited. -/
def checkAndUpdateGPUTaint (s : NodeState K) (nodeName : String)
    (check get update : Answer) : Outcome × NodeState K :=
  match getNodeAllocatableGPU s nodeName check with
  | .error message => (.error message, s)
  | .ok gpuCount =>
      if gpuCount = 0 then markNodeGPUFull s nodeName get update
      else unmarkNodeGPUFull s nodeName get update

/-! ## What an edit leaves -/

def editedTaints (node : Node K) : List Taint :=
  if allocatableGPU node = 0 then
    if node.taints.any isGPUFull then node.taints else node.taints ++ [gpuFullTaint]
  else node.taints.filter fun t => !isGPUFull t

variable {s s' : NodeState K} {nodeName : String} {get update : Answer} {node : Node K}

theorem getNode_eq_ok (h : getNode s nodeName get = .ok node) : s.nodes nodeName = some node := by
  unfold getNode at h
  split at h
  · contradiction
  · split at h
    · contradiction
    · rename_i hnode
      cases h
      exact hnode

@[simp] theorem updateNode_nodes (s : NodeState K) (nodeName : String) (node : Node K) :
    (updateNode s nodeName node).nodes nodeName = some node :=
  if_pos rfl

@[simp] theorem updateNode_pods (s : NodeState K) (nodeName : String) (node : Node K) :
    (updateNode s nodeName node).pods = s.pods :=
  rfl

structure Retainted (s s' : NodeState K) (nodeName : String) (node : Node K)
    (taints : List Taint) : Prop where
  before : s.nodes nodeName = some node
  after : s'.nodes nodeName = some { node with taints := taints }
  pods : s'.pods = s.pods
  others : ∀ name ≠ nodeName, s'.nodes name = s.nodes name

theorem retainted_update {taints : List Taint} (h : s.nodes nodeName = some node) :
    Retainted s (updateNode s nodeName { node with taints := taints }) nodeName node taints :=
  ⟨h, updateNode_nodes s nodeName _, rfl, fun _ hother => if_neg hother⟩

theorem addNodeTaint_ok {taint : Taint}
    (h : addNodeTaint s nodeName taint get update = (.ok (), s')) :
    ∃ node, Retainted s s' nodeName node
      (if node.taints.any (sameTaint taint.key taint.effect) then node.taints
        else node.taints ++ [taint]) := by
  unfold addNodeTaint at h
  split at h
  · cases h
  · rename_i node hget
    have hnode := getNode_eq_ok hget
    refine ⟨node, ?_⟩
    split at h
    · rename_i hthere
      cases h
      rw [if_pos hthere]
      exact ⟨hnode, hnode, rfl, fun _ _ => rfl⟩
    · rename_i habsent
      rw [if_neg habsent]
      cases update with
      | error message => cases h
      | ok =>
          cases h
          exact retainted_update hnode

theorem removeNodeTaint_ok {key effect : String}
    (h : removeNodeTaint s nodeName key effect get update = (.ok (), s')) :
    ∃ node, Retainted s s' nodeName node
      (node.taints.filter fun t => !sameTaint key effect t) := by
  unfold removeNodeTaint at h
  split at h
  · cases h
  · rename_i node hget
    cases update with
    | error message => cases h
    | ok =>
        cases h
        exact ⟨node, retainted_update (getNode_eq_ok hget)⟩

theorem checkAndUpdateGPUTaint_ok {check : Answer}
    (h : checkAndUpdateGPUTaint s nodeName check get update = (.ok (), s')) :
    ∃ node, Retainted s s' nodeName node (editedTaints node) := by
  unfold checkAndUpdateGPUTaint getNodeAllocatableGPU at h
  split at h
  · cases h
  · rename_i gpuCount hcount
    split at hcount
    · cases hcount
    · rename_i node hget
      cases hcount
      have hnode := getNode_eq_ok hget
      split at h
      · rename_i hnone
        obtain ⟨node', hedit⟩ := addNodeTaint_ok h
        obtain rfl : node' = node := Option.some.inj (hedit.before.symm.trans hnode)
        refine ⟨node', ?_⟩
        rw [editedTaints, if_pos hnone]
        exact hedit
      · rename_i hsome
        obtain ⟨node', hedit⟩ := removeNodeTaint_ok h
        obtain rfl : node' = node := Option.some.inj (hedit.before.symm.trans hnode)
        refine ⟨node', ?_⟩
        rw [editedTaints, if_neg hsome]
        exact hedit

/-! ## The taint and what is available -/

structure TaintReflects (s s' : NodeState K) (nodeName : String) (node node' : Node K) :
    Prop where
  before : s.nodes nodeName = some node
  after : s'.nodes nodeName = some node'
  full : (∃ t ∈ node'.taints, isGPUFull t) ↔
    getNodeAvailableGPU s' nodeName (.ok ()) (.ok ()) = .ok 0
  once : node'.taints.countP isGPUFull ≤ 1
  others : (node'.taints.filter fun t => !isGPUFull t) =
    node.taints.filter fun t => !isGPUFull t

def IdleOrWithoutGPUs (s : NodeState K) (nodeName : String) (node : Node K) : Prop :=
  (allocatableGPU node = 0 ∧ 0 ≤ usedGPUs s nodeName ∧
      node.taints.countP isGPUFull ≤ 1) ∨
    (allocatableGPU node ≠ 0 ∧ usedGPUs s nodeName < allocatableGPU node)

instance (s : NodeState K) (nodeName : String) (node : Node K) :
    Decidable (IdleOrWithoutGPUs s nodeName node) :=
  inferInstanceAs (Decidable (_ ∨ _))

theorem available_eq_zero (hnode : s.nodes nodeName = some node) :
    getNodeAvailableGPU s nodeName (.ok ()) (.ok ()) = .ok 0 ↔
      allocatableGPU node ≤ usedGPUs s nodeName := by
  simp only [getNodeAvailableGPU, getNodeAllocatableGPU, getNode, hnode, Except.ok.injEq]
  split <;> omega

theorem isGPUFull_gpuFullTaint : isGPUFull gpuFullTaint = true := by
  decide

theorem countP_pos_iff_carried (taints : List Taint) :
    (∃ t ∈ taints, isGPUFull t) ↔ 0 < taints.countP isGPUFull :=
  List.countP_pos_iff.symm

theorem others_editedTaints (node : Node K) :
    ((editedTaints node).filter fun t => !isGPUFull t) =
      node.taints.filter fun t => !isGPUFull t := by
  unfold editedTaints
  split
  · split
    · rfl
    · simp [isGPUFull_gpuFullTaint]
  · rw [List.filter_filter]
    simp

theorem countP_editedTaints (node : Node K) :
    (editedTaints node).countP isGPUFull =
      if allocatableGPU node = 0 then max (node.taints.countP isGPUFull) 1 else 0 := by
  unfold editedTaints
  split
  · split
    · rename_i hthere
      have hpositive := (countP_pos_iff_carried node.taints).mp (List.any_eq_true.mp hthere)
      exact (max_eq_left hpositive).symm
    · rename_i habsent
      have hzero : node.taints.countP isGPUFull = 0 := by
        by_contra hpositive
        have hthere := (countP_pos_iff_carried node.taints).mpr (Nat.pos_of_ne_zero hpositive)
        exact habsent (List.any_eq_true.mpr hthere)
      simp [hzero, isGPUFull_gpuFullTaint]
  · rw [List.countP_eq_zero]
    intro t ht
    simpa using (List.mem_filter.mp ht).2

theorem Retainted.used (h : Retainted s s' nodeName node (editedTaints node)) :
    usedGPUs s' nodeName = usedGPUs s nodeName := by
  simp only [usedGPUs, h.pods]

/--
After a successful call the taint stands for the GPUs that are left exactly where
the node has no GPUs at all or some of them are left.
-/
theorem taint_reflects_available_iff {check : Answer}
    (h : checkAndUpdateGPUTaint s nodeName check get update = (.ok (), s')) :
    ∃ node node', s.nodes nodeName = some node ∧ s'.nodes nodeName = some node' ∧
      (TaintReflects s s' nodeName node node' ↔ IdleOrWithoutGPUs s nodeName node) := by
  obtain ⟨node, hedit⟩ := checkAndUpdateGPUTaint_ok h
  refine ⟨node, _, hedit.before, hedit.after, ?_⟩
  have hcount := countP_editedTaints node
  have hcarried := countP_pos_iff_carried (editedTaints node)
  have havailable := available_eq_zero hedit.after
  rw [hedit.used] at havailable
  change _ ↔ allocatableGPU node ≤ usedGPUs s nodeName at havailable
  constructor
  · intro hreflects
    have hfull := hreflects.full
    have honce := hreflects.once
    simp only at hfull honce
    rw [hcarried, havailable] at hfull
    by_cases hnone : allocatableGPU node = 0
    · rw [if_pos hnone] at hcount
      exact .inl ⟨hnone, by omega, by omega⟩
    · rw [if_neg hnone] at hcount
      exact .inr ⟨hnone, by omega⟩
  · intro hidle
    refine ⟨hedit.before, hedit.after, ?_, ?_, others_editedTaints node⟩
    · rw [havailable, hcarried]
      rcases hidle with ⟨hnone, hused, honce⟩ | ⟨hsome, hleft⟩
      · rw [if_pos hnone] at hcount
        omega
      · rw [if_neg hsome] at hcount
        omega
    · simp only
      rcases hidle with ⟨hnone, hused, honce⟩ | ⟨hsome, hleft⟩
      · rw [if_pos hnone] at hcount
        omega
      · rw [if_neg hsome] at hcount
        omega

/-! ## A node with two GPUs -/

def rentalTaint : Taint := ⟨"worldland.io/dedicated-rental", "true", "NoSchedule"⟩

def rentalNode (taints : List Taint) (requested : List ℕ) : NodeState sampleQuantities where
  nodes name := if name = "node-1" then some ⟨taints, some ⟨2000, false⟩⟩ else none
  pods := requested.map fun n => ⟨"node-1", "Running", [some ⟨n * 1000, false⟩]⟩

/-- One of two GPUs is in use, and the taint goes. -/
theorem taint_reflects_available_left :
    ∃ s' node node',
      checkAndUpdateGPUTaint (rentalNode [rentalTaint, gpuFullTaint] [1]) "node-1" (.ok ())
        (.ok ()) (.ok ()) = (.ok (), s') ∧
      s'.nodes "node-1" = some node' ∧ node'.taints = [rentalTaint] ∧
      TaintReflects (rentalNode [rentalTaint, gpuFullTaint] [1]) s' "node-1" node node' := by
  have hchecked : checkAndUpdateGPUTaint (rentalNode [rentalTaint, gpuFullTaint] [1]) "node-1"
      (.ok ()) (.ok ()) (.ok ()) = (.ok (), _) := rfl
  obtain ⟨node, node', hbefore, hafter, hreflects⟩ := taint_reflects_available_iff hchecked
  cases hbefore
  cases hafter
  exact ⟨_, _, _, hchecked, rfl, by decide, hreflects.mpr (by decide)⟩

/-- Both GPUs are in use, and the node goes without the taint. -/
theorem full_node_untainted :
    ∃ s' node node',
      checkAndUpdateGPUTaint (rentalNode [rentalTaint] [1, 1]) "node-1" (.ok ()) (.ok ())
        (.ok ()) = (.ok (), s') ∧
      (rentalNode [rentalTaint] [1, 1]).nodes "node-1" = some node ∧
      s'.nodes "node-1" = some node' ∧
      getNodeAvailableGPU s' "node-1" (.ok ()) (.ok ()) = .ok 0 ∧
      ¬ TaintReflects (rentalNode [rentalTaint] [1, 1]) s' "node-1" node node' := by
  refine ⟨_, _, _, rfl, rfl, rfl, rfl, fun hreflects => ?_⟩
  obtain ⟨t, ht, hfull⟩ := hreflects.full.mpr rfl
  revert t
  decide

end WorldlandBroker.Job.NodeManager
