import WorldlandBroker.Foundation.Optimistic
import WorldlandBroker.Foundation.TimeText
import WorldlandBroker.Job.NodeTaints
import Mathlib.Data.List.AList

/-!
# Labels and taints on a node

Every call reads the node, changes it and writes the whole of it back; the
provider's own labels come as patches.  No edit that the API server takes is lost.
It never takes a heartbeat's labels: the instant they give has colons, which the
value of a label may not have.
-/

namespace WorldlandBroker.Job.NodeManager

open Foundation Provider

abbrev StringMap := AList fun _ : String => String

structure SteeredNode (K : QuantityAPI) extends Node K where
  labels : StringMap
  annotations : StringMap

inductive NodeEdit (K : QuantityAPI) where
  | setNodeLabels (labels : List (String × String))
  | removeNodeLabels (labelKeys : List String)
  | setNodeAnnotations (annotations : List (String × String))
  | addNodeTaint (taint : Taint)
  | removeNodeTaint (taintKey effect : String)
  -- what the device plugin reports
  | updateStatus (gpus : Option K.Quantity)

variable {K : QuantityAPI}

/-- `for k, v := range pairs { m[k] = v }` -/
def setAll (m : StringMap) (pairs : List (String × String)) : StringMap :=
  pairs.foldl (fun m pair => m.insert pair.1 pair.2) m

def deleteAll (m : StringMap) (keys : List String) : StringMap :=
  keys.foldl (fun m key => m.erase key) m

/-- A taint that is there already makes no request. -/
def NodeEdit.apply : NodeEdit K → SteeredNode K → Option (SteeredNode K)
  | .setNodeLabels labels, node => some { node with labels := setAll node.labels labels }
  | .removeNodeLabels labelKeys, node =>
      some { node with labels := deleteAll node.labels labelKeys }
  | .setNodeAnnotations annotations, node =>
      some { node with annotations := setAll node.annotations annotations }
  | .addNodeTaint taint, node =>
      if node.taints.any (sameTaint taint.key taint.effect) then none
      else some { node with taints := node.taints ++ [taint] }
  | .removeNodeTaint taintKey effect, node =>
      some { node with taints := node.taints.filter fun t => !sameTaint taintKey effect t }
  | .updateStatus gpus, node => some { node with gpus := gpus }

/-! ## What the broker and the provider write -/

theorem utc_above (_ : ℤ) : (-86400 : ℤ) < 0 := by
  omega

theorem utc_below (_ : ℤ) : (0 : ℤ) < 86400 := by
  omega

def utc : Zone := ⟨fun _ => 0, utc_above, utc_below⟩

def activeJobs : String := "worldland.io/active-jobs"

def lastHeartbeat : String := "worldland.io/last-heartbeat"

def rentalStatus : String := "worldland.io/rental-status"

def rentalType : String := "worldland.io/rental-type"

def heartbeatLabels (jobs now : ℤ) : List (String × String) :=
  [(activeJobs, decimal jobs), (lastHeartbeat, String.ofList (utc.text now))]

def statusLabels (status : String) : List (String × String) := [(rentalStatus, status)]

def hyphenated (gpuModel : String) : List Char :=
  gpuModel.toList.map fun c => if c = ' ' then '-' else c

/-- `toLower` is what Go takes for the lower case. -/
def rentalLabels (toLower : Char → Char) (providerID gpuModel : String) :
    List (String × String) :=
  [("worldland.io/provider-id", providerID), (rentalType, "gpu"),
    ("worldland.io/gpu-model", String.ofList ((hyphenated gpuModel).map toLower)),
    ("worldland.io/blockchain-provider", "worldland"), (rentalStatus, "available")]

/-- One `kubectl label` each; `gpuModel` is that of the first GPU. -/
def joinedLabels (providerID : String) (gpuModel : Option String) : List (String × String) :=
  [("worldland.io/provider-id", providerID), (rentalType, "gpu"),
    ("worldland.io/blockchain-provider", "true")] ++
  gpuModel.toList.map fun model => ("worldland.io/gpu-model", String.ofList (hyphenated model))

def steeringKeys : List String :=
  ["worldland.io/provider-id", rentalType, "worldland.io/gpu-model",
    "worldland.io/blockchain-provider", rentalStatus, activeJobs, lastHeartbeat, gpuFull,
    rentalTaint.key]

def NodeEdit.Foreign : NodeEdit K → Prop
  | .setNodeLabels labels => ∀ l ∈ labels, l.1 ∉ steeringKeys
  | .removeNodeLabels labelKeys => ∀ key ∈ labelKeys, key ∉ steeringKeys
  | .addNodeTaint taint => taint.key ∉ steeringKeys
  | .removeNodeTaint taintKey _ => taintKey ∉ steeringKeys
  | .setNodeAnnotations _ | .updateStatus _ => True

inductive Steering (toLower : Char → Char) : NodeEdit K → Prop where
  | handleHeartbeat (jobs now : ℤ) : Steering toLower (.setNodeLabels (heartbeatLabels jobs now))
  | markNodeGPUFull : Steering toLower (.addNodeTaint gpuFullTaint)
  | unmarkNodeGPUFull : Steering toLower (.removeNodeTaint gpuFull taintEffectNoSchedule)
  | checkStaleProviders : Steering toLower (.setNodeLabels (statusLabels "offline"))
  | markNodeAsRentalAvailable (providerID gpuModel : String) :
      Steering toLower (.setNodeLabels (rentalLabels toLower providerID gpuModel))
  | dedicatedRental : Steering toLower (.addNodeTaint rentalTaint)
  | markNodeAsRentalBusy : Steering toLower (.setNodeLabels (statusLabels "busy"))
  | labelNode {providerID : String} {gpuModel : Option String} {label : String × String} :
      label ∈ joinedLabels providerID gpuModel → Steering toLower (.setNodeLabels [label])
  | foreign {e : NodeEdit K} : e.Foreign → Steering toLower e

/-- Anyone may read the node and write it back, at any time. -/
def steered (toLower : Char → Char) {κ : Type} :
    Guard (Shared (SteeredNode K) κ) (Access κ (NodeEdit K)) :=
  fun _ _ a => ∀ e ∈ a.edit?, Steering toLower e

/-! ## What an edit does to one label or taint -/

def written (key : String) : List (String × String) → Option String
  | [] => none
  | (k, value) :: rest => (written key rest).or (if k = key then some value else none)

theorem lookup_setAll (key : String) (pairs : List (String × String)) (m : StringMap) :
    (setAll m pairs).lookup key = (written key pairs).or (m.lookup key) := by
  induction pairs generalizing m with
  | nil => rfl
  | cons pair rest ih =>
      have hstep : setAll m (pair :: rest) = setAll (m.insert pair.1 pair.2) rest := rfl
      rw [hstep, ih, written]
      by_cases hkey : pair.1 = key
      · subst hkey
        simp
      · rw [AList.lookup_insert_ne (Ne.symm hkey), if_neg hkey, Option.or_none]

theorem lookup_deleteAll (key : String) (keys : List String) (m : StringMap) :
    (deleteAll m keys).lookup key = if key ∈ keys then none else m.lookup key := by
  induction keys generalizing m with
  | nil => rfl
  | cons k rest ih =>
      have hstep : deleteAll m (k :: rest) = deleteAll (m.erase k) rest := rfl
      rw [hstep, ih]
      by_cases hkey : key = k
      · subst hkey
        simp
      · rw [AList.lookup_erase_ne hkey]
        simp [hkey]

theorem written_eq_none {key : String} {pairs : List (String × String)}
    (h : ∀ pair ∈ pairs, pair.1 ≠ key) : written key pairs = none := by
  induction pairs with
  | nil => rfl
  | cons pair rest ih =>
      rw [written, ih fun p hp => h p (List.mem_cons_of_mem _ hp),
        if_neg (h pair List.mem_cons_self), Option.or_none]

def NodeEdit.label (key : String) : NodeEdit K → Option (Option String)
  | .setNodeLabels labels => (written key labels).map some
  | .removeNodeLabels labelKeys => if key ∈ labelKeys then some none else none
  | _ => none

def NodeEdit.taint (key effect : String) : NodeEdit K → Option Bool
  | .addNodeTaint taint => if sameTaint key effect taint then some true else none
  | .removeNodeTaint taintKey e => if taintKey = key ∧ e = effect then some false else none
  | _ => none

def SteeredNode.carries (node : SteeredNode K) (key effect : String) : Bool :=
  node.taints.any (sameTaint key effect)

variable {e : NodeEdit K} {node node' : SteeredNode K}

theorem label_apply (h : e.apply node = some node') (key : String) :
    node'.labels.lookup key = (e.label key).getD (node.labels.lookup key) := by
  cases e with
  | setNodeLabels labels =>
      cases h
      simp only [NodeEdit.label, lookup_setAll]
      cases written key labels <;> rfl
  | removeNodeLabels labelKeys =>
      cases h
      simp only [NodeEdit.label, lookup_deleteAll]
      split <;> rfl
  | addNodeTaint taint =>
      simp only [NodeEdit.apply] at h
      split at h
      · cases h
      · cases h
        rfl
  | setNodeAnnotations annotations =>
      cases h
      rfl
  | removeNodeTaint taintKey effect =>
      cases h
      rfl
  | updateStatus gpus =>
      cases h
      rfl

theorem any_filter_sameTaint (key effect taintKey effect' : String) (taints : List Taint) :
    (taints.filter fun t => !sameTaint taintKey effect' t).any (sameTaint key effect) =
      if taintKey = key ∧ effect' = effect then false else taints.any (sameTaint key effect) := by
  induction taints with
  | nil => simp
  | cons t rest ih =>
      by_cases hsame : taintKey = key ∧ effect' = effect
      · obtain ⟨rfl, rfl⟩ := hsame
        simp
      · rw [if_neg hsame] at ih ⊢
        by_cases hgone : sameTaint taintKey effect' t = true
        · have hother : sameTaint key effect t = false := by
            simp only [sameTaint, decide_eq_true_eq, decide_eq_false_iff_not] at hgone ⊢
            rintro ⟨rfl, rfl⟩
            exact hsame ⟨hgone.1.symm, hgone.2.symm⟩
          simp [hgone, hother, ih]
        · simp [hgone, ih]

theorem taint_apply (h : e.apply node = some node') (key effect : String) :
    node'.carries key effect = (e.taint key effect).getD (node.carries key effect) := by
  cases e with
  | addNodeTaint taint =>
      simp only [NodeEdit.apply] at h
      split at h
      · cases h
      · cases h
        simp only [SteeredNode.carries, NodeEdit.taint, List.any_append, List.any_cons,
          List.any_nil, Bool.or_false]
        cases sameTaint key effect taint <;> simp
  | removeNodeTaint taintKey e =>
      cases h
      simp only [SteeredNode.carries, NodeEdit.taint, any_filter_sameTaint]
      split <;> rfl
  | setNodeLabels labels =>
      cases h
      rfl
  | removeNodeLabels labelKeys =>
      cases h
      rfl
  | setNodeAnnotations annotations =>
      cases h
      rfl
  | updateStatus gpus =>
      cases h
      rfl

/-! ## Which edits touch what -/

theorem NodeEdit.Foreign.label (h : e.Foreign) {key : String} (hkey : key ∈ steeringKeys) :
    e.label key = none := by
  cases e with
  | setNodeLabels labels =>
      have hnone : written key labels = none :=
        written_eq_none fun l hl hsame => h l hl (hsame ▸ hkey)
      simp [NodeEdit.label, hnone]
  | removeNodeLabels labelKeys =>
      have habsent : key ∉ labelKeys := fun hmem => h key hmem hkey
      simp [NodeEdit.label, habsent]
  | addNodeTaint | removeNodeTaint | setNodeAnnotations | updateStatus => rfl

theorem NodeEdit.Foreign.taint (h : e.Foreign) {key : String} (hkey : key ∈ steeringKeys)
    (effect : String) : e.taint key effect = none := by
  cases e with
  | addNodeTaint taint =>
      have hother : taint.key ≠ key := fun hsame => h (hsame ▸ hkey)
      simp [NodeEdit.taint, sameTaint, hother]
  | removeNodeTaint taintKey e =>
      have hother : taintKey ≠ key := fun hsame => h (hsame ▸ hkey)
      simp [NodeEdit.taint, hother]
  | setNodeLabels | removeNodeLabels | setNodeAnnotations | updateStatus => rfl

theorem joinedLabels_cases {providerID : String} {gpuModel : Option String}
    {label : String × String} (h : label ∈ joinedLabels providerID gpuModel) :
    label.1 = "worldland.io/provider-id" ∨ label = (rentalType, "gpu") ∨
      label.1 = "worldland.io/blockchain-provider" ∨ label.1 = "worldland.io/gpu-model" := by
  simp only [joinedLabels, List.mem_append, List.mem_cons, List.not_mem_nil, or_false,
    List.mem_map] at h
  rcases h with (rfl | rfl | rfl) | ⟨model, -, rfl⟩ <;> simp

theorem label_single {label : String × String} {key : String} (h : label.1 ≠ key) :
    (NodeEdit.setNodeLabels [label] : NodeEdit K).label key = none := by
  simp [NodeEdit.label, written, h]

/-! ## What the API server refuses -/

def labelChar (c : Char) : Bool := c.isAlphanum || c = '-' || c = '_' || c = '.'

def RefusesBadLabels (admits : SteeredNode K → Bool) : Prop :=
  ∀ node, admits node = true → ∀ key value, node.labels.lookup key = some value →
    ∀ c ∈ value.toList, labelChar c = true

theorem colon_mem_text (zone : Zone) (instant : ℤ) : ':' ∈ zone.text instant := by
  simp [Zone.text, clockText]

theorem heartbeat_refused {admits : SteeredNode K → Bool} (hadmits : RefusesBadLabels admits)
    {jobs now : ℤ} (h : (NodeEdit.setNodeLabels (heartbeatLabels jobs now)).apply node =
      some node') : admits node' = false := by
  by_contra hadmitted
  have hlabel : node'.labels.lookup lastHeartbeat = some (String.ofList (utc.text now)) := by
    rw [label_apply h]
    rfl
  have hchar := hadmits node' (by simpa using hadmitted) _ _ hlabel ':'
    (by simpa using colon_mem_text utc now)
  exact absurd hchar (by decide)

/-! ## The labels along every run -/

variable {toLower : Char → Char} {κ : Type} [DecidableEq κ] {admits : SteeredNode K → Bool}
  {s₀ s : Shared (SteeredNode K) κ}
  {past : List (SharedStep (SteeredNode K) κ (NodeEdit K))}

theorem Steering.label_heartbeat (h : Steering toLower e) {key : String}
    (hkey : key = activeJobs ∨ key = lastHeartbeat) :
    e.label key = none ∨ ∃ jobs now, e = .setNodeLabels (heartbeatLabels jobs now) := by
  cases h with
  | handleHeartbeat jobs now => exact .inr ⟨jobs, now, rfl⟩
  | markNodeGPUFull | unmarkNodeGPUFull | dedicatedRental => exact .inl rfl
  | checkStaleProviders | markNodeAsRentalBusy | markNodeAsRentalAvailable =>
      left
      rcases hkey with rfl | rfl <;> rfl
  | labelNode hlabel =>
      left
      apply label_single
      rintro rfl
      rcases joinedLabels_cases hlabel with hjoined | rfl | hjoined | hjoined <;>
        rcases hkey with hkey | hkey <;> revert hkey
      all_goals first | rw [hjoined]; decide | decide
  | foreign hforeign =>
      left
      apply hforeign.label
      rcases hkey with rfl | rfl <;> decide

theorem label_last_written
    (hrun : Run (access NodeEdit.apply admits) (steered toLower) s₀ past s) (hfresh : Fresh s₀)
    (key : String) :
    s.current.value.labels.lookup key = ((past.filterMap committed).filterMap
      (NodeEdit.label key)).getLastD (s₀.current.value.labels.lookup key) :=
  hrun.last_written (f := fun node => node.labels.lookup key) hfresh
    fun _ _ _ _ h => label_apply h key

/--
Whoever reads and writes the node in which order: it is what the edits that went
through make of it one after the other, and each label is as the last of them has it.
No heartbeat's ever goes through, and the labels with its jobs and its time stay as
they were.
-/
theorem node_labels_written (hadmits : RefusesBadLabels admits)
    (hunread : ∀ client, s₀.held client = none)
    (hrun : Run (access NodeEdit.apply admits) (steered toLower) s₀ past s) :
    s.current.value =
      applyEdits NodeEdit.apply (past.filterMap committed) s₀.current.value ∧
    (∀ key, s.current.value.labels.lookup key = ((past.filterMap committed).filterMap
      (NodeEdit.label key)).getLastD (s₀.current.value.labels.lookup key)) ∧
    (∀ jobs now, NodeEdit.setNodeLabels (heartbeatLabels jobs now) ∉ past.filterMap committed) ∧
    s.current.value.labels.lookup activeJobs = s₀.current.value.labels.lookup activeJobs ∧
    s.current.value.labels.lookup lastHeartbeat =
      s₀.current.value.labels.lookup lastHeartbeat := by
  have hfresh := fresh_of_unread hunread
  have hnever : ∀ jobs now, NodeEdit.setNodeLabels (heartbeatLabels jobs now) ∉
      past.filterMap committed := by
    intro jobs now hmem
    obtain ⟨-, node, node', hnode, hadmitted⟩ := hrun.committed_admitted hfresh hmem
    rw [heartbeat_refused hadmits hnode] at hadmitted
    cases hadmitted
  have hkept : ∀ key, key = activeJobs ∨ key = lastHeartbeat →
      s.current.value.labels.lookup key = s₀.current.value.labels.lookup key := by
    intro key hkey
    have hnone : (past.filterMap committed).filterMap (NodeEdit.label key) = [] := by
      rw [List.filterMap_eq_nil_iff]
      intro e he
      have hsteering := (hrun.committed_admitted hfresh he).1
      rcases hsteering.label_heartbeat hkey with hnone | ⟨jobs, now, rfl⟩
      · exact hnone
      · exact absurd he (hnever jobs now)
    rw [label_last_written hrun hfresh key, hnone]
    rfl
  exact ⟨hrun.serialised hfresh, label_last_written hrun hfresh, hnever, hkept _ (.inl rfl),
    hkept _ (.inr rfl)⟩

/-! ## A node that two loops write -/

def sampleNode : SteeredNode sampleQuantities where
  taints := []
  gpus := some ⟨2000, false⟩
  labels := setAll ∅ (heartbeatLabels 0 0 |>.take 1)
  annotations := ∅

def labelsAdmitted (node : SteeredNode sampleQuantities) : Bool :=
  node.labels.entries.all fun l => l.2.toList.all labelChar

theorem refusesBadLabels_labelsAdmitted : RefusesBadLabels labelsAdmitted := by
  intro node hadmitted key value hvalue
  have hmem := AList.mem_lookup_iff.mp hvalue
  exact List.all_eq_true.mp (List.all_eq_true.mp hadmitted _ hmem)

/-- `true` handles heartbeats; `false` looks for stale providers and is overtaken. -/
def sampleAccesses : List (Access Bool (NodeEdit sampleQuantities)) :=
  [.get false, .get true, .update true (.setNodeLabels (heartbeatLabels 2 1700000000)) true,
    .get true, .update true (.setNodeLabels (statusLabels "busy")) true,
    .update false (.setNodeLabels (statusLabels "offline")) true,
    .patch (.setNodeLabels [(rentalType, "gpu")]) true]

def sampleShared : Shared (SteeredNode sampleQuantities) Bool := ⟨⟨sampleNode, 1⟩, fun _ => none⟩

theorem sampleAccesses_steered : ∀ a ∈ sampleAccesses, ∀ e ∈ a.edit?,
    Steering Char.toLower e := by
  intro a ha e he
  simp only [sampleAccesses, List.mem_cons, List.not_mem_nil, or_false] at ha
  rcases ha with rfl | rfl | rfl | rfl | rfl | rfl | rfl <;> cases he
  · exact .handleHeartbeat 2 1700000000
  · exact .markNodeAsRentalBusy
  · exact .checkStaleProviders
  · exact .labelNode (show (rentalType, "gpu") ∈ joinedLabels "p1" none by simp [joinedLabels])

theorem sampleAccesses_commit :
    ∃ run ∈ trace (access NodeEdit.apply labelsAdmitted) sampleShared sampleAccesses,
      ((run.1.filterMap committed).filterMap (NodeEdit.label rentalStatus)) = [some "busy"] ∧
      run.1.length = 7 := by
  decide +kernel

/-- The heartbeat is refused, the stale provider's status meets a conflict, the rest stays. -/
theorem node_labels_written_sample :
    ∃ s : Shared (SteeredNode sampleQuantities) Bool,
      s.current.value.labels.lookup rentalStatus = some "busy" ∧
      s.current.value.labels.lookup activeJobs = some "0" ∧
      s.current.value.labels.lookup lastHeartbeat = none := by
  obtain ⟨run, hrun, hcommits, -⟩ := sampleAccesses_commit
  have hguarded : Run (access NodeEdit.apply labelsAdmitted) (steered Char.toLower) sampleShared
      run.1 run.2 :=
    (Run.of_trace hrun).guarded fun r hr =>
      sampleAccesses_steered r.act (trace_act_mem hrun hr)
  obtain ⟨-, hlabels, -, hjobs, htime⟩ :=
    node_labels_written refusesBadLabels_labelsAdmitted (fun _ => rfl) hguarded
  refine ⟨run.2, ?_, hjobs.trans (by decide +kernel), htime.trans (by decide +kernel)⟩
  rw [hlabels rentalStatus, hcommits]
  rfl

end WorldlandBroker.Job.NodeManager
