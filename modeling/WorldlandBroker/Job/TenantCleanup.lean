import WorldlandBroker.Job.Fence
import WorldlandBroker.Job.Tenant

/-!
# Cleaning up after a failed tenant creation

`CreateTenantEnvironment` on any cluster, with any answers.  Each of its creations
puts up with an object that is there already; the deletion that follows a failure
does not ask whether the namespace was.
-/

namespace WorldlandBroker.Job

open Provider

inductive ObjectKind where
  | resourceQuota
  | networkPolicy
  | pod
  | service
  deriving DecidableEq

/-- The objects of a namespace; one that is being deleted takes nothing new. -/
structure NamespaceObjects where
  terminating : Bool
  objects : List (ObjectKind × String)

abbrev TenantCluster := String → Option NamespaceObjects

structure TenantReplies where
  namespaceCreated : Reply
  quotaCreated : Reply
  internalCreated : Reply
  ingressCreated : Reply
  egressCreated : Reply
  namespaceDeleted : Reply

def getNamespaceName (userID : String) : String := "tenant-" ++ userID

/-! ## The calls -/

namespace TenantCluster

variable {K : QuantityAPI}

/-- That the namespace exists is no error, not even where it is being deleted. -/
def createNamespace (s : TenantCluster) (nsName : String) (reply : Reply) :
    Bool × TenantCluster :=
  (reply = .done,
    if reply = .failed then s
    else Function.update s nsName (some ((s nsName).getD ⟨false, []⟩)))

def deleteNamespace (s : TenantCluster) (nsName : String) (reply : Reply) : TenantCluster :=
  if reply = .failed then s
  else Function.update s nsName ((s nsName).map fun n => { n with terminating := true })

def createObject (s : TenantCluster) (nsName : String) (object : ObjectKind × String)
    (reply : Reply) : Bool × TenantCluster :=
  match (s nsName).filter fun n => !n.terminating with
  | none => (false, s)
  | some n =>
      (reply = .done,
        if reply = .failed ∨ object ∈ n.objects then s
        else Function.update s nsName (some { n with objects := n.objects ++ [object] }))

def createNetworkPolicies (s : TenantCluster) (nsName : String) (replies : TenantReplies) :
    Bool × TenantCluster :=
  match createObject s nsName (.networkPolicy, "allow-internal") replies.internalCreated with
  | (false, s) => (false, s)
  | (true, s) =>
      match createObject s nsName (.networkPolicy, "allow-ingress-whitelist")
        replies.ingressCreated with
      | (false, s) => (false, s)
      | (true, s) =>
          createObject s nsName (.networkPolicy, "allow-egress-essential")
            replies.egressCreated

/--
The call returns nothing where a quantity of the quota panics.  Of an error only the
text in front of the wrapped one is kept.
-/
def createTenantEnvironment (K : QuantityAPI) (s : TenantCluster) (cfg : TenantConfig)
    (replies : TenantReplies) : Option (Except String Unit) × TenantCluster :=
  let nsName := getNamespaceName cfg.userID
  match createNamespace s nsName replies.namespaceCreated with
  | (false, s) => (some (.error "failed to create namespace"), s)
  | (true, s) =>
      match createResourceQuota K cfg with
      | none => (none, s)
      | some _ =>
          match createObject s nsName (.resourceQuota, "gpu-quota") replies.quotaCreated with
          | (false, s) =>
              (some (.error "failed to create resource quota"),
                deleteNamespace s nsName replies.namespaceDeleted)
          | (true, s) =>
              match createNetworkPolicies s nsName replies with
              | (false, s) =>
                  (some (.error "failed to create network policies"),
                    deleteNamespace s nsName replies.namespaceDeleted)
              | (true, s) => (some (.ok ()), s)

end TenantCluster

/-! ## What is there before and after -/

def Lives (s : TenantCluster) (nsName : String) : Prop :=
  ∃ n, s nsName = some n ∧ n.terminating = false

def Has (s : TenantCluster) (nsName : String) (object : ObjectKind × String) : Prop :=
  ∃ n, s nsName = some n ∧ n.terminating = false ∧ object ∈ n.objects

structure KeepsAll (s s' : TenantCluster) : Prop where
  namespaces : ∀ nsName, Lives s nsName → Lives s' nsName
  objects : ∀ nsName object, Has s nsName object → Has s' nsName object

structure TenantReplies.Fenced (replies : TenantReplies) : Prop where
  quota : replies.quotaCreated = .done
  internal : replies.internalCreated = .done
  ingress : replies.ingressCreated = .done
  egress : replies.egressCreated = .done

/--
A namespace that was there is left alone where the deletion fails, where the call
ends before the quota is requested, or where nothing fails from there on.
-/
def SparesTenant (K : QuantityAPI) (s : TenantCluster) (cfg : TenantConfig)
    (replies : TenantReplies) : Prop :=
  Lives s (getNamespaceName cfg.userID) → replies.namespaceDeleted ≠ .failed →
    replies.namespaceCreated = .done → createResourceQuota K cfg ≠ none → replies.Fenced

variable {K : QuantityAPI} {s s' s'' : TenantCluster} {cfg : TenantConfig}
  {replies : TenantReplies} {reply : Reply} {nsName : String} {object : ObjectKind × String}

theorem KeepsAll.refl (s : TenantCluster) : KeepsAll s s := ⟨fun _ h => h, fun _ _ h => h⟩

theorem KeepsAll.trans (h : KeepsAll s s') (h' : KeepsAll s' s'') : KeepsAll s s'' :=
  ⟨fun nsName hlives => h'.namespaces nsName (h.namespaces nsName hlives),
    fun nsName object hhas => h'.objects nsName object (h.objects nsName object hhas)⟩

private theorem keepsAll_update {n' : NamespaceObjects}
    (h : ∀ n, s nsName = some n → n.terminating = false →
      n'.terminating = false ∧ ∀ object ∈ n.objects, object ∈ n'.objects) :
    KeepsAll s (Function.update s nsName (some n')) := by
  constructor
  · rintro name ⟨n, hn, hactive⟩
    by_cases hname : name = nsName
    · subst hname
      exact ⟨n', Function.update_self .., (h n hn hactive).1⟩
    · exact ⟨n, (Function.update_of_ne hname ..).trans hn, hactive⟩
  · rintro name object ⟨n, hn, hactive, hmem⟩
    by_cases hname : name = nsName
    · subst hname
      obtain ⟨hactive', hmem'⟩ := h n hn hactive
      exact ⟨n', Function.update_self .., hactive', hmem' object hmem⟩
    · exact ⟨n, (Function.update_of_ne hname ..).trans hn, hactive, hmem⟩

private theorem createNamespace_keeps (s : TenantCluster) (nsName : String) (reply : Reply) :
    KeepsAll s (s.createNamespace nsName reply).2 := by
  unfold TenantCluster.createNamespace
  simp only []
  split
  · exact .refl s
  · apply keepsAll_update
    intro n hn hactive
    simp [hn, hactive]

private theorem createObject_keeps (s : TenantCluster) (nsName : String)
    (object : ObjectKind × String) (reply : Reply) :
    KeepsAll s (s.createObject nsName object reply).2 := by
  unfold TenantCluster.createObject
  split
  · exact .refl s
  · rename_i n hactive
    simp only []
    split
    · exact .refl s
    · apply keepsAll_update
      intro n' hn' hactive'
      rw [hn', Option.filter_some, if_pos (by simp [hactive'])] at hactive
      cases hactive
      exact ⟨hactive', fun object hmem => List.mem_append_left _ hmem⟩

private theorem createObject_of_lives (hlives : Lives s nsName) (object : ObjectKind × String)
    (reply : Reply) : (s.createObject nsName object reply).1 = true ↔ reply = .done := by
  obtain ⟨n, hn, hactive⟩ := hlives
  rw [TenantCluster.createObject, hn, Option.filter_some, if_pos (by simp [hactive])]
  exact decide_eq_true_iff

private theorem createNetworkPolicies_keeps (s : TenantCluster) (nsName : String)
    (replies : TenantReplies) : KeepsAll s (s.createNetworkPolicies nsName replies).2 := by
  have hinternal := createObject_keeps s nsName (.networkPolicy, "allow-internal")
    replies.internalCreated
  unfold TenantCluster.createNetworkPolicies
  split
  · rename_i s₁ heq
    rwa [heq] at hinternal
  · rename_i s₁ heq
    rw [heq] at hinternal
    have hingress := createObject_keeps s₁ nsName
      (.networkPolicy, "allow-ingress-whitelist") replies.ingressCreated
    split
    · rename_i s₂ heq
      rw [heq] at hingress
      exact hinternal.trans hingress
    · rename_i s₂ heq
      rw [heq] at hingress
      exact (hinternal.trans hingress).trans (createObject_keeps ..)

private theorem createNetworkPolicies_of_lives (hlives : Lives s nsName)
    (replies : TenantReplies) :
    (s.createNetworkPolicies nsName replies).1 = true ↔ replies.internalCreated = .done ∧
      replies.ingressCreated = .done ∧ replies.egressCreated = .done := by
  have hinternal := createObject_of_lives hlives (.networkPolicy, "allow-internal")
    replies.internalCreated
  have hlives₁ := (createObject_keeps s nsName (.networkPolicy, "allow-internal")
    replies.internalCreated).namespaces nsName hlives
  unfold TenantCluster.createNetworkPolicies
  split
  · rename_i s₁ heq
    rw [heq] at hinternal
    simp [← hinternal]
  · rename_i s₁ heq
    rw [heq] at hinternal hlives₁
    have hingress := createObject_of_lives hlives₁
      (.networkPolicy, "allow-ingress-whitelist") replies.ingressCreated
    have hlives₂ := (createObject_keeps s₁ nsName
      (.networkPolicy, "allow-ingress-whitelist") replies.ingressCreated).namespaces
      nsName hlives₁
    split
    · rename_i s₂ heq
      rw [heq] at hingress
      simp [← hinternal, ← hingress]
    · rename_i s₂ heq
      rw [heq] at hingress hlives₂
      simp [← hinternal, ← hingress, createObject_of_lives hlives₂]

private theorem deleteNamespace_spares (hlives : ¬ Lives s nsName) (h : KeepsAll s s') :
    KeepsAll s (s'.deleteNamespace nsName reply) := by
  have hother : ∀ name, name ≠ nsName → s'.deleteNamespace nsName reply name = s' name := by
    intro name hname
    unfold TenantCluster.deleteNamespace
    split
    · rfl
    · exact Function.update_of_ne hname ..
  constructor
  · intro name hname
    obtain ⟨n, hn, hactive⟩ := h.namespaces name hname
    refine ⟨n, (hother name ?_).trans hn, hactive⟩
    rintro rfl
    exact hlives hname
  · intro name object hhas
    obtain ⟨n, hn, hactive, hmem⟩ := h.objects name object hhas
    refine ⟨n, (hother name ?_).trans hn, hactive, hmem⟩
    rintro rfl
    obtain ⟨n, hn, hactive, -⟩ := hhas
    exact hlives ⟨n, hn, hactive⟩

private theorem deleteNamespace_ends (hreply : reply ≠ .failed) :
    ¬ Lives (s.deleteNamespace nsName reply) nsName := by
  rintro ⟨n, hn, hactive⟩
  rw [TenantCluster.deleteNamespace, if_neg hreply, Function.update_self] at hn
  obtain ⟨n, -, rfl⟩ := Option.map_eq_some_iff.mp hn
  cases hactive

/-! ## The creation as a whole -/

inductive CreationOutcome (K : QuantityAPI) (s : TenantCluster) (cfg : TenantConfig)
    (replies : TenantReplies) : Option (Except String Unit) × TenantCluster → Prop
  | refused (message : String) (s' : TenantCluster)
      (hcreated : replies.namespaceCreated ≠ .done) (hkeeps : KeepsAll s s') :
      CreationOutcome K s cfg replies (some (.error message), s')
  | panicked (s' : TenantCluster) (hquota : createResourceQuota K cfg = none) :
      CreationOutcome K s cfg replies (none, s')
  | cleaned (message : String) (s' : TenantCluster)
      (hcreated : replies.namespaceCreated = .done) (hquota : createResourceQuota K cfg ≠ none)
      (hfenced : Lives s (getNamespaceName cfg.userID) → ¬ replies.Fenced)
      (hkeeps : KeepsAll s s') :
      CreationOutcome K s cfg replies (some (.error message),
        s'.deleteNamespace (getNamespaceName cfg.userID) replies.namespaceDeleted)
  | built (s' : TenantCluster)
      (hfenced : Lives s (getNamespaceName cfg.userID) → replies.Fenced) :
      CreationOutcome K s cfg replies (some (.ok ()), s')

private theorem createTenantEnvironment_outcome (K : QuantityAPI) (s : TenantCluster)
    (cfg : TenantConfig) (replies : TenantReplies) :
    CreationOutcome K s cfg replies (s.createTenantEnvironment K cfg replies) := by
  have hnamespace := createNamespace_keeps s (getNamespaceName cfg.userID)
    replies.namespaceCreated
  have hcreated : (s.createNamespace (getNamespaceName cfg.userID)
      replies.namespaceCreated).1 = true ↔ replies.namespaceCreated = .done :=
    decide_eq_true_iff
  unfold TenantCluster.createTenantEnvironment
  simp only []
  split
  · rename_i s₁ heq
    rw [heq] at hnamespace hcreated
    exact .refused _ _ (by simp [← hcreated]) hnamespace
  rename_i s₁ heq
  rw [heq] at hnamespace hcreated
  replace hcreated := hcreated.mp rfl
  split
  · rename_i hquota
    exact .panicked _ hquota
  rename_i quota hquota
  have hkeeps := hnamespace.trans (createObject_keeps s₁ (getNamespaceName cfg.userID)
    (.resourceQuota, "gpu-quota") replies.quotaCreated)
  have hdone (hlives : Lives s (getNamespaceName cfg.userID)) :=
    createObject_of_lives (hnamespace.namespaces _ hlives) (.resourceQuota, "gpu-quota")
      replies.quotaCreated
  split
  · rename_i s₂ heq
    rw [heq] at hkeeps hdone
    refine .cleaned _ _ hcreated (by simp [hquota]) (fun hlives hfenced => ?_) hkeeps
    exact Bool.false_ne_true ((hdone hlives).mpr hfenced.quota)
  rename_i s₂ heq
  rw [heq] at hkeeps hdone
  have hpolicies := createNetworkPolicies_keeps s₂ (getNamespaceName cfg.userID) replies
  have hall (hlives : Lives s (getNamespaceName cfg.userID)) :=
    createNetworkPolicies_of_lives (hkeeps.namespaces _ hlives) replies
  split
  · rename_i s₃ heq
    rw [heq] at hpolicies hall
    refine .cleaned _ _ hcreated (by simp [hquota]) (fun hlives hfenced => ?_)
      (hkeeps.trans hpolicies)
    exact Bool.false_ne_true
      ((hall hlives).mpr ⟨hfenced.internal, hfenced.ingress, hfenced.egress⟩)
  · rename_i s₃ heq
    rw [heq] at hall
    refine .built _ fun hlives => ?_
    obtain ⟨hinternal, hingress, hegress⟩ := (hall hlives).mp rfl
    exact ⟨(hdone hlives).mp rfl, hinternal, hingress, hegress⟩

/--
For every cluster, every tenant and every choice of the requests that fail, a
creation that returns an error leaves every namespace, quota, policy, pod and
service that was there exactly where the tenant's namespace was not there, could
not be deleted, or nothing failed once it was asked for its quota.
-/
theorem failed_creation_keeps_iff (K : QuantityAPI) (s : TenantCluster)
    (cfg : TenantConfig) (replies : TenantReplies) :
    (∀ message s', s.createTenantEnvironment K cfg replies =
        (some (.error message), s') → KeepsAll s s') ↔ SparesTenant K s cfg replies := by
  have houtcome := createTenantEnvironment_outcome K s cfg replies
  generalize s.createTenantEnvironment K cfg replies = outcome at houtcome ⊢
  constructor
  · intro hkeeps hlives hdeleted hcreated hquota
    cases houtcome with
    | refused message s' hrefused _ => exact absurd hcreated hrefused
    | panicked s' hpanicked => exact absurd hpanicked hquota
    | cleaned message s' _ _ _ _ =>
        exact absurd ((hkeeps message _ rfl).namespaces _ hlives)
          (deleteNamespace_ends hdeleted)
    | built s' hfenced => exact hfenced hlives
  · rintro hspares message s' heq
    subst heq
    cases houtcome with
    | refused _ _ _ hkeeps => exact hkeeps
    | cleaned _ s₁ hcreated hquota hfenced hkeeps =>
        by_cases hlives : Lives s (getNamespaceName cfg.userID)
        · by_cases hdeleted : replies.namespaceDeleted = .failed
          · rwa [TenantCluster.deleteNamespace, if_pos hdeleted]
          · exact absurd (hspares hlives hdeleted hcreated hquota) (hfenced hlives)
        · exact deleteNamespace_spares hlives hkeeps

def rentedNamespace : TenantCluster :=
  Function.update (fun _ => none) "tenant-alice"
    (some ⟨false, [(.resourceQuota, "gpu-quota"), (.pod, "gpu-job-1")]⟩)

def quotaRefused : TenantReplies := ⟨.done, .failed, .done, .done, .done, .done⟩

theorem rented_namespace_deleted :
    (∃ message, (rentedNamespace.createTenantEnvironment writtenQuantities
        (defaultTenantConfig "alice" 1) quotaRefused).1 = some (.error message)) ∧
      Has rentedNamespace "tenant-alice" (.pod, "gpu-job-1") ∧
      ¬ Has (rentedNamespace.createTenantEnvironment writtenQuantities
        (defaultTenantConfig "alice" 1) quotaRefused).2 "tenant-alice"
          (.pod, "gpu-job-1") := by
  have hquota : ∃ quota, createResourceQuota writtenQuantities
      (defaultTenantConfig "alice" 1) = some quota :=
    Option.isSome_iff_exists.mp (by decide)
  obtain ⟨quota, hquota⟩ := hquota
  have hrun : rentedNamespace.createTenantEnvironment writtenQuantities
      (defaultTenantConfig "alice" 1) quotaRefused =
        (some (.error "failed to create resource quota"),
          (rentedNamespace.createNamespace "tenant-alice" .done).2.deleteNamespace
            "tenant-alice" .done) := by
    unfold TenantCluster.createTenantEnvironment
    rw [hquota]
    rfl
  rw [hrun]
  refine ⟨⟨_, rfl⟩, ⟨_, Function.update_self .., rfl, by decide⟩, ?_⟩
  rintro ⟨n, hn, hactive, -⟩
  have hdone : Reply.done ≠ Reply.failed := nofun
  dsimp only at hn
  exact deleteNamespace_ends hdone ⟨n, hn, hactive⟩

end WorldlandBroker.Job
