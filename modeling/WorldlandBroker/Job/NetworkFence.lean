import WorldlandBroker.Foundation.NetworkPolicy
import WorldlandBroker.Foundation.Parts
import WorldlandBroker.Job.Fence

/-!
# What a tenant's fence keeps out

The network policies of tenant.go, and the connections they admit in a cluster
where calls of any users run side by side.  A rental pod is reached from its own
namespace and, on the Jupyter port, from the ingress controller; nothing that is
no pod reaches it, so neither does a login from outside the cluster.
-/

namespace WorldlandBroker.Job

open Foundation

inductive Protocol where
  | tcp
  | udp
  deriving DecidableEq

abbrev Port := Protocol × ℤ

abbrev Policy := NetworkPolicy String String Port

abbrev Labels := String → Option String

structure PolicyPorts where
  jupyterPort : ℤ
  postgresPort : ℤ

/-- As `DefaultTenantConfig` has them; no caller changes them. -/
def defaultPolicyPorts : PolicyPorts := ⟨8888, 5432⟩

/-! ## The policies -/

def createInternalPolicy : Policy where
  podSelector := ⟨[]⟩
  policyTypes := [.ingress]
  ingress := [⟨[⟨some ⟨[]⟩, none⟩], []⟩]
  egress := []

def createIngressPolicy (jupyterPort : ℤ) : Policy where
  podSelector := ⟨[]⟩
  policyTypes := [.ingress]
  ingress := [⟨[⟨none, some ⟨[("name", "ingress-nginx")]⟩⟩], [(.tcp, jupyterPort)]⟩]
  egress := []

def createEgressPolicy (cfg : PolicyPorts) : Policy where
  podSelector := ⟨[]⟩
  policyTypes := [.egress]
  ingress := []
  egress := [
    ⟨[], [(.udp, 53)]⟩,
    ⟨[], [(.tcp, 443)]⟩,
    ⟨[], [(.tcp, 80)]⟩,
    ⟨[], [(.tcp, cfg.postgresPort)]⟩,
    ⟨[], [(.tcp, 9000)]⟩,
    ⟨[⟨none, some ⟨[]⟩⟩], []⟩]

def FenceObject.policy (cfg : PolicyPorts) : FenceObject → Option Policy
  | .gpuQuota => none
  | .allowInternal => some createInternalPolicy
  | .allowIngressWhitelist => some (createIngressPolicy cfg.jupyterPort)
  | .allowEgressEssential => some (createEgressPolicy cfg)

def TenantNamespace.policies (n : TenantNamespace) : List Policy :=
  n.objects.filterMap (FenceObject.policy defaultPolicyPorts)

/-! ## The cluster -/

/-- Namespaces of tenants go by their user, the other ones by their name. -/
inductive Place where
  | tenant (userID : String)
  | other (name : String)

def namespaceLabels (userID : String) : Labels
  | "tenant" => some userID
  | "managed-by" => some "web3-ai-platform"
  | "resource-type" => some "tenant-namespace"
  | _ => none

/-- The namespaces that belong to no tenant carry what labels and policies they like. -/
structure OtherNamespaces where
  labels : String → Labels
  policies : String → List Policy

def network (others : OtherNamespaces) (g : String → Tenant) :
    Network Place String String Port where
  namespaceLabels
    | .tenant userID => namespaceLabels userID
    | .other name => others.labels name
  policies
    | .tenant userID => ((g userID).ns.map TenantNamespace.policies).getD []
    | .other name => others.policies name

abbrev Party := Endpoint Place String String

/-- A pod of a user's namespace; pods may carry any labels. -/
def tenantPod (userID : String) (labels : Labels) : PlacedPod Place String String :=
  ⟨.tenant userID, labels⟩

/-- What the fence lets a rental pod be reached from. -/
inductive LetIn (others : OtherNamespaces) (userID : String) : Party → Port → Prop where
  | neighbour (labels : Labels) (port : Port) :
      LetIn others userID (.pod (tenantPod userID labels)) port
  | ingressController (name : String) (labels : Labels) :
      others.labels name "name" = some "ingress-nginx" →
      LetIn others userID (.pod ⟨.other name, labels⟩) (.tcp, defaultPolicyPorts.jupyterPort)

/-- What the fence lets a rental pod reach: any pod, and services by their port. -/
inductive LetOut : Party → Port → Prop where
  | inCluster (pod : PlacedPod Place String String) (port : Port) : LetOut (.pod pod) port
  | service (other : Party) (port : Port) :
      port ∈ [(.udp, 53), (.tcp, 443), (.tcp, 80), (.tcp, defaultPolicyPorts.postgresPort),
        (.tcp, 9000)] → LetOut other port

variable {others : OtherNamespaces} {g : String → Tenant} {userID : String}
  {n : TenantNamespace} {labels : Labels} {source other : Party} {port : Port}

@[simp]
theorem network_policies (hn : (g userID).ns = some n) :
    (network others g).policies (.tenant userID) = n.policies := by
  simp [network, hn]

theorem TenantNamespace.mem_policies {policy : Policy} :
    policy ∈ n.policies ↔ ∃ k ∈ n.objects, k.policy defaultPolicyPorts = some policy :=
  List.mem_filterMap

/-! ## What a fenced pod takes -/

private theorem internal_lists :
    (∃ rule ∈ createInternalPolicy.ingress,
        rule.Lists (network others g) (.tenant userID) source port) ↔
      ∃ labels, source = .pod (tenantPod userID labels) := by
  simp only [createInternalPolicy, List.mem_singleton, exists_eq_left, TrafficRule.Lists,
    List.cons_ne_nil, false_or, true_or, and_true, Peer.matches_own]
  constructor
  · rintro ⟨⟨place, labels⟩, rfl, rfl⟩
    exact ⟨labels, rfl⟩
  · rintro ⟨labels, rfl⟩
    exact ⟨_, rfl, rfl⟩

private theorem ingress_lists {jupyterPort : ℤ} :
    (∃ rule ∈ (createIngressPolicy jupyterPort).ingress,
        rule.Lists (network others g) (.tenant userID) source port) ↔
      (∃ name labels, source = .pod ⟨.other name, labels⟩ ∧
        others.labels name "name" = some "ingress-nginx") ∧ port = (.tcp, jupyterPort) := by
  simp only [createIngressPolicy, List.mem_singleton, exists_eq_left, TrafficRule.Lists,
    List.cons_ne_nil, false_or, Peer.matches_namespaces, Selector.selects_label]
  apply and_congr_left
  intro _
  constructor
  · rintro ⟨⟨place, labels⟩, rfl, hlabel⟩
    cases place with
    -- no tenant's namespace carries the controller's label
    | tenant userID => cases hlabel
    | other name => exact ⟨name, labels, rfl, hlabel⟩
  · rintro ⟨name, labels, rfl, hlabel⟩
    exact ⟨_, rfl, hlabel⟩

private theorem egress_lists {cfg : PolicyPorts} :
    (∃ rule ∈ (createEgressPolicy cfg).egress,
        rule.Lists (network others g) (.tenant userID) other port) ↔
      (∃ pod, other = .pod pod) ∨ port ∈ [(.udp, 53), (.tcp, 443), (.tcp, 80),
        (.tcp, cfg.postgresPort), (.tcp, 9000)] := by
  simp only [createEgressPolicy, List.mem_cons, List.not_mem_nil, or_false, exists_eq_or_imp,
    exists_eq_left, TrafficRule.Lists, List.cons_ne_nil, true_or, true_and, false_or, and_true,
    Peer.matches_namespaces, Selector.selects_all]
  tauto

theorem takes_ingress_iff (hn : (g userID).ns = some n) (hfenced : n.Fenced) :
    (network others g).Takes .ingress (tenantPod userID labels) source port ↔
      LetIn others userID source port := by
  have hinternal : createInternalPolicy ∈
      (network others g).policies (tenantPod userID labels).place := by
    rw [tenantPod, network_policies hn, TenantNamespace.mem_policies]
    exact ⟨.allowInternal, hfenced _ (by decide), rfl⟩
  rw [Network.takes_iff_of_selected hinternal ⟨by decide, Selector.selects_all labels⟩]
  constructor
  · rintro ⟨policy, hpolicy, happlies, hlists⟩
    rw [tenantPod, network_policies hn, TenantNamespace.mem_policies] at hpolicy
    obtain ⟨k, -, hk⟩ := hpolicy
    cases k with
    | gpuQuota => cases hk
    | allowInternal =>
        cases hk
        obtain ⟨labels, rfl⟩ := internal_lists.mp hlists
        exact .neighbour labels port
    | allowIngressWhitelist =>
        cases hk
        obtain ⟨⟨name, labels, rfl, hlabel⟩, rfl⟩ := ingress_lists.mp hlists
        exact .ingressController name labels hlabel
    | allowEgressEssential =>
        cases hk
        cases happlies.1 with
        | tail _ hnone => cases hnone
  · intro hletIn
    cases hletIn with
    | neighbour labels' =>
        exact ⟨_, hinternal, ⟨by decide, Selector.selects_all labels⟩,
          internal_lists.mpr ⟨labels', rfl⟩⟩
    | ingressController name labels' hlabel =>
        refine ⟨createIngressPolicy defaultPolicyPorts.jupyterPort, ?_,
          ⟨List.mem_singleton_self _, Selector.selects_all labels⟩,
          ingress_lists.mpr ⟨⟨name, labels', rfl, hlabel⟩, rfl⟩⟩
        rw [tenantPod, network_policies hn, TenantNamespace.mem_policies]
        exact ⟨.allowIngressWhitelist, hfenced _ (by decide), rfl⟩

theorem takes_egress_iff (hn : (g userID).ns = some n) (hfenced : n.Fenced) :
    (network others g).Takes .egress (tenantPod userID labels) other port ↔
      LetOut other port := by
  have hessential : createEgressPolicy defaultPolicyPorts ∈
      (network others g).policies (tenantPod userID labels).place := by
    rw [tenantPod, network_policies hn, TenantNamespace.mem_policies]
    exact ⟨.allowEgressEssential, hfenced _ (by decide), rfl⟩
  rw [Network.takes_iff_of_selected hessential
    ⟨List.mem_singleton_self _, Selector.selects_all labels⟩]
  constructor
  · rintro ⟨policy, hpolicy, happlies, hlists⟩
    rw [tenantPod, network_policies hn, TenantNamespace.mem_policies] at hpolicy
    obtain ⟨k, -, hk⟩ := hpolicy
    cases k with
    | gpuQuota => cases hk
    | allowInternal =>
        cases hk
        cases happlies.1 with
        | tail _ hnone => cases hnone
    | allowIngressWhitelist =>
        cases hk
        cases happlies.1 with
        | tail _ hnone => cases hnone
    | allowEgressEssential =>
        cases hk
        rcases egress_lists.mp hlists with ⟨pod, rfl⟩ | hport
        · exact .inCluster pod port
        · exact .service other port hport
  · intro hletOut
    refine ⟨_, hessential, ⟨List.mem_singleton_self _, Selector.selects_all labels⟩,
      egress_lists.mpr ?_⟩
    cases hletOut with
    | inCluster pod => exact .inl ⟨pod, rfl⟩
    | service _ _ hport => exact .inr hport

theorem connects_fenced_iff (hn : (g userID).ns = some n) (hfenced : n.Fenced) :
    (network others g).Connects source (.pod (tenantPod userID labels)) port ↔
      LetIn others userID source port ∧
        ∀ pod, source = .pod pod →
          (network others g).Takes .egress pod (.pod (tenantPod userID labels)) port := by
  rw [Network.connects_pod, takes_ingress_iff hn hfenced, and_comm]

/-! ## Fenced pods along a run -/

variable {ns ns' : Option TenantNamespace} {n' : TenantNamespace} {s s' : Tenant} {c : ℕ}
  {stage stage' : Stage} {act : TenantAction}

theorem CallMove.keepsObjects {a : CallAction} (hs : CallMove ns c stage a ns' stage')
    (hn : ns = some n) (hn' : ns' = some n') : ∀ k ∈ n.objects, k ∈ n'.objects := by
  intro k hk
  cases hs with
  | found | notFound | stopped =>
      cases hn.symm.trans hn'
      exact hk
  | made reply =>
      subst hn
      cases reply <;>
        · cases hn'
          exact hk
  | created m k' todo reply hactive =>
      cases (active_eq_some.mp hactive).1.symm.trans hn
      cases hn'
      cases reply with
      | failed => exact hk
      | done | lost =>
          simp only [TenantNamespace.createObject]
          split
          · exact hk
          · exact List.mem_append_left _ hk
  | cleaned reply =>
      subst hn
      cases reply <;>
        · cases hn'
          exact hk
  | posted m reply hactive =>
      cases (active_eq_some.mp hactive).1.symm.trans hn
      cases hn'
      cases reply <;> exact hk
  | removed =>
      subst hn
      cases hn'
      exact hk

private theorem tenantStep_keepsObjects (hs : tenantStep s act = some s') (hn : s.ns = some n)
    (hn' : s'.ns = some n') : ∀ k ∈ n.objects, k ∈ n'.objects := by
  cases act with
  | begin =>
      cases hs
      cases hn.symm.trans hn'
      exact fun k hk => hk
  | of c a =>
      obtain ⟨stage, stage', -, hmove, -⟩ := tenantStep_of hs
      exact hmove.keepsObjects hn hn'
  | finalize =>
      obtain ⟨hnone, -⟩ := tenantStep_finalize hs
      cases hnone.symm.trans hn'

structure Walled (s : Tenant) : Prop where
  sound : AllSound s
  fenced : ∀ n, s.ns = some n → ∀ c ∈ n.pods, n.Fenced

private theorem walled_newTenant : Walled newTenant where
  sound c stage hstage := by cases hstage
  fenced n hn := by cases hn

theorem Walled.step (h : Walled s) (horderly : Orderly s act)
    (hs : tenantStep s act = some s') : Walled s' where
  sound := h.sound.step horderly hs
  fenced n' hn' c hc k hk := by
    obtain ⟨n, hn, hfenced⟩ : ∃ n, s.ns = some n ∧ n.Fenced := by
      rcases h.sound.fenced hs hn' hc with ⟨n, hn, hpod⟩ | hfenced
      · exact ⟨n, hn, h.fenced n hn c hpod⟩
      · exact hfenced
    exact tenantStep_keepsObjects hs hn hn' k (hfenced k hk)

abbrev FleetRun (past : List (Transition (String → Tenant) (String × TenantAction)))
    (g : String → Tenant) : Prop :=
  Run (familyStep tenantStep) (fun _ g a => Orderly (g a.1) a.2) (fun _ => newTenant) past g

variable {past : List (Transition (String → Tenant) (String × TenantAction))}

theorem FleetRun.walled (hrun : FleetRun past g) (userID : String) : Walled (g userID) :=
  hrun.family_always (I := fun _ => Walled) (fun _ => walled_newTenant)
    (fun _ _ _ _ h horderly hs => h.step horderly hs) userID

/--
In every state of every orderly run, exactly the user's own pods and, on the
Jupyter port, the ingress controller reach a rental pod past its fence.
-/
theorem rental_pod_reached_iff (hrun : FleetRun past g) (hn : (g userID).ns = some n)
    (hc : c ∈ n.pods) :
    (network others g).Connects source (.pod (tenantPod userID labels)) port ↔
      LetIn others userID source port ∧
        ∀ pod, source = .pod pod →
          (network others g).Takes .egress pod (.pod (tenantPod userID labels)) port := by
  exact connects_fenced_iff hn ((hrun.walled userID).fenced n hn c hc)

/--
No pod of one tenant connects to another tenant's rental pod, nothing outside
the cluster connects to one on any port, and none gets out of the cluster but by
the five listed ports; the pods of one tenant do connect.
-/
theorem tenants_walled_off (hrun : FleetRun past g) (hn : (g userID).ns = some n)
    (hc : c ∈ n.pods) (others : OtherNamespaces) (labels : Labels) (port : Port) :
    (∀ stranger labels', stranger ≠ userID →
      ¬ (network others g).Connects (.pod (tenantPod stranger labels'))
        (.pod (tenantPod userID labels)) port) ∧
    ¬ (network others g).Connects .outside (.pod (tenantPod userID labels)) port ∧
    ((network others g).Connects (.pod (tenantPod userID labels)) .outside port ↔
      port ∈ [(.udp, 53), (.tcp, 443), (.tcp, 80), (.tcp, 5432), (.tcp, 9000)]) ∧
    ∀ labels', (network others g).Connects (.pod (tenantPod userID labels'))
      (.pod (tenantPod userID labels)) port := by
  have hfenced := (hrun.walled userID).fenced n hn c hc
  refine ⟨?_, ?_, ?_, ?_⟩
  · rintro stranger labels' hstranger hconnects
    cases ((connects_fenced_iff hn hfenced).mp hconnects).1 with
    | neighbour => exact hstranger rfl
  · intro hconnects
    cases ((connects_fenced_iff hn hfenced).mp hconnects).1
  · rw [Network.connects_outside, takes_egress_iff hn hfenced]
    constructor
    · intro hletOut
      cases hletOut with
      | service _ _ hport => exact hport
    · exact .service _ _
  · intro labels'
    rw [connects_fenced_iff hn hfenced]
    refine ⟨.neighbour labels' port, ?_⟩
    rintro pod ⟨⟩
    exact (takes_egress_iff hn hfenced).mpr (.inCluster _ port)

/-! ## Two tenants side by side -/

def sideBySide : List (String × TenantAction) :=
  inTurnActions.flatMap fun a => [("alice", a), ("bob", a)]

private theorem sideBySide_checked :
    ∃ run ∈ trace (familyStep tenantStep) (fun _ => newTenant) sideBySide,
      (∀ r ∈ run.1, Orderly (r.pre r.act.1) r.act.2) ∧
        (run.2 "bob").ns = some ⟨false, fence, [0, 1]⟩ := by
  decide +kernel

theorem sideBySide_run : ∃ past g, FleetRun past g ∧
    (g "bob").ns = some ⟨false, fence, [0, 1]⟩ := by
  obtain ⟨run, hrun, horderly, hbob⟩ := sideBySide_checked
  exact ⟨run.1, run.2, (Run.of_trace hrun).guarded horderly, hbob⟩

def onlyController : OtherNamespaces where
  labels name key := if name = "ingress-nginx" ∧ key = "name" then some name else none
  policies _ := []

theorem rental_pod_reached_sample : ∃ past g, FleetRun past g ∧
    ((network onlyController g).Connects
      (.pod ⟨.other "ingress-nginx", fun _ => none⟩)
      (.pod (tenantPod "bob" fun _ => none)) (.tcp, 8888) ∧
    ¬ (network onlyController g).Connects
      (.pod ⟨.other "ingress-nginx", fun _ => none⟩)
      (.pod (tenantPod "bob" fun _ => none)) (.tcp, 22)) := by
  obtain ⟨past, g, hrun, hbob⟩ := sideBySide_run
  refine ⟨past, g, hrun, ?_, ?_⟩
  · apply (rental_pod_reached_iff hrun hbob (c := 0) (by decide)).mpr
    refine ⟨.ingressController "ingress-nginx" _ rfl, ?_⟩
    rintro pod ⟨⟩
    exact .inl (by simp [network, onlyController])
  · intro hconnects
    obtain ⟨hletIn, -⟩ :=
      (rental_pod_reached_iff hrun hbob (c := 0) (by decide)).mp hconnects
    cases hletIn

theorem tenants_walled_off_sample : ∃ past g, FleetRun past g ∧
    ¬ (network onlyController g).Connects (.pod (tenantPod "alice" fun _ => none))
      (.pod (tenantPod "bob" fun _ => none)) (.tcp, 22) ∧
    ¬ (network onlyController g).Connects .outside
      (.pod (tenantPod "bob" fun _ => none)) (.tcp, 22) := by
  obtain ⟨past, g, hrun, hbob⟩ := sideBySide_run
  obtain ⟨hstrangers, houtside, -⟩ := tenants_walled_off hrun hbob (c := 0) (by decide)
    onlyController (fun _ => none) (.tcp, 22)
  exact ⟨past, g, hrun, hstrangers "alice" _ (by decide), houtside⟩

end WorldlandBroker.Job
