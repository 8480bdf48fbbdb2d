import Mathlib.Data.List.Basic

/-!
# Network policies

A policy selects pods of its namespace and lists the connections it admits to
them or from them.  A pod that no policy selects in a direction is open in it;
otherwise it takes what one of the policies that select it lists.  A connection
passes where both ends take it.

Namespaces, label keys, label values and ports are arbitrary.  A port stands for
a protocol with its number, on the side that is connected to.
-/

namespace WorldlandBroker.Foundation

variable {ι κ ν π : Type*}

structure Selector (κ ν : Type*) where
  matchLabels : List (κ × ν)

def Selector.Selects (selector : Selector κ ν) (labels : κ → Option ν) : Prop :=
  ∀ required ∈ selector.matchLabels, labels required.1 = some required.2

structure Peer (κ ν : Type*) where
  podSelector : Option (Selector κ ν)
  namespaceSelector : Option (Selector κ ν)

/-- An empty list of peers or of ports stands for all of them. -/
structure TrafficRule (κ ν π : Type*) where
  peers : List (Peer κ ν)
  ports : List π

inductive Direction where
  | ingress
  | egress
  deriving DecidableEq

structure NetworkPolicy (κ ν π : Type*) where
  podSelector : Selector κ ν
  policyTypes : List Direction
  ingress : List (TrafficRule κ ν π)
  egress : List (TrafficRule κ ν π)

def NetworkPolicy.rules (policy : NetworkPolicy κ ν π) : Direction → List (TrafficRule κ ν π)
  | .ingress => policy.ingress
  | .egress => policy.egress

structure PlacedPod (ι κ ν : Type*) where
  place : ι
  labels : κ → Option ν

/-- What is not a pod has no namespace and no labels. -/
inductive Endpoint (ι κ ν : Type*) where
  | pod (pod : PlacedPod ι κ ν)
  | outside

structure Network (ι κ ν π : Type*) where
  namespaceLabels : ι → κ → Option ν
  policies : ι → List (NetworkPolicy κ ν π)

/-- A peer without a namespace selector means pods of the policy's own namespace. -/
def Peer.Matches (net : Network ι κ ν π) (own : ι) (peer : Peer κ ν) :
    Endpoint ι κ ν → Prop
  | .outside => False
  | .pod pod =>
      match peer.podSelector, peer.namespaceSelector with
      | none, none => False
      | some pods, none => pod.place = own ∧ pods.Selects pod.labels
      | none, some namespaces => namespaces.Selects (net.namespaceLabels pod.place)
      | some pods, some namespaces =>
          namespaces.Selects (net.namespaceLabels pod.place) ∧ pods.Selects pod.labels

def TrafficRule.Lists (net : Network ι κ ν π) (own : ι) (rule : TrafficRule κ ν π)
    (other : Endpoint ι κ ν) (port : π) : Prop :=
  (rule.peers = [] ∨ ∃ peer ∈ rule.peers, peer.Matches net own other) ∧
    (rule.ports = [] ∨ port ∈ rule.ports)

def NetworkPolicy.Applies (policy : NetworkPolicy κ ν π) (direction : Direction)
    (labels : κ → Option ν) : Prop :=
  direction ∈ policy.policyTypes ∧ policy.podSelector.Selects labels

namespace Network

variable (net : Network ι κ ν π)

def Takes (direction : Direction) (pod : PlacedPod ι κ ν) (other : Endpoint ι κ ν)
    (port : π) : Prop :=
  (∀ policy ∈ net.policies pod.place, ¬ policy.Applies direction pod.labels) ∨
    ∃ policy ∈ net.policies pod.place, policy.Applies direction pod.labels ∧
      ∃ rule ∈ policy.rules direction, rule.Lists net pod.place other port

/--
A pod's connections to itself and those of its node, which no policy can stop,
are none of these.
-/
def Connects (source target : Endpoint ι κ ν) (port : π) : Prop :=
  (∀ pod, source = .pod pod → net.Takes .egress pod target port) ∧
    ∀ pod, target = .pod pod → net.Takes .ingress pod source port

variable {net} {direction : Direction} {pod : PlacedPod ι κ ν} {other source : Endpoint ι κ ν}
  {port : π} {policy : NetworkPolicy κ ν π}

/-- A selected pod takes what the policies that select it list, and nothing else. -/
theorem takes_iff_of_selected (hpolicy : policy ∈ net.policies pod.place)
    (happlies : policy.Applies direction pod.labels) :
    net.Takes direction pod other port ↔
      ∃ policy ∈ net.policies pod.place, policy.Applies direction pod.labels ∧
        ∃ rule ∈ policy.rules direction, rule.Lists net pod.place other port :=
  or_iff_right fun hopen => hopen policy hpolicy happlies

theorem connects_pod :
    net.Connects source (.pod pod) port ↔
      (∀ sender, source = .pod sender → net.Takes .egress sender (.pod pod) port) ∧
        net.Takes .ingress pod source port := by
  simp [Connects]

theorem connects_outside :
    net.Connects (.pod pod) .outside port ↔ net.Takes .egress pod .outside port := by
  simp [Connects]

end Network

section Peers

variable {net : Network ι κ ν π} {own : ι} {other : Endpoint ι κ ν}

theorem Selector.selects_all (labels : κ → Option ν) :
    (⟨[]⟩ : Selector κ ν).Selects labels := by
  simp [Selects]

theorem Selector.selects_label {key : κ} {value : ν} {labels : κ → Option ν} :
    (⟨[(key, value)]⟩ : Selector κ ν).Selects labels ↔ labels key = some value := by
  simp [Selects]

theorem Peer.matches_own :
    (⟨some ⟨[]⟩, none⟩ : Peer κ ν).Matches net own other ↔
      ∃ pod, other = .pod pod ∧ pod.place = own := by
  cases other with
  | pod pod => simp [Matches, Selector.selects_all]
  | outside => simp [Matches]

theorem Peer.matches_namespaces {namespaces : Selector κ ν} :
    (⟨none, some namespaces⟩ : Peer κ ν).Matches net own other ↔
      ∃ pod, other = .pod pod ∧ namespaces.Selects (net.namespaceLabels pod.place) := by
  cases other with
  | pod pod => simp [Matches]
  | outside => simp [Matches]

end Peers

end WorldlandBroker.Foundation
