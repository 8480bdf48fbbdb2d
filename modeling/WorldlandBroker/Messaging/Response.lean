import WorldlandBroker.Messaging.Delivery

/-!
# Answering registrations

A host publishes its registration, then makes its group on the response stream
and reads one message from it; it gives up when that takes too long or fails.
The registration worker reads the request, handles it and publishes the response.
Both sides take their steps in any order.
-/

namespace WorldlandBroker.Messaging

open Foundation Registration

def providerResponseStream (providerID : String) : String := "provider:response:" ++ providerID

private theorem providerResponseStream_injective : Function.Injective providerResponseStream := by
  intro id id' h
  have hchars : "provider:response:".toList ++ id.toList =
      "provider:response:".toList ++ id'.toList := by
    rw [← String.toList_append, ← String.toList_append]
    exact congrArg String.toList h
  exact String.toList_inj.mp (List.append_cancel_left hchars)

inductive Host where
  | start
  | registered
  | waiting
  | received (m : Message RegistrationResponse)
  | gaveUp
  deriving DecidableEq

structure Exchange where
  registrations : StreamLog (Entry RegistrationRequest)
  responses : String → StreamLog (Entry RegistrationResponse)
  hosts : String → Host
  worker : Worker RegistrationRequest
  orchestrator : State

inductive ExchangeAction where
  | register (req : RegistrationRequest)
  | newConsumer (id : String)
  | readResponse (id : String)
  | giveUp (id : String)
  | readRegistrations
  | receive
  | respond (kubeadm : Option (List String)) (now : ℤ) (published : Bool)
  | ackRegistration (accepted : Bool)
  | other (a : Action)

def Exchange.channel (s : Exchange) (id : String) : StreamLog (Entry RegistrationResponse) :=
  s.responses (providerResponseStream id)

def Exchange.setChannel (s : Exchange) (id : String)
    (stream : StreamLog (Entry RegistrationResponse)) : Exchange :=
  { s with responses := Function.update s.responses (providerResponseStream id) stream }

def Exchange.setHost (s : Exchange) (id : String) (host : Host) : Exchange :=
  { s with hosts := Function.update s.hosts id host }

variable (o : Orchestrator)

def respond (s : Exchange) (m : Message RegistrationRequest) (h : Handling)
    (kubeadm : Option (List String)) (now : ℤ) (published : Bool) : Option Exchange :=
  (step o s.orchestrator (.finish kubeadm now)).map fun orchestrator =>
    let s := { s with
      worker := ⟨s.worker.batch, none, some m.id⟩, orchestrator := orchestrator }
    if published then
      s.setChannel h.req.providerID
        (publish (s.channel h.req.providerID) (handleRegistration o h kubeadm now).1)
    else s

def exchangeStep (s : Exchange) : ExchangeAction → Option Exchange
  | .register req =>
      match s.hosts req.providerID with
      | .start => some ({ s with registrations := publish s.registrations req }.setHost
          req.providerID .registered)
      | _ => none
  | .newConsumer id =>
      match s.hosts id with
      | .registered =>
          some ((s.setChannel id (newConsumer (s.channel id))).setHost id .waiting)
      | _ => none
  | .readResponse id =>
      match s.hosts id with
      | .waiting =>
          let (messages, stream) := readMessages (s.channel id) 1
          match messages with
          | [] => some (s.setChannel id stream)
          | m :: _ => some ((s.setChannel id (ack stream m.id)).setHost id (.received m))
      | _ => none
  | .giveUp id =>
      match s.hosts id with
      | .registered | .waiting => some (s.setHost id .gaveUp)
      | _ => none
  | .readRegistrations =>
      match s.worker with
      | ⟨[], none, none⟩ =>
          let (messages, stream) := readMessages s.registrations 10
          some { s with registrations := stream, worker := ⟨messages, none, none⟩ }
      | _ => none
  | .receive =>
      match s.worker with
      | ⟨m :: batch, none, none⟩ =>
          (step o s.orchestrator (.receive m.data)).map fun orchestrator =>
            { s with worker := ⟨batch, some m, none⟩, orchestrator := orchestrator }
      | _ => none
  | .respond kubeadm now published =>
      match s.worker.handling, s.orchestrator.handling with
      | some m, some h => respond o s m h kubeadm now published
      | _, _ => none
  | .ackRegistration accepted =>
      match s.worker with
      | ⟨batch, none, some id⟩ => some { s with
          registrations := if accepted then ack s.registrations id else s.registrations
          worker := ⟨batch, none, none⟩ }
      | _ => none
  | .other a =>
      match a with
      | .receive _ | .finish _ _ => none
      | a => (step o s.orchestrator a).map fun orchestrator =>
          { s with orchestrator := orchestrator }

/-! ## What a step does to one provider's channel -/

inductive ChannelEvent where
  | respond (response : RegistrationResponse)
  | giveUp
  deriving DecidableEq

def channelEvent (s : Exchange) (a : ExchangeAction) (id : String) : Option ChannelEvent :=
  match a with
  | .respond kubeadm now true =>
      match s.orchestrator.handling with
      | some h =>
          if h.req.providerID = id then
            some (.respond (handleRegistration o h kubeadm now).1)
          else none
      | none => none
  | .giveUp id' => if id' = id then some .giveUp else none
  | _ => none

inductive ChannelStep (stream : StreamLog (Entry RegistrationResponse)) :
    Host → Option ChannelEvent → StreamLog (Entry RegistrationResponse) → Host → Prop where
  | quiet (host : Host) : ChannelStep stream host none stream host
  | responded (host : Host) (response : RegistrationResponse) :
      ChannelStep stream host (some (.respond response)) (publish stream response) host
  | registered : ChannelStep stream .start none stream .registered
  | listening : ChannelStep stream .registered none (newConsumer stream) .waiting
  | nothing : (readMessages stream 1).1 = [] →
      ChannelStep stream .waiting none (readMessages stream 1).2 .waiting
  | received (m : Message RegistrationResponse) (rest : List (Message RegistrationResponse)) :
      (readMessages stream 1).1 = m :: rest →
      ChannelStep stream .waiting none (ack (readMessages stream 1).2 m.id) (.received m)
  | gaveUp (host : Host) : (∀ m, host ≠ .received m) →
      ChannelStep stream host (some .giveUp) stream .gaveUp

variable {o} {s s' : Exchange} {id : String}

@[simp] theorem channel_setHost (id' : String) (host : Host) :
    (s.setHost id' host).channel id = s.channel id := rfl

@[simp] theorem hosts_setChannel (id' : String)
    (stream : StreamLog (Entry RegistrationResponse)) :
    (s.setChannel id' stream).hosts = s.hosts := rfl

@[simp] theorem channel_setChannel_self (stream : StreamLog (Entry RegistrationResponse)) :
    (s.setChannel id stream).channel id = stream :=
  Function.update_self ..

private theorem channel_setChannel_of_ne {id' : String} (hne : id ≠ id')
    (stream : StreamLog (Entry RegistrationResponse)) :
    (s.setChannel id' stream).channel id = s.channel id :=
  Function.update_of_ne (providerResponseStream_injective.ne hne) _ _

@[simp] theorem hosts_setHost_self (host : Host) : (s.setHost id host).hosts id = host :=
  Function.update_self ..

private theorem hosts_setHost_of_ne {id' : String} (hne : id ≠ id') (host : Host) :
    (s.setHost id' host).hosts id = s.hosts id :=
  Function.update_of_ne hne _ _

theorem ChannelStep.focus {event : Option ChannelEvent} (id' : String)
    (hothers : ∀ id, id ≠ id' → s'.channel id = s.channel id ∧ s'.hosts id = s.hosts id)
    (h : ChannelStep (s.channel id') (s.hosts id') event (s'.channel id') (s'.hosts id'))
    (id : String) :
    ChannelStep (s.channel id) (s.hosts id) (if id' = id then event else none) (s'.channel id)
      (s'.hosts id) := by
  by_cases hid : id = id'
  · subst hid
    rw [if_pos rfl]
    exact h
  · obtain ⟨hchannel, hhost⟩ := hothers id hid
    rw [if_neg (Ne.symm hid), hchannel, hhost]
    exact .quiet _

theorem ChannelStep.silent (id' : String)
    (hothers : ∀ id, id ≠ id' → s'.channel id = s.channel id ∧ s'.hosts id = s.hosts id)
    (h : ChannelStep (s.channel id') (s.hosts id') none (s'.channel id') (s'.hosts id'))
    (id : String) :
    ChannelStep (s.channel id) (s.hosts id) none (s'.channel id) (s'.hosts id) := by
  have hstep := ChannelStep.focus id' hothers h id
  rwa [ite_self] at hstep

/-- Every step takes a channel step for every provider. -/
theorem channelStep_of_step {a : ExchangeAction} (hs : exchangeStep o s a = some s')
    (id : String) :
    ChannelStep (s.channel id) (s.hosts id) (channelEvent o s a id) (s'.channel id)
      (s'.hosts id) := by
  cases a with
  | register req =>
      simp only [exchangeStep] at hs
      split at hs
      · rename_i hhost
        cases hs
        refine .silent req.providerID ?_ ?_ id
        · exact fun id hid => ⟨rfl, hosts_setHost_of_ne hid _⟩
        · rw [hosts_setHost_self, hhost]
          exact .registered
      · contradiction
  | newConsumer id' =>
      simp only [exchangeStep] at hs
      split at hs
      · rename_i hhost
        cases hs
        refine .silent id' ?_ ?_ id
        · exact fun id hid => ⟨channel_setChannel_of_ne hid _, hosts_setHost_of_ne hid _⟩
        · rw [channel_setHost, channel_setChannel_self, hosts_setHost_self, hhost]
          exact .listening
      · contradiction
  | readResponse id' =>
      simp only [exchangeStep] at hs
      split at hs
      · rename_i hhost
        split at hs
        · rename_i hmessages
          cases hs
          refine .silent id' ?_ ?_ id
          · exact fun id hid => ⟨channel_setChannel_of_ne hid _, rfl⟩
          · rw [channel_setChannel_self, hosts_setChannel, hhost]
            exact .nothing hmessages
        · rename_i m rest hmessages
          cases hs
          refine .silent id' ?_ ?_ id
          · exact fun id hid => ⟨channel_setChannel_of_ne hid _, hosts_setHost_of_ne hid _⟩
          · rw [channel_setHost, channel_setChannel_self, hosts_setHost_self, hhost]
            exact .received m rest hmessages
      · contradiction
  | giveUp id' =>
      have hstep : (∀ m, s.hosts id' ≠ .received m) ∧ s' = s.setHost id' .gaveUp := by
        simp only [exchangeStep] at hs
        split at hs
        · rename_i hhost
          cases hs
          exact ⟨by simp [hhost], rfl⟩
        · rename_i hhost
          cases hs
          exact ⟨by simp [hhost], rfl⟩
        · contradiction
      obtain ⟨hhost, rfl⟩ := hstep
      rw [channelEvent]
      refine .focus id' ?_ ?_ id
      · exact fun id hid => ⟨rfl, hosts_setHost_of_ne hid _⟩
      · rw [channel_setHost, hosts_setHost_self]
        exact .gaveUp _ hhost
  | readRegistrations =>
      simp only [exchangeStep] at hs
      split at hs
      · cases hs
        exact .quiet _
      · contradiction
  | receive =>
      simp only [exchangeStep] at hs
      split at hs
      · obtain ⟨orchestrator, -, rfl⟩ := Option.map_eq_some_iff.mp hs
        exact .quiet _
      · contradiction
  | respond kubeadm now published =>
      simp only [exchangeStep] at hs
      split at hs
      · rename_i m h hm hh
        obtain ⟨orchestrator, -, rfl⟩ := Option.map_eq_some_iff.mp hs
        cases published with
        | false => exact .quiet _
        | true =>
            simp only [channelEvent, hh, if_true]
            refine .focus h.req.providerID ?_ ?_ id
            · exact fun id hid => ⟨channel_setChannel_of_ne hid _, rfl⟩
            · rw [channel_setChannel_self, hosts_setChannel]
              exact .responded _ _
      · contradiction
  | ackRegistration accepted =>
      simp only [exchangeStep] at hs
      split at hs
      · cases hs
        exact .quiet _
      · contradiction
  | other a =>
      simp only [exchangeStep] at hs
      split at hs
      · contradiction
      · contradiction
      · obtain ⟨orchestrator, -, rfl⟩ := Option.map_eq_some_iff.mp hs
        exact .quiet _

/-! ## Before, with and without the group -/

variable {stream stream' : StreamLog (Entry RegistrationResponse)} {host host' : Host}
  {event : Option ChannelEvent} {p : ℕ} {response : RegistrationResponse}

structure Unanswered (stream : StreamLog (Entry RegistrationResponse)) (host : Host) :
    Prop where
  caughtUp : stream.CaughtUp
  unread : ∀ m, host ≠ .received m

structure Missed (p : ℕ) (stream : StreamLog (Entry RegistrationResponse)) (host : Host) :
    Prop where
  passed : stream.Passed p
  unread : ∀ m, host = .received m → m.id ≠ p

def Next (p : ℕ) (response : RegistrationResponse)
    (stream : StreamLog (Entry RegistrationResponse)) : Prop :=
  (∃ g, stream.group = some g ∧ g.next = p) ∧ Holds stream p response

structure Awaited (p : ℕ) (response : RegistrationResponse)
    (stream : StreamLog (Entry RegistrationResponse)) (host : Host) : Prop where
  read : ∀ m, host = .received m → m = ⟨p, response⟩
  next : (∀ m, host ≠ .received m) → host ≠ .gaveUp → Next p response stream

theorem Unanswered.step (h : Unanswered stream host)
    (hs : ChannelStep stream host event stream' host')
    (hquiet : ∀ response, event ≠ some (.respond response)) : Unanswered stream' host' := by
  cases hs with
  | quiet => exact h
  | responded response => exact absurd rfl (hquiet _)
  | registered => exact ⟨h.caughtUp, by simp⟩
  | listening => exact ⟨h.caughtUp.createGroup, by simp⟩
  | nothing => exact ⟨(readMessages_of_caughtUp h.caughtUp 1).2, by simp⟩
  | received m rest hread =>
      rw [(readMessages_of_caughtUp h.caughtUp 1).1] at hread
      cases hread
  | gaveUp => exact ⟨h.caughtUp, by simp⟩

theorem Missed.step (h : Missed p stream host)
    (hs : ChannelStep stream host event stream' host') : Missed p stream' host' := by
  cases hs with
  | quiet => exact h
  | responded response => exact ⟨h.passed.add _, h.unread⟩
  | registered => exact ⟨h.passed, by simp⟩
  | listening => exact ⟨h.passed.createGroup, by simp⟩
  | nothing => exact ⟨h.passed.readNew 1, by simp⟩
  | received m rest hread =>
      refine ⟨(h.passed.readNew 1).ack _, ?_⟩
      rintro m' hm' rfl
      cases hm'
      have hm : m ∈ (readMessages stream 1).1 := by
        rw [hread]
        exact List.mem_cons_self
      exact h.passed.not_deliverable (deliverable_of_mem_readMessages hm).1
  | gaveUp => exact ⟨h.passed, by simp⟩

theorem Next.readMessages {m : Message RegistrationResponse}
    {rest : List (Message RegistrationResponse)} (h : Next p response stream)
    (hread : (readMessages stream 1).1 = m :: rest) : m = ⟨p, response⟩ := by
  obtain ⟨⟨g, hgroup, rfl⟩, hholds⟩ := h
  have hm : m ∈ (readMessages stream 1).1 := by
    rw [hread]
    exact List.mem_cons_self
  have hread' := Messaging.mem_readMessages.mp hm
  rw [(StreamLog.readNew_of_group hgroup 1).1, StreamLog.mem_upcoming] at hread'
  obtain ⟨hle, hlt, hentry⟩ := hread'
  have hid : m.id = g.next := by omega
  unfold Holds at hholds
  rw [hid, hholds] at hentry
  cases m
  cases hid
  cases hentry
  rfl

theorem Next.readMessages_ne_nil (h : Next p response stream) :
    (Messaging.readMessages stream 1).1 ≠ [] := by
  obtain ⟨⟨g, hgroup, rfl⟩, hholds⟩ := h
  have hm : (⟨g.next, response⟩ : Message RegistrationResponse) ∈
      (Messaging.readMessages stream 1).1 := by
    rw [Messaging.mem_readMessages, (StreamLog.readNew_of_group hgroup 1).1,
      StreamLog.mem_upcoming]
    exact ⟨le_rfl, Nat.lt_succ_self _, hholds⟩
  exact List.ne_nil_of_mem hm

theorem Awaited.step (h : Awaited p response stream host)
    (hs : ChannelStep stream host event stream' host') : Awaited p response stream' host' := by
  cases hs with
  | quiet => exact h
  | responded response' =>
      refine ⟨h.read, ?_⟩
      intro hunread hgaveUp
      obtain ⟨hgroup, hholds⟩ := h.next hunread hgaveUp
      exact ⟨hgroup, hholds.publish _⟩
  | registered =>
      refine ⟨by simp, ?_⟩
      intro _ _
      exact h.next (by simp) (by simp)
  | listening =>
      refine ⟨by simp, ?_⟩
      intro _ _
      obtain ⟨⟨g, hgroup, hnext⟩, hholds⟩ := h.next (by simp) (by simp)
      rw [newConsumer, StreamLog.createGroup_of_group hgroup]
      exact ⟨⟨g, hgroup, hnext⟩, hholds⟩
  | nothing hnothing =>
      exact absurd hnothing (h.next (by simp) (by simp)).readMessages_ne_nil
  | received m rest hread =>
      have hm := (h.next (by simp) (by simp)).readMessages hread
      refine ⟨?_, ?_⟩
      · rintro m' hm'
        cases hm'
        exact hm
      · intro hunread
        exact absurd rfl (hunread m)
  | gaveUp =>
      refine ⟨by simp, ?_⟩
      intro _ hgaveUp
      exact absurd rfl hgaveUp

theorem Unanswered.responded (h : Unanswered stream host) :
    (stream.group = none →
        Missed stream.entries.length (publish stream response) host) ∧
      (stream.group ≠ none →
        Awaited stream.entries.length response (publish stream response) host) := by
  constructor
  · intro hgroup
    refine ⟨StreamLog.passed_add hgroup _, ?_⟩
    intro m hm
    exact absurd hm (h.unread m)
  · intro hgroup
    obtain ⟨g, hgroup⟩ := Option.ne_none_iff_exists'.mp hgroup
    refine ⟨fun m hm => absurd hm (h.unread m), ?_⟩
    intro _ _
    exact ⟨⟨g, hgroup, h.caughtUp g hgroup⟩, holds_publish stream response⟩

private theorem responded_step
    (hs : ChannelStep stream host (some (.respond response)) stream' host') :
    stream' = publish stream response ∧ host' = host := by
  cases hs
  exact ⟨rfl, rfl⟩

private theorem gaveUp_step (hs : ChannelStep stream host event stream' host') :
    host' = .gaveUp ↔ host = .gaveUp ∨ event = some .giveUp := by
  cases hs with
  | _ => simp

/-! ## Runs -/

variable {s₀ : Exchange} {past before : List (Transition Exchange ExchangeAction)}
  {r : Transition Exchange ExchangeAction}

def FirstResponse (o : Orchestrator) (id : String)
    (past before : List (Transition Exchange ExchangeAction))
    (r : Transition Exchange ExchangeAction) (response : RegistrationResponse) : Prop :=
  OccursAfter past before r ∧
    channelEvent o r.pre r.act id = some (.respond response) ∧
      ∀ r' ∈ before, ∀ response', channelEvent o r'.pre r'.act id ≠ some (.respond response')

def Fresh (s : Exchange) (id : String) : Prop :=
  s.hosts id = .start ∧ (s.channel id).group = none

def Finished (host : Host) : Prop := (∃ m, host = .received m) ∨ host = .gaveUp

theorem unanswered_run (hrun : Run (exchangeStep o) anyStep s₀ past s) (hfresh : Fresh s₀ id)
    (hnone : ∀ r ∈ past, ∀ response, channelEvent o r.pre r.act id ≠ some (.respond response)) :
    Unanswered (s.channel id) (s.hosts id) := by
  obtain ⟨hstart, hgroup⟩ := hfresh
  induction hrun with
  | nil =>
      constructor
      · intro g hg
        cases hgroup.symm.trans hg
      · simp [hstart]
  | @snoc past s s' a _ _ hs ih =>
      apply (ih fun r hr => hnone r (List.mem_append_left _ hr)).step
        (channelStep_of_step hs id)
      exact hnone ⟨s, a, s'⟩ (by simp)

private theorem channelEvent_giveUp {a : ExchangeAction} :
    channelEvent o s a id = some .giveUp ↔ a = .giveUp id := by
  cases a with
  | giveUp id' => simp [channelEvent]
  | respond kubeadm now published =>
      cases published with
      | false => simp [channelEvent]
      | true =>
          simp only [channelEvent, reduceCtorEq, iff_false]
          split
          · split <;> simp
          · simp
  | _ => simp [channelEvent]

theorem gaveUp_run (hrun : Run (exchangeStep o) anyStep s₀ past s) (hfresh : Fresh s₀ id) :
    s.hosts id = .gaveUp ↔ ∃ r ∈ past, r.act = .giveUp id := by
  induction hrun with
  | nil => simp [hfresh.1]
  | snoc _ _ hs ih =>
      rw [gaveUp_step (channelStep_of_step hs id), ih, channelEvent_giveUp]
      simp only [List.mem_append, List.mem_singleton, or_and_right, exists_or,
        exists_eq_left]

/--
Once a host has finished, it has the response exactly where the group was there
when the response was published and the host has not given up.
-/
theorem response_delivered_iff {response : RegistrationResponse}
    (hrun : Run (exchangeStep o) anyStep s₀ past s) (hfresh : Fresh s₀ id)
    (hfirst : FirstResponse o id past before r response) (hfinished : Finished (s.hosts id)) :
    s.hosts id = .received ⟨(r.pre.channel id).entries.length, response⟩ ↔
      (r.pre.channel id).group ≠ none ∧ ∀ r' ∈ past, r'.act ≠ .giveUp id := by
  obtain ⟨⟨after, rfl⟩, hevent, hnone⟩ := hfirst
  obtain ⟨hbefore, -, hs⟩ := hrun.of_split rfl
  have hunanswered : Unanswered (r.pre.channel id) (r.pre.hosts id) :=
    unanswered_run hbefore hfresh hnone
  have hresponded : r.post.channel id = publish (r.pre.channel id) response ∧
      r.post.hosts id = r.pre.hosts id := by
    have hstep := channelStep_of_step hs id
    rw [hevent] at hstep
    exact responded_step hstep
  obtain ⟨hstream, hhost⟩ := hresponded
  have hgaveUp := gaveUp_run hrun hfresh
  by_cases hgroup : (r.pre.channel id).group = none
  · have hmissed : Missed (r.pre.channel id).entries.length (s.channel id) (s.hosts id) := by
      apply hrun.since (I := fun s =>
        Missed (r.pre.channel id).entries.length (s.channel id) (s.hosts id))
      · rw [hstream, hhost]
        exact hunanswered.responded.1 hgroup
      · intro r' _ hs' hpre
        exact hpre.step (channelStep_of_step hs' id)
    constructor
    · intro hreceived
      exact absurd rfl (hmissed.unread _ hreceived)
    · rintro ⟨hsome, -⟩
      exact absurd hgroup hsome
  · have hawaited : Awaited (r.pre.channel id).entries.length response (s.channel id)
        (s.hosts id) := by
      apply hrun.since (I := fun s =>
        Awaited (r.pre.channel id).entries.length response (s.channel id) (s.hosts id))
      · rw [hstream, hhost]
        exact hunanswered.responded.2 hgroup
      · intro r' _ hs' hpre
        exact hpre.step (channelStep_of_step hs' id)
    constructor
    · intro hreceived
      refine ⟨hgroup, ?_⟩
      intro r' hr' hact
      cases hreceived.symm.trans (hgaveUp.mpr ⟨r', hr', hact⟩)
    · rintro ⟨-, hpatient⟩
      rcases hfinished with ⟨m, hm⟩ | hhost
      · rw [hm, hawaited.read m hm]
      · obtain ⟨r', hr', hact⟩ := hgaveUp.mp hhost
        exact absurd hact (hpatient r' hr')

/-! ## A host that registers -/

def unregistered : Exchange where
  registrations := newConsumer .empty
  responses _ := .empty
  hosts _ := .start
  worker := .idle
  orchestrator := initial

def waitingActions : List ExchangeAction :=
  [.register sampleRequest, .newConsumer "p1", .readRegistrations, .receive,
    .respond none 0 true, .readResponse "p1"]

/-- The worker is faster than the host, which gives up in the end. -/
def lateActions : List ExchangeAction :=
  [.register sampleRequest, .readRegistrations, .receive, .respond none 0 true,
    .newConsumer "p1", .readResponse "p1", .giveUp "p1"]

def sampleResponse : RegistrationResponse :=
  (handleRegistration sampleOrchestrator ⟨sampleRequest, none⟩ none 0).1

private theorem unregistered_fresh (id : String) : Fresh unregistered id := ⟨rfl, rfl⟩

private theorem firstResponse_of_getElem? {n : ℕ} {response : RegistrationResponse}
    (hr : past[n]? = some r) (hevent : channelEvent o r.pre r.act id = some (.respond response))
    (hnone : ∀ r' ∈ past.take n, channelEvent o r'.pre r'.act id = none) :
    FirstResponse o id past (past.take n) r response := by
  refine ⟨.of_getElem? hr, hevent, ?_⟩
  intro r' hr' response' hrespond
  cases (hnone r' hr').symm.trans hrespond

private theorem waitingActions_checked :
    ∃ run ∈ trace (exchangeStep sampleOrchestrator) unregistered waitingActions,
      (∃ r ∈ run.1[4]?,
        channelEvent sampleOrchestrator r.pre r.act "p1" = some (.respond sampleResponse) ∧
          (∀ r' ∈ run.1.take 4, channelEvent sampleOrchestrator r'.pre r'.act "p1" = none) ∧
          (r.pre.channel "p1").group ≠ none) ∧
        run.2.hosts "p1" = .received ⟨0, sampleResponse⟩ := by
  decide +kernel

theorem response_delivered_iff_sample :
    ∃ run ∈ trace (exchangeStep sampleOrchestrator) unregistered waitingActions,
      ∃ id, run.2.hosts "p1" = .received ⟨id, sampleResponse⟩ := by
  obtain ⟨run, hrun, ⟨r, hr, hevent, hnone, hgroup⟩, hreceived⟩ := waitingActions_checked
  have hpatient : ∀ r' ∈ run.1, r'.act ≠ .giveUp "p1" := by
    intro r' hr' hact
    have hmem : r'.act ∈ waitingActions := trace_act_mem hrun hr'
    rw [hact] at hmem
    simp [waitingActions] at hmem
  have hdelivered := (response_delivered_iff (Run.of_trace hrun) (unregistered_fresh "p1")
    (firstResponse_of_getElem? hr hevent hnone) (.inl ⟨_, hreceived⟩)).mpr ⟨hgroup, hpatient⟩
  exact ⟨run, hrun, _, hdelivered⟩

private theorem lateActions_checked :
    ∃ run ∈ trace (exchangeStep sampleOrchestrator) unregistered lateActions,
      (∃ r ∈ run.1[3]?,
        channelEvent sampleOrchestrator r.pre r.act "p1" = some (.respond sampleResponse) ∧
          (∀ r' ∈ run.1.take 3, channelEvent sampleOrchestrator r'.pre r'.act "p1" = none)) ∧
        run.2.hosts "p1" = .gaveUp := by
  decide +kernel

theorem response_missed :
    ¬ ∀ (o : Orchestrator) (id : String) (s₀ s : Exchange)
        (past before : List (Transition Exchange ExchangeAction))
        (r : Transition Exchange ExchangeAction) (response : RegistrationResponse),
      Run (exchangeStep o) anyStep s₀ past s → Fresh s₀ id →
      FirstResponse o id past before r response → Finished (s.hosts id) →
        s.hosts id = .received ⟨(r.pre.channel id).entries.length, response⟩ := by
  intro hclaim
  obtain ⟨run, hrun, ⟨r, hr, hevent, hnone⟩, hgaveUp⟩ := lateActions_checked
  have hdelivered := hclaim _ "p1" _ _ _ _ _ _ (Run.of_trace hrun) (unregistered_fresh "p1")
    (firstResponse_of_getElem? hr hevent hnone) (.inr hgaveUp)
  cases hgaveUp.symm.trans hdelivered

end WorldlandBroker.Messaging
