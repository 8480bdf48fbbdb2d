import WorldlandBroker.ControlPlane.Covering

/-!
# Who can still return a job

The resources of a job can be given back by its `CreateJob` while that is in flight,
by a `DeleteJob` that has looked the job up, by a queued event or a listed pod that
tells its end, and through its pod.  When nobody of these is left, nobody comes back.
-/

namespace WorldlandBroker.ControlPlane

open Foundation Provider Job State

variable {K : QuantityAPI} {s s' : State K} {a : Action} {job : ℕ}

inductive Hand where
  | creation
  | deletion (request : ℕ)
  | event (n : ℕ)
  | listed (n : ℕ)
  | pod
  deriving DecidableEq

def PodWatchEvent.TellsEnd (event : PodWatchEvent) : Prop :=
  event.type = .deleted ∨
    event.type = .modified ∧
      (event.info.status = "Failed" ∨ event.info.status = "Succeeded")

def HeldBy (s : State K) (job : ℕ) : Hand → Prop
  | .creation => ∃ t, s.creates job = some t ∧ t.provider ≠ none
  | .deletion request =>
      ∃ t, s.deletes request = some t ∧ t.job = job ∧ t.allocation ≠ none
  | .event n =>
      ∃ event, s.events[n]? = some event ∧ event.info.uid = job ∧
        event.info.providerID ≠ "" ∧ event.TellsEnd
  | .listed n =>
      ∃ w info, s.sweep = some w ∧ w.pods[n]? = some info ∧ info.uid = job ∧
        info.providerID ≠ "" ∧ shouldDelete w.now info
  | .pod => ∃ pod, s.pods job = some pod ∧ pod.providerID ≠ ""

def Action.handFor (job : ℕ) : Action → Option Hand
  | .rollBack job' => if job' = job then some .creation else none
  | .release request => some (.deletion request)
  | .deliver => some (.event 0)
  | .sweepNext => some (.listed 0)
  | _ => none

theorem eventRelease_isSome {event : PodWatchEvent} :
    (eventRelease event).isSome ↔ event.info.providerID ≠ "" ∧ event.TellsEnd := by
  unfold eventRelease PodWatchEvent.TellsEnd
  split
  · rename_i htype
    split <;> simp_all
  · rename_i htype
    split
    · split <;> simp_all
    · simp_all
  · rename_i htype
    simp [htype]

theorem returns_heldBy {r : Release} (hr : returns s a = some r) :
    ∃ hand, a.handFor r.job = some hand ∧ HeldBy s r.job hand := by
  cases a with
  | rollBack job =>
      obtain ⟨t, ht, hx⟩ := Option.bind_eq_some_iff.mp hr
      obtain ⟨ht, -⟩ := createAt_eq_some.mp ht
      obtain ⟨providerID, hprovider, rfl⟩ := Option.map_eq_some_iff.mp hx
      exact ⟨.creation, if_pos rfl, t, ht, by simp [hprovider]⟩
  | release request =>
      obtain ⟨t, ht, hx⟩ := Option.bind_eq_some_iff.mp hr
      obtain ⟨ht, -⟩ := Option.filter_eq_some_iff.mp ht
      obtain ⟨x, hallocation, rfl⟩ := Option.map_eq_some_iff.mp hx
      exact ⟨.deletion request, rfl, t, ht, rfl, by simp [hallocation]⟩
  | deliver =>
      obtain ⟨event, hevent, hx⟩ := Option.bind_eq_some_iff.mp hr
      obtain ⟨hid, htells⟩ := eventRelease_isSome.mp (Option.isSome_of_eq_some hx)
      obtain ⟨-, rfl⟩ := eventRelease_eq_some hx
      refine ⟨.event 0, rfl, event, ?_, rfl, hid, htells⟩
      rwa [← List.head?_eq_getElem?]
  | sweepNext =>
      obtain ⟨w, hw, hx⟩ := Option.bind_eq_some_iff.mp hr
      obtain ⟨info, hinfo, hx⟩ := Option.bind_eq_some_iff.mp hx
      obtain ⟨hid, hrelease⟩ := sweepRelease_eq_some hx
      refine ⟨.listed 0, rfl, w, info, hw, ?_, by rw [hrelease]; rfl, hid, ?_⟩
      · rwa [← List.head?_eq_getElem?]
      · unfold sweepRelease at hx
        split at hx
        · assumption
        · contradiction
  | _ => contradiction

/-! ## What a step hands on -/

private theorem step_events (h : step s a = some s') {event : PodWatchEvent}
    (hevent : event ∈ s'.events) :
    event ∈ s.events ∨ event.type = .added ∨
      ∃ uid pod, s.pods uid = some pod ∧ event.info.uid = pod.uid ∧
        event.info.providerID = pod.providerID := by
  have hemitted {type : EventType} {pod : Pod K} (h : event ∈ s.emit type pod) :
      event ∈ s.events ∨ event = ⟨type, parsePodToGPUJobInfo pod⟩ := by
    unfold emit at h
    split at h
    · exact (List.mem_append.mp h).imp_right List.mem_singleton.mp
    · exact .inl h
  cases step_move h with
  | podCreated =>
      rcases hemitted hevent with hold | rfl
      · exact .inl hold
      · exact .inr (.inl rfl)
  | setPhase uid pod phase hpod | removePod uid pod hpod =>
      rcases hemitted hevent with hold | rfl
      · exact .inl hold
      · exact .inr (.inr ⟨uid, pod, hpod, rfl, rfl⟩)
  | reconnect =>
      obtain ⟨uid, pod, -, rfl⟩ := mem_podInfos hevent
      exact .inr (.inl rfl)
  | deliver first rest hevents =>
      left
      rw [hevents]
      exact List.mem_cons_of_mem first hevent
  | _ => exact .inl hevent

private theorem step_sweep (h : step s a = some s') {w : Sweep} (hw : s'.sweep = some w)
    {info : GPUJobPodInfo} (hinfo : info ∈ w.pods) :
    (∃ w₀, s.sweep = some w₀ ∧ w₀.now = w.now ∧ info ∈ w₀.pods) ∨
      ∃ uid pod, s.pods uid = some pod ∧ info = parsePodToGPUJobInfo pod := by
  cases step_move h with
  | list now =>
      cases hw
      obtain ⟨uid, -, huid⟩ := List.mem_filterMap.mp hinfo
      obtain ⟨pod, hpod, rfl⟩ := Option.map_eq_some_iff.mp huid
      exact .inr ⟨uid, pod, hpod, rfl⟩
  | sweepDone => contradiction
  | sweepNext now first rest hsweep =>
      cases hw
      exact .inl ⟨_, hsweep, rfl, List.mem_cons_of_mem first hinfo⟩
  | _ => exact .inl ⟨w, hw, rfl, hinfo⟩

private theorem holds_event_of_mem {event : PodWatchEvent} (hevent : event ∈ s.events)
    (hjob : event.info.uid = job) (hid : event.info.providerID ≠ "")
    (htells : event.TellsEnd) : ∃ n, HeldBy s job (.event n) := by
  obtain ⟨n, hn⟩ := List.mem_iff_getElem?.mp hevent
  exact ⟨n, event, hn, hjob, hid, htells⟩

theorem Orderly.holds_pod (h : Orderly s) {uid : ℕ} {pod : Pod K}
    (hpod : s.pods uid = some pod) (hjob : pod.uid = job) (hid : pod.providerID ≠ "") :
    HeldBy s job .pod := by
  have huid := (h.pods uid pod hpod).1
  exact ⟨pod, by rwa [← hjob, huid], hid⟩

/-- Whoever holds the job after a step has it from someone who held it before. -/
theorem heldBy_step (h : Orderly s) (hopened : job < s.nextJob)
    (hstep : step s a = some s') {hand : Hand} (hheld : HeldBy s' job hand) :
    ∃ before, HeldBy s job before := by
  cases hand with
  | creation =>
      obtain ⟨t, ht, hprovider⟩ := hheld
      refine ⟨.creation, ?_⟩
      cases step_creates hstep ht with
      | kept t ht₀ | allocated t ht₀ | failed t ht₀ => exact ⟨t, ht₀, hprovider⟩
      | podCreated t pod hpod => exact ⟨t, hpod.thread, hprovider⟩
      | opened t hjob => exact absurd hopened hjob.ge.not_gt
  | deletion request =>
      obtain ⟨t, ht, hjob, hallocation⟩ := hheld
      obtain ⟨x, hx⟩ := Option.ne_none_iff_exists'.mp hallocation
      rcases step_deletes hstep ht hx with
        ⟨t₀, ht₀, hjob₀, hx₀⟩ | ⟨uid, pod, hpod, huid, -, hid, -⟩
      · exact ⟨.deletion request, t₀, ht₀, hjob₀.trans hjob, by simp [hx₀]⟩
      · exact ⟨.pod, h.holds_pod hpod (huid.symm.trans hjob) hid⟩
  | event n =>
      obtain ⟨event, hevent, hjob, hid, htells⟩ := hheld
      rcases step_events hstep (List.mem_of_getElem? hevent) with
        hold | hadded | ⟨uid, pod, hpod, huid, hprovider⟩
      · obtain ⟨n, hn⟩ := holds_event_of_mem hold hjob hid htells
        exact ⟨.event n, hn⟩
      · rcases htells with htype | ⟨htype, -⟩ <;> rw [hadded] at htype <;> contradiction
      · exact ⟨.pod, h.holds_pod hpod (huid.symm.trans hjob) (hprovider ▸ hid)⟩
  | listed n =>
      obtain ⟨w, info, hw, hinfo, hjob, hid, hdue⟩ := hheld
      rcases step_sweep hstep hw (List.mem_of_getElem? hinfo) with
        ⟨w₀, hw₀, hnow, hmem⟩ | ⟨uid, pod, hpod, rfl⟩
      · obtain ⟨n, hn⟩ := List.mem_iff_getElem?.mp hmem
        exact ⟨.listed n, w₀, info, hw₀, hn, hjob, hid, hnow ▸ hdue⟩
      · exact ⟨.pod, h.holds_pod hpod hjob hid⟩
  | pod =>
      obtain ⟨pod, hpod, hid⟩ := hheld
      rcases step_pods hstep hpod with ⟨phase, hold⟩ | ⟨t, hcreates, -⟩
      · exact ⟨.pod, _, hold, hid⟩
      · obtain ⟨now, accepted, -, hbuilt⟩ := hcreates.action
        have hprovider := (buildGPUPod_eq_some hbuilt).2.1
        refine ⟨.creation, t, hcreates.thread, ?_⟩
        intro hnone
        rw [hnone] at hprovider
        exact hid hprovider

/-! ## What a return hands on -/

private theorem holds_rollBack (t : CreateThread) (job' : ℕ) {other : Hand}
    (hother : other ≠ .creation) :
    HeldBy (s.rollBack job' t) job other ↔ HeldBy s job other := by
  cases other with
  | creation => contradiction
  | deletion | event | listed | pod => exact Iff.rfl

private theorem holds_release (t : DeleteThread) {request : ℕ} {other : Hand}
    (hother : other ≠ .deletion request) :
    HeldBy (s.release request t) job other ↔ HeldBy s job other := by
  cases other with
  | deletion request' =>
      have hrequest : request' ≠ request := fun hsame => hother (hsame ▸ rfl)
      simp only [HeldBy, State.release, setDelete, Function.update_of_ne hrequest]
  | creation | event | listed | pod => exact Iff.rfl

private theorem holds_deliver {first : PodWatchEvent} {rest : List PodWatchEvent}
    (hevents : s.events = first :: rest) (o : Registry) :
    (∃ other, HeldBy { s with providers := o, events := rest } job other) ↔
      ∃ other, HeldBy s job other ∧ other ≠ .event 0 := by
  constructor
  · rintro ⟨other, hother⟩
    cases other with
    | event n =>
        obtain ⟨event, hevent, hrest⟩ := hother
        exact ⟨.event (n + 1), ⟨event, by rwa [hevents], hrest⟩, by simp⟩
    | creation => exact ⟨.creation, hother, by simp⟩
    | deletion request => exact ⟨.deletion request, hother, by simp⟩
    | listed n => exact ⟨.listed n, hother, by simp⟩
    | pod => exact ⟨.pod, hother, by simp⟩
  · rintro ⟨other, hother, hne⟩
    cases other with
    | event n =>
        obtain ⟨event, hevent, hrest⟩ := hother
        rw [hevents] at hevent
        cases n with
        | zero => contradiction
        | succ n => exact ⟨.event n, event, hevent, hrest⟩
    | creation => exact ⟨.creation, hother⟩
    | deletion request => exact ⟨.deletion request, hother⟩
    | listed n => exact ⟨.listed n, hother⟩
    | pod => exact ⟨.pod, hother⟩

private theorem holds_sweepNext {now : ℤ} {pods : List GPUJobPodInfo}
    (hsweep : s.sweep = some ⟨now, pods⟩) (o : Registry) {w : Option Sweep}
    (hw : w = match pods with
      | [] => none
      | _ :: rest => some ⟨now, rest⟩) :
    (∃ other, HeldBy { s with providers := o, sweep := w } job other) ↔
      ∃ other, HeldBy s job other ∧ other ≠ .listed 0 := by
  constructor
  · rintro ⟨other, hother⟩
    cases other with
    | listed n =>
        obtain ⟨w', info, hw', hinfo, hrest⟩ := hother
        subst hw
        cases pods with
        | nil => contradiction
        | cons first rest =>
            cases hw'
            exact ⟨.listed (n + 1), ⟨_, info, hsweep, hinfo, hrest⟩, by simp⟩
    | creation => exact ⟨.creation, hother, by simp⟩
    | deletion request => exact ⟨.deletion request, hother, by simp⟩
    | event n => exact ⟨.event n, hother, by simp⟩
    | pod => exact ⟨.pod, hother, by simp⟩
  · rintro ⟨other, hother, hne⟩
    cases other with
    | listed n =>
        obtain ⟨w', info, hw', hinfo, hrest⟩ := hother
        cases hsweep.symm.trans hw'
        subst hw
        cases pods with
        | nil => contradiction
        | cons first rest =>
            cases n with
            | zero => contradiction
            | succ n => exact ⟨.listed n, _, info, rfl, hinfo, hrest⟩
    | creation => exact ⟨.creation, hother⟩
    | deletion request => exact ⟨.deletion request, hother⟩
    | event n => exact ⟨.event n, hother⟩
    | pod => exact ⟨.pod, hother⟩

/-- A returning step takes the job out of one hand and leaves it in all others. -/
theorem heldBy_after_return {hand : Hand} (hhand : a.handFor job = some hand)
    (hstep : step s a = some s') :
    (∃ other, HeldBy s' job other) ↔ ∃ other, HeldBy s job other ∧ other ≠ hand := by
  cases step_move hstep with
  | rollBack job' t =>
      obtain ⟨rfl, rfl⟩ : job' = job ∧ Hand.creation = hand := by
        simp only [Action.handFor] at hhand
        split at hhand
        · exact ⟨‹_›, Option.some.inj hhand⟩
        · contradiction
      constructor
      · rintro ⟨other, hother⟩
        have hne : other ≠ .creation := by
          rintro rfl
          obtain ⟨t', ht', -⟩ := hother
          simp [State.rollBack, setCreate] at ht'
        exact ⟨other, (holds_rollBack t job' hne).mp hother, hne⟩
      · rintro ⟨other, hother, hne⟩
        exact ⟨other, (holds_rollBack t job' hne).mpr hother⟩
  | release request t =>
      cases hhand
      constructor
      · rintro ⟨other, hother⟩
        have hne : other ≠ .deletion request := by
          rintro rfl
          obtain ⟨t', ht', -⟩ := hother
          simp [State.release, setDelete] at ht'
        exact ⟨other, (holds_release t hne).mp hother, hne⟩
      · rintro ⟨other, hother, hne⟩
        exact ⟨other, (holds_release t hne).mpr hother⟩
  | deliver first rest hevents =>
      cases hhand
      exact holds_deliver hevents _
  | sweepDone now hsweep =>
      cases hhand
      exact holds_sweepNext hsweep _ rfl
  | sweepNext now first rest hsweep =>
      cases hhand
      exact holds_sweepNext hsweep _ rfl
  | _ => contradiction

end WorldlandBroker.ControlPlane
