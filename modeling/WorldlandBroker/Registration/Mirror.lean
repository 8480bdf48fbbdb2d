import WorldlandBroker.ControlPlane.Boot
import WorldlandBroker.Registration.Liveness

/-!
# The registry and its rows

Each handler writes the record in memory first and the row in the database after
it, one column here and another there: a registration writes both status and
node name, a heartbeat writes both to memory and the status alone to the row, and
a sweep writes to memory only.  Every write to the database succeeds here.
-/

namespace WorldlandBroker.Registration

open Foundation Provider

/-! ## Rows -/

structure StoredRow extends ControlPlane.ProviderRow where
  nodeName : String
  lastHeartbeat : ℤ

abbrev Rows := String → Option StoredRow

/-- The upsert of `Create`; a row that exists keeps its last heartbeat. -/
def Rows.create (rows : Rows) (providerID : String) (p : RegisteredProvider)
    (gpuPricePerHour : ℚ) : Rows :=
  Function.update rows providerID (some {
    ControlPlane.createRow providerID p.toProviderState gpuPricePerHour with
    nodeName := p.nodeName
    lastHeartbeat :=
      match rows providerID with
      | none => p.lastHeartbeat
      | some row => row.lastHeartbeat })

def Rows.updateHeartbeat (rows : Rows) (providerID : String) (status : RegistrationStatus)
    (now : ℤ) : Rows :=
  Function.update rows providerID
    ((rows providerID).map fun row => { row with status := status, lastHeartbeat := now })

def scanStored (row : StoredRow) : RegisteredProvider where
  toProviderState := ControlPlane.scanProvider row.toProviderRow
  nodeName := row.nodeName
  lastHeartbeat := row.lastHeartbeat

/-! ## The two workers -/

structure HeartbeatUpdate where
  providerID : String
  status : RegistrationStatus

/--
`creating` is the provider whose record the registration worker has stored and not
yet written; `updating` is the update that the heartbeat monitor has yet to make.
-/
structure Durable where
  memory : State
  rows : Rows
  creating : Option String
  updating : Option HeartbeatUpdate

inductive DurableAction where
  | receive (req : RegistrationRequest)
  | finish (kubeadm : Option (List String)) (now : ℤ)
  | create (gpuPricePerHour : ℚ)
  | handleHeartbeat (hb : HeartbeatMessage) (now : ℤ)
  | updateHeartbeat (now : ℤ)
  | checkStaleProviders (now : ℤ)

def storedID (o : Orchestrator) (s : State) (kubeadm : Option (List String)) (now : ℤ) :
    Option String :=
  match s.handling with
  | none => none
  | some h => (handleRegistration o h kubeadm now).2.map fun _ => h.req.providerID

/-- `Create` is given the record itself, and writes what is in it by then. -/
def Durable.create (s : Durable) (providerID : String) (gpuPricePerHour : ℚ) : Durable :=
  { s with
    rows :=
      match s.memory.providers providerID with
      | none => s.rows
      | some p => s.rows.create providerID p gpuPricePerHour
    creating := none }

def durableStep (o : Orchestrator) (s : Durable) : DurableAction → Option Durable
  | .receive req =>
      match s.creating with
      | some _ => none
      | none => (step o s.memory (.receive req)).map fun memory => { s with memory := memory }
  | .finish kubeadm now =>
      match s.creating with
      | some _ => none
      | none => (step o s.memory (.finish kubeadm now)).map fun memory =>
          { s with memory := memory, creating := storedID o s.memory kubeadm now }
  | .create gpuPricePerHour =>
      match s.creating with
      | none => none
      | some providerID => some (s.create providerID gpuPricePerHour)
  | .handleHeartbeat hb now =>
      match s.updating with
      | some _ => none
      | none => (step o s.memory (.handleHeartbeat hb now)).map fun memory =>
          { s with memory := memory, updating := some ⟨hb.providerID, hb.status⟩ }
  | .updateHeartbeat now =>
      match s.updating with
      | none => none
      | some u => some { s with
          rows := s.rows.updateHeartbeat u.providerID u.status now
          updating := none }
  | .checkStaleProviders now =>
      match s.updating with
      | some _ => none
      | none => (step o s.memory (.checkStaleProviders now)).map fun memory =>
          { s with memory := memory }

/-! ## What the run must observe -/

def Durable.Writes (s : Durable) (id : String) : Prop := s.creating = some id

def SameColumns (s : Durable) : DurableAction → Prop
  | .handleHeartbeat hb _ => ∀ p, s.memory.providers hb.providerID = some p →
      s.Writes hb.providerID ∨ hb.nodeName = p.nodeName
  | .updateHeartbeat _ => ∀ u, s.updating = some u →
      ∀ p, s.memory.providers u.providerID = some p →
        s.Writes u.providerID ∨ p.status = u.status
  | .checkStaleProviders now => ∀ id p, s.memory.providers id = some p →
      s.Writes id ∨ ¬ (p.status = statusJoined ∧ Stale now p)
  | _ => True

structure RowMatches (updating : Option HeartbeatUpdate) (id : String)
    (p : RegisteredProvider) (row : StoredRow) : Prop where
  nodeName : row.nodeName = p.nodeName
  status : row.status = p.status ∨ ∃ u, updating = some u ∧ u.providerID = id

def Mirrored (s : Durable) : Prop :=
  ∀ id p, s.memory.providers id = some p →
    s.Writes id ∨ ∃ row, s.rows id = some row ∧ RowMatches s.updating id p row

variable {o : Orchestrator} {s s' : Durable}

/-! ## One lemma for each step -/

theorem Mirrored.receive {req : RegistrationRequest} (h : Mirrored s)
    (hs : durableStep o s (.receive req) = some s') : Mirrored s' := by
  simp only [durableStep] at hs
  split at hs
  · contradiction
  · obtain ⟨memory, hmemory, rfl⟩ := Option.map_eq_some_iff.mp hs
    simp only [step] at hmemory
    split at hmemory
    · contradiction
    · obtain rfl := Option.some.inj hmemory
      exact h

theorem Mirrored.finish {kubeadm : Option (List String)} {now : ℤ} (h : Mirrored s)
    (hs : durableStep o s (.finish kubeadm now) = some s') : Mirrored s' := by
  simp only [durableStep] at hs
  split at hs
  · contradiction
  · rename_i hidle
    obtain ⟨memory, hmemory, rfl⟩ := Option.map_eq_some_iff.mp hs
    cases hhandling : s.memory.handling with
    | none => simp [step, hhandling] at hmemory
    | some handling =>
        simp only [step, hhandling] at hmemory
        obtain rfl := Option.some.inj hmemory
        intro id p hp
        cases hstored : (handleRegistration o handling kubeadm now).2 with
        | none =>
            simp only [hstored] at hp
            have hbefore := h id p hp
            unfold Durable.Writes at hbefore ⊢
            rw [hidle] at hbefore
            rcases hbefore with hwrites | hmatches
            · cases hwrites
            · exact .inr hmatches
        | some stored =>
            simp only [hstored] at hp
            have hcreating : storedID o s.memory kubeadm now =
                some handling.req.providerID := by
              simp [storedID, hhandling, hstored]
            rcases eq_or_ne id handling.req.providerID with rfl | hne
            · exact .inl hcreating
            · rw [Function.update_of_ne hne] at hp
              have hbefore := h id p hp
              unfold Durable.Writes at hbefore
              rw [hidle] at hbefore
              rcases hbefore with hwrites | hmatches
              · cases hwrites
              · exact .inr hmatches

theorem Durable.create_self {id : String} {p : RegisteredProvider}
    (hp : s.memory.providers id = some p) (gpuPricePerHour : ℚ) :
    ∃ row, (s.create id gpuPricePerHour).rows id = some row ∧ row.nodeName = p.nodeName ∧
      row.status = p.status := by
  simp only [Durable.create, hp]
  exact ⟨_, Function.update_self _ _ _, rfl, rfl⟩

theorem Durable.create_of_ne {id providerID : String} (hne : id ≠ providerID)
    (gpuPricePerHour : ℚ) : (s.create providerID gpuPricePerHour).rows id = s.rows id := by
  simp only [Durable.create]
  cases s.memory.providers providerID with
  | none => rfl
  | some p => exact Function.update_of_ne hne _ _

theorem Mirrored.create {gpuPricePerHour : ℚ} (h : Mirrored s)
    (hs : durableStep o s (.create gpuPricePerHour) = some s') : Mirrored s' := by
  simp only [durableStep] at hs
  split at hs
  · contradiction
  · rename_i providerID hcreating
    obtain rfl := Option.some.inj hs
    intro id p hp
    have hp : s.memory.providers id = some p := hp
    rcases eq_or_ne id providerID with rfl | hne
    · obtain ⟨row, hrow, hnode, hstatus⟩ := Durable.create_self (s := s) hp gpuPricePerHour
      exact .inr ⟨row, hrow, hnode, .inl hstatus⟩
    · rcases h id p hp with hwrites | ⟨row, hrow, hmatches⟩
      · exact absurd (Option.some.inj (hwrites.symm.trans hcreating)) hne
      · exact .inr ⟨row, (Durable.create_of_ne hne gpuPricePerHour).trans hrow, hmatches⟩

theorem Mirrored.handleHeartbeat {hb : HeartbeatMessage} {now : ℤ} (h : Mirrored s)
    (hsame : SameColumns s (.handleHeartbeat hb now))
    (hs : durableStep o s (.handleHeartbeat hb now) = some s') : Mirrored s' := by
  simp only [durableStep] at hs
  split at hs
  · contradiction
  · rename_i hidle
    obtain ⟨memory, hmemory, rfl⟩ := Option.map_eq_some_iff.mp hs
    obtain rfl := Option.some.inj hmemory
    intro id p' hp'
    rcases update_map_eq_some hp' with ⟨rfl, p, hp, rfl⟩ | ⟨hne, hp⟩
    · rcases h _ p hp with hwrites | ⟨row, hrow, hmatches⟩
      · exact .inl hwrites
      · rcases hsame p hp with hwrites | hnode
        · exact .inl hwrites
        · exact .inr ⟨row, hrow, hmatches.nodeName.trans hnode.symm, .inr ⟨_, rfl, rfl⟩⟩
    · rcases h id p' hp with hwrites | ⟨row, hrow, hmatches⟩
      · exact .inl hwrites
      · refine .inr ⟨row, hrow, hmatches.nodeName, ?_⟩
        rcases hmatches.status with hstatus | ⟨u, hu, -⟩
        · exact .inl hstatus
        · rw [hidle] at hu
          cases hu

theorem Mirrored.updateHeartbeat {now : ℤ} (h : Mirrored s)
    (hsame : SameColumns s (.updateHeartbeat now))
    (hs : durableStep o s (.updateHeartbeat now) = some s') : Mirrored s' := by
  simp only [durableStep] at hs
  split at hs
  · contradiction
  · rename_i u hu
    obtain rfl := Option.some.inj hs
    intro id p hp
    rcases h id p hp with hwrites | ⟨row, hrow, hmatches⟩
    · exact .inl hwrites
    rcases eq_or_ne id u.providerID with rfl | hne
    · rcases hsame u hu p hp with hwrites | hstatus
      · exact .inl hwrites
      · refine .inr ⟨{ row with status := u.status, lastHeartbeat := now }, ?_,
          hmatches.nodeName, .inl hstatus.symm⟩
        simp only [Rows.updateHeartbeat, Function.update_self, hrow, Option.map_some]
    · refine .inr ⟨row, (Function.update_of_ne hne _ _).trans hrow, hmatches.nodeName, ?_⟩
      rcases hmatches.status with hstatus | ⟨u', hu', hid⟩
      · exact .inl hstatus
      · cases hu.symm.trans hu'
        exact absurd hid.symm hne

theorem Mirrored.checkStaleProviders {now : ℤ} (h : Mirrored s)
    (hsame : SameColumns s (.checkStaleProviders now))
    (hs : durableStep o s (.checkStaleProviders now) = some s') : Mirrored s' := by
  simp only [durableStep] at hs
  split at hs
  · contradiction
  · obtain ⟨memory, hmemory, rfl⟩ := Option.map_eq_some_iff.mp hs
    obtain rfl := Option.some.inj hmemory
    intro id p' hp'
    obtain ⟨p, hp, rfl⟩ := Option.map_eq_some_iff.mp hp'
    rcases h id p hp with hwrites | hmatches
    · exact .inl hwrites
    · rcases hsame id p hp with hwrites | hfresh
      · exact .inl hwrites
      · have hkept : markStale now p = p := if_neg hfresh
        rw [hkept]
        exact .inr hmatches

theorem Mirrored.step {a : DurableAction} (h : Mirrored s) (hsame : SameColumns s a)
    (hs : durableStep o s a = some s') : Mirrored s' := by
  cases a with
  | receive req => exact h.receive hs
  | finish kubeadm now => exact h.finish hs
  | create gpuPricePerHour => exact h.create hs
  | handleHeartbeat hb now => exact h.handleHeartbeat hsame hs
  | updateHeartbeat now => exact h.updateHeartbeat hsame hs
  | checkStaleProviders now => exact h.checkStaleProviders hsame hs

/-! ## Runs -/

structure Idle (s : Durable) : Prop where
  handling : s.memory.handling = none
  creating : s.creating = none
  updating : s.updating = none

def Reloads (s : Durable) : Prop :=
  ∀ id p, s.memory.providers id = some p → ∃ row, s.rows id = some row ∧
    (scanStored row).status = p.status ∧ (scanStored row).nodeName = p.nodeName

theorem Reloads.mirrored (h : Reloads s) : Mirrored s := by
  intro id p hp
  obtain ⟨row, hrow, hstatus, hnode⟩ := h id p hp
  exact .inr ⟨row, hrow, hnode, .inl hstatus⟩

theorem Mirrored.reloads (h : Mirrored s) (hidle : Idle s) : Reloads s := by
  intro id p hp
  rcases h id p hp with hwrites | ⟨row, hrow, hmatches⟩
  · cases hidle.creating.symm.trans hwrites
  · refine ⟨row, hrow, ?_, hmatches.nodeName⟩
    rcases hmatches.status with hstatus | ⟨u, hu, -⟩
    · exact hstatus
    · cases hidle.updating.symm.trans hu

/--
The rows follow the registry through every run in which no heartbeat changes a
node name, no sweep marks a provider, and no registration overtakes the update of
a heartbeat, unless the record is about to be written as a whole.
-/
theorem rows_follow_registry {s₀ : Durable} {past : List (Transition Durable DurableAction)}
    (hstart : Reloads s₀) (hrun : Run (durableStep o) (fun _ => SameColumns) s₀ past s)
    (hidle : Idle s) : Reloads s := by
  have hmirrored : Mirrored s := by
    apply hrun.always hstart.mirrored
    intro past s a s' h hsame hs
    exact h.step hsame hs
  exact hmirrored.reloads hidle

/-! ## A provider that registers and reports -/

def emptyTables : Durable := ⟨initial, fun _ => none, none, none⟩

private theorem emptyTables_reloads : Reloads emptyTables := by
  intro id p hp
  cases hp

def reportingActions (nodeName : String) : List DurableAction :=
  [.receive sampleRequest, .finish none 0, .create 1,
    .handleHeartbeat ⟨"p1", nodeName, statusAvailable⟩ 30000000000,
    .updateHeartbeat 30000000000]

def SameReports (s : Durable) : DurableAction → Prop
  | .handleHeartbeat hb _ =>
      ∀ p ∈ s.memory.providers hb.providerID, hb.nodeName = p.nodeName
  | .updateHeartbeat _ =>
      ∀ u ∈ s.updating, ∀ p ∈ s.memory.providers u.providerID, p.status = u.status
  | .checkStaleProviders _ => False
  | _ => True

instance (s : Durable) (a : DurableAction) : Decidable (SameReports s a) := by
  unfold SameReports
  split <;> infer_instance

theorem SameReports.sameColumns {a : DurableAction} (h : SameReports s a) :
    SameColumns s a := by
  cases a with
  | handleHeartbeat hb now => exact fun p hp => .inr (h p hp)
  | updateHeartbeat now => exact fun u hu p hp => .inr (h u hu p hp)
  | checkStaleProviders now => exact h.elim
  | _ => trivial

private theorem unnamedReport_checked :
    ∃ run ∈ trace (durableStep sampleOrchestrator) emptyTables (reportingActions ""),
      (∀ r ∈ run.1, SameReports r.pre r.act) ∧
        (run.2.memory.handling.isNone ∧ run.2.creating = none ∧ run.2.updating.isNone) ∧
          ∃ p ∈ run.2.memory.providers "p1", p.status = statusAvailable := by
  decide +kernel

/-- A heartbeat that names no node, as before it, is mirrored in the row. -/
theorem rows_follow_registry_unnamed :
    ∃ run ∈ trace (durableStep sampleOrchestrator) emptyTables (reportingActions ""),
      ∃ row, run.2.rows "p1" = some row ∧ (scanStored row).status = statusAvailable := by
  obtain ⟨run, hrun, hsame, ⟨hhandling, hcreating, hupdating⟩, p, hp, hstatus⟩ :=
    unnamedReport_checked
  have hidle : Idle run.2 :=
    ⟨Option.isNone_iff_eq_none.mp hhandling, hcreating, Option.isNone_iff_eq_none.mp hupdating⟩
  have hguarded : Run (durableStep sampleOrchestrator) (fun _ => SameColumns) emptyTables
      run.1 run.2 :=
    (Run.of_trace hrun).guarded fun r hr => (hsame r hr).sameColumns
  obtain ⟨row, hrow, hrowStatus, -⟩ :=
    rows_follow_registry emptyTables_reloads hguarded hidle "p1" p hp
  exact ⟨run, hrun, row, hrow, hrowStatus.trans hstatus⟩

private theorem namedReport_checked :
    ∃ run ∈ trace (durableStep sampleOrchestrator) emptyTables (reportingActions "node-1"),
      (run.2.memory.handling.isNone ∧ run.2.creating = none ∧ run.2.updating.isNone) ∧
        ∃ p ∈ run.2.memory.providers "p1", p.nodeName = "node-1" ∧
          ∃ row ∈ run.2.rows "p1", row.nodeName = "" := by
  decide +kernel

theorem node_name_not_stored :
    ¬ ∀ (o : Orchestrator) (s₀ s : Durable) (past : List (Transition Durable DurableAction)),
      Reloads s₀ → Run (durableStep o) anyStep s₀ past s → Idle s → Reloads s := by
  intro hclaim
  obtain ⟨run, hrun, ⟨hhandling, hcreating, hupdating⟩, p, hp, hname, row, hrow, hempty⟩ :=
    namedReport_checked
  have hidle : Idle run.2 :=
    ⟨Option.isNone_iff_eq_none.mp hhandling, hcreating, Option.isNone_iff_eq_none.mp hupdating⟩
  obtain ⟨row', hrow', -, hnode⟩ :=
    hclaim _ _ _ _ emptyTables_reloads (Run.of_trace hrun) hidle "p1" p hp
  cases hrow.symm.trans hrow'
  have hsame : row.nodeName = p.nodeName := hnode
  rw [hempty, hname] at hsame
  contradiction

end WorldlandBroker.Registration
