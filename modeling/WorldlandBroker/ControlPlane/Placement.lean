import WorldlandBroker.ControlPlane.Boot
import WorldlandBroker.Provider.Requests

/-!
# Placing a request by its GPU type

`CreateJob` searches for a single provider of the GPU type, checks that one and
takes the resources from its ledger.  With a database the search reads the rows,
the cheapest first; without one it goes through the map of providers and does
not look at its limit.  The other filters of a search are not set by a request.
-/

namespace WorldlandBroker.ControlPlane

open Foundation Provider Job

/-! ## Searching -/

/-- The map in the order of one iteration, or what the query has answered. -/
inductive Source where
  | memory (order : List String)
  | database (answer : Except String (List ProviderRow))

/-- `strings.Contains(strings.ToLower(name), strings.ToLower(model))` -/
def containsModel (toLower : Char → Char) (name model : String) : Bool :=
  decide (model.toList.map toLower <:+: name.toList.map toLower)

/-- A provider without GPUs passes. -/
def passesModel (toLower : Char → Char) (p : ProviderState) (model : String) : Bool :=
  match p.spec.gpus with
  | [] => true
  | gpu :: _ => model = "" || containsModel toLower gpu.name model

def search (toLower : Char → Char) (o : Registry) (source : Source) (model : String) :
    Except String (List (String × ProviderState)) :=
  match source with
  | .memory order =>
      .ok ((order.filterMap fun id => (o id).map (id, ·)).filter fun (_, p) =>
        passesModel toLower p model)
  | .database answer => answer.map (List.map fun row => (row.providerID, scanProvider row))

/--
An iteration meets every provider once.  A query that succeeds gives the cheapest
row that matches, with `ilike` the operator of the database.
-/
def Source.Answers (ilike : String → String → Bool) (o : Registry)
    (rows : List ProviderRow) (model : String) : Source → Prop
  | .memory order => order.Nodup ∧ ∀ id, id ∈ order ↔ o id ≠ none
  | .database answer => ∃ ordered : List ProviderRow,
      ordered.Perm (rows.filter fun row => ilike row.gpuModel ("%" ++ model ++ "%")) ∧
        ordered.Pairwise (fun row row' => row.gpuPricePerHour ≤ row'.gpuPricePerHour) ∧
        answer = .ok (ordered.take (searchLimit 1))

/-! ## Placing -/

def firstFound (found : Except String (List (String × ProviderState))) :
    Option (String × ProviderState) :=
  match found with
  | .error _ | .ok [] => none
  | .ok (first :: _) => some first

/-- The part of `CreateJob` before the job; `nodes` is what the cluster answers. -/
def placeJob (toLower : Char → Char) (o : Registry) (source : Source)
    (nodes : String → Option ℤ) (user : String) (req : CreateJobRequest) :
    Except String (CreateThread × Registry) :=
  let found := firstFound (search toLower o source req.gpuType)
  let allocatable :=
    match State.findProvider o req found with
    | .ok (some (_, p)) => nodes p.spec.hostname
    | _ => none
  match State.acceptRequest o user req found allocatable with
  | .error message => .error message
  | .ok t =>
      match t.provider with
      | none => .ok (t, o)
      | some providerID =>
          match o.allocateResources providerID t.allocation with
          | (.error _, _) => .error "Resource allocation failed"
          | (.ok _, o) => .ok (t, o)

/-! ## Who can take the request -/

structure Suits (p : ProviderState) (req : CreateJobRequest) (allocatable : Option ℤ) :
    Prop where
  status : p.status = statusApproved ∨ p.status = statusJoined ∨ p.status = statusAvailable
  gpus : req.gpuCount ≤ offeredGPUs p allocatable
  cpu : requestedCPU req ≤ p.capacity.getAvailableCPUCores
  memory : requestedMemoryGB req ≤ p.capacity.getAvailableMemoryMB.tdiv 1024

structure Holds (p : ProviderState) (a : ResourceAllocation) : Prop where
  gpus : EnoughGPUs p.spec p.capacity a
  cpu : EnoughCPU p.spec p.capacity a
  memory : EnoughMemory p.spec p.capacity a

theorem suits_iff {p : ProviderState} {req : CreateJobRequest} {allocatable : Option ℤ} :
    Suits p req allocatable ↔
      (p.status = statusApproved ∨ p.status = statusJoined ∨ p.status = statusAvailable) ∧
        req.gpuCount ≤ offeredGPUs p allocatable ∧
        requestedCPU req ≤ p.capacity.getAvailableCPUCores ∧
        requestedMemoryGB req ≤ p.capacity.getAvailableMemoryMB.tdiv 1024 :=
  ⟨fun ⟨hstatus, hgpus, hcpu, hmemory⟩ => ⟨hstatus, hgpus, hcpu, hmemory⟩,
    fun ⟨hstatus, hgpus, hcpu, hmemory⟩ => ⟨hstatus, hgpus, hcpu, hmemory⟩⟩

theorem holds_iff {p : ProviderState} {a : ResourceAllocation} :
    Holds p a ↔ EnoughGPUs p.spec p.capacity a ∧ EnoughCPU p.spec p.capacity a ∧
      EnoughMemory p.spec p.capacity a :=
  ⟨fun ⟨hgpus, hcpu, hmemory⟩ => ⟨hgpus, hcpu, hmemory⟩,
    fun ⟨hgpus, hcpu, hmemory⟩ => ⟨hgpus, hcpu, hmemory⟩⟩

instance (p : ProviderState) (req : CreateJobRequest) (allocatable : Option ℤ) :
    Decidable (Suits p req allocatable) :=
  decidable_of_iff _ suits_iff.symm

instance (p : ProviderState) (a : ResourceAllocation) : Decidable (Holds p a) :=
  decidable_of_iff _ holds_iff.symm

def Placeable (toLower : Char → Char) (o : Registry) (nodes : String → Option ℤ)
    (req : CreateJobRequest) : Prop :=
  ∃ id p, o id = some p ∧ p.spec.gpus ≠ [] ∧ passesModel toLower p req.gpuType = true ∧
    Suits p req (nodes p.spec.hostname) ∧ Holds p (requestAllocation req (firstGPUName p.spec))

def FirstSuits (toLower : Char → Char) (o : Registry) (source : Source)
    (nodes : String → Option ℤ) (req : CreateJobRequest) : Prop :=
  ∃ id p rest q, search toLower o source req.gpuType = .ok ((id, p) :: rest) ∧
    o id = some q ∧ Suits p req (nodes p.spec.hostname) ∧
      Holds q (requestAllocation req (firstGPUName p.spec))

variable {toLower : Char → Char} {o : Registry} {source : Source} {nodes : String → Option ℤ}
  {user : String} {req : CreateJobRequest} {p : ProviderState} {allocatable : Option ℤ}

theorem checkProvider_eq_ok :
    checkProvider p req allocatable = .ok () ↔ Suits p req allocatable := by
  unfold checkProvider
  constructor
  · intro h
    split_ifs at h with hstatus hgpus hcpu hmemory
    exact ⟨by tauto, not_lt.mp hgpus, not_lt.mp hcpu, not_lt.mp hmemory⟩
  · rintro ⟨hstatus, hgpus, hcpu, hmemory⟩
    rw [if_neg (by tauto), if_neg (not_lt.mpr hgpus), if_neg (not_lt.mpr hcpu),
      if_neg (not_lt.mpr hmemory)]

theorem firstFound_eq_some {found : Except String (List (String × ProviderState))}
    {first : String × ProviderState} :
    firstFound found = some first ↔ ∃ rest, found = .ok (first :: rest) := by
  unfold firstFound
  split
  · simp
  · simp
  · simp

theorem first_of_database {ilike : String → String → Bool} {rows : List ProviderRow}
    {answer : Except String (List ProviderRow)} {model : String}
    {first : String × ProviderState} {rest : List (String × ProviderState)}
    (hanswers : (Source.database answer).Answers ilike o rows model)
    (hsearch : search toLower o (.database answer) model = .ok (first :: rest)) :
    rest = [] ∧ ∃ row ∈ rows, ilike row.gpuModel ("%" ++ model ++ "%") = true ∧
      first = (row.providerID, scanProvider row) ∧
      ∀ row' ∈ rows, ilike row'.gpuModel ("%" ++ model ++ "%") = true →
        row.gpuPricePerHour ≤ row'.gpuPricePerHour := by
  obtain ⟨ordered, hperm, hsorted, rfl⟩ := hanswers
  cases ordered with
  | nil => cases hsearch
  | cons row ordered =>
      cases hsearch
      have hmatches : ∀ row', row' ∈ row :: ordered ↔
          row' ∈ rows ∧ ilike row'.gpuModel ("%" ++ model ++ "%") = true := by
        intro row'
        rw [hperm.mem_iff, List.mem_filter]
      obtain ⟨hrow, hmatch⟩ := (hmatches row).mp List.mem_cons_self
      refine ⟨rfl, row, hrow, hmatch, rfl, ?_⟩
      intro row' hrow' hmatch'
      rcases List.mem_cons.mp ((hmatches row').mpr ⟨hrow', hmatch'⟩) with rfl | hlater
      · exact le_rfl
      · exact (List.pairwise_cons.mp hsorted).1 row' hlater

theorem first_of_memory {order : List String} {model id : String}
    {rest : List (String × ProviderState)}
    (hsearch : search toLower o (.memory order) model = .ok ((id, p) :: rest)) :
    o id = some p ∧ passesModel toLower p model = true := by
  have hlisted := Except.ok.inj hsearch
  have hfirst : (id, p) ∈ (order.filterMap fun id => (o id).map (id, ·)).filter
      fun (_, p) => passesModel toLower p model := by
    rw [hlisted]
    exact List.mem_cons_self
  obtain ⟨hmem, hpasses⟩ := List.mem_filter.mp hfirst
  obtain ⟨id', -, hfound⟩ := List.mem_filterMap.mp hmem
  obtain ⟨q, hq, heq⟩ := Option.map_eq_some_iff.mp hfound
  cases heq
  exact ⟨hq, hpasses⟩

def Accepted (toLower : Char → Char) (o : Registry) (source : Source)
    (nodes : String → Option ℤ) (user : String) (req : CreateJobRequest) : Prop :=
  ∃ t o', placeJob toLower o source nodes user req = .ok (t, o')

section ByType

variable (hid : req.providerID = "") (htype : req.gpuType ≠ "")
include hid htype

private theorem findProvider_byType (found : Option (String × ProviderState)) :
    State.findProvider o req found =
      match found with
      | none => .error "No provider found"
      | some p => .ok (some p) := by
  cases found with
  | none => simp [State.findProvider, hid, htype]
  | some first => simp [State.findProvider, hid, htype]

theorem not_accepted_of_none (hnone : firstFound (search toLower o source req.gpuType) = none) :
    ¬ Accepted toLower o source nodes user req := by
  rintro ⟨t, o', hplaced⟩
  simp only [placeJob, hnone, State.acceptRequest, findProvider_byType hid htype] at hplaced
  contradiction

theorem accepted_iff_of_first {id : String}
    (hfirst : firstFound (search toLower o source req.gpuType) = some (id, p)) :
    Accepted toLower o source nodes user req ↔
      Suits p req (nodes p.spec.hostname) ∧ ∃ q, o id = some q ∧
        Holds q (requestAllocation req (firstGPUName p.spec)) := by
  unfold Accepted placeJob
  simp only [hfirst, State.acceptRequest, findProvider_byType hid htype]
  rw [← checkProvider_eq_ok]
  cases hcheck : checkProvider p req (nodes p.spec.hostname) with
  | error message => simp
  | ok =>
      simp only [Registry.allocateResources, CreateThread.allocation, true_and]
      cases hq : o id with
      | none => simp
      | some q =>
          have hgranted : (Provider.allocateResources q.spec q.capacity
              (requestAllocation req (firstGPUName p.spec))).1 = .ok () ↔
                Holds q (requestAllocation req (firstGPUName p.spec)) := by
            rw [allocateResources_eq_ok, holds_iff]
          simp only [Option.some.injEq, exists_eq_left', ← hgranted]
          cases (Provider.allocateResources q.spec q.capacity
              (requestAllocation req (firstGPUName p.spec))).1 with
          | error message => simp
          | ok => simp

theorem accepted_iff :
    Accepted toLower o source nodes user req ↔ FirstSuits toLower o source nodes req := by
  cases hfirst : firstFound (search toLower o source req.gpuType) with
  | none =>
      constructor
      · intro haccepted
        exact absurd haccepted (not_accepted_of_none hid htype hfirst)
      · rintro ⟨id, p, rest, q, hsearch, -⟩
        cases hfirst.symm.trans (firstFound_eq_some.mpr ⟨rest, hsearch⟩)
  | some first =>
      obtain ⟨id, p⟩ := first
      rw [accepted_iff_of_first hid htype hfirst]
      obtain ⟨rest, hsearch⟩ := firstFound_eq_some.mp hfirst
      constructor
      · rintro ⟨hsuits, q, hq, hholds⟩
        exact ⟨id, p, rest, q, hsearch, hq, hsuits, hholds⟩
      · rintro ⟨id', p', rest', q, hsearch', hq, hsuits, hholds⟩
        cases hsearch.symm.trans hsearch'
        exact ⟨hsuits, q, hq, hholds⟩

end ByType

/-! ## Two providers of one type -/

def tesla (hostname : String) (gpus : ℤ) : ProviderState where
  status := statusAvailable
  spec := ⟨hostname, 64, 262144, [⟨"Tesla T4"⟩], gpus⟩
  capacity := {
    sampleCapacity with
    gpuCount := gpus
    totalGPUs := NilMap.put none "Tesla T4" gpus
    availableGPUs := NilMap.put none "Tesla T4" gpus }

def teslaRegistry : Registry :=
  Function.update (Function.update (fun _ => none) "a" (some (tesla "node-a" 5))) "b"
    (some (tesla "node-b" 7))

def teslaRows : List ProviderRow :=
  [createRow "a" (tesla "node-a" 5) (1 / 2), createRow "b" (tesla "node-b" 7) 1]

def teslaSource : Source := .database (.ok (teslaRows.take 1))

def teslaRequest (gpuCount : ℤ) : CreateJobRequest where
  providerID := ""
  gpuType := "T4"
  gpuCount := gpuCount
  cpuCores := "4"
  memoryGB := "16Gi"
  storageGB := "20Gi"
  duration := 24

def sampleIlike (name pattern : String) : Bool :=
  decide ((pattern.toList.filter (· ≠ '%')).map Char.toLower <:+: name.toList.map Char.toLower)

theorem teslaSource_answers :
    teslaSource.Answers sampleIlike teslaRegistry teslaRows "T4" := by
  refine ⟨teslaRows, ?_, ?_, rfl⟩
  · have hall : ∀ row ∈ teslaRows, sampleIlike row.gpuModel ("%" ++ "T4" ++ "%") = true := by
      decide +kernel
    rw [List.filter_eq_self.mpr hall]
  · decide +kernel

def unanswered : String → Option ℤ := fun _ => none

end WorldlandBroker.ControlPlane
