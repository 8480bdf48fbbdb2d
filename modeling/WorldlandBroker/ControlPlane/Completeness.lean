import WorldlandBroker.ControlPlane.Placement
import WorldlandBroker.Foundation.Pages
import Mathlib.Data.Set.Finite.Basic

/-!
# Whether a request that could be placed is placed

`CreateJob` looks at one provider only.  It places every request that some provider
could take when it cannot come across one that is too small: without a database any
matching provider may be the first of an iteration, with one any cheapest matching row.
-/

namespace WorldlandBroker.ControlPlane

open Foundation Provider Job

/-! ## Where the search looks -/

inductive Storage where
  | memory
  | database (rows : List ProviderRow)
  | unreachable

def Storage.Answers (ilike : String → String → Bool) (o : Registry) (model : String) :
    Storage → Source → Prop
  | .memory, .memory order => (Source.memory order).Answers ilike o [] model
  | .database rows, .database answer => (Source.database answer).Answers ilike o rows model
  | .unreachable, .database (.error _) => True
  | _, _ => False

def matchesModel (ilike : String → String → Bool) (model : String) (row : ProviderRow) : Bool :=
  ilike row.gpuModel ("%" ++ model ++ "%")

structure Cheapest (ilike : String → String → Bool) (rows : List ProviderRow) (model : String)
    (row : ProviderRow) : Prop where
  mem : row ∈ rows
  found : matchesModel ilike model row = true
  least : ∀ row' ∈ rows, matchesModel ilike model row' = true →
    row.gpuPricePerHour ≤ row'.gpuPricePerHour

/-- The columns are enough for the check, and the provider's ledger for the allocation. -/
structure RowSuits (o : Registry) (nodes : String → Option ℤ) (req : CreateJobRequest)
    (row : ProviderRow) : Prop where
  status : row.status = statusApproved ∨ row.status = statusJoined ∨
    row.status = statusAvailable
  gpus : req.gpuCount ≤
    if row.hostname = "" then max row.sharedGPUCount 0
    else (nodes row.hostname).getD (max row.sharedGPUCount 0)
  cpu : requestedCPU req ≤ max row.sharedCPUCores 0
  memory : requestedMemoryGB req ≤ (max row.sharedMemoryMB 0).tdiv 1024
  ledger : ∃ p, o row.providerID = some p ∧ Holds p (requestAllocation req row.gpuModel)

def Storage.MatchesSuit (toLower : Char → Char) (ilike : String → String → Bool) (o : Registry)
    (nodes : String → Option ℤ) (req : CreateJobRequest) : Storage → Prop
  | .memory => ∀ id p, o id = some p → passesModel toLower p req.gpuType = true →
      Suits p req (nodes p.spec.hostname) ∧ Holds p (requestAllocation req (firstGPUName p.spec))
  | .database rows => (∃ row ∈ rows, matchesModel ilike req.gpuType row = true) ∧
      ∀ row, Cheapest ilike rows req.gpuType row → RowSuits o nodes req row
  | .unreachable => False

variable {toLower : Char → Char} {ilike : String → String → Bool} {o : Registry}
  {rows : List ProviderRow} {storage : Storage} {nodes : String → Option ℤ} {user : String}
  {req : CreateJobRequest}

/-! ## What can be found first -/

private theorem scanned_gpuName (row : ProviderRow) :
    firstGPUName (scanProvider row).spec = row.gpuModel := by
  unfold firstGPUName scanProvider
  by_cases hmodel : row.gpuModel = ""
  · simp [hmodel]
  · simp [hmodel]

private theorem scanned_availableGPUs (row : ProviderRow) :
    (scanProvider row).capacity.availableGPUCount = max row.sharedGPUCount 0 := by
  -- a scanned record has no map, so every count taken from one is zero
  change (if (0 : ℤ) = 0 ∧ 0 < row.sharedGPUCount then row.sharedGPUCount - 0 else 0) =
    max row.sharedGPUCount 0
  split_ifs <;> omega

/-- The columns of a row are all that the check can see of it. -/
theorem rowSuits_iff {row : ProviderRow} :
    RowSuits o nodes req row ↔ Suits (scanProvider row) req (nodes row.hostname) ∧
      ∃ p, o row.providerID = some p ∧
        Holds p (requestAllocation req (firstGPUName (scanProvider row).spec)) := by
  have hgpus : offeredGPUs (scanProvider row) (nodes row.hostname) =
      if row.hostname = "" then max row.sharedGPUCount 0
      else (nodes row.hostname).getD (max row.sharedGPUCount 0) := by
    simp only [offeredGPUs, scanned_availableGPUs, ite_not]
    cases nodes row.hostname with
    | none | some count => rfl
  have hcpu : (scanProvider row).capacity.getAvailableCPUCores = max row.sharedCPUCores 0 := by
    simp only [ProviderCapacity.getAvailableCPUCores, scanProvider]
    split_ifs <;> omega
  have hmemory : (scanProvider row).capacity.getAvailableMemoryMB =
      max row.sharedMemoryMB 0 := by
    simp only [ProviderCapacity.getAvailableMemoryMB, scanProvider]
    split_ifs <;> omega
  constructor
  · rintro ⟨hstatus, hoffered, hcores, hmegabytes, hledger⟩
    refine ⟨⟨hstatus, ?_, ?_, ?_⟩, ?_⟩
    · rwa [hgpus]
    · rwa [hcpu]
    · rwa [hmemory]
    · rwa [scanned_gpuName]
  · rintro ⟨⟨hstatus, hoffered, hcores, hmegabytes⟩, hledger⟩
    rw [hgpus] at hoffered
    rw [hcpu] at hcores
    rw [hmemory] at hmegabytes
    rw [scanned_gpuName] at hledger
    exact ⟨hstatus, hoffered, hcores, hmegabytes, hledger⟩

private theorem exists_iteration (hfinite : {id | o id ≠ none}.Finite) {id model : String}
    (hid : o id ≠ none) : ∃ rest, Storage.memory.Answers ilike o model (.memory (id :: rest)) := by
  refine ⟨(hfinite.toFinset.erase id).toList, ?_, fun other => ?_⟩
  · simp [Finset.nodup_toList]
  · by_cases hother : other = id
    · simp [hother, hid]
    · simp [hother]

theorem answers_database_iff {answer : List ProviderRow} {model : String} :
    (Storage.database rows).Answers ilike o model (.database (.ok answer)) ↔
      Page ProviderRow.gpuPricePerHour 1 0 (rows.filter (matchesModel ilike model)) answer := by
  constructor
  · rintro ⟨ordered, hperm, hsorted, hanswer⟩
    exact ⟨ordered, hperm, hsorted, Except.ok.inj hanswer⟩
  · rintro ⟨ordered, hperm, hsorted, rfl⟩
    exact ⟨ordered, hperm, hsorted, rfl⟩

/-- A cheapest row can be the answer, and no other can. -/
theorem cheapest_iff {model : String} {row : ProviderRow} :
    (Storage.database rows).Answers ilike o model (.database (.ok [row])) ↔
      Cheapest ilike rows model row := by
  rw [answers_database_iff, page_one_iff]
  constructor
  · rintro ⟨hrow, hleast⟩
    obtain ⟨hrow, hmatch⟩ := List.mem_filter.mp hrow
    exact ⟨hrow, hmatch, fun row' hrow' hmatch' =>
      hleast row' (List.mem_filter.mpr ⟨hrow', hmatch'⟩)⟩
  · rintro ⟨hrow, hmatch, hleast⟩
    refine ⟨List.mem_filter.mpr ⟨hrow, hmatch⟩, fun row' hrow' => ?_⟩
    obtain ⟨hrow', hmatch'⟩ := List.mem_filter.mp hrow'
    exact hleast row' hrow' hmatch'

/-! ## Completeness -/

section ByType

variable (hid : req.providerID = "") (htype : req.gpuType ≠ "")
include hid htype

theorem accepted_row_iff {row : ProviderRow} :
    Accepted toLower o (.database (.ok [row])) nodes user req ↔ RowSuits o nodes req row := by
  rw [rowSuits_iff]
  exact accepted_iff_of_first hid htype rfl

theorem accepted_memory_iff {order : List String} {id : String} {p : ProviderState}
    {rest : List (String × ProviderState)}
    (hsearch : search toLower o (.memory order) req.gpuType = .ok ((id, p) :: rest)) :
    Accepted toLower o (.memory order) nodes user req ↔
      Suits p req (nodes p.spec.hostname) ∧
        Holds p (requestAllocation req (firstGPUName p.spec)) := by
  obtain ⟨hp, -⟩ := first_of_memory hsearch
  rw [accepted_iff_of_first hid htype (firstFound_eq_some.mpr ⟨rest, hsearch⟩)]
  simp [hp]

theorem memory_complete_iff (hfinite : {id | o id ≠ none}.Finite) :
    (∀ source, Storage.memory.Answers ilike o req.gpuType source →
        Placeable toLower o nodes req → Accepted toLower o source nodes user req) ↔
      (Placeable toLower o nodes req →
        Storage.memory.MatchesSuit toLower ilike o nodes req) := by
  constructor
  · intro hcomplete hplaceable id p hp hpasses
    have hid' : o id ≠ none := by simp [hp]
    obtain ⟨rest, hanswers⟩ :
        ∃ rest, Storage.memory.Answers ilike o req.gpuType (.memory (id :: rest)) :=
      exists_iteration hfinite hid'
    obtain ⟨found, hsearch⟩ : ∃ found,
        search toLower o (.memory (id :: rest)) req.gpuType = .ok ((id, p) :: found) := by
      simp [search, hp, hpasses]
    exact (accepted_memory_iff hid htype hsearch).mp (hcomplete _ hanswers hplaceable)
  · rintro hsuit (order | answer) hanswers hplaceable
    · have hmatches := hsuit hplaceable
      obtain ⟨id, p, hp, -, hpasses, -⟩ := hplaceable
      have hlisted : (id, p) ∈ order.filterMap fun id => (o id).map (id, ·) :=
        List.mem_filterMap.mpr ⟨id, (hanswers.2 id).mpr (by simp [hp]), by simp [hp]⟩
      obtain ⟨found, hsearch, hfound⟩ : ∃ found,
          search toLower o (.memory order) req.gpuType = .ok found ∧ (id, p) ∈ found :=
        ⟨_, rfl, List.mem_filter.mpr ⟨hlisted, hpasses⟩⟩
      obtain ⟨⟨id', p'⟩, rest, rfl⟩ := List.exists_cons_of_ne_nil (List.ne_nil_of_mem hfound)
      obtain ⟨hp', hpasses'⟩ := first_of_memory hsearch
      exact (accepted_memory_iff hid htype hsearch).mpr (hmatches id' p' hp' hpasses')
    · exact hanswers.elim

theorem database_complete_iff :
    (∀ source, (Storage.database rows).Answers ilike o req.gpuType source →
        Placeable toLower o nodes req → Accepted toLower o source nodes user req) ↔
      (Placeable toLower o nodes req →
        (Storage.database rows).MatchesSuit toLower ilike o nodes req) := by
  constructor
  · intro hcomplete hplaceable
    constructor
    · obtain ⟨page, hpage⟩ := exists_page ProviderRow.gpuPricePerHour 1 0
        (rows.filter (matchesModel ilike req.gpuType))
      have haccepted := hcomplete _ (answers_database_iff.mpr hpage) hplaceable
      cases page with
      | nil => exact absurd haccepted (not_accepted_of_none hid htype rfl)
      | cons row rest => exact ⟨row, List.mem_filter.mp (hpage.subperm.subset List.mem_cons_self)⟩
    · intro row hrow
      exact (accepted_row_iff hid htype).mp (hcomplete _ (cheapest_iff.mpr hrow) hplaceable)
  · rintro hsuit (order | answer) hanswers hplaceable
    · exact hanswers.elim
    · obtain ⟨⟨row, hrow, hmatch⟩, hsuits⟩ := hsuit hplaceable
      obtain ⟨ordered, hperm, hsorted, rfl⟩ := hanswers
      have hpage : Page ProviderRow.gpuPricePerHour 1 0
          (rows.filter (matchesModel ilike req.gpuType)) (ordered.take (searchLimit 1)) :=
        ⟨ordered, hperm, hsorted, rfl⟩
      obtain ⟨first, hfirst⟩ := hpage.eq_singleton
        (List.ne_nil_of_mem (List.mem_filter.mpr ⟨hrow, hmatch⟩))
      rw [hfirst] at hpage ⊢
      exact (accepted_row_iff hid htype).mpr
        (hsuits first ((cheapest_iff (o := o)).mp (answers_database_iff.mpr hpage)))

end ByType

/--
Whatever the search answers, every request that some provider could take is placed,
exactly where all the providers that can be found first could take it.
-/
theorem placement_complete_iff (toLower : Char → Char) (ilike : String → String → Bool)
    (storage : Storage) (nodes : String → Option ℤ) (user : String)
    (hfinite : {id | o id ≠ none}.Finite) (hid : req.providerID = "") (htype : req.gpuType ≠ "") :
    (∀ source, storage.Answers ilike o req.gpuType source →
        Placeable toLower o nodes req → Accepted toLower o source nodes user req) ↔
      (Placeable toLower o nodes req → storage.MatchesSuit toLower ilike o nodes req) := by
  cases storage with
  | memory => exact memory_complete_iff hid htype hfinite
  | database rows => exact database_complete_iff hid htype
  | unreachable =>
      constructor
      · intro hcomplete hplaceable
        exact absurd (hcomplete (.database (.error "")) trivial hplaceable)
          (not_accepted_of_none hid htype rfl)
      · intro hsuit source _ hplaceable
        exact (hsuit hplaceable).elim

/-! ## Two rows of one type -/

private theorem teslaRequest_placeable {gpuCount : ℤ} (hcount : gpuCount = 4 ∨ gpuCount = 6) :
    Placeable Char.toLower teslaRegistry unanswered (teslaRequest gpuCount) := by
  refine ⟨"b", tesla "node-b" 7, rfl, by decide, ?_⟩
  rcases hcount with rfl | rfl
  · decide +kernel
  · decide +kernel

private theorem teslaRegistry_finite : {id | teslaRegistry id ≠ none}.Finite := by
  refine (Set.toFinite {"a", "b"}).subset fun id hid => ?_
  by_contra hother
  simp only [Set.mem_insert_iff, Set.mem_singleton_iff, not_or] at hother
  exact hid (by simp [teslaRegistry, hother])

/-- Only the cheaper row can be found, and four GPUs fit there. -/
theorem placement_complete_sample :
    Accepted Char.toLower teslaRegistry teslaSource unanswered "u1" (teslaRequest 4) := by
  have hsuit : (Storage.database teslaRows).MatchesSuit Char.toLower sampleIlike teslaRegistry
      unanswered (teslaRequest 4) := by
    refine ⟨⟨_, List.mem_cons_self, by decide +kernel⟩, fun row hrow => ?_⟩
    rcases List.mem_cons.mp hrow.mem with rfl | hsecond
    · exact ⟨by decide, by decide, by decide, by decide, _, rfl, by decide +kernel⟩
    · rw [List.mem_singleton.mp hsecond] at hrow
      have hleast := hrow.least _ List.mem_cons_self (by decide +kernel)
      exact absurd hleast (by decide +kernel)
  exact (placement_complete_iff Char.toLower sampleIlike (.database teslaRows) unanswered "u1"
    teslaRegistry_finite rfl (by decide)).mpr (fun _ => hsuit) teslaSource teslaSource_answers
    (teslaRequest_placeable (.inl rfl))

/-- The rows are those of registered providers, and the query is answered. -/
theorem placement_incomplete :
    ¬ ∀ (toLower : Char → Char) (ilike : String → String → Bool) (o : Registry)
        (rows : List ProviderRow) (source : Source) (nodes : String → Option ℤ)
        (user : String) (req : CreateJobRequest),
      req.providerID = "" → req.gpuType ≠ "" →
      (∀ row ∈ rows, ∃ p, o row.providerID = some p ∧
        row = createRow row.providerID p row.gpuPricePerHour) →
      source.Answers ilike o rows req.gpuType → Placeable toLower o nodes req →
        Accepted toLower o source nodes user req := by
  intro hclaim
  have hrows : ∀ row ∈ teslaRows, ∃ p, teslaRegistry row.providerID = some p ∧
      row = createRow row.providerID p row.gpuPricePerHour := by
    intro row hrow
    simp only [teslaRows, List.mem_cons, List.not_mem_nil, or_false] at hrow
    rcases hrow with rfl | rfl
    · exact ⟨tesla "node-a" 5, rfl, rfl⟩
    · exact ⟨tesla "node-b" 7, rfl, rfl⟩
  have haccepted := hclaim Char.toLower sampleIlike teslaRegistry teslaRows teslaSource
    unanswered "u1" (teslaRequest 6) rfl (by decide) hrows teslaSource_answers
    (teslaRequest_placeable (.inr rfl))
  obtain ⟨id, p, rest, q, hsearch, -, hsuits, -⟩ :=
    (accepted_iff rfl (by decide)).mp haccepted
  cases hsearch
  have hrefused : ¬ Suits (scanProvider (createRow "a" (tesla "node-a" 5) (1 / 2)))
      (teslaRequest 6) none := by
    decide +kernel
  exact hrefused hsuits

end WorldlandBroker.ControlPlane
