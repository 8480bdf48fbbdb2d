import WorldlandBroker.ControlPlane.Placement
import WorldlandBroker.Foundation.Like
import WorldlandBroker.Foundation.Pages
import Mathlib.Data.Rat.Floor

/-!
# The two searches

`Orchestrator.Search` without a repository beside `PostgresRepository.Search` over
the rows that `Create` stores.  The query sorts by price and cuts out a page; the
search in memory gives back all it finds, in the order of a map iteration.
-/

namespace WorldlandBroker.ControlPlane

open Foundation Provider Job

structure SearchFilter where
  status : String
  gpuModel : String
  minMemoryMB : ℤ
  minCPUCores : ℤ
  minDiskGB : ℤ
  maxPricePerHour : ℚ
  limit : ℤ
  offset : ℤ

/-- A provider state with the two fields that only a search looks at. -/
structure ListedProvider where
  providerID : String
  state : ProviderState
  availableDiskGB : ℤ
  gpuPricePerHour : ℚ

structure ListedRow where
  row : ProviderRow
  availableDiskGB : ℤ

/-- What a column `DECIMAL(10,4)` keeps; halves go away from zero. -/
def decimal4 (price : ℚ) : ℚ :=
  if 0 ≤ price then ⌊price * 10000 + 1 / 2⌋ / 10000 else ⌈price * 10000 - 1 / 2⌉ / 10000

def listedRow (p : ListedProvider) : ListedRow :=
  ⟨createRow p.providerID p.state (decimal4 p.gpuPricePerHour), p.availableDiskGB⟩

/-! ## Without a repository -/

def passes (toLower : Char → Char) (filter : SearchFilter) (p : ListedProvider) : Bool :=
  !(filter.status ≠ "" && p.state.status ≠ filter.status) &&
  passesModel toLower p.state filter.gpuModel &&
  !(0 < filter.minMemoryMB && p.state.spec.totalMemoryMB < filter.minMemoryMB) &&
  !(0 < filter.minCPUCores && p.state.spec.cpuCores < filter.minCPUCores) &&
  !(0 < filter.minDiskGB && p.availableDiskGB < filter.minDiskGB) &&
  !(0 < filter.maxPricePerHour && filter.maxPricePerHour < p.gpuPricePerHour)

def searchMemory (toLower : Char → Char) (filter : SearchFilter)
    (order : List ListedProvider) : List ListedProvider :=
  order.filter (passes toLower filter)

/-! ## With a repository -/

/-- `ILIKE`, with the characters that the database takes for their small forms. -/
def ilike (lower : Char → Char) (text pattern : String) : Bool :=
  like (pattern.toList.map lower) (text.toList.map lower)

def matchesQuery (lower : Char → Char) (filter : SearchFilter) (r : ListedRow) : Bool :=
  (filter.status = "" || r.row.status = filter.status) &&
  (filter.gpuModel = "" || ilike lower r.row.gpuModel ("%" ++ filter.gpuModel ++ "%")) &&
  (filter.minMemoryMB ≤ 0 || filter.minMemoryMB ≤ r.row.totalMemoryMB) &&
  (filter.minCPUCores ≤ 0 || filter.minCPUCores ≤ r.row.cpuCores) &&
  (filter.minDiskGB ≤ 0 || filter.minDiskGB ≤ r.availableDiskGB) &&
  (filter.maxPricePerHour ≤ 0 || r.row.gpuPricePerHour ≤ filter.maxPricePerHour)

/-- What the query can answer; rows of one price come in any order. -/
def QueryAnswers (lower : Char → Char) (filter : SearchFilter) (rows answer : List ListedRow) :
    Prop :=
  Page (fun r => r.row.gpuPricePerHour) (searchLimit filter.limit) filter.offset.toNat
    (rows.filter (matchesQuery lower filter)) answer

/-! ## The same answer -/

structure ProviderSet where
  providers : List ListedProvider
  distinct : (providers.map ListedProvider.providerID).Nodup

/-- In whatever order the map is gone through, the database could answer the same. -/
def SearchesAgree (toLower lower : Char → Char) (filter : SearchFilter) (s : ProviderSet) :
    Prop :=
  ∀ order : List ListedProvider, order.Perm s.providers →
    ∃ answer, QueryAnswers lower filter (s.providers.map listedRow) answer ∧
      (searchMemory toLower filter order).map ListedProvider.providerID =
        answer.map fun r => r.row.providerID

variable {toLower lower : Char → Char} {filter : SearchFilter} {s : ProviderSet}
  {l : List ListedProvider}

theorem queryAnswers_iff {answer : List ListedRow} :
    QueryAnswers lower filter (l.map listedRow) answer ↔
      ∃ page, Page (fun p => decimal4 p.gpuPricePerHour) (searchLimit filter.limit)
          filter.offset.toNat (l.filter fun p => matchesQuery lower filter (listedRow p)) page ∧
        answer = page.map listedRow := by
  unfold QueryAnswers
  rw [List.filter_map, page_map_iff]
  rfl

private theorem listedRow_ids (page : List ListedProvider) :
    (page.map listedRow).map (fun r => r.row.providerID) =
      page.map ListedProvider.providerID := by
  rw [List.map_map]
  rfl

/--
The two searches agree exactly when what passes in memory is all of one stored
price, matches the query, and fills its page.
-/
theorem searches_agree_iff (toLower lower : Char → Char) (filter : SearchFilter)
    (s : ProviderSet) :
    SearchesAgree toLower lower filter s ↔
      LevelPage (fun p => decimal4 p.gpuPricePerHour) (searchLimit filter.limit)
        filter.offset.toNat
        (s.providers.filter fun p => matchesQuery lower filter (listedRow p))
        (s.providers.filter (passes toLower filter)) := by
  rw [← forall_page_iff]
  constructor
  · intro hagree m hm
    obtain ⟨order, horder, rfl⟩ := (perm_filter_iff _).mp hm
    obtain ⟨answer, hanswer, hids⟩ := hagree order horder
    obtain ⟨page, hpage, rfl⟩ := queryAnswers_iff.mp hanswer
    rw [listedRow_ids] at hids
    have hfound : order.filter (passes toLower filter) ⊆ s.providers := fun p hp =>
      horder.subset (List.mem_filter.mp hp).1
    have hmatch : page ⊆ s.providers := fun p hp =>
      (List.mem_filter.mp (hpage.subperm.subset hp)).1
    have hsame := eq_of_map_eq s.distinct hfound hmatch hids
    rw [hsame]
    exact hpage
  · intro hpages order horder
    refine ⟨(searchMemory toLower filter order).map listedRow, ?_, ?_⟩
    · exact queryAnswers_iff.mpr ⟨_, hpages _ (horder.filter _), rfl⟩
    · exact (listedRow_ids _).symm

/-! ## When the two filters are one -/

structure SameReading (toLower lower : Char → Char) (filter : SearchFilter)
    (p : ListedProvider) : Prop where
  lowered : filter.gpuModel.toList.map lower = filter.gpuModel.toList.map toLower ∧
    (firstGPUName p.state.spec).toList.map lower = (firstGPUName p.state.spec).toList.map toLower
  percent : lower '%' = '%'
  plain : (filter.gpuModel.toList.map toLower).all isPlain = true
  gpu : filter.gpuModel ≠ "" → p.state.spec.gpus ≠ []
  price : 0 < filter.maxPricePerHour → decimal4 p.gpuPricePerHour = p.gpuPricePerHour

theorem ilike_anywhere_iff {name model : String}
    (hmodel : model.toList.map lower = model.toList.map toLower)
    (hname : name.toList.map lower = name.toList.map toLower) (hpercent : lower '%' = '%')
    (hplain : (model.toList.map toLower).all isPlain = true) :
    ilike lower name ("%" ++ model ++ "%") = containsModel toLower name model := by
  have hpattern : ("%" ++ model ++ "%").toList.map lower =
      anywhere (model.toList.map toLower) := by
    simp [String.toList_append, anywhere, hmodel, hpercent]
  rw [Bool.eq_iff_iff, ilike, hpattern, hname, like_anywhere_iff hplain, containsModel,
    decide_eq_true_iff]

private theorem atLeast_eq {κ : Type*} [LinearOrder κ] (zero bound x : κ) :
    (!(decide (zero < bound) && decide (x < bound))) =
      (decide (bound ≤ zero) || decide (bound ≤ x)) := by
  rw [Bool.eq_iff_iff]
  simp only [Bool.not_eq_true', Bool.and_eq_false_imp, decide_eq_true_eq, decide_eq_false_iff_not,
    Bool.or_eq_true, not_lt]
  constructor
  · intro h
    by_cases hset : zero < bound
    · exact .inr (h hset)
    · exact .inl (not_lt.mp hset)
  · rintro (hunset | hle) hset
    · exact absurd hset (not_lt.mpr hunset)
    · exact hle

private theorem passesModel_eq {p : ListedProvider} (h : SameReading toLower lower filter p) :
    passesModel toLower p.state filter.gpuModel = (filter.gpuModel = "" ||
      ilike lower (listedRow p).row.gpuModel ("%" ++ filter.gpuModel ++ "%")) := by
  have hname : (listedRow p).row.gpuModel = firstGPUName p.state.spec := rfl
  rw [hname, ilike_anywhere_iff h.lowered.1 h.lowered.2 h.percent h.plain]
  unfold passesModel firstGPUName
  cases hgpus : p.state.spec.gpus with
  | nil =>
      have hunset : filter.gpuModel = "" := by
        by_contra hset
        exact h.gpu hset hgpus
      simp [hunset]
  | cons gpu gpus => rfl

private theorem passes_eq_matchesQuery {p : ListedProvider}
    (h : SameReading toLower lower filter p) :
    passes toLower filter p = matchesQuery lower filter (listedRow p) := by
  have hstatus : (!(decide (filter.status ≠ "") && decide (p.state.status ≠ filter.status))) =
      (decide (filter.status = "") || decide (p.state.status = filter.status)) := by
    by_cases hunset : filter.status = "" <;> simp [hunset]
  have hprice : (!(decide (0 < filter.maxPricePerHour) &&
        decide (filter.maxPricePerHour < p.gpuPricePerHour))) =
      (decide (filter.maxPricePerHour ≤ 0) ||
        decide (decimal4 p.gpuPricePerHour ≤ filter.maxPricePerHour)) := by
    by_cases hset : 0 < filter.maxPricePerHour
    · rw [h.price hset, Bool.eq_iff_iff]
      simp [hset, not_le.mpr hset]
    · simp [hset, not_lt.mp hset]
  unfold passes matchesQuery
  rw [hstatus, passesModel_eq h, atLeast_eq, atLeast_eq, atLeast_eq, hprice]
  rfl

private theorem searchLimit_pos (limit : ℤ) : 0 < searchLimit limit := by
  unfold searchLimit
  split
  · decide
  · omega

/-- What is found has to be on the first page, all of it, and all at one price. -/
theorem searches_agree_iff_of_sameReading
    (h : ∀ p ∈ s.providers, SameReading toLower lower filter p) :
    SearchesAgree toLower lower filter s ↔
      searchMemory toLower filter s.providers = [] ∨
        (filter.offset.toNat = 0 ∧
          (searchMemory toLower filter s.providers).length ≤ searchLimit filter.limit ∧
          ∀ p ∈ searchMemory toLower filter s.providers,
            ∀ q ∈ searchMemory toLower filter s.providers,
              decimal4 p.gpuPricePerHour = decimal4 q.gpuPricePerHour) := by
  have hsame : (s.providers.filter fun p => matchesQuery lower filter (listedRow p)) =
      s.providers.filter (passes toLower filter) :=
    List.filter_congr fun p hp => (passes_eq_matchesQuery (h p hp)).symm
  rw [searches_agree_iff, hsame, levelPage_self_iff (searchLimit_pos filter.limit)]
  rfl

/-! ## A provider without GPUs -/

def gpuless : ProviderState where
  status := statusAvailable
  spec := ⟨"node-1", 64, 262144, [], 0⟩
  capacity := { sampleCapacity with gpuCount := 0 }

def gpulessSet : ProviderSet where
  providers := [⟨"p1", gpuless, 500, 1⟩]
  distinct := List.nodup_singleton _

def modelFilter : SearchFilter := ⟨"", "RTX 4090", 0, 0, 0, 0, 10, 0⟩

/-- The search in memory finds it for a model, and the query does not. -/
theorem gpuless_provider_found :
    ¬ ∀ (toLower lower : Char → Char) (filter : SearchFilter) (s : ProviderSet),
      SearchesAgree toLower lower filter s := by
  intro hall
  obtain ⟨answer, hanswer, hids⟩ :=
    hall Char.toLower Char.toLower modelFilter gpulessSet _ (.refl _)
  have hnone : (gpulessSet.providers.map listedRow).filter
      (matchesQuery Char.toLower modelFilter) = [] := by
    decide +kernel
  have hnil : answer = [] := by
    have hsubperm := hanswer.subperm
    rw [hnone] at hsubperm
    exact List.subperm_nil.mp hsubperm
  rw [hnil] at hids
  revert hids
  decide +kernel

end WorldlandBroker.ControlPlane
