import WorldlandBroker.ControlPlane.Restart
import WorldlandBroker.Foundation.Pages
import Mathlib.Data.List.Dedup

/-!
# Loading the whole fleet

What `loadProvidersFromDB` makes of the rows that any number of `Create` calls has
stored.  `ListAll` asks for a thousand of them, and the search under it takes that
for too much and answers with a hundred.
-/

namespace WorldlandBroker.ControlPlane

open Foundation Provider

structure CreateCall where
  providerID : String
  state : ProviderState
  gpuPricePerHour : ℚ

def CreateCall.row (call : CreateCall) : ProviderRow :=
  createRow call.providerID call.state call.gpuPricePerHour

/-- `INSERT … ON CONFLICT (provider_id) DO UPDATE` -/
def upsert (rows : List ProviderRow) (row : ProviderRow) : List ProviderRow :=
  if row.providerID ∈ rows.map ProviderRow.providerID then
    rows.map fun old => if old.providerID = row.providerID then row else old
  else rows ++ [row]

def storedRows (calls : List CreateCall) : List ProviderRow :=
  calls.foldl (fun rows call => upsert rows call.row) []

structure LoadsAll (rows : List ProviderRow) (o : Registry) : Prop where
  loaded : ∀ row ∈ rows, o row.providerID = some (scanProvider row)
  only : ∀ id, o id ≠ none → id ∈ rows.map ProviderRow.providerID

variable {rows answer : List ProviderRow} {row : ProviderRow} {id : String}

/-! ## The rows that are stored -/

private theorem upsert_ids (rows : List ProviderRow) (row : ProviderRow) :
    (upsert rows row).map ProviderRow.providerID =
      if row.providerID ∈ rows.map ProviderRow.providerID then
        rows.map ProviderRow.providerID
      else rows.map ProviderRow.providerID ++ [row.providerID] := by
  unfold upsert
  split
  · rw [List.map_map]
    apply List.map_congr_left
    intro old _
    simp only [Function.comp_apply]
    split
    · rename_i hsame
      exact hsame.symm
    · rfl
  · rw [List.map_append, List.map_singleton]

private theorem upsert_nodup (h : (rows.map ProviderRow.providerID).Nodup) (row : ProviderRow) :
    ((upsert rows row).map ProviderRow.providerID).Nodup := by
  rw [upsert_ids]
  split
  · exact h
  · rename_i hnew
    rw [← List.concat_eq_append]
    exact h.concat hnew

private theorem mem_upsert_ids :
    id ∈ (upsert rows row).map ProviderRow.providerID ↔
      id ∈ rows.map ProviderRow.providerID ∨ id = row.providerID := by
  rw [upsert_ids]
  split
  · rename_i hold
    constructor
    · exact .inl
    · rintro (hid | rfl)
      · exact hid
      · exact hold
  · rw [List.mem_append, List.mem_singleton]

private theorem foldl_upsert_ids (calls : List CreateCall)
    (h : (rows.map ProviderRow.providerID).Nodup) :
    ((calls.foldl (fun rows call => upsert rows call.row) rows).map
        ProviderRow.providerID).Nodup ∧
      ∀ id, id ∈ (calls.foldl (fun rows call => upsert rows call.row) rows).map
          ProviderRow.providerID ↔
        id ∈ rows.map ProviderRow.providerID ∨ id ∈ calls.map CreateCall.providerID := by
  induction calls generalizing rows with
  | nil => simpa using h
  | cons call calls ih =>
      obtain ⟨hnodup, hmem⟩ := ih (upsert_nodup h call.row)
      refine ⟨hnodup, fun id => ?_⟩
      rw [List.foldl_cons, hmem, mem_upsert_ids, List.map_cons, List.mem_cons]
      have hid : call.row.providerID = call.providerID := rfl
      rw [hid]
      tauto

private theorem no_ids_nodup : (([] : List ProviderRow).map ProviderRow.providerID).Nodup :=
  List.nodup_nil

private theorem storedRows_nodup (calls : List CreateCall) :
    ((storedRows calls).map ProviderRow.providerID).Nodup :=
  (foldl_upsert_ids calls no_ids_nodup).1

private theorem mem_storedRows_ids (calls : List CreateCall) (id : String) :
    id ∈ (storedRows calls).map ProviderRow.providerID ↔
      id ∈ calls.map CreateCall.providerID := by
  have hmem := (foldl_upsert_ids calls no_ids_nodup).2 id
  simpa [storedRows] using hmem

private theorem storedRows_length (calls : List CreateCall) :
    (storedRows calls).length = (calls.map CreateCall.providerID).dedup.length := by
  have hperm : ((storedRows calls).map ProviderRow.providerID).Perm
      (calls.map CreateCall.providerID).dedup := by
    rw [List.perm_ext_iff_of_nodup (storedRows_nodup calls) (List.nodup_dedup _)]
    intro id
    rw [mem_storedRows_ids, List.mem_dedup]
  rw [← hperm.length_eq, List.length_map]

/-! ## The rows that come back -/

private theorem listsAll_length (h : ListsAll rows answer) :
    answer.length = min 100 rows.length := by
  obtain ⟨ordered, hperm, -, rfl⟩ := h
  rw [List.length_take, hperm.length_eq]
  rfl

theorem loadsAll_iff (hids : (rows.map ProviderRow.providerID).Nodup)
    (hanswer : ListsAll rows answer) :
    LoadsAll rows (loadProvidersFromDB (fun _ => none) (.ok answer)) ↔
      rows.length ≤ 100 := by
  have hlength := listsAll_length hanswer
  constructor
  · intro h
    have hcovered : rows.map ProviderRow.providerID ⊆ answer.map ProviderRow.providerID := by
      intro id hid
      obtain ⟨row, hrow, rfl⟩ := List.mem_map.mp hid
      by_contra hmissing
      have hnone : loadProvidersFromDB (fun _ => none) (.ok answer) row.providerID = none :=
        loadProvidersFromDB_of_forall_ne fun row' hrow' heq =>
          hmissing (heq ▸ List.mem_map_of_mem hrow')
      cases hnone.symm.trans (h.loaded row hrow)
    have hle := (List.subperm_of_subset hids hcovered).length_le
    rw [List.length_map, List.length_map] at hle
    omega
  · intro hsmall
    have hperm : answer.Perm rows := by
      obtain ⟨ordered, hperm, -, rfl⟩ := hanswer
      have hall : ordered.length ≤ searchLimit 1000 := hperm.length_eq.trans_le hsmall
      rw [List.take_of_length_le hall]
      exact hperm
    refine ⟨fun row hrow => ?_, fun id hid => ?_⟩
    · exact loadProvidersFromDB_of_mem (hanswer.nodup hids) (hperm.mem_iff.mpr hrow)
    · by_contra hmissing
      refine hid (loadProvidersFromDB_of_forall_ne fun row hrow heq => hmissing ?_)
      rw [← heq]
      exact List.mem_map_of_mem (hperm.mem_iff.mp hrow)

/-- The boot loads every provider that was created when there are no more than a hundred. -/
theorem boot_loads_fleet_iff {calls : List CreateCall}
    (hanswer : ListsAll (storedRows calls) answer) :
    LoadsAll (storedRows calls) (loadProvidersFromDB (fun _ => none) (.ok answer)) ↔
      (calls.map CreateCall.providerID).dedup.length ≤ 100 := by
  rw [loadsAll_iff (storedRows_nodup calls) hanswer, storedRows_length]

/-! ## A fleet of a hundred and one -/

private theorem exists_listsAll (rows : List ProviderRow) : ∃ answer, ListsAll rows answer := by
  obtain ⟨ordered, hperm, horder⟩ := exists_inOrder ProviderRow.gpuPricePerHour rows
  exact ⟨_, ordered, hperm, horder, rfl⟩

def fleetProvider : ProviderState := ⟨statusAvailable, sampleSpec, sampleCapacity⟩

def sampleCreates : List CreateCall :=
  [⟨"a", fleetProvider, 1⟩, ⟨"b", fleetProvider, 1 / 2⟩, ⟨"a", fleetProvider, 1 / 4⟩]

theorem boot_loads_fleet_sample :
    ∃ answer, ListsAll (storedRows sampleCreates) answer ∧
      LoadsAll (storedRows sampleCreates)
        (loadProvidersFromDB (fun _ => none) (.ok answer)) := by
  obtain ⟨answer, hanswer⟩ := exists_listsAll (storedRows sampleCreates)
  exact ⟨answer, hanswer, (boot_loads_fleet_iff hanswer).mpr (by decide)⟩

def fleetID (n : ℕ) : String := String.ofList (List.replicate n 'a')

private theorem fleetID_injective : Function.Injective fleetID := by
  intro m n h
  have hlists : List.replicate m 'a' = List.replicate n 'a' := String.ofList_injective h
  simpa using congrArg List.length hlists

def fleetCreates : List CreateCall :=
  (List.range 101).map fun n => ⟨fleetID n, fleetProvider, 1⟩

theorem fleet_not_loaded :
    ¬ ∀ (calls : List CreateCall) (answer : List ProviderRow),
      ListsAll (storedRows calls) answer →
        LoadsAll (storedRows calls) (loadProvidersFromDB (fun _ => none) (.ok answer)) := by
  intro hall
  obtain ⟨answer, hanswer⟩ := exists_listsAll (storedRows fleetCreates)
  have hsmall := (loadsAll_iff (storedRows_nodup fleetCreates) hanswer).mp
    (hall fleetCreates answer hanswer)
  have hids : fleetCreates.map CreateCall.providerID = (List.range 101).map fleetID := by
    rw [fleetCreates, List.map_map]
    rfl
  have hdistinct : ((List.range 101).map fleetID).Nodup :=
    List.nodup_range.map fleetID_injective
  rw [storedRows_length, hids, hdistinct.dedup, List.length_map, List.length_range] at hsmall
  omega

end WorldlandBroker.ControlPlane
