import Mathlib.Data.List.AList
import Mathlib.Algebra.BigOperators.Group.List.Basic
import Mathlib.Algebra.BigOperators.Group.Finset.Piecewise
import Mathlib.Algebra.Order.BigOperators.Group.Finset
import Mathlib.Algebra.Ring.Int.Defs
import Mathlib.Tactic.Ring

/-!
# Maps of counts

Finite maps from keys to integers, as a program keeps them: an absent key reads
as zero, and a map that was never allocated (`none`) reads as empty.  A loop over
the entries of such a map runs over an association list without duplicates.
-/

namespace WorldlandBroker.Foundation

variable {κ : Type*} [DecidableEq κ]

abbrev CountMap (κ : Type*) := AList fun _ : κ => ℤ

namespace CountMap

def count (m : CountMap κ) (k : κ) : ℤ := (m.lookup k).getD 0

def add (m : CountMap κ) (k : κ) (n : ℤ) : CountMap κ :=
  AList.insert k (m.count k + n) m

/-- `for k, n := range m { base[k] += n }` -/
def addAll (base m : CountMap κ) : CountMap κ :=
  m.entries.foldl (fun acc e => add acc e.1 e.2) base

def total (m : CountMap κ) : ℤ := (m.entries.map Sigma.snd).sum

@[simp] theorem count_empty (k : κ) : count ∅ k = 0 := by
  simp [count]

@[simp] theorem count_insert_self (m : CountMap κ) (k : κ) (n : ℤ) :
    count (AList.insert k n m) k = n := by
  simp [count]

theorem count_insert_of_ne (m : CountMap κ) {k k' : κ} (n : ℤ) (h : k' ≠ k) :
    count (AList.insert k n m) k' = m.count k' := by
  simp [count, AList.lookup_insert_ne h]

theorem count_insert (m : CountMap κ) (k k' : κ) (n : ℤ) :
    count (AList.insert k n m) k' = if k' = k then n else m.count k' := by
  by_cases h : k' = k
  · subst h
    simp
  · rw [count_insert_of_ne m n h, if_neg h]

theorem count_add (m : CountMap κ) (k k' : κ) (n : ℤ) :
    (m.add k n).count k' = m.count k' + if k' = k then n else 0 := by
  rw [add, count_insert]
  by_cases h : k' = k
  · subst h
    simp
  · simp [h]

theorem count_foldl_add (entries : List (Sigma fun _ : κ => ℤ))
    (base : CountMap κ) (k : κ) :
    (entries.foldl (fun acc e => add acc e.1 e.2) base).count k =
      base.count k +
        (entries.map fun e => if k = e.1 then e.2 else 0).sum := by
  induction entries generalizing base with
  | nil => simp
  | cons e entries ih =>
      rw [List.foldl_cons, ih, count_add, List.map_cons, List.sum_cons]
      ring

theorem sum_matching {entries : List (Sigma fun _ : κ => ℤ)}
    (hnodup : entries.NodupKeys) (k : κ) :
    (entries.map fun e => if k = e.1 then e.2 else 0).sum =
      (entries.dlookup k).getD 0 := by
  induction entries with
  | nil => simp
  | cons e entries ih =>
      obtain ⟨key, n⟩ := e
      have htail := List.nodupKeys_cons.mp hnodup
      rw [List.map_cons, List.sum_cons, ih htail.2]
      by_cases hk : k = key
      · subst hk
        have habsent : entries.dlookup k = none := List.dlookup_eq_none.mpr htail.1
        simp [habsent]
      · rw [List.dlookup_cons_ne _ _ hk]
        simp [hk]

theorem count_addAll (base m : CountMap κ) (k : κ) :
    (base.addAll m).count k = base.count k + m.count k := by
  rw [addAll, count_foldl_add, sum_matching m.nodupKeys]
  rfl

theorem total_eq_sum (m : CountMap κ) :
    m.total = ∑ k ∈ m.keys.toFinset, m.count k := by
  rw [List.sum_toFinset _ m.keys_nodup]
  have hentries : ∀ e ∈ m.entries, e.2 = m.count e.1 := by
    intro e he
    have hlookup : m.lookup e.1 = some e.2 := AList.mem_lookup_iff.mpr he
    simp [count, hlookup]
  simp only [total, AList.keys, List.keys, List.map_map]
  exact congrArg List.sum (List.map_congr_left hentries)

/-- Where every key is covered by the weights of its own kind, so is the total. -/
theorem total_le_sum {ι : Type*} (m : CountMap κ) (s : Finset ι) (kind : ι → κ)
    {weight : ι → ℤ} (hweight : ∀ i ∈ s, 0 ≤ weight i)
    (h : ∀ k, m.count k ≤ ∑ i ∈ s, if k = kind i then weight i else 0) :
    m.total ≤ ∑ i ∈ s, weight i := by
  rw [total_eq_sum]
  calc ∑ k ∈ m.keys.toFinset, m.count k
    _ ≤ ∑ k ∈ m.keys.toFinset, ∑ i ∈ s, if k = kind i then weight i else 0 :=
        Finset.sum_le_sum fun k _ => h k
    _ = ∑ i ∈ s, if kind i ∈ m.keys.toFinset then weight i else 0 := by
        rw [Finset.sum_comm]
        exact Finset.sum_congr rfl fun i _ => Finset.sum_ite_eq' _ _ _
    _ ≤ ∑ i ∈ s, weight i := by
        refine Finset.sum_le_sum fun i hi => ?_
        split
        · exact le_rfl
        · exact hweight i hi

theorem total_eq_sum_of_subset (m : CountMap κ) {s : Finset κ}
    (h : m.keys.toFinset ⊆ s) : m.total = ∑ k ∈ s, m.count k := by
  rw [total_eq_sum]
  refine Finset.sum_subset h fun k _ hk => ?_
  have habsent : m.lookup k = none :=
    AList.lookup_eq_none.mpr fun hmem => hk (List.mem_toFinset.mpr hmem)
  simp [count, habsent]

theorem total_nonneg (m : CountMap κ) (h : ∀ k, 0 ≤ m.count k) : 0 ≤ m.total := by
  rw [total_eq_sum]
  apply Finset.sum_nonneg
  intro k _
  exact h k

theorem total_eq_zero (m : CountMap κ) (h : ∀ k, m.count k = 0) : m.total = 0 := by
  rw [total_eq_sum]
  apply Finset.sum_eq_zero
  intro k _
  exact h k

theorem total_insert (m : CountMap κ) (k : κ) (n : ℤ) :
    total (AList.insert k n m) = m.total - m.count k + n := by
  let s : Finset κ := insert k m.keys.toFinset
  have hk : k ∈ s := Finset.mem_insert_self k _
  have hkeys : (AList.insert k n m).keys.toFinset ⊆ s := by
    intro k' hk'
    rw [List.mem_toFinset, ← AList.mem_keys, AList.mem_insert] at hk'
    simpa [s, ← AList.mem_keys] using hk'
  have hrest : ∑ k' ∈ s.erase k, count (AList.insert k n m) k' =
      ∑ k' ∈ s.erase k, m.count k' := by
    apply Finset.sum_congr rfl
    intro k' hk'
    exact count_insert_of_ne m n (Finset.ne_of_mem_erase hk')
  rw [total_eq_sum_of_subset _ hkeys, ← Finset.add_sum_erase s _ hk, hrest,
    count_insert_self, total_eq_sum_of_subset m (Finset.subset_insert k _),
    ← Finset.add_sum_erase s m.count hk]
  ring

theorem total_eq_count_add (m : CountMap κ) (k : κ) :
    m.total = m.count k + ∑ k' ∈ m.keys.toFinset.erase k, m.count k' := by
  rw [m.total_eq_sum_of_subset (Finset.subset_insert k _),
    ← Finset.add_sum_erase _ m.count (Finset.mem_insert_self k _),
    Finset.erase_insert_eq_erase]

theorem count_le_total (m : CountMap κ) (h : ∀ k, 0 ≤ m.count k) (k : κ) :
    m.count k ≤ m.total := by
  have hrest : 0 ≤ ∑ k' ∈ m.keys.toFinset.erase k, m.count k' :=
    Finset.sum_nonneg fun k' _ => h k'
  have hsplit := m.total_eq_count_add k
  omega

theorem total_eq_count_iff (m : CountMap κ) (h : ∀ k, 0 ≤ m.count k) (k : κ) :
    m.total = m.count k ↔ ∀ k' ≠ k, m.count k' = 0 := by
  have hzero := Finset.sum_eq_zero_iff_of_nonneg (s := m.keys.toFinset.erase k)
    fun k' _ => h k'
  rw [m.total_eq_count_add k, add_eq_left, hzero]
  constructor
  · intro hrest k' hk'
    by_cases hmem : k' ∈ m.keys
    · exact hrest k' (Finset.mem_erase.mpr ⟨hk', List.mem_toFinset.mpr hmem⟩)
    · have habsent : m.lookup k' = none := AList.lookup_eq_none.mpr hmem
      simp [count, habsent]
  · intro hrest k' hk'
    exact hrest k' (Finset.ne_of_mem_erase hk')

theorem sum_eq_sum_kinds {ι : Type*} {s : Finset κ} (kind : ι → κ)
    (weight : ι → ℤ) {l : List ι} (h : ∀ i ∈ l, kind i ∈ s) :
    (l.map weight).sum =
      ∑ k ∈ s, (l.map fun i => if k = kind i then weight i else 0).sum := by
  induction l with
  | nil => simp
  | cons i l ih =>
      have hi : kind i ∈ s := h i List.mem_cons_self
      have hrest := ih fun j hj => h j (List.mem_cons_of_mem i hj)
      simp only [List.map_cons, List.sum_cons]
      rw [Finset.sum_add_distrib, ← hrest, Finset.sum_ite_eq', if_pos hi]

theorem sum_le_total {ι : Type*} (m : CountMap κ) (kind : ι → κ)
    (weight : ι → ℤ) (l : List ι)
    (h : ∀ k, (l.map fun i => if k = kind i then weight i else 0).sum ≤
      m.count k) : (l.map weight).sum ≤ m.total := by
  have hkinds : ∀ i ∈ l, kind i ∈ (l.map kind).toFinset ∪ m.keys.toFinset :=
    fun i hi => Finset.mem_union_left _
      (List.mem_toFinset.mpr (List.mem_map_of_mem hi))
  rw [sum_eq_sum_kinds kind weight hkinds,
    m.total_eq_sum_of_subset Finset.subset_union_right]
  exact Finset.sum_le_sum fun k _ => h k

/-! ### Maps built in a loop -/

/-- `for _, k := range keys { m[k]++ }`, on a fresh map. -/
def tally (keys : List κ) : CountMap κ :=
  keys.foldl (fun acc k => acc.add k 1) ∅

/-- `for k, n := range m { out[k] = f(n) }`, on a fresh map. -/
def mapCounts (f : ℤ → ℤ) (m : CountMap κ) : CountMap κ :=
  m.entries.foldl (fun acc e => AList.insert e.1 (f e.2) acc) ∅

theorem count_foldl_tally (keys : List κ) (base : CountMap κ) (k : κ) :
    (keys.foldl (fun acc k => acc.add k 1) base).count k = base.count k + keys.count k := by
  induction keys generalizing base with
  | nil => simp
  | cons key keys ih =>
      rw [List.foldl_cons, ih, count_add, List.count_cons]
      by_cases hk : key = k
      · subst hk
        simp only [if_true, beq_self_eq_true]
        push_cast
        ring
      · simp [hk, Ne.symm hk]

theorem count_tally (keys : List κ) (k : κ) : (tally keys).count k = keys.count k := by
  rw [tally, count_foldl_tally, count_empty, zero_add]

theorem total_foldl_tally (keys : List κ) (base : CountMap κ) :
    (keys.foldl (fun acc k => acc.add k 1) base).total = base.total + keys.length := by
  induction keys generalizing base with
  | nil => simp
  | cons key keys ih =>
      rw [List.foldl_cons, ih, add, total_insert, List.length_cons]
      push_cast
      ring

theorem total_tally (keys : List κ) : (tally keys).total = keys.length := by
  have hempty : total (∅ : CountMap κ) = 0 := total_eq_zero _ fun k => count_empty k
  rw [tally, total_foldl_tally, hempty, zero_add]

theorem mem_foldl_tally (keys : List κ) (base : CountMap κ) (k : κ) :
    k ∈ keys.foldl (fun acc k => acc.add k 1) base ↔ k ∈ keys ∨ k ∈ base := by
  induction keys generalizing base with
  | nil => simp
  | cons key keys ih =>
      rw [List.foldl_cons, ih, add, AList.mem_insert, List.mem_cons]
      tauto

theorem mem_tally (keys : List κ) (k : κ) : k ∈ tally keys ↔ k ∈ keys := by
  have hempty : k ∉ (∅ : CountMap κ) := AList.notMem_empty k
  rw [tally, mem_foldl_tally]
  tauto

theorem count_foldl_mapCounts (f : ℤ → ℤ) {entries : List (Sigma fun _ : κ => ℤ)}
    (hnodup : entries.NodupKeys) (base : CountMap κ) (k : κ) :
    count (entries.foldl (fun acc e => AList.insert e.1 (f e.2) acc) base) k =
      ((entries.dlookup k).map f).getD (base.count k) := by
  induction entries generalizing base with
  | nil => simp
  | cons e entries ih =>
      obtain ⟨key, n⟩ := e
      have htail := List.nodupKeys_cons.mp hnodup
      rw [List.foldl_cons, ih htail.2, count_insert]
      by_cases hk : k = key
      · subst hk
        have habsent : entries.dlookup k = none := List.dlookup_eq_none.mpr htail.1
        simp [habsent]
      · rw [List.dlookup_cons_ne _ _ hk, if_neg hk]

theorem count_mapCounts {f : ℤ → ℤ} (hzero : f 0 = 0) (m : CountMap κ) (k : κ) :
    (m.mapCounts f).count k = f (m.count k) := by
  rw [mapCounts, count_foldl_mapCounts f m.nodupKeys]
  cases hlookup : m.entries.dlookup k with
  | none => simp [count, AList.lookup, hlookup, hzero]
  | some n => simp [count, AList.lookup, hlookup]

theorem mem_foldl_mapCounts (f : ℤ → ℤ) (entries : List (Sigma fun _ : κ => ℤ))
    (base : CountMap κ) (k : κ) :
    k ∈ entries.foldl (fun acc e => AList.insert e.1 (f e.2) acc) base ↔
      k ∈ entries.keys ∨ k ∈ base := by
  induction entries generalizing base with
  | nil => simp
  | cons e entries ih =>
      rw [List.foldl_cons, ih, AList.mem_insert, List.keys_cons, List.mem_cons]
      tauto

theorem mem_mapCounts (f : ℤ → ℤ) (m : CountMap κ) (k : κ) : k ∈ m.mapCounts f ↔ k ∈ m := by
  have hempty : k ∉ (∅ : CountMap κ) := AList.notMem_empty k
  rw [mapCounts, mem_foldl_mapCounts]
  simp only [hempty, or_false]
  rfl

end CountMap

/-! ## Maps that may not be allocated -/

abbrev NilMap (κ : Type*) := Option (CountMap κ)

namespace NilMap

def count (m : NilMap κ) (k : κ) : ℤ := CountMap.count (m.getD ∅) k

def total (m : NilMap κ) : ℤ := CountMap.total (m.getD ∅)

def alloc (m : NilMap κ) : NilMap κ := some (m.getD ∅)

def put (m : NilMap κ) (k : κ) (n : ℤ) : NilMap κ :=
  some (AList.insert k n (m.getD ∅))

def add (m : NilMap κ) (k : κ) (n : ℤ) : NilMap κ :=
  some (CountMap.add (m.getD ∅) k n)

/-- `for k, n := range m { if base == nil {...}; base[k] += n }` -/
def addAll (base m : NilMap κ) : NilMap κ :=
  match m with
  | none => base
  | some m =>
      if m.entries.isEmpty then base
      else some (CountMap.addAll (base.getD ∅) m)

/-- An empty map that `omitempty` leaves out of the JSON, and that is read back as nil. -/
def omitEmpty (m : NilMap κ) : NilMap κ :=
  match m with
  | none => none
  | some m => if m.entries.isEmpty then none else some m

@[simp] theorem count_none (k : κ) : count (none : NilMap κ) k = 0 :=
  CountMap.count_empty k

theorem count_put (m : NilMap κ) (k k' : κ) (n : ℤ) :
    (m.put k n).count k' = if k' = k then n else m.count k' :=
  CountMap.count_insert (m.getD ∅) k k' n

theorem total_put (m : NilMap κ) (k : κ) (n : ℤ) :
    (m.put k n).total = m.total - m.count k + n :=
  CountMap.total_insert (m.getD ∅) k n

theorem total_add (m : NilMap κ) (k : κ) (n : ℤ) : (m.add k n).total = m.total + n := by
  have hinsert := total_put m k (m.count k + n)
  rw [add, CountMap.add]
  change (m.put k (m.count k + n)).total = m.total + n
  omega

theorem total_nonneg (m : NilMap κ) (h : ∀ k, 0 ≤ m.count k) : 0 ≤ m.total :=
  CountMap.total_nonneg (m.getD ∅) h

theorem count_le_total (m : NilMap κ) (h : ∀ k, 0 ≤ m.count k) (k : κ) :
    m.count k ≤ m.total :=
  CountMap.count_le_total (m.getD ∅) h k

theorem total_eq_count_iff (m : NilMap κ) (h : ∀ k, 0 ≤ m.count k) (k : κ) :
    m.total = m.count k ↔ ∀ k' ≠ k, m.count k' = 0 :=
  CountMap.total_eq_count_iff (m.getD ∅) h k

theorem total_eq_zero (m : NilMap κ) (h : ∀ k, m.count k = 0) : m.total = 0 :=
  CountMap.total_eq_zero (m.getD ∅) h

theorem count_add (m : NilMap κ) (k k' : κ) (n : ℤ) :
    (m.add k n).count k' = m.count k' + if k' = k then n else 0 :=
  CountMap.count_add (m.getD ∅) k k' n

theorem count_addAll (base m : NilMap κ) (k : κ) :
    (base.addAll m).count k = base.count k + m.count k := by
  cases m with
  | none => simp [addAll]
  | some m =>
      simp only [addAll]
      split
      · rename_i hempty
        have hentries : m.entries = [] := List.isEmpty_iff.mp hempty
        simp [count, CountMap.count, AList.lookup, hentries]
      · exact CountMap.count_addAll (base.getD ∅) m k

omit [DecidableEq κ] in
theorem getD_omitEmpty (m : NilMap κ) : m.omitEmpty.getD ∅ = m.getD ∅ := by
  cases m with
  | none => rfl
  | some m =>
      simp only [omitEmpty]
      split
      · rename_i hempty
        exact (AList.ext (List.isEmpty_iff.mp hempty)).symm
      · rfl

omit [DecidableEq κ] in
theorem omitEmpty_of_mem {m : CountMap κ} {k : κ} (hk : k ∈ m) :
    omitEmpty (some m) = some m := by
  simp only [omitEmpty]
  rw [if_neg]
  intro hempty
  have hentries : m.entries = [] := List.isEmpty_iff.mp hempty
  rw [AList.mem_keys, AList.keys, hentries] at hk
  cases hk

@[simp] theorem count_omitEmpty (m : NilMap κ) (k : κ) :
    m.omitEmpty.count k = m.count k := by
  rw [count, getD_omitEmpty]
  rfl

theorem addAll_ne_none {base : NilMap κ} (h : base ≠ none) (m : NilMap κ) :
    base.addAll m ≠ none := by
  cases m with
  | none => exact h
  | some m =>
      simp only [addAll]
      split
      · exact h
      · simp

end NilMap

end WorldlandBroker.Foundation
