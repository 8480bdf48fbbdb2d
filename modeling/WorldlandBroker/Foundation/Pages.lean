import Mathlib.Data.List.Sort
import Mathlib.Data.List.Perm.Subperm

/-!
# Pages of a list in the order of a key

A page skips some elements of the ordered list and keeps a limited number of the
others.  Elements with one key may stand in any order, so there can be several
pages at one place.
-/

namespace WorldlandBroker.Foundation

variable {α β κ : Type*} [LinearOrder κ] {key : α → κ} {limit offset : ℕ}
  {l page found : List α} {a : α}

def InOrder (key : α → κ) (l : List α) : Prop := l.Pairwise fun a b => key a ≤ key b

def Page (key : α → κ) (limit offset : ℕ) (l page : List α) : Prop :=
  ∃ ordered : List α, ordered.Perm l ∧ InOrder key ordered ∧
    page = (ordered.drop offset).take limit

theorem inOrder_map {γ : Type*} {key : γ → κ} {f : α → γ} :
    InOrder key (l.map f) ↔ InOrder (fun a => key (f a)) l := List.pairwise_map

theorem exists_inOrder (key : α → κ) (l : List α) :
    ∃ ordered : List α, ordered.Perm l ∧ InOrder key ordered := by
  have htotal : Std.Total (fun a b : α => key a ≤ key b) := ⟨fun a b => le_total _ _⟩
  have htrans : IsTrans α (fun a b : α => key a ≤ key b) := ⟨fun _ _ _ => le_trans⟩
  exact ⟨l.insertionSort fun a b => key a ≤ key b, List.perm_insertionSort _ l,
    List.pairwise_insertionSort _ l⟩

theorem exists_page (key : α → κ) (limit offset : ℕ) (l : List α) :
    ∃ page, Page key limit offset l page := by
  obtain ⟨ordered, hperm, horder⟩ := exists_inOrder key l
  exact ⟨_, ordered, hperm, horder, rfl⟩

theorem Page.subperm (h : Page key limit offset l page) : page.Subperm l := by
  obtain ⟨ordered, hperm, -, rfl⟩ := h
  exact ((List.take_sublist _ _).trans (List.drop_sublist _ _)).subperm.trans hperm.subperm

theorem Page.inOrder (h : Page key limit offset l page) : InOrder key page := by
  obtain ⟨ordered, -, horder, rfl⟩ := h
  exact horder.sublist ((List.take_sublist _ _).trans (List.drop_sublist _ _))

theorem Page.length (h : Page key limit offset l page) :
    page.length = min limit (l.length - offset) := by
  obtain ⟨ordered, hperm, -, rfl⟩ := h
  rw [List.length_take, List.length_drop, hperm.length_eq]

theorem page_map_iff {γ : Type*} {key : γ → κ} {f : α → γ} {page : List γ} :
    Page key limit offset (l.map f) page ↔
      ∃ page', Page (fun a => key (f a)) limit offset l page' ∧ page = page'.map f := by
  constructor
  · rintro ⟨ordered, hperm, horder, rfl⟩
    have hcomp : Relation.Comp (· = List.map f ·) (·.Perm ·) ordered l := by
      rw [List.eq_map_comp_perm]
      exact hperm
    obtain ⟨ordered', rfl, hperm'⟩ := hcomp
    refine ⟨(ordered'.drop offset).take limit, ⟨ordered', hperm', ?_, rfl⟩, ?_⟩
    · exact inOrder_map.mp horder
    · rw [List.map_take, List.map_drop]
  · rintro ⟨page', ⟨ordered, hperm, horder, rfl⟩, rfl⟩
    refine ⟨ordered.map f, hperm.map f, inOrder_map.mpr horder, ?_⟩
    rw [List.map_take, List.map_drop]

/-! ## What stands before a page -/

theorem InOrder.head_le {first : α} {rest : List α} (h : InOrder key (first :: rest))
    (ha : a ∈ first :: rest) : key first ≤ key a := by
  rcases List.mem_cons.mp ha with rfl | ha
  · exact le_rfl
  · exact (List.pairwise_cons.mp h).1 a ha

theorem Page.skipped {rest : List α} (h : Page key limit offset l (a :: rest)) :
    (l.filter fun b => key b < key a).length ≤ offset := by
  obtain ⟨ordered, hperm, horder, hpage⟩ := h
  have hhead : ∀ b ∈ ordered.drop offset, key a ≤ key b := by
    cases hdrop : ordered.drop offset with
    | nil => simp
    | cons first later =>
        rw [hdrop] at hpage
        have hfirst : a = first := by
          cases limit with
          | zero => cases hpage
          | succ n => exact (List.cons.inj hpage).1
        have hlater : InOrder key (first :: later) :=
          hdrop ▸ horder.sublist (List.drop_sublist _ _)
        intro b hb
        rw [hfirst]
        exact hlater.head_le hb
  have hnone : (ordered.drop offset).filter (fun b => key b < key a) = [] := by
    rw [List.filter_eq_nil_iff]
    intro b hb
    simpa using hhead b hb
  rw [← (hperm.filter _).length_eq, ← List.take_append_drop offset ordered,
    List.filter_append, hnone, List.append_nil]
  exact (List.length_filter_le _ _).trans (List.length_take_le _ _)

theorem Page.reached {bound : κ} (h : Page key limit offset l page) (hpage : page ≠ [])
    (hbound : ∀ a ∈ page, key a ≤ bound) :
    offset + page.length ≤ (l.filter fun b => key b ≤ bound).length := by
  obtain ⟨ordered, hperm, horder, rfl⟩ := h
  obtain ⟨first, rest, hfirst⟩ := List.exists_cons_of_ne_nil hpage
  have hmem : first ∈ ordered.drop offset := by
    apply List.mem_of_mem_take
    rw [hfirst]
    exact List.mem_cons_self
  have hskipped : ∀ b ∈ ordered.take offset, key b ≤ bound := by
    intro b hb
    rw [InOrder, ← List.take_append_drop offset ordered] at horder
    have hle := (List.pairwise_append.mp horder).2.2 b hb first hmem
    exact hle.trans (hbound first (hfirst ▸ List.mem_cons_self))
  have hoffset : (ordered.take offset).length = offset := by
    have hpos := List.length_pos_of_mem hmem
    rw [List.length_drop] at hpos
    rw [List.length_take]
    omega
  have hall : ∀ b ∈ ordered.take offset ++ (ordered.drop offset).take limit,
      decide (key b ≤ bound) = true := by
    intro b hb
    rcases List.mem_append.mp hb with hb | hb
    · exact decide_eq_true (hskipped b hb)
    · exact decide_eq_true (hbound b hb)
  have hinitial : ordered.take offset ++ (ordered.drop offset).take limit <+: ordered := by
    rw [← List.take_add]
    exact List.take_prefix _ _
  calc offset + ((ordered.drop offset).take limit).length
    _ = (ordered.take offset ++ (ordered.drop offset).take limit).length := by
        rw [List.length_append, hoffset]
    _ = ((ordered.take offset ++ (ordered.drop offset).take limit).filter
          fun b => key b ≤ bound).length := by rw [List.filter_eq_self.mpr hall]
    _ ≤ (ordered.filter fun b => key b ≤ bound).length :=
        (hinitial.sublist.filter _).length_le
    _ = (l.filter fun b => key b ≤ bound).length := (hperm.filter _).length_eq

/-! ## Lists without their order -/

theorem eq_of_map_eq {f : α → β} {m m' : List α} (hl : (l.map f).Nodup) (hm : m ⊆ l)
    (hm' : m' ⊆ l) (h : m.map f = m'.map f) : m = m' := by
  induction m generalizing m' with
  | nil => exact (List.map_eq_nil_iff.mp h.symm).symm
  | cons a m ih =>
      cases m' with
      | nil => cases h
      | cons a' m' =>
          obtain ⟨hfirst, hrest⟩ := List.cons.inj h
          have hsame : a = a' := List.inj_on_of_nodup_map hl (hm List.mem_cons_self)
            (hm' List.mem_cons_self) hfirst
          rw [hsame, ih (List.subset_of_cons_subset hm) (List.subset_of_cons_subset hm') hrest]

/-- In some order of the list the filter keeps its elements in the order that is asked for. -/
theorem perm_filter_iff (p : α → Bool) {m : List α} :
    m.Perm (l.filter p) ↔ ∃ order : List α, order.Perm l ∧ order.filter p = m := by
  constructor
  · intro hm
    have hall : ∀ a ∈ m, p a = true := fun a ha => (List.mem_filter.mp (hm.mem_iff.mp ha)).2
    refine ⟨m ++ l.filter fun a => !p a, ?_, ?_⟩
    · exact (hm.append_right _).trans (List.filter_append_perm p l)
    · rw [List.filter_append, List.filter_eq_self.mpr hall, List.filter_filter]
      simp
  · rintro ⟨order, hperm, rfl⟩
    exact hperm.filter p

/-! ## Lists that are a page in whatever order -/

/-- All of one key, at the very place, with the limit filled or the list at its end. -/
structure LevelPage (key : α → κ) (limit offset : ℕ) (l found : List α) : Prop where
  subperm : found.Subperm l
  length : found.length = min limit (l.length - offset)
  level : ∀ a ∈ found, ∀ b ∈ found, key a = key b
  skipped : ∀ a ∈ found, (l.filter fun b => key b < key a).length ≤ offset
  reached : ∀ a ∈ found,
    offset + found.length ≤ (l.filter fun b => key b ≤ key a).length

theorem level_of_inOrder (h : InOrder key l) (hreverse : InOrder key l.reverse) :
    ∀ a ∈ l, ∀ b ∈ l, key a = key b := by
  have hback : l.Pairwise fun a b => key b ≤ key a := List.pairwise_reverse.mp hreverse
  have hsame : l.Pairwise fun a b => key a = key b :=
    (List.pairwise_and_iff.mpr ⟨h, hback⟩).imp fun hle => le_antisymm hle.1 hle.2
  intro a ha b hb
  have hflip : l.Pairwise (flip fun a b => key a = key b) := hsame.imp fun heq => heq.symm
  exact List.Pairwise.forall_of_forall_of_flip (R := fun a b => key a = key b)
    (fun _ _ => rfl) hsame hflip ha hb

theorem levelPage_of_forall (h : ∀ m : List α, m.Perm found → Page key limit offset l m) :
    LevelPage key limit offset l found := by
  have hfound := h found (.refl _)
  have hlevel : ∀ a ∈ found, ∀ b ∈ found, key a = key b :=
    level_of_inOrder hfound.inOrder (h found.reverse found.reverse_perm).inOrder
  refine ⟨hfound.subperm, hfound.length, hlevel, fun a ha => ?_, fun a ha => ?_⟩
  · cases found with
    | nil => contradiction
    | cons first rest =>
        rw [hlevel a ha first List.mem_cons_self]
        exact hfound.skipped
  · exact hfound.reached (List.ne_nil_of_mem ha) fun b hb => (hlevel b hb a ha).le

theorem exists_split (key : α → κ) (bound : κ) (l : List α) :
    ∃ below at' above : List α, (below ++ (at' ++ above)).Perm l ∧
      InOrder key below ∧ InOrder key above ∧ (∀ b ∈ below, key b < bound) ∧
      (∀ b ∈ at', key b = bound) ∧ ∀ b ∈ above, bound < key b := by
  obtain ⟨below, hbelow, hbelowOrder⟩ := exists_inOrder key (l.filter fun b => key b < bound)
  obtain ⟨above, habove, haboveOrder⟩ := exists_inOrder key
    ((l.filter fun b => ¬ key b < bound).filter fun b => ¬ key b ≤ bound)
  refine ⟨below, (l.filter fun b => ¬ key b < bound).filter fun b => key b ≤ bound, above,
    ?_, hbelowOrder, haboveOrder, fun b hb => ?_, fun b hb => ?_, fun b hb => ?_⟩
  · have hrest := List.filter_append_perm (fun b => decide (key b ≤ bound))
      (l.filter fun b => ¬ key b < bound)
    have hall := List.filter_append_perm (fun b => decide (key b < bound)) l
    simp only [← decide_not] at hrest hall
    exact (hbelow.append ((List.Perm.append_left _ habove).trans hrest)).trans hall
  · simpa using (List.mem_filter.mp (hbelow.mem_iff.mp hb)).2
  · obtain ⟨hb, hle⟩ := List.mem_filter.mp hb
    have hnot := (List.mem_filter.mp hb).2
    simp only [decide_eq_true_eq, not_lt] at hle hnot
    exact le_antisymm hle hnot
  · simpa using (List.mem_filter.mp (habove.mem_iff.mp hb)).2

theorem inOrder_append {l l' : List α} :
    InOrder key (l ++ l') ↔
      InOrder key l ∧ InOrder key l' ∧ ∀ a ∈ l, ∀ b ∈ l', key a ≤ key b :=
  List.pairwise_append

theorem inOrder_of_forall_eq {bound : κ} (h : ∀ b ∈ l, key b = bound) : InOrder key l :=
  List.pairwise_of_forall_mem_list fun a ha b hb => ((h a ha).trans (h b hb).symm).le

/-- The others with the key of the page stand partly before it and partly behind. -/
theorem page_of_split {m below at' above : List α} (bound : κ)
    (hperm : (m ++ (below ++ (at' ++ above))).Perm l)
    (hbelow : InOrder key below) (habove : InOrder key above)
    (hbelow' : ∀ b ∈ below, key b < bound) (hat : ∀ b ∈ at' ++ m, key b = bound)
    (habove' : ∀ b ∈ above, bound < key b)
    (hskipped : below.length ≤ offset) (hreached : offset ≤ below.length + at'.length)
    (hlength : m.length = min limit (l.length - offset)) :
    Page key limit offset l m := by
  let before := below ++ at'.take (offset - below.length)
  let behind := at'.drop (offset - below.length) ++ above
  let level := at'.take (offset - below.length) ++ (m ++ at'.drop (offset - below.length))
  have hbefore : before.length = offset := by
    simp only [before, List.length_append, List.length_take]
    omega
  have hordered : before ++ (m ++ behind) = below ++ (level ++ above) := by
    simp only [before, behind, level, List.append_assoc]
  have hl : (before ++ (m ++ behind)).Perm l := by
    have hrest : before ++ behind = below ++ (at' ++ above) := by
      simp only [before, behind, List.append_assoc]
      rw [← List.append_assoc (at'.take _), List.take_append_drop]
    refine (List.perm_append_comm_assoc before m behind).trans ?_
    rw [hrest]
    exact hperm
  have hlevel : ∀ b ∈ level, key b = bound := by
    intro b hb
    apply hat
    rcases List.mem_append.mp hb with hb | hb
    · exact List.mem_append_left _ (List.mem_of_mem_take hb)
    · rcases List.mem_append.mp hb with hb | hb
      · exact List.mem_append_right _ hb
      · exact List.mem_append_left _ (List.mem_of_mem_drop hb)
  refine ⟨before ++ (m ++ behind), hl, ?_, ?_⟩
  · rw [hordered, inOrder_append, inOrder_append]
    refine ⟨hbelow, ⟨inOrder_of_forall_eq hlevel, habove, fun a ha b hb => ?_⟩,
      fun a ha b hb => ?_⟩
    · exact (hlevel a ha).trans_le (habove' b hb).le
    · have hle : bound ≤ key b := by
        rcases List.mem_append.mp hb with hb | hb
        · exact (hlevel b hb).ge
        · exact (habove' b hb).le
      exact (hbelow' a ha).le.trans hle
  · rw [List.drop_left' hbefore]
    have htotal := hl.length_eq
    simp only [List.length_append, hbefore] at htotal
    by_cases hfull : m.length = limit
    · exact (List.take_left' hfull).symm
    · have hnone : behind = [] := by
        apply List.eq_nil_of_length_eq_zero
        omega
      rw [hnone, List.append_nil, List.take_of_length_le (by omega)]

theorem LevelPage.isPage (h : LevelPage key limit offset l found) {m : List α}
    (hm : m.Perm found) : Page key limit offset l m := by
  obtain ⟨sub, hsub, hsublist⟩ := h.subperm
  obtain ⟨rest, hrest⟩ := hsublist.exists_perm_append
  have hl : (m ++ rest).Perm l := ((hm.trans hsub.symm).append_right rest).trans hrest.symm
  have hlength : m.length = min limit (l.length - offset) := hm.length_eq.trans h.length
  cases hfirst : m with
  | nil =>
      obtain ⟨page, hpage⟩ := exists_page key limit offset l
      have hnil : page = [] := by
        rw [← List.length_eq_zero_iff, hpage.length, ← hlength, hfirst]
        rfl
      exact hnil ▸ hpage
  | cons a later =>
      rw [← hfirst]
      have ha : a ∈ found := hm.mem_iff.mp (hfirst ▸ List.mem_cons_self)
      have hmbound : ∀ b ∈ m, key b = key a := fun b hb => h.level b (hm.mem_iff.mp hb) a ha
      obtain ⟨below, at', above, hsplit, hbelow, habove, hbelow', hat, habove'⟩ :=
        exists_split key (key a) rest
      have hperm : (m ++ (below ++ (at' ++ above))).Perm l :=
        (hsplit.append_left m).trans hl
      have hcount (p : α → Bool) : (l.filter p).length = (m.filter p).length +
          ((below.filter p).length + ((at'.filter p).length + (above.filter p).length)) := by
        rw [← (hperm.filter p).length_eq]
        simp only [List.filter_append, List.length_append]
      refine page_of_split (key a) hperm hbelow habove hbelow' ?_ habove' ?_ ?_ hlength
      · intro b hb
        rcases List.mem_append.mp hb with hb | hb
        · exact hat b hb
        · exact hmbound b hb
      · have hskipped := h.skipped a ha
        rw [hcount, List.filter_eq_self.mpr fun b hb => decide_eq_true (hbelow' b hb)] at hskipped
        omega
      · have hreached := h.reached a ha
        have hnone : above.filter (fun b => key b ≤ key a) = [] := by
          rw [List.filter_eq_nil_iff]
          intro b hb
          simpa using habove' b hb
        have hfound : m.length = found.length := hm.length_eq
        have hm' := List.length_filter_le (fun b => decide (key b ≤ key a)) m
        have hbelow'' := List.length_filter_le (fun b => decide (key b ≤ key a)) below
        have hat' := List.length_filter_le (fun b => decide (key b ≤ key a)) at'
        rw [hcount, hnone, List.length_nil] at hreached
        omega

/-- Every order of a list is a page of another exactly when it is a level page. -/
theorem forall_page_iff :
    (∀ m : List α, m.Perm found → Page key limit offset l m) ↔
      LevelPage key limit offset l found :=
  ⟨levelPage_of_forall, fun h _ hm => h.isPage hm⟩

theorem levelPage_self_iff (hlimit : 0 < limit) :
    LevelPage key limit offset l l ↔
      l = [] ∨ (offset = 0 ∧ l.length ≤ limit ∧ ∀ a ∈ l, ∀ b ∈ l, key a = key b) := by
  constructor
  · intro h
    by_cases hnil : l = []
    · exact .inl hnil
    · have hpos := List.length_pos_of_ne_nil hnil
      have hlength := h.length
      exact .inr ⟨by omega, by omega, h.level⟩
  · rintro (rfl | ⟨rfl, hle, hlevel⟩)
    · exact ⟨.refl _, by simp, by simp, by simp, by simp⟩
    · refine ⟨.refl _, by omega, hlevel, fun a ha => ?_, fun a ha => ?_⟩
      · have hnone : l.filter (fun b => key b < key a) = [] := by
          rw [List.filter_eq_nil_iff]
          intro b hb
          simpa using (hlevel a ha b hb).le
        rw [hnone]
        rfl
      · have hall : l.filter (fun b => key b ≤ key a) = l :=
          List.filter_eq_self.mpr fun b hb => decide_eq_true (hlevel b hb a ha).le
        rw [hall, Nat.zero_add]

/-! ## Pages of one element -/

theorem page_one_iff : Page key 1 0 l [a] ↔ a ∈ l ∧ ∀ b ∈ l, key a ≤ key b := by
  constructor
  · intro h
    refine ⟨h.subperm.subset List.mem_cons_self, fun b hb => ?_⟩
    have hnone := List.eq_nil_of_length_eq_zero (Nat.le_zero.mp h.skipped)
    simpa using List.filter_eq_nil_iff.mp hnone b hb
  · rintro ⟨ha, hleast⟩
    have hlength := List.length_pos_of_mem ha
    suffices hlevel : LevelPage key 1 0 l [a] from hlevel.isPage (.refl _)
    refine ⟨?_, ?_, ?_, ?_, ?_⟩
    · exact List.singleton_subperm_iff.mpr ha
    · rw [List.length_singleton]
      omega
    · simp
    · rintro b hb
      rw [List.mem_singleton.mp hb, Nat.le_zero, List.length_eq_zero_iff, List.filter_eq_nil_iff]
      intro c hc
      simpa using hleast c hc
    · rintro b hb
      rw [List.mem_singleton.mp hb]
      exact List.length_pos_of_mem (List.mem_filter.mpr ⟨ha, by simp⟩)

theorem Page.eq_singleton (h : Page key 1 0 l page) (hl : l ≠ []) : ∃ a, page = [a] := by
  have hlength := h.length
  have hpos := List.length_pos_of_ne_nil hl
  exact List.length_eq_one_iff.mp (by omega)

end WorldlandBroker.Foundation
