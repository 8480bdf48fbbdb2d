import Mathlib.Data.List.DropRight
import Mathlib.Data.List.Infix

/-!
# Splitting text

Text cut at every occurrence of a separator, from the left and without overlaps,
and text cut at runs of characters of one kind.  What has been joined by a separator
is cut at the same places again where no piece makes an occurrence of its own.
-/

namespace WorldlandBroker.Foundation

variable {α : Type*} {sep piece rest : List α} {pieces : List (List α)} {a b : α}

section Separator

variable [DecidableEq α]

/-- `skip` elements of the separator that has been found are still to come. -/
def splitSkip (sep : List α) : ℕ → List α → List (List α)
  | _, [] => [[]]
  | skip + 1, _ :: rest => splitSkip sep skip rest
  | 0, a :: rest =>
      if sep.isPrefixOf (a :: rest) then [] :: splitSkip sep (sep.length - 1) rest
      else (splitSkip sep 0 rest).modifyHead (a :: ·)

def splitAt (sep text : List α) : List (List α) := splitSkip sep 0 text

theorem splitSkip_append (sep piece rest : List α) :
    splitSkip sep piece.length (piece ++ rest) = splitAt sep rest := by
  induction piece with
  | nil => rfl
  | cons a piece ih => exact ih

theorem splitAt_cons_of_not (h : ¬ sep <+: a :: rest) :
    splitAt sep (a :: rest) = (splitAt sep rest).modifyHead (a :: ·) := by
  rw [splitAt, splitSkip, if_neg (by simpa using h)]
  rfl

theorem splitAt_sep (hsep : sep ≠ []) (rest : List α) :
    splitAt sep (sep ++ rest) = [] :: splitAt sep rest := by
  cases sep with
  | nil => exact absurd rfl hsep
  | cons a sep =>
      have hfound : (a :: sep).isPrefixOf (a :: (sep ++ rest)) = true := by
        rw [List.isPrefixOf_iff_prefix, ← List.cons_append]
        exact List.prefix_append _ _
      rw [List.cons_append, splitAt, splitSkip, if_pos hfound]
      exact congrArg ([] :: ·) (splitSkip_append (a :: sep) sep rest)

end Separator

/-- No occurrence of the separator begins in the piece, one that ends behind it too. -/
def Clean (sep piece : List α) : Prop :=
  ∀ tail, tail <:+ piece → tail ≠ [] → ¬ sep <+: tail ++ sep

theorem Clean.tail (h : Clean sep (a :: piece)) : Clean sep piece :=
  fun tail htail => h tail (htail.trans (List.suffix_cons a piece))

theorem Clean.head (h : Clean sep (a :: piece)) (rest : List α) :
    ¬ sep <+: a :: piece ++ sep ++ rest := by
  intro hprefix
  have hlength : sep.length ≤ (a :: piece ++ sep).length := by
    rw [List.length_append]
    exact Nat.le_add_left _ _
  exact h (a :: piece) List.suffix_rfl (by simp)
    (List.prefix_of_prefix_length_le hprefix (List.prefix_append _ rest) hlength)

theorem clean_pair (hne : a ≠ b) : Clean [a, b] piece ↔ ¬ [a, b] <:+: piece := by
  constructor
  · rintro h ⟨before, after, rfl⟩
    refine h ([a, b] ++ after) ⟨before, by simp⟩ (by simp) ⟨after ++ [a, b], by simp⟩
  · intro h tail htail hsome hprefix
    cases tail with
    | nil => exact hsome rfl
    | cons first tail =>
        cases tail with
        | nil =>
            obtain ⟨hfirst, hsecond⟩ : a = first ∧ b = a := by simpa using hprefix
            exact hne hsecond.symm
        | cons second tail =>
            obtain ⟨rfl, rfl⟩ : a = first ∧ b = second := by simpa using hprefix
            exact h (List.IsInfix.trans ⟨[], tail, rfl⟩ htail.isInfix)

section Joined

variable [DecidableEq α]

theorem splitAt_append (hsep : sep ≠ []) (h : Clean sep piece) (rest : List α) :
    splitAt sep (piece ++ sep ++ rest) = piece :: splitAt sep rest := by
  induction piece with
  | nil => exact splitAt_sep hsep rest
  | cons a piece ih =>
      have hnot := h.head rest
      simp only [List.cons_append] at hnot ⊢
      rw [splitAt_cons_of_not hnot, ih h.tail]
      rfl

theorem splitAt_clean (h : Clean sep piece) : splitAt sep piece = [piece] := by
  induction piece with
  | nil => rfl
  | cons a piece ih =>
      have hnot : ¬ sep <+: a :: piece := by
        rintro hstart
        exact h (a :: piece) List.suffix_rfl (by simp) (hstart.trans (List.prefix_append _ _))
      rw [splitAt_cons_of_not hnot, ih h.tail]
      rfl

theorem splitAt_intercalate (hsep : sep ≠ []) (hclean : ∀ piece ∈ pieces, Clean sep piece)
    (hsome : pieces ≠ []) : splitAt sep (sep.intercalate pieces) = pieces := by
  induction pieces with
  | nil => exact absurd rfl hsome
  | cons piece pieces ih =>
      have hpiece := hclean piece List.mem_cons_self
      cases pieces with
      | nil =>
          rw [List.intercalate_singleton]
          exact splitAt_clean hpiece
      | cons next pieces =>
          rw [List.intercalate_cons_cons, splitAt_append hsep hpiece,
            ih (fun p hp => hclean p (List.mem_cons_of_mem _ hp)) (by simp)]

end Joined

theorem notMem_intercalate (hsep : a ∉ sep) (hpieces : ∀ piece ∈ pieces, a ∉ piece) :
    a ∉ sep.intercalate pieces := by
  induction pieces with
  | nil => simp
  | cons piece pieces ih =>
      have hpiece := hpieces piece List.mem_cons_self
      cases pieces with
      | nil => simpa using hpiece
      | cons next pieces =>
          have hrest := ih fun p hp => hpieces p (List.mem_cons_of_mem _ hp)
          rw [List.intercalate_cons_cons]
          simp [hpiece, hsep, hrest]

theorem prefix_intercalate (sep piece : List α) (pieces : List (List α)) :
    piece <+: sep.intercalate (piece :: pieces) := by
  cases pieces with
  | nil => simp
  | cons next pieces =>
      rw [List.intercalate_cons_cons, List.append_assoc]
      exact List.prefix_append _ _

theorem suffix_intercalate (sep : List α) (pieces : List (List α)) (piece : List α) :
    piece <:+ sep.intercalate (pieces ++ [piece]) := by
  induction pieces with
  | nil => simp
  | cons first pieces ih =>
      rw [List.cons_append, List.intercalate_cons_of_ne_nil (by simp)]
      exact ih.trans (List.suffix_append _ _)

/-! ## Lines and words -/

section Lines

variable {lines : List (List α)}

def ended (a : α) (lines : List (List α)) : List α := lines.flatMap (· ++ [a])

theorem ended_eq_intercalate (hsome : lines ≠ []) :
    ended a lines = [a].intercalate lines ++ [a] := by
  induction lines with
  | nil => exact absurd rfl hsome
  | cons line lines ih =>
      cases lines with
      | nil => simp [ended]
      | cons next lines =>
          have hrest := ih (by simp)
          rw [ended, List.flatMap_cons, ← ended, hrest, List.intercalate_cons_cons]
          simp

theorem splitOn_ended [DecidableEq α] (h : ∀ line ∈ lines, a ∉ line) :
    (ended a lines).splitOn a = lines ++ [[]] := by
  induction lines with
  | nil => rfl
  | cons line lines ih =>
      have hrest := ih fun l hl => h l (List.mem_cons_of_mem _ hl)
      rw [ended, List.flatMap_cons, ← ended, List.append_assoc, List.singleton_append,
        List.splitOn_append_cons_self_of_not_mem (h line List.mem_cons_self), hrest]
      rfl

end Lines

section Words

variable {p : α → Bool} {word spaces : List α}

def wordsBy (p : α → Bool) (text : List α) : List (List α) :=
  (text.splitOnP p).filter fun word => !word.isEmpty

theorem wordsBy_spaces (hspaces : ∀ a ∈ spaces, p a = true) (text : List α) :
    wordsBy p (spaces ++ text) = wordsBy p text := by
  induction spaces with
  | nil => rfl
  | cons a spaces ih =>
      rw [List.cons_append, wordsBy, List.splitOnP_cons_eq_if_modifyHead,
        if_pos (hspaces a List.mem_cons_self), List.filter_cons_of_neg (by simp)]
      exact ih fun b hb => hspaces b (List.mem_cons_of_mem _ hb)

theorem wordsBy_append (hword : ∀ a ∈ word, p a = false) (hsome : word ≠ [])
    (ha : p a = true) (text : List α) :
    wordsBy p (word ++ a :: text) = word :: wordsBy p text := by
  rw [wordsBy, List.splitOnP_append_cons_of_forall_mem hword a ha,
    List.filter_cons_of_pos (by simpa using hsome)]
  rfl

end Words

/-! ## Text without its ends -/

section Stripped

variable {p : α → Bool} {left right text : List α}

def strip (p : α → Bool) (text : List α) : List α := (text.dropWhile p).rdropWhile p

theorem strip_cons (ha : p a = true) (text : List α) : strip p (a :: text) = strip p text := by
  rw [strip, List.dropWhile_cons_of_pos ha, strip]

theorem strip_concat (ha : p a = true) (text : List α) :
    strip p (text ++ [a]) = strip p text := by
  rw [strip, List.dropWhile_append, strip]
  split
  · rename_i hnone
    rw [List.isEmpty_iff.mp hnone, List.dropWhile_cons_of_pos ha]
    rfl
  · exact List.rdropWhile_concat_pos _ _ _ ha

theorem strip_padded (hleft : ∀ a ∈ left, p a = true) (hright : ∀ a ∈ right, p a = true)
    (text : List α) : strip p (left ++ text ++ right) = strip p text := by
  induction right using List.reverseRecOn with
  | nil => rw [List.append_nil, strip, List.dropWhile_append_of_pos hleft, strip]
  | append_singleton right a ih =>
      rw [← List.append_assoc, strip_concat (hright a (by simp))]
      exact ih fun b hb => hright b (List.mem_append_left _ hb)

variable [DecidableEq α] {sep : α}

theorem map_strip_splitOn_cons (ha : p a = true) (hsep : p sep = false) (text : List α) :
    ((a :: text).splitOn sep).map (strip p) = (text.splitOn sep).map (strip p) := by
  have hne : (a == sep) = false := by
    rw [beq_eq_false_iff_ne]
    rintro rfl
    rw [ha] at hsep
    cases hsep
  rw [List.splitOn_cons_eq_if_modifyHead, hne, if_neg (by decide)]
  cases hpieces : text.splitOn sep with
  | nil => exact absurd hpieces (List.splitOn_ne_nil sep text)
  | cons piece pieces =>
      rw [List.modifyHead_cons, List.map_cons, strip_cons ha]
      rfl

theorem map_strip_splitOn_concat (ha : p a = true) (hsep : p sep = false) (text : List α) :
    ((text ++ [a]).splitOn sep).map (strip p) = (text.splitOn sep).map (strip p) := by
  induction hlength : text.length using Nat.strong_induction_on generalizing text with
  | _ n ih =>
      by_cases hmem : sep ∈ text
      · obtain ⟨before, after, rfl⟩ := List.append_of_mem hmem
        have hafter := ih after.length (by simp [← hlength]; omega) after rfl
        rw [List.append_assoc, List.cons_append, List.splitOn_append_cons_self, List.map_append,
          hafter, List.splitOn_append_cons_self, List.map_append]
      · have hne : sep ≠ a := by
          rintro rfl
          rw [ha] at hsep
          cases hsep
        have hnone : sep ∉ text ++ [a] := by simp [hmem, hne]
        rw [List.splitOn_eq_singleton hnone, List.splitOn_eq_singleton hmem, List.map_singleton,
          strip_concat ha, List.map_singleton]

/-- Pieces without their ends are the same where the text has lost its ends before. -/
theorem map_strip_splitOn_strip (hsep : p sep = false) (text : List α) :
    ((strip p text).splitOn sep).map (strip p) = (text.splitOn sep).map (strip p) := by
  have hright (text : List α) :
      ((text.rdropWhile p).splitOn sep).map (strip p) = (text.splitOn sep).map (strip p) := by
    induction text using List.reverseRecOn with
    | nil => rfl
    | append_singleton text a ih =>
        rw [List.rdropWhile_concat]
        split
        · rw [ih, map_strip_splitOn_concat ‹_› hsep]
        · rfl
  have hleft : ((text.dropWhile p).splitOn sep).map (strip p) =
      (text.splitOn sep).map (strip p) := by
    induction text with
    | nil => rfl
    | cons a text ih =>
        rw [List.dropWhile_cons]
        split
        · rw [ih, map_strip_splitOn_cons ‹_› hsep]
        · rfl
  rw [strip, hright, hleft]

end Stripped

end WorldlandBroker.Foundation
