import Mathlib.Data.List.Infix

/-!
# The patterns of LIKE

A percent sign stands for any characters, an underscore for one, and a backslash
takes the character after it as it is.  A text without these characters, put
between two percent signs, matches wherever it occurs.
-/

namespace WorldlandBroker.Foundation

inductive LikeToken where
  | anything
  | one
  | exactly (c : Char)
  deriving DecidableEq

/-- A backslash at the very end is an error of its own, not seen before a percent sign. -/
def likeTokens : List Char → List LikeToken
  | [] => []
  | '\\' :: c :: rest => .exactly c :: likeTokens rest
  | '%' :: rest => .anything :: likeTokens rest
  | '_' :: rest => .one :: likeTokens rest
  | c :: rest => .exactly c :: likeTokens rest

def matchesTokens : List LikeToken → List Char → Bool
  | [], text => text.isEmpty
  | .anything :: rest, text => text.tails.any fun tail => matchesTokens rest tail
  | .one :: rest, _ :: text => matchesTokens rest text
  | .one :: _, [] => false
  | .exactly c :: rest, c' :: text => c = c' && matchesTokens rest text
  | .exactly _ :: _, [] => false

def like (pattern text : List Char) : Bool := matchesTokens (likeTokens pattern) text

def anywhere (text : List Char) : List Char := '%' :: (text ++ ['%'])

def isPlain (c : Char) : Bool := c ≠ '%' && c ≠ '_' && c ≠ '\\'

variable {pattern text : List Char}

theorem likeTokens_plain {c : Char} (hc : isPlain c = true) (rest : List Char) :
    likeTokens (c :: rest) = .exactly c :: likeTokens rest := by
  simp only [isPlain, ne_eq, Bool.and_eq_true, decide_eq_true_eq] at hc
  obtain ⟨⟨hpercent, hunderscore⟩, hbackslash⟩ := hc
  rw [likeTokens.eq_def]
  split
  · contradiction
  · rename_i heq
    exact absurd (List.cons.inj heq).1 hbackslash
  · rename_i heq
    exact absurd (List.cons.inj heq).1 hpercent
  · rename_i heq
    exact absurd (List.cons.inj heq).1 hunderscore
  · rename_i heq
    cases heq
    rfl

theorem likeTokens_append_plain (h : pattern.all isPlain = true) (rest : List Char) :
    likeTokens (pattern ++ rest) = pattern.map .exactly ++ likeTokens rest := by
  induction pattern with
  | nil => rfl
  | cons c pattern ih =>
      obtain ⟨hc, hrest⟩ := Bool.and_eq_true_iff.mp ((List.all_cons).symm.trans h)
      rw [List.cons_append, likeTokens_plain hc, ih hrest]
      rfl

theorem likeTokens_percent (rest : List Char) :
    likeTokens ('%' :: rest) = .anything :: likeTokens rest := by
  rw [likeTokens]

theorem matches_anything (text : List Char) : matchesTokens [.anything] text = true := by
  simp only [matchesTokens, List.any_eq_true]
  exact ⟨[], (List.mem_tails _ _).mpr List.nil_suffix, rfl⟩

theorem matches_exactly_iff (pattern text : List Char) :
    matchesTokens (pattern.map .exactly ++ [.anything]) text = true ↔ pattern <+: text := by
  induction pattern generalizing text with
  | nil => simp [matches_anything]
  | cons c pattern ih =>
      cases text with
      | nil => simp [matchesTokens]
      | cons c' text =>
          simp only [List.map_cons, List.cons_append, matchesTokens, Bool.and_eq_true,
            decide_eq_true_eq, ih, List.cons_prefix_cons]

theorem like_anywhere_iff (h : pattern.all isPlain = true) (text : List Char) :
    like (anywhere pattern) text = true ↔ pattern <:+: text := by
  have htokens : likeTokens (anywhere pattern) =
      .anything :: (pattern.map .exactly ++ [.anything]) := by
    rw [anywhere, likeTokens_percent, likeTokens_append_plain h]
    rfl
  simp only [like, htokens, matchesTokens, List.any_eq_true, List.mem_tails,
    matches_exactly_iff]
  constructor
  · rintro ⟨tail, hsuffix, hprefix⟩
    exact hprefix.isInfix.trans hsuffix.isInfix
  · intro hinfix
    obtain ⟨tail, hprefix, hsuffix⟩ := List.infix_iff_prefix_suffix.mp hinfix
    exact ⟨tail, hsuffix, hprefix⟩

example : like (anywhere "TX%40".toList) "RTX 4090".toList = true := by decide

end WorldlandBroker.Foundation
