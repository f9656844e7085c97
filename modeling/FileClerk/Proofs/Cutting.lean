import Mathlib.Data.List.Infix
import FileClerk.Text.Basic

/-!
# Where a text is cut

`pieces` and `joinWith` are the library's `splitOn` and `intercalate`, so what is known of those
holds of paths. A cut at a separator is the first one there is (`splitOnce?_eq_some_iff`), and none
is made exactly when the separator does not occur (`splitOnce?_eq_none_iff`).
-/

namespace FileClerk

namespace Text

theorem pieces_eq_splitOn (sep : Char) : ∀ s : Text, pieces sep s = s.splitOn sep
  | [] => by simp [pieces]
  | c :: s => by
    rw [pieces, List.splitOn_cons_eq_if_modifyHead, pieces_eq_splitOn sep s]
    obtain ⟨p, ps, hp⟩ := List.exists_cons_of_ne_nil (List.splitOn_ne_nil sep s)
    by_cases h : c = sep <;> simp [h, hp]

theorem joinWith_eq_intercalate (sep : Text) :
    ∀ ps : List Text, joinWith sep ps = sep.intercalate ps
  | [] => rfl
  | [p] => by simp [joinWith]
  | p :: q :: ps => by
    rw [joinWith, joinWith_eq_intercalate sep (q :: ps), List.intercalate_cons_cons]

theorem not_mem_of_mem_splitOn {sep : Char} (s : Text) : ∀ p ∈ s.splitOn sep, sep ∉ p := by
  rw [← pieces_eq_splitOn]
  induction s with
  | nil => simp [pieces]
  | cons c s ih =>
    rw [pieces]
    split_ifs with hc
    · simpa using ih
    · split
      · simpa using Ne.symm hc
      · rename_i p ps hps
        rw [hps, List.forall_mem_cons] at ih
        simpa [ih.1, Ne.symm hc] using ih.2

/-- The cut of a text at the first place where a separator stands. -/
def FirstCut (sep s left right : Text) : Prop :=
  s = left ++ sep ++ right ∧ ∀ l r, s = l ++ sep ++ r → left.length ≤ l.length

theorem isPrefixOf?_eq_none_iff {p s : Text} : p.isPrefixOf? s = none ↔ ¬ p <+: s := by
  rw [← Option.not_isSome_iff_eq_none, List.isSome_isPrefixOf?_eq_isPrefixOf,
    List.isPrefixOf_iff_prefix]

theorem splitOnce?_eq_none_iff {sep : Text} :
    ∀ {s : Text}, splitOnce? s sep = none ↔ ¬ sep <:+: s
  | [] => by simp [splitOnce?]
  | c :: s => by
    rw [splitOnce?, List.infix_cons_iff, not_or, ← splitOnce?_eq_none_iff,
      ← isPrefixOf?_eq_none_iff]
    cases sep.isPrefixOf? (c :: s) <;> simp

theorem FirstCut.cons {sep s left right : Text} {c : Char} (h : FirstCut sep s left right)
    (hc : ¬ sep <+: c :: s) : FirstCut sep (c :: s) (c :: left) right := by
  refine ⟨by simp [h.1], fun l r hl => ?_⟩
  cases l with
  | nil => exact absurd ⟨r, by simpa using hl.symm⟩ hc
  | cons a l =>
    simp only [List.cons_append, List.cons.injEq] at hl
    simpa using h.2 l r (by simpa using hl.2)

theorem firstCut_of_splitOnce? {sep : Text} :
    ∀ {s left right : Text}, splitOnce? s sep = some (left, right) → FirstCut sep s left right
  | [], left, right, h => by
    unfold splitOnce? at h
    split_ifs at h with hsep
    obtain ⟨rfl, rfl⟩ : [] = left ∧ [] = right := by simpa using h
    exact ⟨by simp [hsep], fun l r _ => Nat.zero_le _⟩
  | c :: s, left, right, h => by
    unfold splitOnce? at h
    split at h
    · rename_i rest hrest
      simp only [Option.some.injEq, Prod.mk.injEq] at h
      obtain ⟨rfl, rfl⟩ := h
      exact ⟨(List.isPrefixOf?_eq_some_iff_append_eq.1 hrest).symm, fun l r _ => Nat.zero_le _⟩
    · rename_i hnone
      obtain ⟨⟨l, r⟩, hcut, hlr⟩ := Option.map_eq_some_iff.1 h
      rw [Prod.mk.injEq] at hlr
      obtain ⟨rfl, rfl⟩ := hlr
      exact (firstCut_of_splitOnce? hcut).cons (isPrefixOf?_eq_none_iff.1 hnone)

theorem FirstCut.unique {sep s left right left' right' : Text} (h : FirstCut sep s left right)
    (h' : FirstCut sep s left' right') : left = left' ∧ right = right' := by
  have hlen : left.length = left'.length :=
    Nat.le_antisymm (h.2 left' right' h'.1) (h'.2 left right h.1)
  have heq : left ++ (sep ++ right) = left' ++ (sep ++ right') := by
    rw [← List.append_assoc, ← List.append_assoc, ← h.1, ← h'.1]
  obtain ⟨hl, hr⟩ := List.append_inj heq hlen
  exact ⟨hl, List.append_cancel_left hr⟩

/-- A separator that does not occur in what stands before it, even with all but its own last
character behind, stands there first. -/
theorem firstCut_of_not_infix {sep left : Text} (right : Text) (hne : sep ≠ [])
    (h : ¬ sep <:+: left ++ sep.dropLast) : FirstCut sep (left ++ sep ++ right) left right := by
  refine ⟨rfl, fun l r hl => Nat.le_of_not_lt fun hlt => h ?_⟩
  have hpos : 0 < sep.length := List.length_pos_of_ne_nil hne
  have hleft : left ++ sep.dropLast <+: left ++ sep ++ right := by
    rw [List.append_assoc, List.prefix_append_right_inj]
    exact (List.dropLast_prefix sep).trans (List.prefix_append _ _)
  have hcut : l ++ sep <+: left ++ sep.dropLast := by
    refine List.prefix_of_prefix_length_le ⟨r, hl.symm⟩ hleft ?_
    rw [List.length_append, List.length_append, List.length_dropLast]
    omega
  exact (List.infix_append' l sep []).trans (by simpa using hcut.isInfix)

theorem FirstCut.not_infix {sep left right : Text}
    (h : FirstCut sep (left ++ sep ++ right) left right)
    (hne : sep ≠ []) : ¬ sep <:+: left ++ sep.dropLast := by
  rintro ⟨l, r, hl⟩
  have hearlier : left ++ sep ++ right = l ++ sep ++ (r ++ (sep.getLast hne :: right)) := by
    conv_lhs => rw [← List.dropLast_concat_getLast hne]
    rw [← List.append_assoc (l ++ sep), hl]
    simp
  have hle := h.2 l _ hearlier
  have hlength := congrArg List.length hl
  have hpos := List.length_pos_of_ne_nil hne
  simp only [List.length_append, List.length_dropLast] at hlength
  omega

/-- Texts are cut alike at a character that occurs in neither of them before the cut. -/
theorem append_cons_inj {c : Char} : ∀ {left left' right right' : Text}, c ∉ left → c ∉ left' →
    left ++ c :: right = left' ++ c :: right' → left = left' ∧ right = right'
  | [], [], _, _, _, _, h => ⟨rfl, (List.cons.inj h).2⟩
  | [], d :: _, _, _, _, hleft', h => absurd (List.cons.inj h).1 (List.ne_of_not_mem_cons hleft')
  | d :: _, [], _, _, hleft, _, h => absurd (List.cons.inj h).1.symm (List.ne_of_not_mem_cons hleft)
  | d :: left, e :: left', _, _, hleft, hleft', h => by
    obtain ⟨rfl, htail⟩ := List.cons.inj h
    obtain ⟨rfl, hright⟩ := append_cons_inj (List.not_mem_of_not_mem_cons hleft)
      (List.not_mem_of_not_mem_cons hleft') htail
    exact ⟨rfl, hright⟩

theorem splitOnce?_eq_some_iff {sep s left right : Text} :
    splitOnce? s sep = some (left, right) ↔ FirstCut sep s left right := by
  refine ⟨firstCut_of_splitOnce?, fun h => ?_⟩
  have hin : sep <:+: s := ⟨left, right, h.1.symm⟩
  rcases hcut : splitOnce? s sep with _ | ⟨l, r⟩
  · exact absurd hin (splitOnce?_eq_none_iff.1 hcut)
  · obtain ⟨rfl, rfl⟩ := (firstCut_of_splitOnce? hcut).unique h
    rfl

end Text

end FileClerk
