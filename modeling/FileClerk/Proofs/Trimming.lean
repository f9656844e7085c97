import Mathlib.Data.List.DropRight
import FileClerk.Command.Parser

/-!
# What surrounds a command

The body of a command is the raw text with its line ends folded, from the first character that is
not noise (`body_eq`): a byte order mark in front is noise like any other. The core is the body up
to its last character that is not noise, and there is none of it exactly when the raw text is noise
throughout (`core_eq_nil_iff`). What a payload is read from is the body without a line feed at its
end (`dropsFinalFeed_iff`); it begins with the core and goes on with noise alone
(`tail_append_noise`).
-/

namespace FileClerk

namespace Text

/-- Line ends are folded when, from left to right, each carriage return with a line feed after it
has gone. -/
inductive Folds : Text → Text → Prop
  | nil : Folds [] []
  | crlf {s t : Text} : Folds s t → Folds ('\r' :: '\n' :: s) ('\n' :: t)
  | other {c : Char} {s t : Text} : ¬ (c = '\r' ∧ s.head? = some '\n') → Folds s t →
      Folds (c :: s) (c :: t)

theorem folds_foldNewlines : ∀ s : Text, Folds s s.foldNewlines
  | [] => .nil
  | [c] => by
    rw [foldNewlines, if_neg (by simp)]
    exact .other (by simp) .nil
  | c :: d :: s => by
    by_cases h : c = '\r' ∧ (d :: s).head? = some '\n'
    · obtain ⟨rfl, hd⟩ := h
      obtain rfl : d = '\n' := by simpa using hd
      rw [foldNewlines_crlf]
      exact .crlf (folds_foldNewlines s)
    · rw [foldNewlines, if_neg h]
      exact .other h (folds_foldNewlines (d :: s))

theorem folds_iff {s t : Text} : Folds s t ↔ t = s.foldNewlines := by
  refine ⟨fun h => ?_, fun h => h ▸ folds_foldNewlines s⟩
  induction h with
  | nil => rfl
  | crlf _ ih => rw [foldNewlines_crlf, ih]
  | other hc _ ih => rw [foldNewlines, if_neg hc, ih]

/-- Line ends are folded on both sides of a place that no line end lies across. -/
theorem foldNewlines_append_of_seam : ∀ {s t : Text},
    (s.getLast? = some '\r' → t.head? ≠ some '\n') →
      (s ++ t).foldNewlines = s.foldNewlines ++ t.foldNewlines
  | [], _, _ => rfl
  | [c], t, h => by
    have hc : ¬ (c = '\r' ∧ t.head? = some '\n') := by simpa using h
    rw [List.singleton_append, foldNewlines, if_neg hc]
    simp [foldNewlines]
  | c :: d :: s, t, h => by
    have ih := foldNewlines_append_of_seam (s := d :: s) (t := t) (by simpa using h)
    rw [List.cons_append, foldNewlines, ih]
    conv_rhs => rw [foldNewlines]
    by_cases hc : c = '\r' ∧ d = '\n' <;> simp [hc]

theorem foldNewlines_sublist : ∀ s : Text, s.foldNewlines.Sublist s
  | [] => List.Sublist.refl _
  | c :: s => by
    rw [foldNewlines]
    split
    · exact (foldNewlines_sublist s).cons c
    · exact (foldNewlines_sublist s).cons_cons c

theorem crlf_prefix_cons_iff {c : Char} {s : Text} :
    ['\r', '\n'] <+: c :: s ↔ c = '\r' ∧ s.head? = some '\n' := by
  cases s <;> simp [eq_comm]

theorem foldNewlines_eq_self_iff : ∀ {s : Text}, s.foldNewlines = s ↔ ¬ ['\r', '\n'] <:+: s
  | [] => by simp [foldNewlines]
  | c :: s => by
    rw [foldNewlines, List.infix_cons_iff, crlf_prefix_cons_iff, not_or, ← foldNewlines_eq_self_iff]
    split
    · rename_i hc
      have hshort := (foldNewlines_sublist s).length_le
      refine iff_of_false (fun h => ?_) fun h => h.1 hc
      rw [h, List.length_cons] at hshort
      omega
    · rename_i hc
      simp [hc]

theorem getLast?_foldNewlines : ∀ s : Text, s.foldNewlines.getLast? = s.getLast?
  | [] => rfl
  | [c] => by simp [foldNewlines]
  | c :: d :: s => by
    have ih := getLast?_foldNewlines (d :: s)
    have hne : foldNewlines (d :: s) ≠ [] := by
      intro hnil
      rw [hnil] at ih
      simp [eq_comm] at ih
    rw [foldNewlines]
    split
    · rw [ih, List.getLast?_cons_cons]
    · rw [List.getLast?_cons_of_ne_nil hne, ih, List.getLast?_cons_cons]

/-- A text without line ends to fold, and not cut between the two halves of one, stays. -/
theorem foldNewlines_append {s : Text} (t : Text) (hin : ¬ ['\r', '\n'] <:+: s)
    (hlast : s.getLast? ≠ some '\r') : (s ++ t).foldNewlines = s ++ t.foldNewlines := by
  rw [foldNewlines_append_of_seam fun h => absurd h hlast, foldNewlines_eq_self_iff.2 hin]

theorem forall_isNoise_foldNewlines :
    ∀ {s : Text}, (∀ c ∈ s.foldNewlines, isNoise c) ↔ ∀ c ∈ s, isNoise c
  | [] => Iff.rfl
  | c :: s => by
    rw [foldNewlines]
    split
    · rename_i hc
      have hreturn : isNoise '\r' := by decide
      rw [forall_isNoise_foldNewlines, List.forall_mem_cons, hc.1]
      exact ⟨fun h => ⟨hreturn, h⟩, And.right⟩
    · rw [List.forall_mem_cons, List.forall_mem_cons, forall_isNoise_foldNewlines]

theorem forall_mem_dropWhile {p : Char → Bool} {s : Text} :
    (∀ c ∈ s.dropWhile p, p c) ↔ ∀ c ∈ s, p c := by
  rw [← List.dropWhile_eq_nil_iff, List.dropWhile_idempotent, List.dropWhile_eq_nil_iff]

/-- A text whose last character stays keeps the end of what follows it from reaching it. -/
theorem rdropWhile_append {p : Char → Bool} {words : Text} (hlast : ∃ c ∈ words.getLast?, ¬ p c)
    (rest : Text) : (words ++ rest).rdropWhile p = words ++ rest.rdropWhile p := by
  obtain ⟨c, hc, hp⟩ := hlast
  obtain ⟨front, rfl⟩ := List.getLast?_eq_some_iff.1 hc
  induction rest using List.reverseRecOn with
  | nil =>
    rw [List.rdropWhile_nil, List.append_nil]
    exact List.rdropWhile_concat_neg p front c hp
  | append_singleton rest d ih =>
    rw [← List.append_assoc, List.rdropWhile_concat, List.rdropWhile_concat]
    split_ifs
    · exact ih
    · rw [List.append_assoc]

theorem dropWhile_eq_self {p : Char → Bool} {s : Text} (h : ∀ c ∈ s.head?, ¬ p c) :
    s.dropWhile p = s := by
  cases s with
  | nil => rfl
  | cons c s => exact List.dropWhile_cons_of_neg (h c rfl)

/-- One line feed goes from the end of a text, if one is there. -/
def DropsFinalFeed (s rest : Text) : Prop :=
  s = rest ++ ['\n'] ∨ s = rest ∧ s.getLast? ≠ some '\n'

theorem trim_eq (s : Text) : s.trim = (s.dropWhile isBlank).rdropWhile isBlank := rfl

theorem trim_of_ends {s : Text} (hhead : ∀ c ∈ s.head?, ¬ isBlank c)
    (hlast : ∀ c ∈ s.getLast?, ¬ isBlank c) : s.trim = s := by
  have hreverse : s.reverse.dropWhile isBlank = s.reverse :=
    dropWhile_eq_self fun c hc => hlast c (by simpa using hc)
  simp [trim, trimBoth, trimStart, trimEnd, dropWhile_eq_self hhead, hreverse]

end Text

namespace Command

open Text

theorem body_eq (raw : Text) : body raw = raw.foldNewlines.dropWhile isNoise := by
  unfold body
  cases raw with
  | nil => rfl
  | cons c s =>
    rw [dropMark]
    split
    · rename_i hc
      have hmark : isNoise byteOrderMark := by decide
      rw [hc, foldNewlines, if_neg (by simp [byteOrderMark]), List.dropWhile_cons_of_pos hmark]
      rfl
    · rfl

theorem core_eq (raw : Text) : core raw = (body raw).rdropWhile isNoise := rfl

theorem core_eq_nil_iff {raw : Text} : core raw = [] ↔ ∀ c ∈ raw, isNoise c := by
  rw [core_eq, List.rdropWhile_eq_nil_iff, body_eq, forall_mem_dropWhile,
    forall_isNoise_foldNewlines]

theorem core_append_noise (raw : Text) :
    ∃ noise, body raw = core raw ++ noise ∧ ∀ c ∈ noise, isNoise c :=
  ⟨(body raw).rtakeWhile isNoise, List.rdropWhile_append_rtakeWhile.symm,
    fun _ => List.mem_rtakeWhile_imp⟩

theorem dropsFinalFeed_iff {s rest : Text} : DropsFinalFeed s rest ↔ rest = dropFinalNewline s := by
  unfold dropFinalNewline
  constructor
  · rintro (rfl | ⟨rfl, hlast⟩)
    · simp
    · rw [if_neg hlast]
  · rintro rfl
    split_ifs with hlast
    · exact .inl (List.dropLast_append_getLast? _ hlast).symm
    · exact .inr ⟨rfl, hlast⟩

theorem dropFinalNewline_prefix (s : Text) : dropFinalNewline s <+: s := by
  unfold dropFinalNewline
  split_ifs
  · exact List.dropLast_prefix s
  · exact List.prefix_rfl

theorem dropFinalNewline_eq_self_iff {s : Text} :
    dropFinalNewline s = s ↔ s.getLast? ≠ some '\n' := by
  refine ⟨fun h hlast => ?_, fun h => if_neg h⟩
  obtain ⟨front, rfl⟩ := List.getLast?_eq_some_iff.1 hlast
  simp [dropFinalNewline] at h

theorem dropFinalNewline_append {s t : Text} (ht : t ≠ []) :
    dropFinalNewline (s ++ t) = s ++ dropFinalNewline t := by
  unfold dropFinalNewline
  rw [List.getLast?_append_of_ne_nil s ht]
  split_ifs
  · exact List.dropLast_append_of_ne_nil ht
  · rfl

theorem dropFinalNewline_append_of_ne {s : Text} (t : Text) (hs : s.getLast? ≠ some '\n') :
    dropFinalNewline (s ++ t) = s ++ dropFinalNewline t := by
  rcases eq_or_ne t [] with rfl | ht
  · simp [dropFinalNewline, hs]
  · exact dropFinalNewline_append ht

theorem dropFinalNewline_core (raw : Text) : dropFinalNewline (core raw) = core raw := by
  refine if_neg fun hlast => ?_
  have hne : core raw ≠ [] := by
    rintro hnil
    simp [hnil] at hlast
  have hkept := List.rdropWhile_last_not isNoise (body raw) hne
  rw [List.getLast?_eq_some_getLast hne, Option.some.injEq] at hlast
  exact hkept (hlast ▸ by decide)

theorem tail_append_noise (raw : Text) :
    ∃ noise, dropFinalNewline (body raw) = core raw ++ noise ∧ ∀ c ∈ noise, isNoise c := by
  obtain ⟨noise, hbody, hnoise⟩ := core_append_noise raw
  rcases eq_or_ne noise [] with rfl | hne
  · exact ⟨[], by rw [hbody, List.append_nil, dropFinalNewline_core], hnoise⟩
  · refine ⟨dropFinalNewline noise, by rw [hbody, dropFinalNewline_append hne], fun c hc => ?_⟩
    unfold dropFinalNewline at hc
    split_ifs at hc
    · exact hnoise c (List.dropLast_subset _ hc)
    · exact hnoise c hc

end Command

end FileClerk
