import FileClerk.Proofs.Padding

/-!
# Folding line ends again

The body of a command is the raw text from its first character that is not noise, with its line ends
folded, whatever noise stood in front (`body_eq_foldNewlines`). It begins with no noise, so the body
of a body is that body with its line ends folded once more (`body_body`).

Folding goes over a text once, and what it leaves may hold a line end that was none before: of two
carriage returns in front of a line feed the first stays, and the line feed is next to it then. That
is the only way in which a line end comes about (`crlf_infix_foldNewlines_iff`).
-/

namespace FileClerk

namespace Text

variable {s : Text}

theorem head?_foldNewlines_eq_feed :
    s.foldNewlines.head? = some '\n' ↔ s.head? = some '\n' ∨ ['\r', '\n'] <+: s := by
  cases s with
  | nil => simp [foldNewlines]
  | cons c s =>
    rw [foldNewlines, crlf_prefix_cons_iff]
    split
    · rename_i hc
      obtain ⟨rest, rfl⟩ := List.head?_eq_some_iff.1 hc.2
      have hfeed : ¬ ('\n' = '\r' ∧ rest.head? = some '\n') := by simp
      rw [foldNewlines, if_neg hfeed]
      simp [hc.1]
    · rename_i hc
      simp [hc]

/-- A line end is left where a carriage return stood in front of one. -/
theorem crlf_infix_foldNewlines_iff : ∀ {s : Text},
    ['\r', '\n'] <:+: s.foldNewlines ↔ ['\r', '\r', '\n'] <:+: s
  | [] => by simp [foldNewlines]
  | c :: s => by
    have hprefix : ['\r', '\r', '\n'] <+: c :: s ↔ c = '\r' ∧ ['\r', '\n'] <+: s := by
      rw [List.cons_prefix_cons, eq_comm]
    rw [List.infix_cons_iff, hprefix, ← crlf_infix_foldNewlines_iff, foldNewlines]
    split
    · -- The carriage return goes, and the line feed behind it has none in front of it any more.
      rename_i hc
      have hnone : ¬ ['\r', '\n'] <+: s := by
        obtain ⟨rest, rfl⟩ := List.head?_eq_some_iff.1 hc.2
        rw [crlf_prefix_cons_iff]
        simp
      simp [hnone]
    · rename_i hc
      rw [List.infix_cons_iff, crlf_prefix_cons_iff, head?_foldNewlines_eq_feed, and_or_left]
      simp [hc]

theorem forall_head?_dropWhile (p : Char → Bool) (s : Text) :
    ∀ c ∈ (s.dropWhile p).head?, ¬ p c := by
  intro c hc
  have hhead := List.head?_dropWhile_not p s
  rw [Option.mem_def.1 hc] at hhead
  simpa using hhead

/-- Folding brings no noise to the front of a text. -/
theorem dropWhile_foldNewlines (h : ∀ c ∈ s.head?, ¬ isNoise c) :
    s.foldNewlines.dropWhile isNoise = s.foldNewlines := by
  refine dropWhile_eq_self ?_
  cases s with
  | nil => simp [foldNewlines]
  | cons c s =>
    have hc : ¬ isNoise c := h c rfl
    have hreturn : isNoise '\r' := by decide
    have hkept : ¬ (c = '\r' ∧ s.head? = some '\n') := by
      rintro ⟨rfl, -⟩
      exact hc hreturn
    rw [foldNewlines, if_neg hkept]
    simpa using hc

end Text

namespace Command

open Text

theorem body_head?_not_isNoise (raw : Text) : ∀ c ∈ (body raw).head?, ¬ isNoise c := by
  rw [body_eq]
  exact forall_head?_dropWhile isNoise raw.foldNewlines

theorem body_eq_foldNewlines (raw : Text) : body raw = foldNewlines (raw.dropWhile isNoise) := by
  have hfront : ∀ c ∈ raw.takeWhile isNoise, isNoise c := fun _ => List.mem_takeWhile_imp
  calc body raw
      = body (raw.takeWhile isNoise ++ raw.dropWhile isNoise) := by
        rw [List.takeWhile_append_dropWhile]
    _ = body (raw.dropWhile isNoise) := body_noise_append hfront _
    _ = foldNewlines (raw.dropWhile isNoise) := by
        rw [body_eq, dropWhile_foldNewlines (forall_head?_dropWhile isNoise raw)]

theorem body_body (raw : Text) : body (body raw) = (body raw).foldNewlines := by
  rw [body_eq_foldNewlines (body raw), dropWhile_eq_self (body_head?_not_isNoise raw)]

theorem body_eq_nil_iff {raw : Text} : body raw = [] ↔ ∀ c ∈ raw, isNoise c := by
  rw [body_eq, List.dropWhile_eq_nil_iff, forall_isNoise_foldNewlines]

/-- The body is the raw text without the noise in front and with its line ends folded. It begins
with no noise, and reading it again changes nothing exactly when folding has left no line end, which
is when no line end in the raw text had a second carriage return in front. -/
theorem body_laws (raw : Text) :
    (∀ c ∈ (body raw).head?, ¬ isNoise c)
      ∧ (body raw = [] ↔ ∀ c ∈ raw, isNoise c)
      ∧ (∀ folded, Folds (raw.dropWhile isNoise) folded ↔ folded = body raw)
      ∧ (∀ noise : Text, (∀ c ∈ noise, isNoise c) → body (noise ++ raw) = body raw)
      ∧ (body (body raw) = body raw ↔ ¬ ['\r', '\n'] <:+: body raw)
      ∧ (¬ ['\r', '\n'] <:+: body raw ↔ ¬ ['\r', '\r', '\n'] <:+: raw.dropWhile isNoise) := by
  refine ⟨body_head?_not_isNoise raw, body_eq_nil_iff, fun folded => ?_,
    fun noise h => body_noise_append h raw, ?_, ?_⟩
  · rw [folds_iff, ← body_eq_foldNewlines]
  · rw [body_body, foldNewlines_eq_self_iff]
  · rw [body_eq_foldNewlines, crlf_infix_foldNewlines_iff]

example : body ['\ufeff', 'a', '\r', '\r', '\n'] = ['a', '\r', '\n'] := by decide

end Command

end FileClerk
