import FileClerk.Proofs.Language

/-!
# Noise around a command

An editor may leave noise in front of a command and behind it. In front it changes nothing, since
the body begins after it (`body_noise_append`); behind it, it leaves the core alone
(`core_append_noise_eq`), also where a carriage return at the end of the text and a line feed at
the start of the noise become one line end. A payload is read from more than the core, but one line
feed at its end is dropped, and so a line end added on saving is not missed
(`tail_of_body_concat`).
-/

namespace FileClerk

open Text

namespace Text

theorem dropWhile_foldNewlines_append {noise : Text} (h : ∀ c ∈ noise, isNoise c) (s : Text) :
    (noise ++ s).foldNewlines.dropWhile isNoise = s.foldNewlines.dropWhile isNoise := by
  induction noise with
  | nil => rfl
  | cons c noise ih =>
    rw [List.forall_mem_cons] at h
    rw [List.cons_append, foldNewlines]
    split
    · exact ih h.2
    · rw [List.dropWhile_cons_of_pos h.1, ih h.2]

theorem rdropWhile_append_of_forall {p : Char → Bool} {noise : Text} (h : ∀ c ∈ noise, p c)
    (s : Text) : (s ++ noise).rdropWhile p = s.rdropWhile p := by
  rw [List.rdropWhile, List.reverse_append, List.dropWhile_append_of_pos (by simpa using h)]
  rfl

theorem strip_append {noise : Text} (h : ∀ c ∈ noise, isNoise c) (s : Text) :
    ((s ++ noise).dropWhile isNoise).rdropWhile isNoise
      = (s.dropWhile isNoise).rdropWhile isNoise := by
  rw [List.dropWhile_append]
  split_ifs with hs
  · rw [List.isEmpty_iff.1 hs, List.dropWhile_eq_nil_iff.2 h]
  · exact rdropWhile_append_of_forall h _

end Text

namespace Command

variable {noise raw : Text}

theorem body_noise_append (h : ∀ c ∈ noise, isNoise c) (raw : Text) :
    body (noise ++ raw) = body raw := by
  rw [body_eq, body_eq, dropWhile_foldNewlines_append h]

theorem core_append_noise_eq (h : ∀ c ∈ noise, isNoise c) (raw : Text) :
    core (raw ++ noise) = core raw := by
  have hfolded : ∀ {s : Text}, (∀ c ∈ s, isNoise c) → ∀ c ∈ s.foldNewlines, isNoise c :=
    fun hs => forall_isNoise_foldNewlines.2 hs
  rw [core_eq, core_eq, body_eq, body_eq]
  by_cases hseam : raw.getLast? = some '\r' ∧ noise.head? = some '\n'
  · obtain ⟨front, rfl⟩ := List.getLast?_eq_some_iff.1 hseam.1
    obtain ⟨rest, rfl⟩ := List.head?_eq_some_iff.1 hseam.2
    have hcut : ∀ s, foldNewlines (front ++ '\r' :: s)
        = foldNewlines front ++ foldNewlines ('\r' :: s) := fun s =>
      foldNewlines_append_of_seam (by simp)
    have hreturn : ∀ c ∈ ['\r'], isNoise c := List.all_eq_true.1 rfl
    -- What follows the front is noise, with the line end in it and without.
    rw [List.append_assoc, List.singleton_append, hcut, hcut,
      strip_append (hfolded hreturn), strip_append (hfolded ?_)]
    rw [List.forall_mem_cons]
    exact ⟨hreturn _ (by simp), h⟩
  · rw [foldNewlines_append_of_seam (by simpa using hseam), strip_append (hfolded h)]

theorem getLast?_body_ne (h : raw.getLast? ≠ some '\n') : (body raw).getLast? ≠ some '\n' := by
  intro hlast
  have hbody : body raw <:+ raw.foldNewlines := body_eq raw ▸ List.dropWhile_suffix isNoise
  obtain ⟨front, hfront⟩ := hbody
  obtain ⟨rest, hrest⟩ := List.getLast?_eq_some_iff.1 hlast
  refine h ?_
  rw [← getLast?_foldNewlines, ← hfront, hrest, ← List.append_assoc, List.getLast?_concat]

/-- One line feed more at the end is no change to what a payload is read from. -/
theorem tail_of_body_concat {other : Text} (h : raw.getLast? ≠ some '\n')
    (hbody : body other = body raw ++ ['\n']) :
    dropFinalNewline (body other) = dropFinalNewline (body raw) := by
  rw [hbody, dropFinalNewline_append (by simp), dropFinalNewline_eq_self_iff.2 (getLast?_body_ne h)]
  simp [dropFinalNewline]

theorem body_concat {other : Text} (hcore : core raw ≠ [])
    (hfold : other.foldNewlines = raw.foldNewlines ++ ['\n']) :
    body other = body raw ++ ['\n'] := by
  have hbody : body raw ≠ [] := by
    rintro hnil
    simp [core_eq, hnil] at hcore
  rw [body_eq] at hbody ⊢
  rw [hfold, List.dropWhile_append, if_neg (by simpa using hbody), body_eq]

end Command

namespace Grammar

variable {grammar : Grammar} {noise raw other : Text}

/-- What a text is read as, or why it is refused. -/
def verdict (grammar : Grammar) (raw : Text) : Except Refusal.Reason Operation :=
  (grammar.parse raw).mapError Refusal.reason

theorem mapError_apply (rule : Rule) (rest raw other : Text) :
    (rule.apply rest raw).mapError Refusal.reason
      = (rule.apply rest other).mapError Refusal.reason := by
  cases rule with
  | path | optionalPath => rfl
  | twoPaths sep | pathAndPayload sep =>
    simp only [Rule.apply]
    rcases rest.splitOnce? sep with _ | cut <;> rfl

/-- A verdict depends on the core, and for a payload on what it is read from. -/
theorem verdict_congr (hcore : Command.core raw = Command.core other)
    (htail : ∀ phrase rest, grammar.find? (Command.core other) = some (phrase, rest) →
      phrase.rule.keepsTail → Command.dropFinalNewline (Command.body raw)
        = Command.dropFinalNewline (Command.body other)) :
    grammar.verdict raw = grammar.verdict other := by
  unfold verdict parse
  simp only [hcore]
  split_ifs with hempty
  · rfl
  rcases hfind : grammar.find? (Command.core other) with _ | ⟨phrase, rest⟩
  · rfl
  simp only []
  split_ifs with hkeeps
  · rw [htail phrase rest hfind hkeeps]
    exact mapError_apply ..
  · exact mapError_apply ..

theorem verdict_noise_append (h : ∀ c ∈ noise, isNoise c) :
    grammar.verdict (noise ++ raw) = grammar.verdict raw := by
  have hbody := Command.body_noise_append h raw
  refine verdict_congr ?_ fun _ _ _ _ => by rw [hbody]
  rw [Command.core_eq, Command.core_eq, hbody]

theorem verdict_concat (hlast : raw.getLast? ≠ some '\n') (hnoise : ∀ c ∈ noise, isNoise c)
    (hfold : (raw ++ noise).foldNewlines = raw.foldNewlines ++ ['\n']) :
    grammar.verdict (raw ++ noise) = grammar.verdict raw := by
  have hcore := Command.core_append_noise_eq hnoise raw
  by_cases hempty : Command.core raw = []
  · unfold verdict
    rw [parse_of_core_eq_nil hempty, parse_of_core_eq_nil (hcore.trans hempty)]
    rfl
  · exact verdict_congr hcore fun _ _ _ _ =>
      Command.tail_of_body_concat hlast (Command.body_concat hempty hfold)

/-- Noise in front of a text never changes what it is read as, and noise behind it only where a
payload is read. A line end added to a text without one changes nothing there either. -/
theorem verdict_padded (grammar : Grammar) (raw : Text) {noise : Text}
    (h : ∀ c ∈ noise, isNoise c) :
    grammar.verdict (noise ++ raw) = grammar.verdict raw
      ∧ ((∀ phrase rest, grammar.find? (Command.core raw) = some (phrase, rest) →
          ∀ sep malformed build, phrase.rule ≠ .pathAndPayload sep malformed build) →
        grammar.verdict (raw ++ noise) = grammar.verdict raw)
      ∧ (raw.getLast? ≠ some '\n' →
        grammar.verdict (raw ++ ['\r', '\n']) = grammar.verdict raw
          ∧ (raw.getLast? ≠ some '\r' →
            grammar.verdict (raw ++ ['\n']) = grammar.verdict raw)) := by
  refine ⟨verdict_noise_append h, fun hrule => ?_, fun hlast => ⟨?_, fun hreturn => ?_⟩⟩
  · refine verdict_congr (Command.core_append_noise_eq h raw) fun phrase rest hfind hkeeps => ?_
    cases hphrase : phrase.rule with
    | pathAndPayload sep malformed build => exact absurd hphrase (hrule phrase rest hfind _ _ _)
    | path | optionalPath | twoPaths => simp [hphrase, Rule.keepsTail] at hkeeps
  · refine verdict_concat hlast (List.all_eq_true.1 rfl) ?_
    rw [foldNewlines_append_of_seam (by simp)]
    rfl
  · refine verdict_concat hlast (List.all_eq_true.1 rfl) ?_
    rw [foldNewlines_append_of_seam fun hr => absurd hr hreturn]
    rfl

/-- The byte order mark is no blank, and still the words of the phrase end before it. -/
theorem verdict_padded_list :
    let raw : Text := "list the directory".toList
    let noise : Text := "\ufeff\r".toList
    (∀ c ∈ noise, isNoise c) ∧ raw.getLast? ≠ some '\n' ∧ raw.getLast? ≠ some '\r'
      ∧ [noise ++ raw, raw ++ noise, raw ++ ['\r', '\n'], raw ++ ['\n']].map standard.verdict
        = List.replicate 4 (.ok (.list ['.'])) := by
  intro raw noise
  have hnoise : ∀ c ∈ noise, isNoise c := List.all_eq_true.1 rfl
  have hfeed : raw.getLast? ≠ some '\n' := by decide
  have hreturn : raw.getLast? ≠ some '\r' := by decide
  have hraw : standard.verdict raw = .ok (.list ['.']) := by
    have hcore : Command.core raw = Verb.list.words ++ [] := by decide +kernel
    obtain ⟨tail, hreads⟩ := reads_of_core_eq hcore (.inl rfl)
    exact congrArg (Except.mapError Refusal.reason) hreads
  have hrule : ∀ phrase rest, standard.find? (Command.core raw) = some (phrase, rest) →
      ∀ sep malformed build, phrase.rule ≠ .pathAndPayload sep malformed build := by
    intro phrase rest hfind sep malformed build
    obtain ⟨hmem, hstrip⟩ := of_find?_eq_some hfind
    obtain ⟨verb, hwords, hrule⟩ := exists_verb hmem
    have hopens : verb.words <+: Command.core raw :=
      ⟨rest, by rw [(Phrase.strip?_eq_some_iff.1 hstrip).1, hwords]⟩
    obtain rfl : verb = .list := Verb.eq_of_begins (hopens.trans (by decide))
    rw [hrule]
    exact Rule.noConfusion
  obtain ⟨hfront, hbehind, hlines⟩ := verdict_padded standard raw hnoise
  obtain ⟨hcrlf, hnewline⟩ := hlines hfeed
  refine ⟨hnoise, hfeed, hreturn, ?_⟩
  rw [List.map_cons, hfront, List.map_cons, hbehind hrule, List.map_cons, hcrlf, List.map_cons,
    hnewline hreturn, hraw]
  rfl

end Grammar

end FileClerk
