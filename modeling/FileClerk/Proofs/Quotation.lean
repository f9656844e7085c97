import Mathlib.Data.List.Infix
import FileClerk.Settings.Writing
import FileClerk.Toml.Value

/-!
# Quoted texts read back

Whatever a text holds, the form it is written in is read back as the text: an escape is read as the
character it stands for (`escapedChar_cases`), and quotes that stand for themselves are too few in a
row to close anything early. `string?_quotedValue` says so of values, and `keyPart?_quotedName` of
names.
-/

namespace FileClerk

namespace Settings

open Toml

/-- The letters that stand after a backslash. -/
def marks : Text := ['b', 't', 'n', 'f', 'r', '"', '\\', 'u']

theorem codePoint?_hex4 : ∀ n < 0x80, Escaped.codePoint? (hex4 n) = some (Char.ofNat n)
    ∧ (hex4 n).length = 4 := by
  decide +kernel

/-- A character stands for itself or is written with a backslash and read as what it was. -/
theorem escapedChar_cases (c : Char) :
    (escapedChar c = [c] ∧ Escaped.isPlain c = true ∧ c ≠ '"' ∧ c ≠ '\\')
      ∨ ∃ m mark, escapedChar c = '\\' :: m :: mark ∧ m ∈ marks
        ∧ ∀ rest, Escaped.escape? (m :: mark ++ rest) = some (c, rest) := by
  unfold escapedChar
  split_ifs with hb ht hn hf hr hquote hslash hplain
  · exact .inr ⟨'b', [], rfl, by decide, fun rest => by simp [Escaped.escape?, Escaped.letter?, hb]⟩
  · exact .inr ⟨'t', [], rfl, by decide, fun rest => by simp [Escaped.escape?, Escaped.letter?, ht]⟩
  · exact .inr ⟨'n', [], rfl, by decide, fun rest => by simp [Escaped.escape?, Escaped.letter?, hn]⟩
  · exact .inr ⟨'f', [], rfl, by decide, fun rest => by simp [Escaped.escape?, Escaped.letter?, hf]⟩
  · exact .inr ⟨'r', [], rfl, by decide, fun rest => by simp [Escaped.escape?, Escaped.letter?, hr]⟩
  · exact .inr ⟨'"', [], rfl, by decide,
      fun rest => by simp [Escaped.escape?, Escaped.letter?, hquote]⟩
  · exact .inr ⟨'\\', [], rfl, by decide,
      fun rest => by simp [Escaped.escape?, Escaped.letter?, hslash]⟩
  · exact .inl ⟨rfl, hplain, hquote, hslash⟩
  · refine .inr ⟨'u', hex4 c.toNat, rfl, by decide, fun rest => ?_⟩
    have hlow : c.toNat < 0x80 := by
      simp only [Escaped.isPlain, Bool.or_eq_true, Bool.and_eq_true, not_or, not_and,
        decide_eq_true_eq, bne_iff_ne, ne_eq, not_not] at hplain
      by_contra hhigh
      obtain rfl := hplain.2 (by omega)
      exact hhigh (by decide)
    obtain ⟨hpoint, hlength⟩ := codePoint?_hex4 c.toNat hlow
    simp [Escaped.escape?, Escaped.numbered?, List.take_left' hlength, List.drop_left' hlength,
      hlength, hpoint]

theorem readUpTo_escapedChar (n : Nat) (c : Char) (rest : Text) :
    Escaped.readUpTo (n + 1) (escapedChar c ++ rest)
      = (Escaped.readUpTo n rest).map fun r => (c :: r.1, r.2) := by
  rcases escapedChar_cases c with ⟨hself, hplain, hquote, hslash⟩ | ⟨m, mark, hmark, -, hread⟩
  · rw [hself, List.singleton_append, Escaped.readUpTo, if_neg hquote, if_neg hslash, if_pos hplain]
    cases Escaped.readUpTo n rest <;> rfl
  · have hescape := hread rest
    rw [List.cons_append] at hescape
    rw [hmark, List.cons_append, List.cons_append, Escaped.readUpTo, if_neg (by decide),
      if_pos rfl, hescape]
    simp only [Option.bind_eq_bind, Option.bind_some]
    cases Escaped.readUpTo n rest <;> rfl

theorem readUpTo_escaped (rest : Text) : ∀ (s : Text) {n : Nat}, s.length < n →
    Escaped.readUpTo n (s.flatMap escapedChar ++ '"' :: rest) = some (s, rest)
  | [], n + 1, _ => by simp [Escaped.readUpTo]
  | c :: s, n + 1, h => by
    rw [List.flatMap_cons, List.append_assoc, readUpTo_escapedChar,
      readUpTo_escaped rest s (by simpa using h)]
    rfl

theorem escapedChar_ne_nil (c : Char) : escapedChar c ≠ [] := by
  rcases escapedChar_cases c with ⟨h, -⟩ | ⟨m, mark, h, -⟩ <;> simp [h]

theorem length_le_flatMap_escapedChar (s : Text) : s.length ≤ (s.flatMap escapedChar).length := by
  induction s with
  | nil => simp
  | cons c s ih =>
    have hpos := List.length_pos_iff.2 (escapedChar_ne_nil c)
    simp only [List.flatMap_cons, List.length_append, List.length_cons]
    omega

theorem read?_escaped (s rest : Text) :
    Escaped.read? (s.flatMap escapedChar ++ '"' :: rest) = some (s, rest) := by
  refine readUpTo_escaped rest s ?_
  have hle := length_le_flatMap_escapedChar s
  simp only [List.length_append, List.length_cons]
  omega

section Tripled

variable {quote : Char} {rest : Text}

theorem closing?_run {k : Nat} (hk : k ≤ 5) (h : rest.head? ≠ some quote) :
    closing? quote (List.replicate k quote ++ rest)
      = if 3 ≤ k then some (List.replicate (k - 3) quote, rest) else none := by
  have htake : (rest.take (5 - k)).takeWhile (· == quote) = [] := by
    rcases rest with _ | ⟨c, rest⟩
    · simp
    · have hc : c ≠ quote := by simpa using h
      rcases 5 - k with _ | m <;> simp [hc]
  have hquotes : ((List.replicate k quote ++ rest).take 5).takeWhile (· == quote)
      = List.replicate k quote := by
    rw [List.take_append, List.length_replicate, List.take_of_length_le (by simpa using hk),
      List.takeWhile_append_of_pos (by simp), htake, List.append_nil]
  unfold closing?
  simp only [hquotes, List.length_replicate, List.drop_replicate]
  rw [List.drop_left' (by simp)]

theorem lineEnd?_cons_of_ne {c : Char} {s : Text} (hline : c ≠ '\n') (hreturn : c ≠ '\r') :
    lineEnd? (c :: s) = none := by
  unfold lineEnd?
  split <;> simp_all

theorem exists_run (quote : Char) :
    ∀ s : Text, ∃ k tail, s = List.replicate k quote ++ tail ∧ tail.head? ≠ some quote
  | [] => ⟨0, [], rfl, by simp⟩
  | c :: s => by
    by_cases h : c = quote
    · obtain ⟨k, tail, rfl, htail⟩ := exists_run quote s
      exact ⟨k + 1, tail, by rw [h, List.replicate_succ, List.cons_append], htail⟩
    · exact ⟨0, c :: s, rfl, by simpa using h⟩

/-- Tripled quotes close a text where it ends, and before only when quotes alone are left of it. -/
theorem closing?_literal {s : Text} (hrun : ¬ [quote, quote, quote] <:+: s)
    (hrest : rest.head? ≠ some quote) :
    closing? quote (s ++ quote :: quote :: quote :: rest) = some (s, rest)
      ∨ closing? quote (s ++ quote :: quote :: quote :: rest) = none ∧ s ≠ [] := by
  obtain ⟨k, tail, rfl, htail⟩ := exists_run quote s
  have hk : k < 3 := by
    by_contra hge
    refine hrun ⟨[], List.replicate (k - 3) quote ++ tail, ?_⟩
    obtain ⟨j, rfl⟩ : ∃ j, k = j + 3 := ⟨k - 3, by omega⟩
    simp [List.replicate_succ]
  rcases tail with _ | ⟨c, tail⟩
  · have hclose := closing?_run (k := k + 3) (by omega) hrest
    rw [if_pos (by omega), Nat.add_sub_cancel, List.replicate_add, List.append_assoc] at hclose
    rw [List.append_nil]
    exact .inl hclose
  · have htail : (c :: tail ++ quote :: quote :: quote :: rest).head? ≠ some quote := htail
    have hopen := closing?_run (k := k) (by omega) htail
    rw [if_neg (by omega), ← List.append_assoc] at hopen
    exact .inr ⟨hopen, by simp⟩

theorem longLiteralUpTo_literal (hrest : rest.head? ≠ some '\'') :
    ∀ (s : Text) {n : Nat}, s.length < n → ¬ ['\'', '\'', '\''] <:+: s →
      (∀ c ∈ s, c = '\n' ∨ Escaped.isPlain c = true) →
      longLiteralUpTo n (s ++ '\'' :: '\'' :: '\'' :: rest) = some (s, rest)
  | s, n + 1, hlength, hrun, hplain => by
    unfold longLiteralUpTo
    rcases closing?_literal hrun hrest with hclose | ⟨hopen, hne⟩
    · rw [hclose]
    · rw [hopen]
      obtain ⟨c, s, rfl⟩ := List.exists_cons_of_ne_nil hne
      rw [List.forall_mem_cons] at hplain
      have ih := longLiteralUpTo_literal hrest s (n := n) (by simpa using hlength)
        (fun h => hrun (h.trans (List.suffix_cons c s).isInfix)) hplain.2
      by_cases hline : c = '\n'
      · subst hline
        simp only [List.cons_append, lineEnd?, ih]
        rfl
      · have hreturn : c ≠ '\r' := by
          rintro rfl
          exact absurd hplain.1 (by decide)
        simp only [List.cons_append, lineEnd?_cons_of_ne hline hreturn, ih]
        rw [if_pos (hplain.1.resolve_left hline)]
        rfl

theorem exists_head_escapedChar (c : Char) :
    ∃ d mark, escapedChar c = d :: mark ∧ d ≠ '"' ∧ d ≠ '\n' ∧ d ≠ '\r' := by
  rcases escapedChar_cases c with ⟨hself, hplain, hquote, -⟩ | ⟨m, mark, hmark, -⟩
  · refine ⟨c, [], hself, hquote, ?_, ?_⟩ <;> rintro rfl <;> exact absurd hplain (by decide)
  · exact ⟨'\\', m :: mark, hmark, by decide, by decide, by decide⟩

/-- The quotes that escaped lines begin with are three only where the lines end. -/
theorem escapedLines_run (hrest : rest.head? ≠ some '"') : ∀ (s : Text) (quotes : Nat),
    quotes ≤ 2 → ∃ k tail, escapedLines quotes s ++ '"' :: '"' :: '"' :: rest
        = List.replicate k '"' ++ tail ∧ tail.head? ≠ some '"'
      ∧ (quotes + k ≤ 2 ∨ 3 ≤ k ∧ quotes + k ≤ 5 ∧ s = List.replicate (k - 3) '"' ∧ tail = rest)
  | [], quotes, hquotes => ⟨3, rest, rfl, hrest, .inr ⟨le_rfl, by omega, rfl, rfl⟩⟩
  | c :: s, quotes, hquotes => by
    unfold escapedLines
    split_ifs with hline hquote htwo
    · exact ⟨0, _, rfl, by simp, .inl hquotes⟩
    · exact ⟨0, _, rfl, by simp, .inl hquotes⟩
    · obtain ⟨k, tail, heq, htail, hends⟩ := escapedLines_run hrest s (quotes + 1) (by omega)
      refine ⟨k + 1, tail, by rw [List.cons_append, heq]; rfl, htail, ?_⟩
      rcases hends with hk | ⟨hk, hle, hs, hrest⟩
      · exact .inl (by omega)
      · refine .inr ⟨by omega, by omega, ?_, hrest⟩
        rw [Nat.sub_add_comm hk, List.replicate_succ, ← hs, hquote]
    · obtain ⟨d, mark, hmark, hd, -⟩ := exists_head_escapedChar c
      exact ⟨0, _, rfl, by simpa [hmark] using hd, .inl hquotes⟩

theorem closing?_escapedLines (hrest : rest.head? ≠ some '"') (s : Text) {quotes : Nat}
    (hquotes : quotes ≤ 2) :
    let open_ := escapedLines quotes s ++ '"' :: '"' :: '"' :: rest
    closing? '"' open_ = some (s, rest) ∨ closing? '"' open_ = none := by
  obtain ⟨k, tail, heq, htail, hends⟩ := escapedLines_run hrest s quotes hquotes
  dsimp only
  rw [heq]
  rcases hends with hk | ⟨hk, hle, hs, rfl⟩
  · rw [closing?_run (by omega) htail, if_neg (by omega)]
    exact .inr rfl
  · rw [closing?_run (by omega) htail, if_pos hk, ← hs]
    exact .inl rfl

/-- No line end is hidden behind a backslash that begins an escape. -/
theorem skipHidden?_mark {m : Char} (hm : m ∈ marks) (s : Text) : skipHidden? (m :: s) = none := by
  have hmarks : marks.all fun m => !isSpace m && m != '\n' && m != '\r' := by decide
  obtain ⟨⟨hspace, hline⟩, hreturn⟩ : (isSpace m = false ∧ m ≠ '\n') ∧ m ≠ '\r' := by
    simpa using List.all_eq_true.1 hmarks m hm
  rw [skipHidden?, skipSpaces, List.dropWhile_cons_of_neg (by simp [hspace]),
    lineEnd?_cons_of_ne hline hreturn]
  rfl

theorem longBasicUpTo_escapedLines (hrest : rest.head? ≠ some '"') :
    ∀ (s : Text) (quotes : Nat) {n : Nat}, quotes ≤ 2 → s.length < n →
      longBasicUpTo n (escapedLines quotes s ++ '"' :: '"' :: '"' :: rest) = some (s, rest)
  | [], quotes, n + 1, hquotes, hlength => by
    have hclose := closing?_run (k := 3) (by omega) hrest
    unfold longBasicUpTo
    rw [show escapedLines quotes [] ++ '"' :: '"' :: '"' :: rest = List.replicate 3 '"' ++ rest
      from rfl, hclose]
    rfl
  | c :: s, quotes, n + 1, hquotes, hlength => by
    have ih := fun quotes (h : quotes ≤ 2) =>
      longBasicUpTo_escapedLines hrest s quotes (n := n) h (by simpa using hlength)
    unfold longBasicUpTo
    rcases closing?_escapedLines hrest (c :: s) hquotes with hclose | hopen
    · rw [hclose]
    rw [hopen]
    unfold escapedLines
    split_ifs with hline hquote htwo
    · simp [lineEnd?, ih, hline]
    · have hmark : skipHidden? ('"' :: (escapedLines 0 s ++ '"' :: '"' :: '"' :: rest)) = none :=
        skipHidden?_mark (by decide) _
      simp [lineEnd?, hmark, Escaped.escape?, Escaped.letter?, ih, hquote]
    · have hplain : Escaped.isPlain '"' = true := by decide
      simp [lineEnd?, hplain, ih (quotes + 1) (by omega), hquote]
    · rcases escapedChar_cases c with ⟨hself, hplain, -, hslash⟩ | ⟨m, mark, hmark, hm, hread⟩
      · have hreturn : c ≠ '\r' := by
          rintro rfl
          exact absurd hplain (by decide)
        simp [hself, lineEnd?_cons_of_ne hline hreturn, hslash, hplain, ih]
      · have hescape := hread (escapedLines 0 s ++ '"' :: '"' :: '"' :: rest)
        rw [List.cons_append] at hescape
        simp [hmark, lineEnd?, skipHidden?_mark hm, hescape, ih]

end Tripled

theorem foldl_count_le (c : Char) : ∀ (s : Text) (run : Nat × Nat),
    run.2 ≤ (s.foldl (longestRun.count c) run).2
  | [], _ => le_rfl
  | d :: s, run => by
    refine le_trans ?_ (foldl_count_le c s _)
    unfold longestRun.count
    split_ifs
    · exact Nat.le_max_left _ _
    · exact le_rfl

theorem not_infix_of_longestRun {c : Char} {s : Text} (h : longestRun c s ≤ 2) :
    ¬ [c, c, c] <:+: s := by
  rintro ⟨before, after, rfl⟩
  unfold longestRun at h
  rw [List.foldl_append, List.foldl_append] at h
  have hrun : 3 ≤ ([c, c, c].foldl (longestRun.count c)
      (before.foldl (longestRun.count c) (0, 0))).2 := by
    simp only [List.foldl_cons, List.foldl_nil, longestRun.count, if_true]
    omega
  have hgrow := foldl_count_le c after
    ([c, c, c].foldl (longestRun.count c) (before.foldl (longestRun.count c) (0, 0)))
  omega

section Forms

variable {s rest : Text}

theorem string?_quote (h : ¬ ['"', '"'] <+: s) : string? ('"' :: s) = Escaped.read? s := by
  unfold string?
  split <;> simp_all

theorem string?_basic (s : Text) (hrest : rest.head? ≠ some '"') :
    string? (basic s ++ rest) = some (s, rest) := by
  have hread := read?_escaped s rest
  have hform : basic s ++ rest = '"' :: (s.flatMap escapedChar ++ '"' :: rest) := by simp [basic]
  rw [hform, string?_quote, hread]
  rcases s with _ | ⟨c, s⟩
  · rcases rest with _ | ⟨d, rest⟩
    · simp
    · simpa [eq_comm] using hrest
  · obtain ⟨d, mark, hmark, hd, -⟩ := exists_head_escapedChar c
    simpa [hmark, eq_comm] using fun h : d = '"' => absurd h hd

theorem literal?_append (rest : Text) (h : ∀ c ∈ s, isLiteral c = true) :
    literal? (s ++ '\'' :: rest) = some (s, rest) := by
  have hquote : ¬ isLiteral '\'' = true := by decide
  unfold literal?
  rw [List.dropWhile_append_of_pos h, List.dropWhile_cons_of_neg hquote,
    List.takeWhile_append_of_pos h, List.takeWhile_cons_of_neg hquote, List.append_nil]
  rfl

theorem string?_literal (h : ∀ c ∈ s, isLiteral c = true) (hne : s ≠ []) :
    string? (literal s ++ rest) = some (s, rest) := by
  have hread := literal?_append rest h
  obtain ⟨c, s, rfl⟩ := List.exists_cons_of_ne_nil hne
  have hc : c ≠ '\'' := by
    rintro rfl
    exact absurd (h _ List.mem_cons_self) (by decide)
  have hform : literal (c :: s) ++ rest = '\'' :: (c :: s ++ '\'' :: rest) := by simp [literal]
  rw [hform, string?]
  · exact hread
  · rintro rest' h
    simp_all

theorem skipFirstLineEnd_cons {c : Char} (hline : c ≠ '\n') (hreturn : c ≠ '\r') :
    skipFirstLineEnd (c :: s) = c :: s := by
  rw [skipFirstLineEnd, lineEnd?_cons_of_ne hline hreturn]
  rfl

theorem length_le_escapedLines : ∀ (s : Text) (quotes : Nat),
    s.length ≤ (escapedLines quotes s).length
  | [], _ => Nat.zero_le _
  | c :: s, quotes => by
    have ih := length_le_escapedLines s
    have hpos := List.length_pos_iff.2 (escapedChar_ne_nil c)
    unfold escapedLines
    split_ifs <;> simp only [List.length_cons, List.length_append] <;> grind

/-- A line feed behind the quotes is skipped, and where there is none nothing is. -/
theorem skipFirstLineEnd_opened (several : Bool) {text : Text}
    (h : several = false → ∃ c rest, text = c :: rest ∧ c ≠ '\n' ∧ c ≠ '\r') :
    skipFirstLineEnd ((if several then ['\n'] else []) ++ text) = text := by
  cases several with
  | false =>
    obtain ⟨c, rest, rfl, hline, hreturn⟩ := h rfl
    exact skipFirstLineEnd_cons hline hreturn
  | true => rfl

theorem string?_tripled_basic (s : Text) (hrest : rest.head? ≠ some '"') :
    string? (tripled '"' (s.contains '\n') (escapedLines 0 s) ++ rest) = some (s, rest) := by
  have hbegins : s.contains '\n' = false → ∃ c text,
      escapedLines 0 s ++ '"' :: '"' :: '"' :: rest = c :: text ∧ c ≠ '\n' ∧ c ≠ '\r' := by
    intro hone
    rcases s with _ | ⟨c, s⟩
    · exact ⟨'"', _, rfl, by decide, by decide⟩
    · have hline : c ≠ '\n' := by
        rintro rfl
        simp at hone
      rw [escapedLines, if_neg hline]
      by_cases hquote : c = '"'
      · rw [if_pos hquote, if_neg (by decide)]
        exact ⟨'"', _, rfl, by decide, by decide⟩
      · rw [if_neg hquote]
        obtain ⟨d, mark, hmark, -, hd⟩ := exists_head_escapedChar c
        exact ⟨d, _, by rw [hmark]; rfl, hd⟩
  have hform : tripled '"' (s.contains '\n') (escapedLines 0 s) ++ rest = '"' :: '"' :: '"' ::
      ((if s.contains '\n' then ['\n'] else [])
        ++ (escapedLines 0 s ++ '"' :: '"' :: '"' :: rest)) := by
    simp [tripled]
  rw [hform, string?, skipFirstLineEnd_opened _ hbegins]
  refine longBasicUpTo_escapedLines hrest s 0 (by omega) ?_
  have hlength := length_le_escapedLines s 0
  simp only [List.length_append]
  omega

theorem string?_tripled_literal (hplain : ∀ c ∈ s, c = '\n' ∨ Escaped.isPlain c = true)
    (hrun : longestRun '\'' s ≤ 2) (hrest : rest.head? ≠ some '\'') :
    string? (tripled '\'' (s.contains '\n') s ++ rest) = some (s, rest) := by
  have hbegins : s.contains '\n' = false → ∃ c text,
      s ++ '\'' :: '\'' :: '\'' :: rest = c :: text ∧ c ≠ '\n' ∧ c ≠ '\r' := by
    intro hone
    rcases s with _ | ⟨c, s⟩
    · exact ⟨'\'', _, rfl, by decide, by decide⟩
    · refine ⟨c, _, rfl, ?_, ?_⟩
      · rintro rfl
        simp at hone
      · rintro rfl
        exact absurd (hplain _ List.mem_cons_self) (by decide)
  have hform : tripled '\'' (s.contains '\n') s ++ rest = '\'' :: '\'' :: '\'' ::
      ((if s.contains '\n' then ['\n'] else []) ++ (s ++ '\'' :: '\'' :: '\'' :: rest)) := by
    simp [tripled]
  rw [hform, string?, skipFirstLineEnd_opened _ hbegins]
  refine longLiteralUpTo_literal hrest s ?_ (not_infix_of_longestRun hrun) hplain
  simp only [List.length_append]
  omega

theorem isPlain_or_line (h : s.any mustEscape = false) :
    ∀ c ∈ s, c = '\n' ∨ Escaped.isPlain c = true := by
  intro c hc
  have hc := List.any_eq_false.1 h c hc
  simp only [mustEscape, Bool.and_eq_true, Bool.not_eq_true', bne_iff_ne, not_and, ne_eq, not_not]
    at hc
  by_cases hplain : Escaped.isPlain c = true
  · exact .inr hplain
  · exact .inl (hc (by simpa using hplain))

theorem isLiteral_of_plain (h : s.any mustEscape = false) (hline : s.contains '\n' = false)
    (htick : s.contains '\'' = false) : ∀ c ∈ s, isLiteral c = true := by
  intro c hc
  have hmem : ∀ d, s.contains d = false → c ≠ d := by
    rintro d hd rfl
    simp [hc] at hd
  unfold isLiteral
  rw [(isPlain_or_line h c hc).resolve_left (hmem _ hline)]
  simpa using hmem _ htick

theorem string?_quotedValue (s : Text) (hquote : rest.head? ≠ some '"')
    (htick : rest.head? ≠ some '\'') : string? (quotedValue s ++ rest) = some (s, rest) := by
  unfold quotedValue
  simp only [Bool.and_eq_true, Bool.not_eq_true', decide_eq_true_eq]
  split_ifs with hbasic hliteral hlines hticks hseveral
  · exact string?_basic s hquote
  · refine string?_literal (isLiteral_of_plain hliteral.1.1 hliteral.1.2 hliteral.2) ?_
    rintro rfl
    simp at hbasic
  · exact string?_tripled_basic s hquote
  · exact string?_tripled_literal (isPlain_or_line hticks.1) hticks.2 htick
  · exact string?_tripled_basic s hquote
  · exact string?_basic s hquote

theorem keyPart?_quote (s : Text) : keyPart? ('"' :: s) = Escaped.read? s := rfl

theorem keyPart?_basic (s rest : Text) : keyPart? (basic s ++ rest) = some (s, rest) := by
  have hread := read?_escaped s rest
  have hform : basic s ++ rest = '"' :: (s.flatMap escapedChar ++ '"' :: rest) := by simp [basic]
  rw [hform, keyPart?_quote, hread]

theorem keyPart?_literal (h : ∀ c ∈ s, isLiteral c = true) :
    keyPart? (literal s ++ rest) = some (s, rest) := by
  have hform : literal s ++ rest = '\'' :: (s ++ '\'' :: rest) := by simp [literal]
  rw [hform]
  exact literal?_append rest h

theorem keyPart?_bare (hne : s ≠ []) (h : ∀ c ∈ s, isBareKey c = true)
    (hrest : ∀ c ∈ rest.head?, isBareKey c = false) : keyPart? (s ++ rest) = some (s, rest) := by
  have htake : (s ++ rest).takeWhile isBareKey = s := by
    rw [List.takeWhile_append_of_pos h]
    rcases rest with _ | ⟨c, rest⟩
    · simp
    · rw [List.takeWhile_cons_of_neg (by simp [hrest c rfl]), List.append_nil]
  have hkey : keyPart? (s ++ rest)
      = (let key := (s ++ rest).takeWhile isBareKey
        if key = [] then none else some (key, (s ++ rest).drop key.length)) := by
    obtain ⟨c, s, rfl⟩ := List.exists_cons_of_ne_nil hne
    have hc := h c List.mem_cons_self
    unfold keyPart?
    split
    · rename_i heq
      obtain rfl : c = '"' := (List.cons.inj heq).1
      exact absurd hc (by decide)
    · rename_i heq
      obtain rfl : c = '\'' := (List.cons.inj heq).1
      exact absurd hc (by decide)
    · rfl
  rw [hkey, htake]
  simp [hne]

theorem keyPart?_quotedName (s : Text) (hrest : ∀ c ∈ rest.head?, isBareKey c = false) :
    keyPart? (quotedName s ++ rest) = some (s, rest) := by
  unfold quotedName
  simp only [Bool.and_eq_true, Bool.not_eq_true', ne_eq]
  split_ifs with hbare hbasic hliteral
  · exact keyPart?_bare hbare.1 (List.all_eq_true.1 hbare.2) hrest
  · exact keyPart?_basic s rest
  · exact keyPart?_literal (isLiteral_of_plain hliteral.1.1 hliteral.1.2 hliteral.2)
  · exact keyPart?_basic s rest

end Forms

end Settings

end FileClerk
