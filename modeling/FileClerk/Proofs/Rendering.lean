import FileClerk.Proofs.Language

/-!
# Commands written and read back

An operation written as a command is read back as itself exactly if its paths and its content stand
in the command the way a reader looks for them (`Operation.Restorable`, `parse_text_eq_iff`).

Reading only ever takes characters away: line ends are folded, noise and blanks trimmed, a separator
cut out. So where an operation comes back whole no step took anything, and that says of each field
what it must be like (`FirstCut.restores`). A path that holds the separator too early cannot come
back by another cut, since the fields would be too short.
-/

namespace FileClerk

open Text

namespace Text

variable {s : Text}

theorem trim_sublist (s : Text) : s.trim.Sublist s := by
  rw [trim_eq]
  exact (List.rdropWhile_prefix _ _).sublist.trans (List.dropWhile_sublist _)

theorem trim_cons_blank {c : Char} (h : isBlank c) (s : Text) : trim (c :: s) = s.trim := by
  rw [trim_eq, trim_eq, List.dropWhile_cons_of_pos h]

theorem trim_eq_self_iff :
    s.trim = s ↔ (∀ c ∈ s.head?, ¬ isBlank c) ∧ ∀ c ∈ s.getLast?, ¬ isBlank c := by
  refine ⟨fun h => ?_, fun h => trim_of_ends h.1 h.2⟩
  have hdrop : s.dropWhile isBlank = s := by
    refine (List.dropWhile_sublist _).antisymm ?_
    conv_lhs => rw [← h, trim_eq]
    exact (List.rdropWhile_prefix _ _).sublist
  have hlast : s.rdropWhile isBlank = s := by
    rw [trim_eq, hdrop] at h
    exact h
  refine ⟨fun c hc => ?_, fun c hc => ?_⟩
  · obtain ⟨rest, rfl⟩ := List.head?_eq_some_iff.1 hc
    rw [List.dropWhile_eq_self_iff] at hdrop
    exact hdrop (by simp)
  · have hne : s ≠ [] := by
      rintro rfl
      simp at hc
    rw [List.getLast?_eq_some_getLast hne, Option.mem_some_iff] at hc
    rw [List.rdropWhile_eq_self_iff] at hlast
    exact hc ▸ hlast hne

theorem rdropWhile_blank_cons_iff : (' ' :: s).rdropWhile isNoise = ' ' :: s ↔
    s ≠ [] ∧ ∀ c ∈ s.getLast?, ¬ isNoise c := by
  rw [List.rdropWhile_eq_self_iff]
  rcases eq_or_ne s [] with rfl | hne
  · exact iff_of_false (fun h => h (by simp) (by decide)) fun h => h.1 rfl
  · rw [List.getLast?_eq_some_getLast hne]
    simp [hne]

end Text

/-- A path with nothing behind it in a command. -/
structure Lone (path : Text) : Prop where
  newline : ¬ ['\r', '\n'] <:+: path
  head : ∀ c ∈ path.head?, ¬ isBlank c
  last : ∀ c ∈ path.getLast?, ¬ isNoise c

/-- A path that a separator stands behind, and not before. -/
structure Detached (sep path : Text) : Prop where
  newline : ¬ ['\r', '\n'] <:+: path
  head : ∀ c ∈ path.head?, ¬ isBlank c
  last : ∀ c ∈ path.getLast?, ¬ isBlank c
  separator : ¬ sep <:+: ' ' :: path ++ sep.dropLast

/-- The words that an operation's command begins with, and the arguments after them. -/
def Operation.verb : Operation → Verb
  | .create _ => .create
  | .delete _ => .delete
  | .rename _ _ => .rename
  | .append _ _ => .append
  | .read _ => .read
  | .copy _ _ => .copy
  | .list _ => .list
  | .info _ => .info

def Operation.arguments : Operation → Text
  | .create path | .delete path | .read path | .list path | .info path => path
  | .rename first second | .copy first second => first ++ " to ".toList ++ second
  | .append path content => path ++ " this content: ".toList ++ content

/-- What an operation must be like to be read back from its command. -/
def Operation.Restorable : Operation → Prop
  | .create path | .delete path | .read path | .info path => Lone path
  | .list path => Lone path ∧ path ≠ []
  | .rename first second | .copy first second =>
    Detached " to ".toList first ∧ Lone second ∧ second ≠ []
  | .append path content =>
    Detached " this content: ".toList path ∧ ¬ ['\r', '\n'] <:+: content
      ∧ content.getLast? ≠ some '\n'

namespace Verb

theorem words_append_foldNewlines (verb : Verb) (s : Text) :
    (verb.words ++ s).foldNewlines = verb.words ++ s.foldNewlines := by
  have hwords : ¬ ['\r', '\n'] <:+: verb.words ∧ verb.words.getLast? ≠ some '\r' := by
    cases verb <;> decide +kernel
  exact foldNewlines_append s hwords.1 hwords.2

theorem words_append_dropWhile (verb : Verb) (s : Text) :
    (verb.words ++ s).dropWhile isNoise = verb.words ++ s := by
  cases verb <;> exact List.dropWhile_cons_of_neg (by decide)

end Verb

namespace Operation

variable (operation : Operation)

theorem text_eq : operation.text = operation.verb.words ++ ' ' :: operation.arguments := by
  have hblank : ∀ {s words : Text}, s = words ++ [' '] → ∀ rest,
      s ++ rest = words ++ ' ' :: rest := by
    rintro _ words rfl rest
    simp
  have hthree : ∀ {s words : Text}, s = words ++ [' '] → ∀ a b c : Text,
      s ++ a ++ b ++ c = words ++ ' ' :: (a ++ b ++ c) := by
    rintro _ words rfl a b c
    simp
  cases operation with
  | create path =>
    exact @hblank "create a file ".toList Verb.create.words (by decide +kernel) path
  | delete path =>
    exact @hblank "delete the file ".toList Verb.delete.words (by decide +kernel) path
  | read path =>
    exact @hblank "read the file ".toList Verb.read.words (by decide +kernel) path
  | list path =>
    exact @hblank "list the directory ".toList Verb.list.words (by decide +kernel) path
  | info path =>
    exact @hblank "file info ".toList Verb.info.words (by decide +kernel) path
  | rename old new =>
    exact @hthree "rename the file ".toList Verb.rename.words (by decide +kernel) old _ new
  | copy source target =>
    exact @hthree "copy the file ".toList Verb.copy.words (by decide +kernel) source _ target
  | append path content =>
    exact @hthree "add to the file ".toList Verb.append.words (by decide +kernel) path _ content

theorem body_text : Command.body operation.text
    = operation.verb.words ++ ' ' :: operation.arguments.foldNewlines := by
  rw [Command.body_eq, text_eq, Verb.words_append_foldNewlines, Verb.words_append_dropWhile]
  simp [foldNewlines]

/-- What a rule reads in the command of an operation. -/
theorem reads_text : operation.verb.rule.Reads operation.text
    ((' ' :: operation.arguments.foldNewlines).rdropWhile isNoise)
    (Command.dropFinalNewline (' ' :: operation.arguments.foldNewlines))
    (Grammar.standard.parse operation.text) := by
  have hcore : Command.core operation.text
      = operation.verb.words ++ (' ' :: operation.arguments.foldNewlines).rdropWhile isNoise := by
    rw [Command.core_eq, body_text, rdropWhile_append operation.verb.last_words]
  have hopens : Opens operation.verb.words (Command.body operation.text) :=
    ⟨_, operation.body_text, .inr ⟨' ', rfl, by decide⟩⟩
  obtain ⟨rest, tail, hrest, htail, hreads⟩ :=
    Grammar.parse_of_opens (Grammar.core_ne_nil_of_opens hopens) hopens
  rw [hcore, List.append_cancel_left_eq] at hrest
  rw [body_text, Command.dropFinalNewline_append (by simp), List.append_cancel_left_eq] at htail
  rw [hrest, htail]
  exact hreads

end Operation

section Path

variable {path : Text}

theorem Lone.trim_eq (h : Lone path) : path.trim = path :=
  trim_eq_self_iff.2 ⟨h.head, fun c hc hblank => h.last c hc (isNoise_of_isBlank hblank)⟩

theorem trim_rest_eq_iff :
    Text.trim ((' ' :: path.foldNewlines).rdropWhile isNoise) = path ↔ Lone path := by
  constructor
  · intro h
    have hpre := List.rdropWhile_prefix isNoise (' ' :: path.foldNewlines)
    rcases hrest : (' ' :: path.foldNewlines).rdropWhile isNoise with _ | ⟨c, rest⟩
    · rw [hrest] at h
      obtain rfl : path = [] := h.symm
      constructor <;> simp
    · rw [hrest, List.cons_prefix_cons] at hpre
      obtain ⟨rfl, hpre⟩ := hpre
      rw [hrest, trim_cons_blank (by decide)] at h
      have hgrown : path.Sublist rest := by
        conv_lhs => rw [← h]
        exact trim_sublist rest
      obtain rfl : path = rest :=
        hgrown.antisymm (hpre.sublist.trans (foldNewlines_sublist path))
      have hfold := (foldNewlines_sublist path).antisymm hpre.sublist
      rw [hfold, rdropWhile_blank_cons_iff] at hrest
      exact ⟨foldNewlines_eq_self_iff.1 hfold, (trim_eq_self_iff.1 h).1, hrest.2⟩
  · intro h
    rw [foldNewlines_eq_self_iff.2 h.newline]
    rcases eq_or_ne path [] with rfl | hne
    · decide
    · rw [rdropWhile_blank_cons_iff.2 ⟨hne, h.last⟩, trim_cons_blank (by decide), h.trim_eq]

theorem reads_path_iff {build : Text → Operation} {result : Except Refusal Operation}
    (hbuild : ∀ a, build path = build a → a = path)
    (h : result = .ok (build (Text.trim ((' ' :: path.foldNewlines).rdropWhile isNoise)))) :
    result = .ok (build path) ↔ Lone path := by
  rw [h, Except.ok.injEq, ← trim_rest_eq_iff]
  exact ⟨fun heq => hbuild _ heq.symm, fun heq => by rw [heq]⟩

/-- A path that may be left out comes back unless it is empty, where another stands for it. -/
theorem reads_optionalPath_iff {default : Text} {build : Text → Operation}
    {result : Except Refusal Operation} (hbuild : ∀ a, build path = build a → a = path)
    (hdefault : Lone default ∧ default ≠ [])
    (h : let given := Text.trim ((' ' :: path.foldNewlines).rdropWhile isNoise)
      result = .ok (build (if given = [] then default else given))) :
    result = .ok (build path) ↔ Lone path ∧ path ≠ [] := by
  dsimp only at h
  rw [h, Except.ok.injEq]
  constructor
  · intro heq
    have hpath := hbuild _ heq.symm
    split_ifs at hpath with hempty
    · -- The default stands alone itself, so it would have been read.
      rw [← hpath, trim_rest_eq_iff.2 hdefault.1] at hempty
      exact absurd hempty hdefault.2
    · exact ⟨trim_rest_eq_iff.1 hpath, hpath ▸ hempty⟩
  · rintro ⟨hlone, hne⟩
    rw [trim_rest_eq_iff.2 hlone, if_neg hne]

end Path

/-- A separator stands apart from what is before it and behind it, with a blank at either end. -/
structure IsSeparator (sep : Text) : Prop where
  head : sep.head? = some ' '
  last : sep.getLast? = some ' '
  newline : ¬ ['\r', '\n'] <:+: sep
  once : ¬ sep <+: ' ' :: sep

theorem isSeparator_to : IsSeparator " to ".toList := by
  constructor <;> decide +kernel

theorem isSeparator_content : IsSeparator " this content: ".toList := by
  constructor <;> decide +kernel

section Cut

variable {sep first second : Text}

theorem IsSeparator.ne_nil (h : IsSeparator sep) : sep ≠ [] := by
  rintro rfl
  have hhead := h.head
  simp at hhead

theorem IsSeparator.foldNewlines_append (h : IsSeparator sep) (first second : Text) :
    (first ++ sep ++ second).foldNewlines
      = first.foldNewlines ++ sep ++ second.foldNewlines := by
  have hlast : (first ++ sep).getLast? = some ' ' := by
    rw [List.getLast?_append, h.last]
    rfl
  rw [foldNewlines_append_of_seam (by simp [hlast]), foldNewlines_append_of_seam (by simp [h.head]),
    foldNewlines_eq_self_iff.2 h.newline]

theorem Text.FirstCut.restores {rest left right : Text} (hsep : IsSeparator sep)
    (hrest : rest <+: ' ' :: (first ++ sep ++ second).foldNewlines)
    (hcut : FirstCut sep rest left right) (hfirst : left.trim = first)
    (hsecond : second.Sublist right) :
    Detached sep first ∧ right = second ∧ rest = ' ' :: (first ++ sep ++ second)
      ∧ (first ++ sep ++ second).foldNewlines = first ++ sep ++ second := by
  rcases left with _ | ⟨c, left⟩
  · -- The blank in front of an empty path would have to belong to the separator.
    obtain rfl : first = [] := hfirst.symm
    have hbegin : sep <+: ' ' :: sep ++ second.foldNewlines := by
      rw [hsep.foldNewlines_append] at hrest
      exact List.IsPrefix.trans ⟨right, hcut.1.symm⟩ hrest
    refine absurd (List.prefix_of_prefix_length_le hbegin (List.prefix_append _ _) ?_) hsep.once
    simp
  rw [hcut.1, List.cons_append, List.cons_append, List.cons_prefix_cons] at hrest
  obtain ⟨rfl, hpre⟩ := hrest
  rw [trim_cons_blank (by decide)] at hfirst
  have hleft : first.Sublist left := hfirst ▸ trim_sublist left
  -- What was read is part of the command and the command part of it, so nothing was taken away.
  have hgrown : (first ++ sep ++ second).Sublist (left ++ sep ++ right) :=
    (hleft.append (List.Sublist.refl sep)).append hsecond
  have hshrunk := hpre.sublist.trans (foldNewlines_sublist (first ++ sep ++ second))
  have heq := hgrown.antisymm hshrunk
  have hlength := congrArg List.length heq
  simp only [List.length_append] at hlength
  have hfirstle := hleft.length_le
  have hsecondle := hsecond.length_le
  obtain rfl : first = left := hleft.eq_of_length (by omega)
  obtain rfl : second = right := hsecond.eq_of_length (by omega)
  have hfold : (first ++ sep ++ second).foldNewlines = first ++ sep ++ second :=
    (foldNewlines_sublist _).antisymm hpre.sublist
  have hends := trim_eq_self_iff.1 hfirst
  refine ⟨⟨fun hin => ?_, hends.1, hends.2, ?_⟩, rfl, hcut.1, hfold⟩
  · refine foldNewlines_eq_self_iff.1 hfold (hin.trans ?_)
    rw [List.append_assoc]
    exact (List.prefix_append first _).isInfix
  · exact FirstCut.not_infix (hcut.1 ▸ hcut) hsep.ne_nil

theorem Detached.firstCut (hsep : IsSeparator sep) (h : Detached sep first) (second : Text) :
    FirstCut sep (' ' :: (first ++ sep ++ second)) (' ' :: first) second :=
  firstCut_of_not_infix second hsep.ne_nil h.separator

theorem Detached.trim_eq (h : Detached sep first) : Text.trim (' ' :: first) = first := by
  rw [trim_cons_blank (by decide)]
  exact trim_eq_self_iff.2 ⟨h.head, h.last⟩

theorem Detached.foldNewlines_eq (hsep : IsSeparator sep) (h : Detached sep first)
    (hsecond : ¬ ['\r', '\n'] <:+: second) :
    (first ++ sep ++ second).foldNewlines = first ++ sep ++ second := by
  rw [hsep.foldNewlines_append, foldNewlines_eq_self_iff.2 h.newline,
    foldNewlines_eq_self_iff.2 hsecond]

theorem getLast?_joined (hsep : IsSeparator sep) (first second : Text) :
    (first ++ sep ++ second).getLast? = second.getLast?.or (some ' ') := by
  rw [List.getLast?_append, List.getLast?_append, hsep.last]
  rfl

theorem ReadsCut.exists_cut {s : Text} {refusal : Refusal} {build : Text → Text → Operation}
    {operation : Operation} (h : ReadsCut sep s refusal build (.ok operation)) :
    ∃ left right, FirstCut sep s left right ∧ operation = build left right := by
  rcases hcut : s.splitOnce? sep with _ | ⟨left, right⟩
  · cases h.1.2 (splitOnce?_eq_none_iff.1 hcut)
  · have hfirst := splitOnce?_eq_some_iff.1 hcut
    exact ⟨left, right, hfirst, Except.ok.inj (h.2 left right hfirst)⟩

/-- Two paths come back if the first is detached from the second and the second stands alone. -/
theorem reads_twoPaths_iff (hsep : IsSeparator sep) {refusal : Refusal}
    {build : Text → Text → Operation} {result : Except Refusal Operation}
    (hbuild : ∀ a b, build first second = build a b → a = first ∧ b = second)
    (h : ReadsCut sep ((' ' :: (first ++ sep ++ second).foldNewlines).rdropWhile isNoise) refusal
      (fun left right => build left.trim right.trim) result) :
    result = .ok (build first second) ↔
      Detached sep first ∧ Lone second ∧ second ≠ [] := by
  constructor
  · rintro rfl
    obtain ⟨left, right, hcut, heq⟩ := h.exists_cut
    obtain ⟨hleft, hright⟩ := hbuild _ _ heq
    obtain ⟨hdetached, rfl, hrest, hfold⟩ :=
      hcut.restores hsep (List.rdropWhile_prefix _ _) hleft (hright ▸ trim_sublist right)
    have hends := trim_eq_self_iff.1 hright
    rw [hfold, rdropWhile_blank_cons_iff, getLast?_joined hsep] at hrest
    have hlast := hrest.2
    refine ⟨hdetached, ⟨fun hin => ?_, hends.1, fun c hc => hlast c ?_⟩, ?_⟩
    · exact foldNewlines_eq_self_iff.1 hfold (hin.trans (List.suffix_append _ _).isInfix)
    · rw [Option.mem_def.1 hc]
      rfl
    · rintro rfl
      exact hlast ' ' rfl (by decide)
  · rintro ⟨hdetached, hlone, hne⟩
    have hkept : (' ' :: (first ++ sep ++ second)).rdropWhile isNoise
        = ' ' :: (first ++ sep ++ second) := by
      rw [rdropWhile_blank_cons_iff, getLast?_joined hsep]
      refine ⟨by simp [hne], fun c hc => hlone.last c ?_⟩
      rwa [List.getLast?_eq_some_getLast hne] at hc ⊢
    rw [hdetached.foldNewlines_eq hsep hlone.newline, hkept] at h
    have hsecond := hlone.trim_eq
    have hresult := h.2 _ _ (hdetached.firstCut hsep second)
    simp only [hdetached.trim_eq, hsecond] at hresult
    exact hresult

/-- A path that is detached from a payload comes back, and the payload as far as line ends let
it. -/
theorem Detached.reads_payload (hsep : IsSeparator sep) (h : Detached sep first)
    {refusal : Refusal} {build : Text → Text → Operation} {result : Except Refusal Operation}
    (hreads : ReadsCut sep
      (Command.dropFinalNewline (' ' :: (first ++ sep ++ second).foldNewlines)) refusal
      (fun left payload => build left.trim payload) result) :
    result = .ok (build first (Command.dropFinalNewline second.foldNewlines)) := by
  have hlast : (' ' :: (first ++ sep)).getLast? ≠ some '\n' := by
    rw [List.getLast?_cons, List.getLast?_append, hsep.last]
    simp
  rw [hsep.foldNewlines_append, foldNewlines_eq_self_iff.2 h.newline, ← List.cons_append,
    Command.dropFinalNewline_append_of_ne _ hlast] at hreads
  have hresult := hreads.2 _ _ (h.firstCut hsep _)
  simp only [h.trim_eq] at hresult
  exact hresult

/-- A path and a payload come back if the path is detached and no character of the payload is lost
to the line ends. -/
theorem reads_pathAndPayload_iff (hsep : IsSeparator sep) {refusal : Refusal}
    {build : Text → Text → Operation} {result : Except Refusal Operation}
    (hbuild : ∀ a b, build first second = build a b → a = first ∧ b = second)
    (h : ReadsCut sep
      (Command.dropFinalNewline (' ' :: (first ++ sep ++ second).foldNewlines)) refusal
      (fun left payload => build left.trim payload) result) :
    result = .ok (build first second) ↔
      Detached sep first ∧ ¬ ['\r', '\n'] <:+: second ∧ second.getLast? ≠ some '\n' := by
  constructor
  · rintro rfl
    obtain ⟨left, right, hcut, heq⟩ := h.exists_cut
    obtain ⟨hleft, hright⟩ := hbuild _ _ heq
    obtain ⟨hdetached, rfl, hrest, hfold⟩ := hcut.restores hsep (Command.dropFinalNewline_prefix _)
      hleft (hright ▸ List.Sublist.refl _)
    rw [hfold, Command.dropFinalNewline_eq_self_iff, List.getLast?_cons, getLast?_joined hsep]
      at hrest
    refine ⟨hdetached, fun hin => ?_, fun hlast => hrest (by simp [hlast])⟩
    exact foldNewlines_eq_self_iff.1 hfold (hin.trans (List.suffix_append _ _).isInfix)
  · rintro ⟨hdetached, hnewline, hlast⟩
    have hresult := hdetached.reads_payload hsep h
    rw [foldNewlines_eq_self_iff.2 hnewline, Command.dropFinalNewline_eq_self_iff.2 hlast]
      at hresult
    exact hresult

end Cut

/-- An operation is read back from its own command exactly if it is restorable. -/
theorem parse_text_eq_iff (operation : Operation) :
    Grammar.standard.parse operation.text = .ok operation ↔ operation.Restorable := by
  have hreads := operation.reads_text
  cases operation with
  | create path | delete path | read path | info path =>
    refine reads_path_iff (fun a h => ?_) hreads
    cases h
    rfl
  | list path =>
    have hpoint : Lone ['.'] := by
      refine ⟨by decide, ?_, ?_⟩
      · simpa using (by decide : ¬ isBlank '.')
      · simpa using (by decide : ¬ isNoise '.')
    refine reads_optionalPath_iff (fun a h => ?_) ⟨hpoint, List.cons_ne_nil _ _⟩ hreads
    cases h
    rfl
  | rename first second | copy first second =>
    refine reads_twoPaths_iff isSeparator_to (fun a b h => ?_) hreads
    cases h
    exact ⟨rfl, rfl⟩
  | append path content =>
    refine reads_pathAndPayload_iff isSeparator_content (fun a b h => ?_) hreads
    cases h
    exact ⟨rfl, rfl⟩

end FileClerk
