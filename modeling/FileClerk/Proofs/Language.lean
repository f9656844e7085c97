import FileClerk.Proofs.Cutting
import FileClerk.Proofs.Trimming

/-!
# The language of commands

There are eight verbs. A body that is a verb's phrase, followed by noise alone or by a blank, is a
command of that verb and of no other, because no phrase begins another one. What follows the phrase
gives the arguments as the verb's rule says (`Rule.Reads`), and `parse_standard_decides` says that
the parser accepts this language and no other.
-/

namespace FileClerk

open Text

/-- After the words the text ends, but for noise, or goes on with a blank. -/
def Opens (words body : Text) : Prop :=
  ∃ rest, body = words ++ rest ∧ ((∀ c ∈ rest, isNoise c) ∨ ∃ c ∈ rest.head?, isBlank c)

theorem opens_body_iff {words raw : Text} (hlast : ∃ c ∈ words.getLast?, ¬ isNoise c) :
    Opens words (Command.body raw) ↔
      ∃ rest, Command.core raw = words ++ rest ∧ (rest = [] ∨ ∃ c ∈ rest.head?, isBlank c) := by
  constructor
  · rintro ⟨rest, hbody, hrest⟩
    refine ⟨rest.rdropWhile isNoise, ?_, ?_⟩
    · rw [Command.core_eq, hbody, rdropWhile_append hlast]
    · rcases hrest with hnoise | ⟨c, hc, hblank⟩
      · exact .inl (List.rdropWhile_eq_nil_iff.2 hnoise)
      · refine or_iff_not_imp_left.2 fun hne => ⟨c, ?_, hblank⟩
        have hhead := List.head_mem_head? hne
        rw [(List.rdropWhile_prefix isNoise rest).head hne] at hhead
        rw [← Option.mem_unique (List.head_mem_head? _) hc]
        exact hhead
  · rintro ⟨rest, hcore, hrest⟩
    obtain ⟨noise, hbody, hnoise⟩ := Command.core_append_noise raw
    refine ⟨rest ++ noise, by rw [hbody, hcore, List.append_assoc], ?_⟩
    rcases hrest with rfl | ⟨c, hc, hblank⟩
    · exact .inl hnoise
    · exact .inr ⟨c, List.mem_head?_append_of_mem_head? hc, hblank⟩

namespace Phrase

theorem strip?_eq_some_iff {phrase : Phrase} {input rest : Text} :
    phrase.strip? input = some rest ↔
      input = phrase.words ++ rest ∧ (rest = [] ∨ ∃ c ∈ rest.head?, isBlank c) := by
  rw [strip?]
  constructor
  · intro h
    split at h
    · rename_i hpre
      obtain rfl : [] = rest := by simpa using h
      exact ⟨(List.isPrefixOf?_eq_some_iff_append_eq.1 hpre).symm, .inl rfl⟩
    · rename_i c after hpre
      split_ifs at h with hblank
      obtain rfl : c :: after = rest := by simpa using h
      exact ⟨(List.isPrefixOf?_eq_some_iff_append_eq.1 hpre).symm, .inr ⟨c, rfl, hblank⟩⟩
    · cases h
  · rintro ⟨rfl, hrest⟩
    rw [List.isPrefixOf?_eq_some_iff_append_eq.2 rfl]
    cases rest with
    | nil => rfl
    | cons c after => simpa using hrest

end Phrase

namespace Grammar

variable {grammar : Grammar} {raw input rest : Text} {phrase : Phrase}

theorem find?_eq_none_iff :
    grammar.find? input = none ↔ ∀ phrase ∈ grammar.phrases, phrase.strip? input = none := by
  simp [find?]

theorem of_find?_eq_some (h : grammar.find? input = some (phrase, rest)) :
    phrase ∈ grammar.phrases ∧ phrase.strip? input = some rest := by
  obtain ⟨found, hmem, hstrip⟩ := List.exists_of_findSome?_eq_some h
  obtain ⟨after, hafter, heq⟩ := Option.map_eq_some_iff.1 hstrip
  rw [Prod.mk.injEq] at heq
  obtain ⟨rfl, rfl⟩ := heq
  exact ⟨hmem, hafter⟩

theorem parse_of_core_eq_nil (h : Command.core raw = []) :
    grammar.parse raw = .error ⟨raw, .empty⟩ := if_pos h

theorem parse_of_find?_eq_none (hcore : Command.core raw ≠ [])
    (hfind : grammar.find? (Command.core raw) = none) :
    grammar.parse raw = .error ⟨raw, .unknown⟩ := by
  rw [parse, if_neg hcore, hfind]

/-- What a payload is read from begins with the phrase, goes on as the core does, and ends in
noise. -/
theorem tail_of_find?_eq_some (hfind : grammar.find? (Command.core raw) = some (phrase, rest)) :
    ∃ noise, (∀ c ∈ noise, isNoise c)
      ∧ Command.dropFinalNewline (Command.body raw) = phrase.words ++ (rest ++ noise) := by
  obtain ⟨noise, htail, hnoise⟩ := Command.tail_append_noise raw
  rw [(Phrase.strip?_eq_some_iff.1 (of_find?_eq_some hfind).2).1, List.append_assoc] at htail
  exact ⟨noise, hnoise, htail⟩

/-- The text after the phrase stands at the same place in the core and in what a payload is read
from. -/
theorem parse_of_find?_eq_some (hcore : Command.core raw ≠ [])
    (hfind : grammar.find? (Command.core raw) = some (phrase, rest)) :
    ∃ tail, Command.dropFinalNewline (Command.body raw) = phrase.words ++ tail
      ∧ grammar.parse raw
        = phrase.rule.apply (if phrase.rule.keepsTail then tail else rest) raw := by
  obtain ⟨noise, -, htail⟩ := tail_of_find?_eq_some hfind
  refine ⟨rest ++ noise, htail, ?_⟩
  rw [parse, if_neg hcore, hfind, htail]
  simp only [List.drop_left]

end Grammar

/-- A malformed command is one without the separator, and the first separator cuts any other. -/
def ReadsCut (sep s : Text) (refusal : Refusal) (build : Text → Text → Operation)
    (result : Except Refusal Operation) : Prop :=
  (result = .error refusal ↔ ¬ sep <:+: s)
    ∧ ∀ left right, FirstCut sep s left right → result = .ok (build left right)

theorem readsCut_splitOnce? (sep s : Text) (refusal : Refusal) (build : Text → Text → Operation) :
    ReadsCut sep s refusal build
      (match s.splitOnce? sep with
      | some (left, right) => .ok (build left right)
      | none => .error refusal) := by
  rcases hcut : s.splitOnce? sep with _ | ⟨l, r⟩
  · refine ⟨⟨fun _ => splitOnce?_eq_none_iff.1 hcut, fun _ => rfl⟩, fun left right hfirst => ?_⟩
    rw [splitOnce?_eq_some_iff.2 hfirst] at hcut
    cases hcut
  · have hfirst := firstCut_of_splitOnce? hcut
    refine ⟨⟨fun h => (by cases h), fun hno => ?_⟩, fun left right h => ?_⟩
    · exact absurd ⟨l, r, hfirst.1.symm⟩ hno
    · obtain ⟨rfl, rfl⟩ := hfirst.unique h
      rfl

theorem ReadsCut.eq_refusal {sep s : Text} {refusal e : Refusal} {build : Text → Text → Operation}
    {result : Except Refusal Operation} (h : ReadsCut sep s refusal build result)
    (he : result = .error e) : e = refusal := by
  rcases hcut : s.splitOnce? sep with _ | ⟨l, r⟩
  · rw [h.1.2 (splitOnce?_eq_none_iff.1 hcut)] at he
    exact (Except.error.inj he).symm
  · rw [h.2 l r (firstCut_of_splitOnce? hcut)] at he
    cases he

/-- What a command gives, where `rest` of its core follows the phrase and `tail` of the text that a
payload is read from. Paths are taken without the blanks at their ends. -/
def Rule.Reads (raw rest tail : Text) (result : Except Refusal Operation) (rule : Rule) : Prop :=
  let trimmed (s : Text) : Text := (s.dropWhile isBlank).rdropWhile isBlank
  match rule with
  | .path build => result = .ok (build (trimmed rest))
  | .optionalPath default build =>
    result = .ok (build (if trimmed rest = [] then default else trimmed rest))
  | .twoPaths sep malformed build =>
    ReadsCut sep rest ⟨raw, malformed⟩
      (fun left right => build (trimmed left) (trimmed right)) result
  | .pathAndPayload sep malformed build =>
    ReadsCut sep tail ⟨raw, malformed⟩ (fun left payload => build (trimmed left) payload) result

theorem Rule.reads_apply (raw rest tail : Text) (rule : Rule) :
    rule.Reads raw rest tail (rule.apply (if rule.keepsTail then tail else rest) raw) := by
  simp only [Rule.Reads, ← trim_eq]
  cases rule with
  | path | optionalPath => rfl
  | twoPaths sep malformed build =>
    exact readsCut_splitOnce? sep rest ⟨raw, malformed⟩ fun left right => build left.trim right.trim
  | pathAndPayload sep malformed build =>
    exact readsCut_splitOnce? sep tail ⟨raw, malformed⟩ fun left payload => build left.trim payload

/-- What a command may begin with. -/
inductive Verb where
  | create
  | delete
  | rename
  | append
  | read
  | copy
  | list
  | info
  deriving DecidableEq, Repr

namespace Verb

def all : List Verb := [create, delete, rename, append, read, copy, list, info]

def words : Verb → Text
  | create => "create a file".toList
  | delete => "delete the file".toList
  | rename => "rename the file".toList
  | append => "add to the file".toList
  | read => "read the file".toList
  | copy => "copy the file".toList
  | list => "list the directory".toList
  | info => "file info".toList

def rule : Verb → Rule
  | create => .path .create
  | delete => .path .delete
  | rename => .twoPaths " to ".toList .malformedRename .rename
  | append => .pathAndPayload " this content: ".toList .malformedAppend .append
  | read => .path .read
  | copy => .twoPaths " to ".toList .malformedCopy .copy
  | list => .optionalPath ".".toList .list
  | info => .path .info

theorem isMalformed_of_reads {verb : Verb} {raw rest tail : Text} {e : Refusal}
    {result : Except Refusal Operation} (h : verb.rule.Reads raw rest tail result)
    (he : result = .error e) : e.reason.isMalformed := by
  cases verb with
  | rename | append | copy =>
    rw [ReadsCut.eq_refusal h he]
    rfl
  | create | delete | read | list | info =>
    rw [show result = .ok _ from h] at he
    cases he

theorem mem_all (verb : Verb) : verb ∈ all := by
  cases verb <;> decide

theorem last_words (verb : Verb) : ∃ c ∈ verb.words.getLast?, ¬ isNoise c := by
  cases verb <;> exact ⟨_, rfl, by decide⟩

/-- No phrase begins another one. -/
theorem eq_of_begins {verb other : Verb} (h : verb.words <+: other.words) : verb = other := by
  have hall : ∀ verb ∈ all, ∀ other ∈ all, verb.words <+: other.words → verb = other := by decide
  exact hall verb verb.mem_all other other.mem_all h

theorem eq_of_opens {verb other : Verb} {body : Text} (h : Opens verb.words body)
    (hother : Opens other.words body) : other = verb := by
  obtain ⟨rest, hrest, -⟩ := h
  obtain ⟨after, hafter, -⟩ := hother
  rcases List.prefix_or_prefix_of_prefix ⟨rest, hrest.symm⟩ ⟨after, hafter.symm⟩ with hpre | hpre
  · exact (eq_of_begins hpre).symm
  · exact eq_of_begins hpre

end Verb

namespace Grammar

/-- The grammar of the command file has a phrase for each verb. -/
theorem standardPhrases_map :
    standardPhrases.map (fun phrase => (phrase.words, phrase.rule))
      = Verb.all.map fun verb => (verb.words, verb.rule) := rfl

theorem exists_verb {phrase : Phrase} (h : phrase ∈ standard.phrases) :
    ∃ verb : Verb, phrase.words = verb.words ∧ phrase.rule = verb.rule := by
  have hmem : (phrase.words, phrase.rule)
      ∈ standardPhrases.map fun phrase => (phrase.words, phrase.rule) :=
    List.mem_map.2 ⟨phrase, List.mem_mergeSort.1 h, rfl⟩
  rw [standardPhrases_map] at hmem
  obtain ⟨verb, -, heq⟩ := List.mem_map.1 hmem
  rw [Prod.mk.injEq] at heq
  exact ⟨verb, heq.1.symm, heq.2.symm⟩

theorem exists_phrase (verb : Verb) : ∃ phrase ∈ standard.phrases, phrase.words = verb.words := by
  have hmem : (verb.words, verb.rule) ∈ Verb.all.map fun verb => (verb.words, verb.rule) :=
    List.mem_map.2 ⟨verb, verb.mem_all, rfl⟩
  rw [← standardPhrases_map] at hmem
  obtain ⟨phrase, hphrase, heq⟩ := List.mem_map.1 hmem
  rw [Prod.mk.injEq] at heq
  exact ⟨phrase, List.mem_mergeSort.2 hphrase, heq.1⟩

theorem find?_standard_eq_none_iff {raw : Text} :
    standard.find? (Command.core raw) = none ↔
      ¬ ∃ verb : Verb, Opens verb.words (Command.body raw) := by
  rw [find?_eq_none_iff]
  constructor
  · rintro h ⟨verb, hopens⟩
    obtain ⟨phrase, hmem, hwords⟩ := exists_phrase verb
    obtain ⟨rest, hrest⟩ := (opens_body_iff verb.last_words).1 hopens
    rw [← hwords] at hrest
    have hsome := Phrase.strip?_eq_some_iff.2 hrest
    rw [h phrase hmem] at hsome
    cases hsome
  · intro h phrase hmem
    refine Option.eq_none_iff_forall_ne_some.2 fun rest hstrip => h ?_
    obtain ⟨verb, hwords, -⟩ := exists_verb hmem
    have hrest := Phrase.strip?_eq_some_iff.1 hstrip
    rw [hwords] at hrest
    exact ⟨verb, (opens_body_iff verb.last_words).2 ⟨rest, hrest⟩⟩

/-- A body that begins with a verb's phrase is read by the verb's rule. -/
theorem parse_of_opens {raw : Text} {verb : Verb} (hcore : Command.core raw ≠ [])
    (h : Opens verb.words (Command.body raw)) :
    ∃ rest tail, Command.core raw = verb.words ++ rest
      ∧ Command.dropFinalNewline (Command.body raw) = verb.words ++ tail
      ∧ verb.rule.Reads raw rest tail (standard.parse raw) := by
  rcases hfind : standard.find? (Command.core raw) with _ | ⟨phrase, rest⟩
  · exact absurd ⟨verb, h⟩ (find?_standard_eq_none_iff.1 hfind)
  · obtain ⟨hmem, hstrip⟩ := of_find?_eq_some hfind
    have hrest := Phrase.strip?_eq_some_iff.1 hstrip
    obtain ⟨tail, htail, hparse⟩ := parse_of_find?_eq_some hcore hfind
    obtain ⟨found, hwords, hrule⟩ := exists_verb hmem
    rw [hwords] at hrest htail
    rw [hrule] at hparse
    obtain rfl : found = verb :=
      Verb.eq_of_opens h ((opens_body_iff found.last_words).2 ⟨rest, hrest⟩)
    exact ⟨rest, tail, hrest.1, htail, hparse ▸ Rule.reads_apply raw rest tail found.rule⟩

theorem core_ne_nil_of_opens {raw : Text} {verb : Verb} (h : Opens verb.words (Command.body raw)) :
    Command.core raw ≠ [] := by
  obtain ⟨rest, hcore, -⟩ := (opens_body_iff verb.last_words).1 h
  obtain ⟨c, hc, -⟩ := verb.last_words
  intro hnil
  rw [(List.append_eq_nil_iff.1 (hcore.symm.trans hnil)).1] at hc
  cases hc

theorem reads_of_core_eq {raw rest : Text} {verb : Verb}
    (hcore : Command.core raw = verb.words ++ rest)
    (hends : rest = [] ∨ ∃ c ∈ rest.head?, isBlank c) :
    ∃ tail, verb.rule.Reads raw rest tail (standard.parse raw) := by
  have hopens := (opens_body_iff verb.last_words).2 ⟨rest, hcore, hends⟩
  obtain ⟨after, tail, hafter, -, hreads⟩ := parse_of_opens (core_ne_nil_of_opens hopens) hopens
  obtain rfl := List.append_cancel_left (hcore.symm.trans hafter)
  exact ⟨tail, hreads⟩

theorem isMalformed_of_opens {raw : Text} {verb : Verb} {e : Refusal}
    (hcore : Command.core raw ≠ []) (h : Opens verb.words (Command.body raw))
    (he : standard.parse raw = .error e) : e.reason.isMalformed := by
  obtain ⟨rest, tail, -, -, hreads⟩ := parse_of_opens hcore h
  exact Verb.isMalformed_of_reads hreads he

theorem parse_eq_unknown_iff {raw : Text} (hcore : Command.core raw ≠ []) :
    standard.parse raw = .error ⟨raw, .unknown⟩ ↔
      ¬ ∃ verb : Verb, Opens verb.words (Command.body raw) := by
  refine ⟨?_, fun h => parse_of_find?_eq_none hcore (find?_standard_eq_none_iff.2 h)⟩
  rintro he ⟨verb, hopens⟩
  exact Bool.false_ne_true (isMalformed_of_opens hcore hopens he)

theorem parse_eq_empty_iff {raw : Text} :
    standard.parse raw = .error ⟨raw, .empty⟩ ↔ ∀ c ∈ raw, isNoise c := by
  rw [← Command.core_eq_nil_iff]
  refine ⟨fun he => by_contra fun hcore => ?_, parse_of_core_eq_nil⟩
  by_cases hopens : ∃ verb : Verb, Opens verb.words (Command.body raw)
  · obtain ⟨verb, hopens⟩ := hopens
    exact Bool.false_ne_true (isMalformed_of_opens hcore hopens he)
  · rw [(parse_eq_unknown_iff hcore).2 hopens] at he
    cases he

/-- The parser accepts the documented language: nothing but noise is an empty command, no verb's
phrase an unknown one, and a verb's phrase is read by its rule. -/
theorem parse_standard_decides (raw : Text) :
    (∀ folded, Folds raw folded ↔ folded = raw.foldNewlines) ∧
    let body := raw.foldNewlines.dropWhile isNoise
    let core := body.rdropWhile isNoise
    let result := standard.parse raw
    (result = .error ⟨raw, .empty⟩ ↔ ∀ c ∈ raw, isNoise c)
      ∧ ((∃ c ∈ raw, ¬ isNoise c) →
        (result = .error ⟨raw, .unknown⟩ ↔ ¬ ∃ verb : Verb, Opens verb.words body)
          ∧ ∀ verb : Verb, Opens verb.words body →
            (∀ other : Verb, Opens other.words body → other = verb)
              ∧ ∃ rest tail, core = verb.words ++ rest
                ∧ DropsFinalFeed body (verb.words ++ tail)
                ∧ verb.rule.Reads raw rest tail result) := by
  refine ⟨fun _ => folds_iff, ?_⟩
  rw [← Command.body_eq]
  refine ⟨parse_eq_empty_iff, fun hsome => ?_⟩
  have hcore : Command.core raw ≠ [] := by
    rw [Ne, Command.core_eq_nil_iff]
    simpa using hsome
  refine ⟨parse_eq_unknown_iff hcore, fun verb h =>
    ⟨fun other hother => Verb.eq_of_opens h hother, ?_⟩⟩
  obtain ⟨rest, tail, hrest, htail, hreads⟩ := parse_of_opens hcore h
  exact ⟨rest, tail, hrest, Command.dropsFinalFeed_iff.2 htail.symm, hreads⟩

/-- Blanks go from the ends of a path, and one line feed from the end of a payload. -/
example : standard.parse "add to the file \t a b \n this content: \r\n c \n\n".toList
    = .ok (.append "a b".toList "\n c \n".toList) := by
  cbv

end Grammar

end FileClerk
