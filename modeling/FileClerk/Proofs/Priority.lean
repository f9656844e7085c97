import FileClerk.Proofs.Language

/-!
# Which phrase is taken

A grammar takes the longest of the phrases that an input starts with, and of several with the same
words the one that was given first (`find?_ofPhrases_eq_some_iff`). It looks for the first match
among phrases sorted by length, and that is enough because two phrases that begin one input and are
equally long have the same words (`Text.eq_of_prefix_of_octets_eq`), and phrases with the same words
keep their order when sorted (`filter_words_ofPhrases`).

So the order in which phrases are given matters between phrases with the same words only, and a
phrase that does not match an input does not matter to it at all.
-/

namespace FileClerk

namespace Text

theorem octets_append (s t : Text) : octets (s ++ t) = octets s + octets t := by
  induction s with
  | nil => simp [octets]
  | cons c s ih =>
    rw [List.cons_append, octets_cons, octets_cons, ih]
    omega

theorem eq_nil_of_octets_eq_zero {s : Text} (h : octets s = 0) : s = [] := by
  cases s with
  | nil => rfl
  | cons c s =>
    have hpos := c.utf8Size_pos
    rw [octets_cons] at h
    omega

/-- Two beginnings of one text that are equally long are the same. -/
theorem eq_of_prefix_of_octets_eq {s t text : Text} (hs : s <+: text) (ht : t <+: text)
    (h : octets s = octets t) : s = t := by
  have hone : ∀ {a b : Text}, a <+: b → octets a = octets b → a = b := by
    rintro a _ ⟨rest, rfl⟩ heq
    rw [octets_append] at heq
    have hrest := eq_nil_of_octets_eq_zero (show octets rest = 0 by omega)
    simp [hrest]
  rcases List.prefix_or_prefix_of_prefix hs ht with hpre | hpre
  · exact hone hpre h
  · exact (hone hpre h.symm).symm

end Text

namespace Phrase

/-- The input starts with the phrase, and then it ends or goes on with a blank. -/
def Accepts (phrase : Phrase) (input rest : Text) : Prop :=
  input = phrase.words ++ rest ∧ (rest = [] ∨ ∃ c ∈ rest.head?, isBlank c)

variable {phrase other : Phrase} {input rest after : Text}

theorem accepts_iff : phrase.strip? input = some rest ↔ phrase.Accepts input rest :=
  strip?_eq_some_iff

theorem strip?_eq_none_iff : phrase.strip? input = none ↔ ∀ rest, ¬ phrase.Accepts input rest := by
  rw [Option.eq_none_iff_forall_ne_some]
  exact forall_congr' fun rest => not_congr accepts_iff

theorem Accepts.isPrefix (h : phrase.Accepts input rest) : phrase.words <+: input :=
  ⟨rest, h.1.symm⟩

theorem Accepts.rest_eq (h : phrase.Accepts input rest) (h' : other.Accepts input after)
    (hwords : other.words = phrase.words) : after = rest := by
  have heq := h.1.symm.trans h'.1
  rw [hwords] at heq
  exact (List.append_cancel_left heq).symm

theorem Accepts.of_words_eq (h : phrase.Accepts input rest) (hwords : other.words = phrase.words) :
    other.Accepts input rest := by
  rw [Accepts, hwords]
  exact h

end Phrase

namespace Grammar

variable {phrases others : List Phrase} {phrase other : Phrase} {input rest after : Text}

theorem find?_eq_some_iff {grammar : Grammar} :
    grammar.find? input = some (phrase, rest) ↔ ∃ before after,
      grammar.phrases = before ++ phrase :: after ∧ phrase.strip? input = some rest
        ∧ ∀ other ∈ before, other.strip? input = none := by
  rw [find?, List.findSome?_eq_some_iff]
  constructor
  · rintro ⟨before, found, after, hphrases, hfound, hbefore⟩
    obtain ⟨s, hstrip, hpair⟩ := Option.map_eq_some_iff.1 hfound
    rw [Prod.mk.injEq] at hpair
    obtain ⟨rfl, rfl⟩ := hpair
    exact ⟨before, after, hphrases, hstrip, fun other h =>
      Option.map_eq_none_iff.1 (hbefore other h)⟩
  · rintro ⟨before, after, hphrases, hstrip, hbefore⟩
    refine ⟨before, phrase, after, hphrases, by simp [hstrip], fun other h => ?_⟩
    simp [hbefore other h]

theorem mem_ofPhrases : phrase ∈ (ofPhrases phrases).phrases ↔ phrase ∈ phrases :=
  List.mem_mergeSort

theorem trans_longest (a b c : Phrase) (hab : decide (b.words.octets ≤ a.words.octets))
    (hbc : decide (c.words.octets ≤ b.words.octets)) :
    decide (c.words.octets ≤ a.words.octets) := by
  simp only [decide_eq_true_eq] at *
  omega

theorem total_longest (a b : Phrase) : decide (b.words.octets ≤ a.words.octets)
    || decide (a.words.octets ≤ b.words.octets) := by
  simp only [Bool.or_eq_true, decide_eq_true_eq]
  omega

theorem pairwise_ofPhrases (phrases : List Phrase) :
    (ofPhrases phrases).phrases.Pairwise fun a b => b.words.octets ≤ a.words.octets :=
  (List.pairwise_mergeSort trans_longest total_longest phrases).imp of_decide_eq_true

/-- Sorting keeps phrases with the same words in their order. -/
theorem filter_words_ofPhrases (phrases : List Phrase) (words : Text) :
    (ofPhrases phrases).phrases.filter (·.words = words) = phrases.filter (·.words = words) := by
  -- Such phrases are equally long, so a stable sort leaves them as they are.
  have hequal : (phrases.filter (·.words = words)).Pairwise
      fun a b => decide (b.words.octets ≤ a.words.octets) := by
    refine List.pairwise_of_forall_mem_list fun a ha b hb => ?_
    simp only [List.mem_filter, decide_eq_true_eq] at ha hb ⊢
    rw [ha.2, hb.2]
  have hkept := List.sublist_mergeSort trans_longest total_longest hequal List.filter_sublist
  have hsub : (phrases.filter (·.words = words)).Sublist
      ((ofPhrases phrases).phrases.filter (·.words = words)) := by
    simpa [ofPhrases] using hkept.filter (·.words = words)
  have hlength : ((ofPhrases phrases).phrases.filter (·.words = words)).length
      = (phrases.filter (·.words = words)).length :=
    ((List.mergeSort_perm phrases _).filter _).length_eq
  exact (hsub.eq_of_length hlength.symm).symm

theorem find?_eq_head?_filter (phrases : List Phrase) (words : Text) :
    phrases.find? (·.words = words) = (phrases.filter (·.words = words)).head? :=
  (List.head?_filter ..).symm

/-- The phrase is the longest that accepts the input, and the earliest with its words. -/
structure Takes (phrases : List Phrase) (input : Text) (phrase : Phrase) (rest : Text) : Prop where
  accepts : phrase.Accepts input rest
  longest : ∀ other ∈ phrases, ∀ after, other.Accepts input after →
    other.words.octets ≤ phrase.words.octets
  earliest : phrases.find? (·.words = phrase.words) = some phrase

theorem Takes.unique (h : Takes phrases input phrase rest) (h' : Takes phrases input other after) :
    phrase = other ∧ rest = after := by
  have hoctets : phrase.words.octets = other.words.octets :=
    Nat.le_antisymm (h'.longest phrase (List.mem_of_find?_eq_some h.earliest) rest h.accepts)
      (h.longest other (List.mem_of_find?_eq_some h'.earliest) after h'.accepts)
  have hwords := Text.eq_of_prefix_of_octets_eq h.accepts.isPrefix h'.accepts.isPrefix hoctets
  have hearliest := h.earliest
  rw [hwords, h'.earliest, Option.some.injEq] at hearliest
  exact ⟨hearliest.symm, h'.accepts.rest_eq h.accepts hwords⟩

theorem takes_of_find? (h : (ofPhrases phrases).find? input = some (phrase, rest)) :
    Takes phrases input phrase rest := by
  obtain ⟨before, after, hphrases, hstrip, hbefore⟩ := find?_eq_some_iff.1 h
  have haccepts := Phrase.accepts_iff.1 hstrip
  have hpassed : ∀ other ∈ before, ∀ s, ¬ other.Accepts input s := fun other hother =>
    Phrase.strip?_eq_none_iff.1 (hbefore other hother)
  refine ⟨haccepts, fun other hother s hs => ?_, ?_⟩
  · have hsorted := pairwise_ofPhrases phrases
    rw [hphrases, List.pairwise_append, List.pairwise_cons] at hsorted
    rw [← mem_ofPhrases, hphrases, List.mem_append, List.mem_cons] at hother
    rcases hother with hother | rfl | hother
    · exact absurd hs (hpassed other hother s)
    · exact le_rfl
    · exact hsorted.2.1.1 other hother
  · rw [find?_eq_head?_filter, ← filter_words_ofPhrases, ← find?_eq_head?_filter,
      List.find?_eq_some_iff_append]
    refine ⟨by simp, before, after, hphrases, fun other hother => ?_⟩
    have hwords : other.words ≠ phrase.words := fun hwords =>
      hpassed other hother rest (haccepts.of_words_eq hwords)
    simpa using hwords

theorem find?_ofPhrases_eq_none_iff :
    (ofPhrases phrases).find? input = none ↔
      ∀ phrase ∈ phrases, ∀ rest, ¬ phrase.Accepts input rest := by
  rw [find?_eq_none_iff]
  constructor
  · intro h phrase hphrase
    exact Phrase.strip?_eq_none_iff.1 (h phrase (mem_ofPhrases.2 hphrase))
  · intro h phrase hphrase
    exact Phrase.strip?_eq_none_iff.2 (h phrase (mem_ofPhrases.1 hphrase))

theorem find?_ofPhrases_eq_some_iff :
    (ofPhrases phrases).find? input = some (phrase, rest) ↔ Takes phrases input phrase rest := by
  refine ⟨takes_of_find?, fun h => ?_⟩
  rcases hfind : (ofPhrases phrases).find? input with _ | ⟨found, after⟩
  · have hmem := List.mem_of_find?_eq_some h.earliest
    exact absurd h.accepts (find?_ofPhrases_eq_none_iff.1 hfind phrase hmem rest)
  · obtain ⟨rfl, rfl⟩ := h.unique (takes_of_find? hfind)
    rfl

theorem find?_ofPhrases_congr
    (h : ∀ phrase rest, Takes phrases input phrase rest ↔ Takes others input phrase rest) :
    (ofPhrases phrases).find? input = (ofPhrases others).find? input := by
  refine Option.ext fun found => ?_
  rw [find?_ofPhrases_eq_some_iff, find?_ofPhrases_eq_some_iff]
  exact h found.1 found.2

/-- The same phrases, in an order that agrees on those with the same words. -/
def Reordered (phrases others : List Phrase) : Prop :=
  ∀ words, phrases.filter (·.words = words) = others.filter (·.words = words)

theorem Reordered.mem_iff (h : Reordered phrases others) : phrase ∈ phrases ↔ phrase ∈ others := by
  have hmem : ∀ l : List Phrase, phrase ∈ l ↔ phrase ∈ l.filter (·.words = phrase.words) := by
    simp
  rw [hmem phrases, hmem others, h phrase.words]

theorem Reordered.takes_iff (h : Reordered phrases others) :
    Takes phrases input phrase rest ↔ Takes others input phrase rest := by
  have hfind : phrases.find? (·.words = phrase.words) = others.find? (·.words = phrase.words) := by
    rw [find?_eq_head?_filter, find?_eq_head?_filter, h phrase.words]
  constructor
  · rintro ⟨haccepts, hlongest, hearliest⟩
    exact ⟨haccepts, fun other hother => hlongest other (h.mem_iff.2 hother),
      hfind.symm.trans hearliest⟩
  · rintro ⟨haccepts, hlongest, hearliest⟩
    exact ⟨haccepts, fun other hother => hlongest other (h.mem_iff.1 hother),
      hfind.trans hearliest⟩

/-- A phrase that does not accept the input may be given anywhere. -/
theorem takes_insert_iff {before after : List Phrase} {added : Phrase}
    (h : ∀ s, ¬ added.Accepts input s) :
    Takes (before ++ added :: after) input phrase rest ↔
      Takes (before ++ after) input phrase rest := by
  have hfind : phrase.Accepts input rest →
      (before ++ added :: after).find? (·.words = phrase.words)
        = (before ++ after).find? (·.words = phrase.words) := by
    intro haccepts
    have hwords : added.words ≠ phrase.words := fun hwords =>
      h rest (haccepts.of_words_eq hwords)
    simp [List.find?_append, hwords]
  constructor
  · rintro ⟨haccepts, hlongest, hearliest⟩
    refine ⟨haccepts, fun other hother => hlongest other ?_, (hfind haccepts).symm.trans hearliest⟩
    rw [List.mem_append] at hother ⊢
    exact hother.imp_right (List.mem_cons_of_mem _)
  · rintro ⟨haccepts, hlongest, hearliest⟩
    refine ⟨haccepts, fun other hother s hs => ?_, (hfind haccepts).trans hearliest⟩
    rw [List.mem_append, List.mem_cons] at hother
    rcases hother with hother | rfl | hother
    · exact hlongest other (List.mem_append_left _ hother) s hs
    · exact absurd hs (h s)
    · exact hlongest other (List.mem_append_right _ hother) s hs

theorem parse_congr {grammar grammar' : Grammar} {raw : Text}
    (h : grammar.find? (Command.core raw) = grammar'.find? (Command.core raw)) :
    grammar.parse raw = grammar'.parse raw := by
  rw [parse, parse, h]

/-- A grammar finds the longest phrase that accepts an input, the earliest of those with its words,
and none only if there is none. How the phrases are ordered is the same to it, as long as those
with the same words keep their order, and so is any phrase that does not accept the input. -/
theorem find?_ofPhrases_decides (phrases : List Phrase) (input : Text) :
    (∀ (phrase : Phrase) (rest : Text),
        phrase.strip? input = some rest ↔ phrase.Accepts input rest)
      ∧ ((ofPhrases phrases).find? input = none ↔
        ∀ phrase ∈ phrases, ∀ rest, ¬ phrase.Accepts input rest)
      ∧ (∀ phrase rest, (ofPhrases phrases).find? input = some (phrase, rest) ↔
        Takes phrases input phrase rest)
      ∧ (∀ others, Reordered phrases others →
        (ofPhrases others).find? input = (ofPhrases phrases).find? input
          ∧ (ofPhrases others).parse input = (ofPhrases phrases).parse input)
      ∧ ∀ (before : List Phrase) (added : Phrase) (after : List Phrase),
        phrases = before ++ after → added.strip? input = none →
        (ofPhrases (before ++ added :: after)).find? input = (ofPhrases phrases).find? input := by
  refine ⟨fun _ _ => Phrase.accepts_iff, find?_ofPhrases_eq_none_iff,
    fun _ _ => find?_ofPhrases_eq_some_iff, fun others h => ?_, fun before added after heq h => ?_⟩
  · have hfind : ∀ s, (ofPhrases others).find? s = (ofPhrases phrases).find? s := fun s =>
      find?_ofPhrases_congr fun _ _ => h.takes_iff.symm
    exact ⟨hfind input, parse_congr (hfind _)⟩
  · subst heq
    exact find?_ofPhrases_congr fun _ _ => takes_insert_iff (Phrase.strip?_eq_none_iff.1 h)

end Grammar

end FileClerk
