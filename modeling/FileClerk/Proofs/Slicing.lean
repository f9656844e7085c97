import FileClerk.Action
import FileClerk.Proofs.Language

/-!
# Cutting a phrase off

A phrase is looked up in the core of a command, but a payload is read from a longer text, the body
up to one final line feed, and there the phrase is cut off by its size in octets. Such a cut can go
wrong: a text may be too short for it, or have a character where it falls (`parseByOctets`). Here it
never does. The longer text begins with the core, and so with the phrase; behind the phrase it goes
on with the rest of the core and then with noise alone (`tail_of_find?_eq_some`). A separator that
cuts the rest of the core cuts the longer text at the same place (`FirstCut.append`), so a payload's
command has the path it would have if it were trimmed, and a payload with the noise kept.
-/

namespace FileClerk

open Text

namespace Text

theorem splitAtOctet?_append (t : Text) : ∀ s : Text, splitAtOctet? (s ++ t) s.octets = some (s, t)
  | [] => by simp [octets, splitAtOctet?]
  | c :: s => by
    have hpos := c.utf8Size_pos
    obtain ⟨n, hn⟩ : ∃ n, octets (c :: s) = n + 1 :=
      Nat.exists_eq_add_one.2 (by rw [octets_cons]; omega)
    have hrest : n + 1 - c.utf8Size = octets s := by
      rw [← hn, octets_cons]
      omega
    have hfits : c.utf8Size ≤ n + 1 := by
      rw [← hn, octets_cons]
      omega
    rw [hn, List.cons_append, splitAtOctet?, if_pos hfits, hrest, splitAtOctet?_append t s]
    rfl

/-- A cut stays where it is when the text goes on. -/
theorem FirstCut.append {sep s left right : Text} (h : FirstCut sep s left right) (t : Text) :
    FirstCut sep (s ++ t) left (right ++ t) := by
  refine ⟨by rw [h.1, List.append_assoc _ right], fun l r hl => Nat.le_of_not_lt fun hlt => ?_⟩
  -- A separator further to the front would end within the shorter text already.
  have hlength : (l ++ sep).length ≤ s.length := by
    rw [h.1]
    simp only [List.length_append]
    omega
  obtain ⟨r', hr'⟩ := List.prefix_of_prefix_length_le ⟨r, hl.symm⟩ (List.prefix_append s t) hlength
  exact absurd (h.2 l r' hr'.symm) (Nat.not_le_of_lt hlt)

end Text

namespace Grammar

/-- Reads a command as `parse` does, except that a phrase is cut off by its octets, which is a crash
where no character ends after so many. -/
def parseByOctets (grammar : Grammar) (raw : Text) : Except Crash (Except Refusal Operation) :=
  let core := Command.core raw
  if core = [] then .ok (.error ⟨raw, .empty⟩)
  else
    match grammar.find? core with
    | none => .ok (.error ⟨raw, .unknown⟩)
    | some (phrase, rest) =>
      if phrase.rule.keepsTail then
        match (Command.dropFinalNewline (Command.body raw)).splitAtOctet? phrase.words.octets with
        | some (_, tail) => .ok (phrase.rule.apply tail raw)
        | none => .error .cutCharacter
      else .ok (phrase.rule.apply rest raw)

theorem parseByOctets_eq (grammar : Grammar) (raw : Text) :
    grammar.parseByOctets raw = .ok (grammar.parse raw) := by
  unfold parseByOctets parse
  simp only []
  split_ifs with hcore
  · rfl
  rcases hfind : grammar.find? (Command.core raw) with _ | ⟨phrase, rest⟩
  · rfl
  obtain ⟨noise, -, htail⟩ := tail_of_find?_eq_some hfind
  simp only [htail, splitAtOctet?_append, List.drop_left]
  split_ifs <;> rfl

/-- The text that a payload is read from begins with the core. The phrase found in the core is cut
off it inside the text and between two characters, which leaves the rest of the core and then noise:
the same arguments as in the core, and the payload with what was trimmed behind it. So no text
crashes the parser. -/
theorem parse_slices (grammar : Grammar) (raw : Text) :
    let core := Command.core raw
    let tail := Command.dropFinalNewline (Command.body raw)
    core <+: tail
      ∧ (∀ phrase rest, grammar.find? core = some (phrase, rest) →
        phrase.words <+: tail
          ∧ ∃ noise, (∀ c ∈ noise, isNoise c)
            ∧ tail.splitAtOctet? phrase.words.octets = some (phrase.words, rest ++ noise)
            ∧ ∀ sep left right, rest.splitOnce? sep = some (left, right) →
              (rest ++ noise).splitOnce? sep = some (left, right ++ noise))
      ∧ grammar.parseByOctets raw = .ok (grammar.parse raw) := by
  refine ⟨?_, fun phrase rest hfind => ?_, parseByOctets_eq grammar raw⟩
  · obtain ⟨noise, htail, -⟩ := Command.tail_append_noise raw
    exact ⟨noise, htail.symm⟩
  · obtain ⟨noise, hnoise, htail⟩ := tail_of_find?_eq_some hfind
    refine ⟨⟨rest ++ noise, htail.symm⟩, noise, hnoise, ?_, fun sep left right hcut => ?_⟩
    · rw [htail, splitAtOctet?_append]
    · exact splitOnce?_eq_some_iff.2 ((firstCut_of_splitOnce? hcut).append noise)

/-- The phrase has six characters and seven octets, and the payload keeps a blank that is trimmed
off the core. -/
theorem parse_slices_accented :
    let phrase : Phrase := ⟨"ajouté".toList, [], .pathAndPayload [':'] .malformedAppend .append⟩
    let grammar : Grammar := ⟨[phrase]⟩
    let raw : Text := "\ufeffajouté a:é\u00a0\r\n".toList
    let tail := Command.dropFinalNewline (Command.body raw)
    grammar.find? (Command.core raw) = some (phrase, " a:é".toList)
      ∧ phrase.words <+: tail
      ∧ (∃ noise, (∀ c ∈ noise, isNoise c)
        ∧ tail.splitAtOctet? phrase.words.octets = some (phrase.words, " a:é".toList ++ noise)
        ∧ ∀ sep left right, Text.splitOnce? " a:é".toList sep = some (left, right) →
          Text.splitOnce? (" a:é".toList ++ noise) sep = some (left, right ++ noise))
      ∧ grammar.parseByOctets raw = .ok (grammar.parse raw) := by
  intro phrase grammar raw tail
  have hfind : grammar.find? (Command.core raw) = some (phrase, " a:é".toList) := rfl
  obtain ⟨-, hslice, hparse⟩ := parse_slices grammar raw
  obtain ⟨hbegins, hrest⟩ := hslice phrase " a:é".toList hfind
  exact ⟨hfind, hbegins, hrest, hparse⟩

end Grammar

end FileClerk
