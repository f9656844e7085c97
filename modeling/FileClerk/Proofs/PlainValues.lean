import FileClerk.Proofs.Rendering
import FileClerk.Settings.Variable

/-!
# Values without a mark in front

A value that no quote, bracket or brace begins is a truth value or a number if all of it is one, and
the text it is otherwise (`ofVariable_of_unmarked`): a comma, a bracket or a brace behind a word
leaves the whole a text. So such a value is kept as it is written exactly if it is no truth value
and no number (`ofVariable_eq_text_iff`).
-/

namespace FileClerk

namespace Settings

/-- The characters that begin a value with more than one word in it. -/
def beginsMore (c : Char) : Bool := c == '"' || c == '\'' || c == '[' || c == '\x7b'

/-- A whole number, or a number with a point in it. -/
def IsNumber (s : Text) : Prop :=
  (Numeral.unsigned64? s).isSome ∨ (Numeral.signed64? s).isSome
    ∨ '.' ∈ s ∧ (Numeral.binary64? s).isSome

section Gaps

variable {s front rest : Text}

theorem isBlank_of_isGap {c : Char} (h : isGap c) : isBlank c := by
  simp only [isGap, Bool.or_eq_true, beq_iff_eq] at h
  rcases h with (((rfl | rfl) | rfl) | rfl) | rfl <;> rfl

theorem skipGap_of_trim (h : s.trim = s) : skipGap s = s :=
  Text.dropWhile_eq_self fun c hc hgap =>
    (Text.trim_eq_self_iff.1 h).1 c hc (isBlank_of_isGap hgap)

/-- The end of a text without white space around it is no white space. -/
theorem skipGap_ne_nil (h : (front ++ rest).trim = front ++ rest) (hrest : rest ≠ []) :
    skipGap rest ≠ [] := by
  intro hskip
  rw [skipGap, List.dropWhile_eq_nil_iff] at hskip
  refine (Text.trim_eq_self_iff.1 h).2 (rest.getLast hrest) ?_
    (isBlank_of_isGap (hskip _ (List.getLast_mem hrest)))
  rw [List.getLast?_append, List.getLast?_eq_some_getLast hrest]
  rfl

end Gaps

section Words

variable {v : Text}

/-- What begins with another letter than the numbers that have names is no number. -/
theorem ofWord_cons {c : Char} (hc : c = 't' ∨ c = 'f') (s : Text) :
    ofWord (c :: s) = .text (c :: s) := by
  have hsign : Numeral.sign (c :: s) = (none, c :: s) := by
    rcases hc with rfl | rfl <;> rfl
  have hdigit : Numeral.isDigitIn 10 c = false := by
    rcases hc with rfl | rfl <;> rfl
  have hnat : Numeral.nat? (c :: s) = none := by
    simp [Numeral.nat?, hdigit]
  have hnamed : Numeral.named? false (c :: s) = none := by
    rcases hc with rfl | rfl <;> simp [Numeral.named?]
  have hdecimal : Numeral.decimal? false (c :: s) = none := by
    rcases hc with rfl | rfl <;> simp [Numeral.decimal?, Numeral.exponent?, hdigit]
  simp [ofWord, Numeral.unsigned64?, Numeral.signed64?, Numeral.binary64?, hsign, hnat, hnamed,
    hdecimal]

theorem ofWord_eq_text_iff : ofWord v = .text v ↔ ¬ IsNumber v := by
  simp only [ofWord, IsNumber, List.contains_iff_mem]
  cases Numeral.unsigned64? v <;> cases Numeral.signed64? v <;> cases Numeral.binary64? v <;>
    by_cases hpoint : '.' ∈ v <;> simp [hpoint]

/-- A value counts if nothing is left behind it. -/
theorem ofVariable_of_value {d : Datum} {rest : Text}
    (h : valueUpTo (v.length + 1) v = .ok (d, rest)) :
    ofVariable v = .ok (if rest = [] then d else .text v) := by
  rw [ofVariable, h]
  cases rest <;> rfl

theorem valueUpTo_of_unmarked (depth : Nat) (htrim : v.trim = v)
    (hhead : ∀ c ∈ v.head?, ¬ beginsMore c) (htrue : ¬ "true".toList <+: v)
    (hfalse : ¬ "false".toList <+: v) :
    valueUpTo (depth + 1) v = .ok (ofWord (Text.trim (v.takeWhile fun c => !endsWord c)),
      skipGap (v.dropWhile fun c => !endsWord c)) := by
  have hdrop := @List.drop_left _ (v.takeWhile fun c => !endsWord c)
    (v.dropWhile fun c => !endsWord c)
  rw [List.takeWhile_append_dropWhile] at hdrop
  unfold valueUpTo
  rw [skipGap_of_trim htrim, ← hdrop]
  split
  · exact absurd (List.prefix_append "true".toList _) htrue
  · exact absurd (List.prefix_append "false".toList _) hfalse
  · exact absurd rfl (hhead _ rfl)
  · exact absurd rfl (hhead _ rfl)
  · exact absurd rfl (hhead _ rfl)
  · exact absurd rfl (hhead _ rfl)
  · rfl

/-- What stands for a truth value is the word alone. -/
theorem ofVariable_of_word {word rest : Text} {b : Bool}
    (hword : word = "true".toList ∧ b = true ∨ word = "false".toList ∧ b = false)
    (htrim : (word ++ rest).trim = word ++ rest) :
    ofVariable (word ++ rest) = .ok (if rest = [] then .bool b else .text (word ++ rest)) := by
  have hvalue : ∀ depth,
      valueUpTo (depth + 1) (word ++ rest) = .ok (.bool b, skipGap rest) := by
    intro depth
    unfold valueUpTo
    rw [skipGap_of_trim htrim]
    obtain ⟨rfl, rfl⟩ | ⟨rfl, rfl⟩ := hword <;> rfl
  rw [ofVariable_of_value (hvalue _)]
  by_cases hrest : rest = []
  · rw [hrest]
    rfl
  · rw [if_neg hrest, if_neg (skipGap_ne_nil htrim hrest)]

theorem ofVariable_of_unmarked (htrim : v.trim = v) (hhead : ∀ c ∈ v.head?, ¬ beginsMore c) :
    ofVariable v = .ok (if v = "true".toList then .bool true
      else if v = "false".toList then .bool false
      else if v.any endsWord then .text v else ofWord v) := by
  by_cases htrue : "true".toList <+: v
  · obtain ⟨rest, rfl⟩ := htrue
    have hword : ofWord ("true".toList ++ rest) = .text ("true".toList ++ rest) :=
      ofWord_cons (.inl rfl) _
    rw [ofVariable_of_word (.inl ⟨rfl, rfl⟩) htrim, hword]
    by_cases hrest : rest = [] <;> simp [hrest]
  by_cases hfalse : "false".toList <+: v
  · obtain ⟨rest, rfl⟩ := hfalse
    have hword : ofWord ("false".toList ++ rest) = .text ("false".toList ++ rest) :=
      ofWord_cons (.inr rfl) _
    rw [ofVariable_of_word (.inr ⟨rfl, rfl⟩) htrim, hword]
    by_cases hrest : rest = [] <;> simp [hrest]
  have hnotTrue : v ≠ "true".toList := by
    rintro rfl
    exact htrue List.prefix_rfl
  have hnotFalse : v ≠ "false".toList := by
    rintro rfl
    exact hfalse List.prefix_rfl
  rw [ofVariable_of_value (valueUpTo_of_unmarked _ htrim hhead htrue hfalse), if_neg hnotTrue,
    if_neg hnotFalse]
  by_cases hends : v.any endsWord
  · -- the word ends where nothing is skipped, so something is left
    have hrest : v.dropWhile (fun c => !endsWord c) ≠ [] := by
      simpa [List.dropWhile_eq_nil_iff] using hends
    have hleft : skipGap (v.dropWhile fun c => !endsWord c) ≠ [] := by
      refine @skipGap_ne_nil (v.takeWhile fun c => !endsWord c) _ ?_ hrest
      rwa [List.takeWhile_append_dropWhile]
    rw [if_neg hleft, if_pos hends]
  · have hword : v.takeWhile (fun c => !endsWord c) = v := by
      rw [List.takeWhile_eq_self_iff]
      simpa using hends
    have hrest : v.dropWhile (fun c => !endsWord c) = [] := by
      rw [List.dropWhile_eq_nil_iff]
      simpa using hends
    rw [hword, hrest, htrim, if_neg hends]
    rfl

/-- Which values are kept as they are written. -/
theorem ofVariable_eq_text_iff (htrim : v.trim = v) (hhead : ∀ c ∈ v.head?, ¬ beginsMore c) :
    ofVariable v = .ok (.text v) ↔
      v ≠ "true".toList ∧ v ≠ "false".toList ∧ ((∃ c ∈ v, endsWord c) ∨ ¬ IsNumber v) := by
  rw [ofVariable_of_unmarked htrim hhead, Except.ok.injEq, ← List.any_eq_true, ← ofWord_eq_text_iff]
  split_ifs with htrue hfalse hends
  · simp [htrue]
  · simp [hfalse]
  · exact iff_of_true rfl ⟨htrue, hfalse, .inl hends⟩
  · exact ⟨fun h => ⟨htrue, hfalse, .inr h⟩, fun h => h.2.2.resolve_left hends⟩

end Words

end Settings

end FileClerk
