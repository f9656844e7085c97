import FileClerk.Proofs.Ending
import FileClerk.Proofs.Octets

/-!
# What a report of a file tells

A file is shown by its text, or by words of their own when it is empty or its octets spell no text.
The words for octets that spell none stand in the heading, where no text can be mistaken for them.
Those for an empty file stand where its text would: a file that holds these very words is shown as
an empty one is, and that is the only way for the reports of two contents to be the same when one of
them spells a text (`message_eq_iff_of_runs`).
-/

namespace FileClerk

namespace Execution

open FileClerk.Action

variable {box : Sandbox} {raw : Text} {events : List Event} {message : Text}

theorem contentReport_encode (raw text : Text) :
    contentReport raw (Utf8.encode text) = "contents of ".toList ++ raw
      ++ (":\n".toList ++ if text = [] then emptyFile else text) := by
  have hnil : Utf8.encode text = [] ↔ text = [] := Utf8.encode_injective.eq_iff (b := [])
  unfold contentReport
  rw [Utf8.decode?_eq_some_iff.2 rfl]
  by_cases h : text = []
  · rw [if_pos (hnil.2 h), if_pos h, List.append_assoc]
  · rw [if_neg (mt hnil.1 h), if_neg h]
    exact List.append_assoc _ _ _

theorem contentReport_of_malformed (raw : Text) {content : Bytes}
    (h : ∀ text, content ≠ Utf8.encode text) :
    ∃ shown, contentReport raw content = "contents of ".toList ++ raw ++ (lossyNote ++ shown) := by
  have hdecode : Utf8.decode? content = none := by
    rw [Option.eq_none_iff_forall_ne_some]
    exact fun text htext => h text (Utf8.decode?_eq_some_iff.1 htext)
  have hnil : content ≠ [] := h []
  refine ⟨":\n".toList ++ Utf8.decodeLossy content, ?_⟩
  rw [contentReport, if_neg hnil, hdecode]
  simp only [List.append_assoc]

/-- One of the contents is empty and the other one holds the words that stand for it. -/
def Mistaken (b₁ b₂ : Bytes) : Prop :=
  b₁ = [] ∧ b₂ = Utf8.encode emptyFile ∨ b₁ = Utf8.encode emptyFile ∧ b₂ = []

theorem contentReport_eq_iff (text : Text) {content : Bytes} :
    contentReport raw (Utf8.encode text) = contentReport raw content
      ↔ Utf8.encode text = content ∨ Mistaken (Utf8.encode text) content := by
  have hempty : emptyFile ≠ [] := by decide
  by_cases hspelt : ∃ other, content = Utf8.encode other
  · obtain ⟨other, rfl⟩ := hspelt
    have hnil : ([] : Bytes) = Utf8.encode [] := rfl
    rw [contentReport_encode, contentReport_encode, List.append_cancel_left_eq,
      List.append_cancel_left_eq, Mistaken, hnil]
    simp only [Utf8.encode_injective.eq_iff]
    split_ifs with h₁ h₂ h₂
    · simp [h₁, h₂]
    · simp [h₁, h₂, eq_comm]
    · simp [h₁, h₂]
    · simp [h₁, h₂]
  · rw [not_exists] at hspelt
    obtain ⟨shown, hshown⟩ := contentReport_of_malformed raw hspelt
    have hnil : content ≠ [] := hspelt []
    rw [contentReport_encode, hshown, List.append_cancel_left_eq]
    have hcolon : ":\n".toList = [':', '\n'] := by decide
    have hnote : lossyNote = ' ' :: lossyNote.tail := by decide
    refine iff_of_false (fun h => ?_) ?_
    · rw [hcolon, hnote] at h
      exact absurd (List.cons.inj h).1 (by decide)
    · unfold Mistaken
      rintro (h | ⟨-, h⟩ | ⟨-, h⟩)
      · exact hspelt text h.symm
      · exact hspelt emptyFile h
      · exact hnil h

/-- What is read is what is reported. -/
theorem message_of_runs_read {path : Text} {content : Bytes}
    (run : Runs ((Operation.read raw).execute box) events (.ok (.success message)))
    (hread : .called (.read path) (.ok content) ∈ events) :
    message = contentReport raw content := by
  obtain ⟨place, -, run⟩ := runs_resolving_success run
  obtain ⟨there, rest, rfl, hrest⟩ := runs_attempting_success run
  cases there with
  | false =>
    obtain ⟨-, h⟩ := runs_done_iff.1 hrest
    cases h
  | true =>
    obtain ⟨told, last, rfl, hlast⟩ := runs_attempting_success hrest
    obtain ⟨rfl, h⟩ := runs_done_iff.1 hlast
    obtain rfl := Outcome.success.inj (Except.ok.inj h)
    obtain ⟨-, rfl⟩ : path = _ ∧ content = told := by simpa using hread
    rfl

/-- Two reports under one name, where one content spells a text, are the same only of the same
content, or of an empty file and one that holds the words for it. -/
theorem message_eq_iff_of_runs {box₁ box₂ : Sandbox} {events₁ events₂ : List Event}
    {message₁ message₂ path₁ path₂ : Text} {b₁ b₂ : Bytes}
    (run₁ : Runs ((Operation.read raw).execute box₁) events₁ (.ok (.success message₁)))
    (run₂ : Runs ((Operation.read raw).execute box₂) events₂ (.ok (.success message₂)))
    (hread₁ : .called (.read path₁) (.ok b₁) ∈ events₁)
    (hread₂ : .called (.read path₂) (.ok b₂) ∈ events₂) (hspelt : ∃ text, b₁ = Utf8.encode text) :
    message₁ = message₂ ↔ b₁ = b₂ ∨ Mistaken b₁ b₂ := by
  obtain ⟨text, rfl⟩ := hspelt
  rw [message_of_runs_read run₁ hread₁, message_of_runs_read run₂ hread₂, contentReport_eq_iff]

/-- The calls by which the file `a` is read. -/
def reading (content : Bytes) : List Event :=
  [.called (.isPresent "/work/a".toList) (.ok true),
    .called (.read "/work/a".toList) (.ok content)]

theorem runs_reading (content : Bytes) :
    Runs ((Operation.read "a".toList).execute ⟨⟨["work".toList]⟩⟩) (reading content)
      (.ok (.success (contentReport "a".toList content))) := by
  refine @Runs.ask _ (.isPresent "/work/a".toList) _ (.ok true) _ _ ?_
  refine @Runs.ask _ (.read "/work/a".toList) _ (.ok content) _ _ ?_
  exact .done _

theorem read_mem_reading (content : Bytes) :
    .called (.read "/work/a".toList) (.ok content) ∈ reading content :=
  List.mem_cons_of_mem _ List.mem_cons_self

/-- A file that holds an octet of no text is not shown as one that holds what is shown for it. -/
theorem message_eq_iff_of_runs_replacement :
    let shown := Utf8.encode [Utf8.replacement]
    ∃ message₁ message₂,
      Runs ((Operation.read "a".toList).execute ⟨⟨["work".toList]⟩⟩) (reading shown)
          (.ok (.success message₁))
        ∧ Runs ((Operation.read "a".toList).execute ⟨⟨["work".toList]⟩⟩) (reading [0xFF])
          (.ok (.success message₂))
        ∧ .called (.read "/work/a".toList) (.ok shown) ∈ reading shown
        ∧ .called (.read "/work/a".toList) (.ok [0xFF]) ∈ reading [0xFF]
        ∧ (∃ text, shown = Utf8.encode text) ∧ message₁ ≠ message₂ := by
  intro shown
  have hspelt : ∃ text, shown = Utf8.encode text := ⟨_, rfl⟩
  refine ⟨_, _, runs_reading shown, runs_reading [0xFF], read_mem_reading _, read_mem_reading _,
    hspelt, fun h => ?_⟩
  have hsame := (message_eq_iff_of_runs (runs_reading shown) (runs_reading [0xFF])
    (read_mem_reading _) (read_mem_reading _) hspelt).1 h
  unfold Mistaken at hsame
  exact absurd hsame (by decide)

/-- A file that holds the words for an empty file is shown as an empty file is. -/
theorem same_message_of_placeholder :
    ∃ events₁ events₂ message b₁ b₂,
      Runs ((Operation.read "a".toList).execute ⟨⟨["work".toList]⟩⟩) events₁
          (.ok (.success message))
        ∧ Runs ((Operation.read "a".toList).execute ⟨⟨["work".toList]⟩⟩) events₂
          (.ok (.success message))
        ∧ .called (.read "/work/a".toList) (.ok b₁) ∈ events₁
        ∧ .called (.read "/work/a".toList) (.ok b₂) ∈ events₂
        ∧ (∃ text, b₁ = Utf8.encode text) ∧ (∃ text, b₂ = Utf8.encode text)
        ∧ b₁ = [] ∧ b₂ ≠ [] := by
  have hsame : contentReport "a".toList [] = contentReport "a".toList (Utf8.encode emptyFile) :=
    (contentReport_eq_iff []).2 (.inr (.inl ⟨rfl, rfl⟩))
  refine ⟨_, _, _, [], Utf8.encode emptyFile, runs_reading [], ?_, read_mem_reading _,
    read_mem_reading _, ⟨[], rfl⟩, ⟨_, rfl⟩, rfl, by decide⟩
  rw [hsame]
  exact runs_reading _

end Execution

end FileClerk
