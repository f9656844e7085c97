import FileClerk.Proofs.Ending
import FileClerk.Proofs.Numerals

/-!
# What a listing tells

A listing gives the number of the entries before it gives the entries, so listings of different
lengths differ whatever the entries are called. Each entry then begins a line with its tag; names
that stay on their line cannot be taken for other lines, and the entries can be read off
(`entries_of_runs_list`).
-/

namespace FileClerk

namespace Execution

open FileClerk.Action

variable {box : Sandbox} {raw : Text}

/-- An entry as its line shows it. -/
def shown (entry : DirectoryEntry) : Text :=
  (match entry.kind with
    | .file => "[FILE] ".toList
    | .directory => "[DIR] ".toList) ++ entry.name

theorem entryLine_eq (entry : DirectoryEntry) : entryLine entry = '\n' :: shown entry := rfl

theorem shown_injective : Function.Injective shown := by
  rintro ⟨name, kind⟩ ⟨name', kind'⟩ h
  have hfile : "[FILE] ".toList = ['[', 'F', 'I', 'L', 'E', ']', ' '] := by decide
  have hdirectory : "[DIR] ".toList = ['[', 'D', 'I', 'R', ']', ' '] := by decide
  rcases kind <;> rcases kind' <;> simp_all [shown]

theorem not_mem_shown {entry : DirectoryEntry} (h : '\n' ∉ entry.name) : '\n' ∉ shown entry := by
  unfold shown
  rw [List.mem_append, not_or]
  refine ⟨?_, h⟩
  cases entry.kind <;> decide

/-- A line feed moved from the front of each line to its end. -/
theorem flatMap_entryLine_concat (entries : List DirectoryEntry) :
    entries.flatMap entryLine ++ ['\n']
      = '\n' :: entries.flatMap fun entry => shown entry ++ ['\n'] := by
  induction entries with
  | nil => rfl
  | cons entry entries ih =>
    rw [List.flatMap_cons, List.flatMap_cons, List.append_assoc, ih, entryLine_eq]
    simp

theorem eq_of_flatMap_shown {entries others : List DirectoryEntry}
    (h : (entries.flatMap fun entry => shown entry ++ ['\n'])
      = others.flatMap fun entry => shown entry ++ ['\n'])
    (hentries : ∀ e ∈ entries, '\n' ∉ e.name) (hothers : ∀ e ∈ others, '\n' ∉ e.name) :
    entries = others := by
  induction entries generalizing others with
  | nil =>
    rcases others with _ | ⟨other, others⟩
    · rfl
    · simp at h
  | cons entry entries ih =>
    rcases others with _ | ⟨other, others⟩
    · simp at h
    · simp only [List.flatMap_cons, List.append_assoc, List.singleton_append] at h
      rw [List.forall_mem_cons] at hentries hothers
      obtain ⟨hshown, hrest⟩ :=
        Text.append_cons_inj (not_mem_shown hentries.1) (not_mem_shown hothers.1) h
      rw [shown_injective hshown, ih hrest hentries.2 hothers.2]

/-- What stands under the heading of a listing. -/
def listed (entries : List DirectoryEntry) : Text :=
  (if entries = [] then "\n(empty directory)".toList else []) ++ entries.flatMap entryLine

theorem listReport_eq (raw : Text) (entries : List DirectoryEntry) :
    listReport raw entries = raw ++ " (".toList
      ++ (Text.ofNat entries.length ++ ' ' :: ("entries):".toList ++ listed entries)) := by
  have hheading : " entries):".toList = ' ' :: "entries):".toList := by decide
  unfold listReport listed
  rw [hheading]
  simp only [List.append_assoc, List.cons_append]

theorem of_listReport_eq {entries others : List DirectoryEntry}
    (h : listReport raw entries = listReport raw others) :
    entries.length = others.length ∧ listed entries = listed others := by
  rw [listReport_eq, listReport_eq, List.append_cancel_left_eq] at h
  obtain ⟨hlength, hrest⟩ := Text.ofNat_append_inj (by decide) h
  exact ⟨hlength, List.append_cancel_left hrest⟩

theorem eq_of_listReport_eq {entries others : List DirectoryEntry}
    (h : listReport raw entries = listReport raw others)
    (hentries : ∀ e ∈ entries, '\n' ∉ e.name) (hothers : ∀ e ∈ others, '\n' ∉ e.name) :
    entries = others := by
  obtain ⟨hlength, hlisted⟩ := of_listReport_eq h
  rcases eq_or_ne entries [] with rfl | hne
  · exact (List.length_eq_zero_iff.1 hlength.symm).symm
  · have hne' : others ≠ [] := by
      rintro rfl
      exact hne (List.length_eq_zero_iff.1 hlength)
    unfold listed at hlisted
    rw [if_neg hne, if_neg hne', List.nil_append, List.nil_append] at hlisted
    have hmoved := congrArg (· ++ ['\n']) hlisted
    simp only [flatMap_entryLine_concat, List.cons.injEq, true_and] at hmoved
    exact eq_of_flatMap_shown hmoved hentries hothers

/-- What is listed is what is reported. -/
theorem message_of_runs_list {events : List Event} {message path : Text}
    {entries : List DirectoryEntry}
    (run : Runs ((Operation.list raw).execute box) events (.ok (.success message)))
    (hlist : .called (.list path) (.ok entries) ∈ events) : message = listReport raw entries := by
  obtain ⟨place, -, run⟩ := runs_resolving_success run
  obtain ⟨status | status, rest, rfl, hrest⟩ := runs_ask_iff.1 run
  · obtain ⟨-, h⟩ := runs_done_iff.1 hrest
    cases h
  · dsimp only at hrest
    split_ifs at hrest with hkind
    · obtain ⟨told, last, rfl, hlast⟩ := runs_attempting_success hrest
      obtain ⟨rfl, h⟩ := runs_done_iff.1 hlast
      obtain rfl := Outcome.success.inj (Except.ok.inj h)
      obtain ⟨-, rfl⟩ : path = _ ∧ entries = told := by simpa using hlist
      rfl
    · obtain ⟨-, h⟩ := runs_done_iff.1 hrest
      cases h

/-- Two listings under one name that read alike list equally many entries, and the same ones unless
a name among them runs over a line. -/
theorem entries_of_runs_list {box₁ box₂ : Sandbox} {events₁ events₂ : List Event}
    {message₁ message₂ path₁ path₂ : Text} {entries₁ entries₂ : List DirectoryEntry}
    (run₁ : Runs ((Operation.list raw).execute box₁) events₁ (.ok (.success message₁)))
    (run₂ : Runs ((Operation.list raw).execute box₂) events₂ (.ok (.success message₂)))
    (hlist₁ : .called (.list path₁) (.ok entries₁) ∈ events₁)
    (hlist₂ : .called (.list path₂) (.ok entries₂) ∈ events₂) :
    (message₁ = message₂ → entries₁.length = entries₂.length)
      ∧ ((∀ e ∈ entries₁, '\n' ∉ e.name) → (∀ e ∈ entries₂, '\n' ∉ e.name) →
        (message₁ = message₂ ↔ entries₁ = entries₂)) := by
  rw [message_of_runs_list run₁ hlist₁, message_of_runs_list run₂ hlist₂]
  refine ⟨fun h => (of_listReport_eq h).1, fun hnames₁ hnames₂ => ⟨fun h => ?_, ?_⟩⟩
  · exact eq_of_listReport_eq h hnames₁ hnames₂
  · rintro rfl
    rfl

/-- The calls by which the directory `a` is listed. -/
def listing (entries : List DirectoryEntry) : List Event :=
  [.called (.status "/work/a".toList) (.ok ⟨.directory, 0, none, none, none⟩),
    .called (.list "/work/a".toList) (.ok entries)]

theorem runs_listing (entries : List DirectoryEntry) :
    Runs ((Operation.list "a".toList).execute ⟨⟨["work".toList]⟩⟩) (listing entries)
      (.ok (.success (listReport "a".toList entries))) := by
  refine @Runs.ask _ (.status "/work/a".toList) _ (.ok ⟨.directory, 0, none, none, none⟩) _ _ ?_
  refine @Runs.ask _ (.list "/work/a".toList) _ (.ok entries) _ _ ?_
  exact .done _

/-- A name that looks like the line of another file is not taken for it. -/
theorem entries_of_runs_list_lookalike :
    let two : List DirectoryEntry := [⟨"x".toList, .file⟩, ⟨"[FILE] y".toList, .file⟩]
    let other : List DirectoryEntry := [⟨"x".toList, .file⟩, ⟨"y".toList, .file⟩]
    ∃ message₁ message₂,
      Runs ((Operation.list "a".toList).execute ⟨⟨["work".toList]⟩⟩) (listing two)
          (.ok (.success message₁))
        ∧ Runs ((Operation.list "a".toList).execute ⟨⟨["work".toList]⟩⟩) (listing other)
          (.ok (.success message₂))
        ∧ .called (.list "/work/a".toList) (.ok two) ∈ listing two
        ∧ .called (.list "/work/a".toList) (.ok other) ∈ listing other
        ∧ (∀ e ∈ two, '\n' ∉ e.name) ∧ (∀ e ∈ other, '\n' ∉ e.name) ∧ message₁ ≠ message₂ := by
  intro two other
  have hmem : ∀ entries, .called (.list "/work/a".toList) (.ok entries) ∈ listing entries :=
    fun entries => List.mem_cons_of_mem _ List.mem_cons_self
  have hnames : (∀ e ∈ two, '\n' ∉ e.name) ∧ ∀ e ∈ other, '\n' ∉ e.name := by decide
  refine ⟨_, _, runs_listing two, runs_listing other, hmem two, hmem other, hnames.1, hnames.2,
    fun h => ?_⟩
  have hsame := ((entries_of_runs_list (runs_listing two) (runs_listing other) (hmem two)
    (hmem other)).2 hnames.1 hnames.2).1 h
  exact absurd hsame (by decide)

end Execution

end FileClerk
