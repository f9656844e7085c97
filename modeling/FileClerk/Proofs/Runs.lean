import FileClerk.Interpretation

/-!
# Runs taken apart

A run of an action put together from others is a run of each part, one after the other. What an
action does first can be read off the first steps of any of its runs.
-/

namespace FileClerk

namespace Action

variable {α β : Type} {events : List Event}

theorem runs_done_iff {a : α} {result : Except Crash α} :
    Runs (done a) events result ↔ events = [] ∧ result = .ok a := by
  constructor
  · rintro (_ | _)
    exact ⟨rfl, rfl⟩
  · rintro ⟨rfl, rfl⟩
    exact .done a

theorem runs_ask_iff {call : Call} {next : call.Answer → Action α} {result : Except Crash α} :
    Runs (ask call next) events result
      ↔ ∃ answer rest, events = .called call answer :: rest ∧ Runs (next answer) rest result := by
  constructor
  · intro run
    cases run with
    | ask answer run => exact ⟨answer, _, rfl, run⟩
  · rintro ⟨answer, rest, rfl, run⟩
    exact .ask answer run

theorem runs_note_iff {n : Note} {next : Action α} {result : Except Crash α} :
    Runs (note n next) events result
      ↔ ∃ rest, events = .noted n :: rest ∧ Runs next rest result := by
  constructor
  · intro run
    cases run with
    | note run => exact ⟨_, rfl, run⟩
  · rintro ⟨rest, rfl, run⟩
    exact .note run

theorem runs_report_iff {next : Action α} {result : Except Crash α} (records : List Record) :
    Runs (report records next) events result ↔
      ∃ rest, events = (records.map fun record => .noted (.record record)) ++ rest
        ∧ Runs next rest result := by
  induction records generalizing events with
  | nil => simp [report]
  | cons record records ih =>
    change Runs (note (.record record) (report records next)) events result ↔ _
    rw [runs_note_iff]
    constructor
    · rintro ⟨_, rfl, run⟩
      obtain ⟨rest, rfl, hrest⟩ := ih.1 run
      exact ⟨rest, rfl, hrest⟩
    · rintro ⟨rest, rfl, run⟩
      exact ⟨_, rfl, ih.2 ⟨rest, rfl, run⟩⟩

theorem Runs.bind {action : Action α} {first : List Event} {r : Except Crash α}
    (run : Runs action first r) {a : α} (h : r = .ok a) {next : α → Action β} {rest : List Event}
    {result : Except Crash β} (hrest : Runs (next a) rest result) :
    Runs (action.bind next) (first ++ rest) result := by
  induction run with
  | done b =>
    obtain rfl := Except.ok.inj h
    exact hrest
  | crash why => cases h
  | ask answer _ ih => exact .ask answer (ih h)
  | note _ ih => exact .note (ih h)

theorem Runs.bind_error {action : Action α} {r : Except Crash α} (run : Runs action events r)
    {why : Crash} (h : r = .error why) (next : α → Action β) :
    Runs (action.bind next) events (.error why) := by
  induction run with
  | done a => cases h
  | crash why' =>
    obtain rfl := Except.error.inj h
    exact .crash _
  | ask answer _ ih => exact .ask answer (ih h)
  | note _ ih => exact .note (ih h)

/-- An action followed by another ends in a crash of its own, or the other goes on from it. -/
theorem runs_bind {next : α → Action β} :
    ∀ (action : Action α) {events : List Event} {result : Except Crash β},
      Runs (action.bind next) events result →
        (∃ why, result = .error why ∧ Runs action events (.error why))
          ∨ ∃ first a rest, events = first ++ rest ∧ Runs action first (.ok a)
            ∧ Runs (next a) rest result
  | done a, events, result, run => .inr ⟨[], a, events, rfl, .done a, run⟩
  | crash why, events, result, run => by
    change Runs (crash why) events result at run
    cases run
    exact .inl ⟨why, rfl, .crash why⟩
  | ask call rest, events, result, run => by
    obtain ⟨answer, after, rfl, hafter⟩ := runs_ask_iff.1 run
    rcases runs_bind (rest answer) hafter with
      ⟨why, rfl, hcrash⟩ | ⟨first, a, last, rfl, hfirst, hlast⟩
    · exact .inl ⟨why, rfl, .ask answer hcrash⟩
    · exact .inr ⟨_, a, last, rfl, .ask answer hfirst, hlast⟩
  | note n rest, events, result, run => by
    obtain ⟨after, rfl, hafter⟩ := runs_note_iff.1 run
    rcases runs_bind rest hafter with
      ⟨why, rfl, hcrash⟩ | ⟨first, a, last, rfl, hfirst, hlast⟩
    · exact .inl ⟨why, rfl, .note hcrash⟩
    · exact .inr ⟨_, a, last, rfl, .note hfirst, hlast⟩

end Action

namespace Sandbox

open FileClerk.Action Interpretation

variable {box : Sandbox} {raw : Text} {events : List Event} {result : Except Crash Interpretation}

theorem runs_interpret_of_error {refusal : Refusal}
    (hparse : Grammar.standard.parse raw = .error refusal)
    (run : Runs (box.interpret raw) events result) :
    events = ((refusalRecords .standard refusal).map fun record => .noted (.record record))
      ∧ result = .ok (.rejected refusal) := by
  rw [interpret, hparse] at run
  obtain ⟨rest, rfl, hrest⟩ := (runs_report_iff _).1 run
  obtain ⟨rfl, rfl⟩ := runs_done_iff.1 hrest
  exact ⟨List.append_nil _, rfl⟩

/-- A command that was understood is carried out, and what came of it is reported. -/
theorem runs_interpret_of_ok {operation : Operation}
    (hparse : Grammar.standard.parse raw = .ok operation)
    (run : Runs (box.interpret raw) events result) :
    ∃ steps, (∃ why, events = .noted (.log (parsedLine operation)) :: steps
        ∧ result = .error why ∧ Runs (operation.execute box) steps (.error why))
      ∨ ∃ outcome, events = .noted (.log (parsedLine operation)) :: steps
          ++ [.noted (.record (outcomeRecord operation outcome))]
        ∧ result = .ok (.executed operation outcome)
        ∧ Runs (operation.execute box) steps (.ok outcome) := by
  rw [interpret, hparse] at run
  obtain ⟨after, rfl, hafter⟩ := runs_note_iff.1 run
  rcases runs_bind _ hafter with ⟨why, rfl, hcrash⟩ | ⟨steps, outcome, last, rfl, hsteps, hlast⟩
  · exact ⟨after, .inl ⟨why, rfl, rfl, hcrash⟩⟩
  · obtain ⟨rest, rfl, hrest⟩ := (runs_report_iff _).1 hlast
    obtain ⟨rfl, rfl⟩ := runs_done_iff.1 hrest
    exact ⟨steps, .inr ⟨outcome, rfl, rfl, hsteps⟩⟩

end Sandbox

end FileClerk
