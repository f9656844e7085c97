import FileClerk.Proofs.Octets
import FileClerk.Proofs.Runs
import FileClerk.Settings.Store

/-!
# What settings are loaded from

Loading asks the disk for a document and nothing else (`runs_loadFrom_iff`): the settings are made
of that document and of the environment, whatever steps were taken to find it.
-/

namespace FileClerk

namespace Action

variable {α : Type}

/-- The steps of a run decide what comes of it. -/
theorem Runs.unique {action : Action α} {events : List Event} {result other : Except Crash α}
    (run : Runs action events result) (run' : Runs action events other) : result = other := by
  induction run with
  | done a =>
    cases run'
    rfl
  | crash why =>
    cases run'
    rfl
  | ask answer _ ih =>
    obtain ⟨_, _, heq, hrest⟩ := runs_ask_iff.1 run'
    obtain ⟨hcalled, rfl⟩ := List.cons.inj heq
    cases hcalled
    exact ih hrest
  | note _ ih =>
    obtain ⟨_, heq, hrest⟩ := runs_note_iff.1 run'
    obtain ⟨-, rfl⟩ := List.cons.inj heq
    exact ih hrest

theorem Runs.iff_eq {action : Action α} {events : List Event} {result : Except Crash α}
    (run : Runs action events result) (other : Except Crash α) :
    Runs action events other ↔ other = result :=
  ⟨fun run' => run'.unique run, fun h => h ▸ run⟩

theorem bind_assoc {β γ : Type} (first : β → Action γ) (next : α → Action β) :
    ∀ action : Action α, (action.bind next).bind first = action.bind fun a => (next a).bind first
  | done _ => rfl
  | crash _ => rfl
  | ask call rest => congrArg (ask call) (funext fun answer => bind_assoc first next (rest answer))
  | note n rest => congrArg (note n) (bind_assoc first next rest)

end Action

namespace Settings

open FileClerk.Action

variable {workingDirectory : Location} {environment : List (Text × Text)} {path : Text}
  {events : List Event}

/-- The first place of a list is of the kind that is looked for, or the others are looked at. -/
theorem runs_firstOfKind_cons {kind : EntryKind} {paths : List Text}
    {result : Except Crash (Option Text)}
    (run : Runs (firstOfKind kind (path :: paths)) events result) :
    ∃ answer rest, events = .called (.status path) answer :: rest
      ∧ ((∃ status, answer = .ok status ∧ status.kind = kind ∧ rest = [] ∧ result = .ok (some path))
        ∨ (∀ status, answer = .ok status → status.kind ≠ kind)
          ∧ Runs (firstOfKind kind paths) rest result) := by
  obtain ⟨answer, rest, rfl, hrest⟩ := runs_ask_iff.1 run
  refine ⟨answer, rest, rfl, ?_⟩
  cases answer with
  | error error => exact .inr ⟨by simp, hrest⟩
  | ok status =>
    change Runs (if (status.kind == kind) = true then done (some path) else firstOfKind kind paths)
      rest result at hrest
    split_ifs at hrest with hkind
    · obtain ⟨rfl, rfl⟩ := runs_done_iff.1 hrest
      exact .inl ⟨status, rfl, by simpa using hkind, rfl, rfl⟩
    · refine .inr ⟨?_, hrest⟩
      rintro _ ⟨⟩
      simpa using hkind

/-- Looking for a place asks for the status of places and comes to an end. -/
theorem runs_firstOfKind {kind : EntryKind} :
    ∀ {paths : List Text} {events : List Event} {result : Except Crash (Option Text)},
      Runs (firstOfKind kind paths) events result →
        (∃ found, result = .ok found) ∧ ∀ e ∈ events, ∃ p answer, e = .called (.status p) answer
  | [], events, result, run => by
    obtain ⟨rfl, rfl⟩ := runs_done_iff.1 run
    exact ⟨⟨none, rfl⟩, by simp⟩
  | path :: paths, events, result, run => by
    obtain ⟨answer, rest, rfl, ⟨_, -, -, rfl, rfl⟩ | ⟨-, hrest⟩⟩ := runs_firstOfKind_cons run
    · exact ⟨⟨some path, rfl⟩, by simp⟩
    · obtain ⟨hfound, hasked⟩ := runs_firstOfKind hrest
      exact ⟨hfound, List.forall_mem_cons.2 ⟨⟨path, answer, rfl⟩, hasked⟩⟩

/-- The document of the nearest file that a path may mean, if there is one. -/
def findDocument (workingDirectory : Location) (path : Text) :
    Action (Except Mistake (Option Datum)) := do
  match ← firstOfKind .file (candidates workingDirectory path) with
  | none => return .ok none
  | some file =>
    match ← readDocument file with
    | none => return .error .malformed
    | some document => return .ok (some document)

/-- What is made of the answer to reading a file. -/
def documentIn : Except IoError Bytes → Except Mistake (Option Datum)
  | .error _ => .error .malformed
  | .ok content =>
    match ((Utf8.decode? content).bind Toml.document?).bind ofDocument? with
    | none => .error .malformed
    | some document => .ok (some document)

theorem documentIn_encode {s : Text} {d read : Datum} (hd : Toml.document? s = some d)
    (hread : ofDocument? d = some read) : documentIn (.ok (Utf8.encode s)) = .ok (some read) := by
  rw [documentIn, Utf8.decode?_eq_some_iff.2 rfl, Option.bind_some, hd, Option.bind_some, hread]

/-- At most one file is read, after all places have been looked at. -/
theorem runs_findDocument {result : Except Crash (Except Mistake (Option Datum))}
    (run : Runs (findDocument workingDirectory path) events result) :
    ∃ asked found, Runs (firstOfKind .file (candidates workingDirectory path)) asked (.ok found)
      ∧ match found with
        | none => events = asked ∧ result = .ok (.ok none)
        | some file => ∃ answer, events = asked ++ [.called (.read file) answer]
          ∧ result = .ok (documentIn answer) := by
  rcases runs_bind _ run with ⟨why, rfl, hcrash⟩ | ⟨asked, found, rest, rfl, hasked, hrest⟩
  · obtain ⟨⟨_, hfound⟩, -⟩ := runs_firstOfKind hcrash
    cases hfound
  refine ⟨asked, found, hasked, ?_⟩
  cases found with
  | none =>
    obtain ⟨rfl, rfl⟩ := runs_done_iff.1 hrest
    exact ⟨List.append_nil _, rfl⟩
  | some file =>
    obtain ⟨answer, last, rfl, hlast⟩ := runs_ask_iff.1 hrest
    refine ⟨answer, ?_⟩
    cases answer with
    | error error =>
      obtain ⟨rfl, rfl⟩ := runs_done_iff.1 hlast
      exact ⟨rfl, rfl⟩
    | ok content =>
      change Runs (match ((Utf8.decode? content).bind Toml.document?).bind ofDocument? with
        | none => done (.error .malformed)
        | some document => done (.ok (some document))) last result at hlast
      have hdone : Runs (done (documentIn (.ok content))) last result := by
        unfold documentIn
        split at hlast <;> rename_i hdocument <;> dsimp only <;> rw [hdocument] <;> exact hlast
      obtain ⟨rfl, rfl⟩ := runs_done_iff.1 hdone
      exact ⟨rfl, rfl⟩

/-- What a document and an environment come to. -/
def conclude (environment : List (Text × Text)) (document : Except Mistake (Option Datum)) :
    Except Crash (Except Mistake Settings) :=
  (ofEnvironment environment).map fun said => document.bind fun document => ofLayers document said

theorem conclude_of_said {said : Datum} (h : ofEnvironment environment = .ok said)
    (document : Option Datum) :
    conclude environment (.ok document) = .ok (ofLayers document said) := by
  rw [conclude, h]
  rfl

/-- The first place that a path may mean is read if it is a file. -/
theorem runs_findDocument_of_file {file : Text} {others : List Text} {status : FileStatus}
    (hcandidates : candidates workingDirectory path = file :: others) (hkind : status.kind = .file)
    (content : Bytes) : Runs (findDocument workingDirectory path)
      [.called (.status file) (.ok status), .called (.read file) (.ok content)]
      (.ok (documentIn (.ok content))) := by
  have hfirst : Runs (firstOfKind .file (candidates workingDirectory path))
      [.called (.status file) (.ok status)] (.ok (some file)) := by
    rw [hcandidates]
    refine @Runs.ask _ (.status file) _ (.ok status) _ _ ?_
    change Runs
      (if (status.kind == .file) = true then done (some file) else firstOfKind .file others) [] _
    rw [if_pos (by simp [hkind])]
    exact .done _
  unfold findDocument
  refine hfirst.bind rfl (@Runs.ask _ (.read file) _ (.ok content) _ _ ?_)
  change Runs (match ((Utf8.decode? content).bind Toml.document?).bind ofDocument? with
    | none => done (Except.error Mistake.malformed)
    | some document => done (Except.ok (some document))) [] _
  unfold documentIn
  dsimp only
  split <;> exact .done _

/-- The end of loading settings, once a document was looked for. -/
def conclusion (environment : List (Text × Text)) (document : Except Mistake (Option Datum)) :
    Action (Except Mistake Settings) :=
  match ofEnvironment environment with
  | .error why => .crash why
  | .ok said => .done (document.bind fun document => ofLayers document said)

theorem runs_conclusion_iff {document : Except Mistake (Option Datum)}
    {result : Except Crash (Except Mistake Settings)} :
    Runs (conclusion environment document) events result
      ↔ events = [] ∧ result = conclude environment document := by
  unfold conclusion conclude
  cases ofEnvironment environment with
  | error why =>
    constructor
    · rintro (_ | _)
      exact ⟨rfl, rfl⟩
    · rintro ⟨rfl, rfl⟩
      exact .crash why
  | ok said => exact runs_done_iff

theorem loadFrom_eq : loadFrom workingDirectory environment path
    = (findDocument workingDirectory path).bind (conclusion environment) := by
  unfold loadFrom findDocument
  simp only [Bind.bind, Pure.pure, Action.bind_assoc]
  refine congrArg _ (funext fun file => ?_)
  rcases file with _ | file
  · rfl
  · simp only [Action.bind_assoc]
    refine congrArg _ (funext fun document => ?_)
    cases document <;> rfl

theorem runs_loadFrom_iff {result : Except Crash (Except Mistake Settings)} :
    Runs (loadFrom workingDirectory environment path) events result ↔
      ∃ document, Runs (findDocument workingDirectory path) events (.ok document)
        ∧ result = conclude environment document := by
  rw [loadFrom_eq]
  constructor
  · intro run
    rcases runs_bind _ run with ⟨why, rfl, hcrash⟩ | ⟨first, document, rest, rfl, hfirst, hrest⟩
    · obtain ⟨_, found, -, hfound⟩ := runs_findDocument hcrash
      cases found with
      | none => cases hfound.2
      | some file =>
        obtain ⟨_, -, h⟩ := hfound
        cases h
    · obtain ⟨rfl, rfl⟩ := runs_conclusion_iff.1 hrest
      exact ⟨document, by rwa [List.append_nil], rfl⟩
  · rintro ⟨document, hfound, rfl⟩
    have hlast : Runs (conclusion environment document) [] (conclude environment document) :=
      runs_conclusion_iff.2 ⟨rfl, rfl⟩
    have run := hfound.bind rfl hlast
    rwa [List.append_nil] at run

/-- The steps of loading a file in the directory that is looked in first. -/
def fetching (content : Bytes) : List Event :=
  [.called (.status "/s".toList) (.ok ⟨.file, 0, none, none, none⟩),
    .called (.read "/s".toList) (.ok content)]

theorem runs_fetching (environment : List (Text × Text)) (content : Bytes) :
    Runs (loadFrom ⟨[]⟩ environment "s".toList) (fetching content)
      (conclude environment (documentIn (.ok content))) := by
  have hcandidates : candidates ⟨[]⟩ "s".toList = ["/s".toList] := rfl
  exact runs_loadFrom_iff.2 ⟨_, runs_findDocument_of_file hcandidates rfl content, rfl⟩

end Settings

end FileClerk
