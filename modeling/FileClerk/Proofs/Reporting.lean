import FileClerk.Proofs.Course
import FileClerk.Proofs.History
import FileClerk.Proofs.Octets

/-!
# What goes into the journal

Every cycle adds to the journal what its result calls for and nothing else (`Cycle.Reports`): one
record for an operation that was carried out, one for a command that was refused and the list of
usages after it if its verb was not known, one for a file that could not be read, and none for
anything else. An operation itself reports nothing (`records_of_runs_execute`).

The journal only grows, so after any cycles it holds what each of them added, in their order
(`journal_of_cycles`).
-/

namespace FileClerk

open FileClerk.Action

def Event.record? (e : Event) : Option Record := e.note?.bind Note.record?

/-- The records among some steps. -/
def records (events : List Event) : List Record := events.filterMap Event.record?

theorem records_append (events later : List Event) :
    records (events ++ later) = records events ++ records later := List.filterMap_append

theorem records_eq_nil {events : List Event}
    (h : ∀ e ∈ events, ∃ call answer, e = .called call answer) : records events = [] := by
  rw [records, List.filterMap_eq_nil_iff]
  intro e he
  obtain ⟨call, answer, rfl⟩ := h e he
  rfl

theorem records_noted (reported : List Record) :
    records (reported.map fun record => .noted (.record record)) = reported := by
  induction reported with
  | nil => rfl
  | cons record reported ih => exact congrArg (record :: ·) ih

theorem records_log (line : LogLine) (events : List Event) :
    records (.noted (.log line) :: events) = records events := rfl

namespace Journal

def hear (journal : Journal) (e : Event) : Journal :=
  match e.record? with
  | some record => journal.add record
  | none => journal

theorem records_foldl_hear (events : List Event) (journal : Journal) :
    (events.foldl hear journal).records = journal.records ++ FileClerk.records events := by
  induction events generalizing journal with
  | nil => simp [FileClerk.records]
  | cons e events ih =>
    rw [List.foldl_cons, ih, hear, FileClerk.records, FileClerk.records]
    cases he : e.record? <;> simp [he]

end Journal

/-- Some texts one after the other, each after a colon. -/
def chained (texts : List Text) : Text := texts.flatMap fun text => ": ".toList ++ text

/-- The texts of a failure and of the errors behind it, nearest first. -/
inductive Failure.Chain : Failure → List Text → Prop where
  | path (error : PathError) : Chain (.path error) [error.message]
  | notFound (place : Location) : Chain (.notFound place) [place.text ++ " does not exist".toList]
  | notADirectory (place : Location) :
      Chain (.notADirectory place) [place.text ++ " is not a directory".toList]
  | call (attempt : Attempt) (place : Location) (kind : IoError.Kind) (text : Text)
      (behind : List Text) : Chain (.call attempt place ⟨kind, text, behind⟩)
        (("could not ".toList ++ attempt.words ++ [' '] ++ place.text) :: text :: behind)

theorem Failure.chain_iff {failure : Failure} {chain : List Text} :
    failure.Chain chain ↔ chain = failure.message :: failure.causes := by
  constructor
  · rintro (_ | _ | _ | _) <;> rfl
  · rintro rfl
    cases failure with
    | path error => exact .path error
    | notFound place => exact .notFound place
    | notADirectory place => exact .notADirectory place
    | call attempt place error =>
      exact .call attempt place error.kind error.text error.wording.behind

/-- The record of an operation's outcome. That of a failure goes through all the errors behind
it. -/
inductive Operation.Tells (operation : Operation) : Outcome → Record → Prop where
  | success (message : Text) : Tells operation (.success message) ⟨.success, message⟩
  | skipped (message : Text) : Tells operation (.skipped message) ⟨.warning, message⟩
  | failed {failure : Failure} {chain : List Text} : failure.Chain chain →
      (∀ other, failure.Chain other → other = chain) →
      Tells operation (.failed failure)
        ⟨.error, operation.name ++ " failed".toList ++ chained chain⟩

theorem Operation.tells_outcomeRecord (operation : Operation) (outcome : Outcome) :
    operation.Tells outcome (Interpretation.outcomeRecord operation outcome) := by
  cases outcome with
  | success message => exact .success message
  | skipped message => exact .skipped message
  | failed failure =>
    exact .failed (Failure.chain_iff.2 rfl) fun _ h => Failure.chain_iff.1 h

section Execution

variable {operation : Operation} {deed : Call} {result : Except Crash Outcome}
  {first : List Preliminary} {events : List Event} {box : Sandbox}

theorem Course.forall_called (h : Course operation deed result first events) :
    ∀ e ∈ events, ∃ call answer, e = .called call answer := by
  induction h with
  | deed _ => simp
  | ended _ _ => simp
  | passed hpasses _ ih =>
    obtain ⟨reply, -, rfl⟩ := hpasses
    rw [List.forall_mem_cons]
    exact ⟨⟨_, _, rfl⟩, ih⟩

/-- An operation reports nothing itself. -/
theorem records_of_runs_execute (run : Runs (operation.execute box) events result) :
    records events = [] := by
  rcases Execution.goes_of_runs run with ⟨plan, -, hcourse⟩ | ⟨rfl, -⟩
  · exact records_eq_nil hcourse.forall_called
  · rfl

end Execution

namespace Watch

open Interpretation ChangeLoop

namespace Cycle

def records (cycle : Cycle) : List Record := FileClerk.records cycle.events

/-- After its readings the cycle carries out the operation that its snapshot asks for, between two
notes, and this comes of it. -/
def Executes (file : Text) (box : Sandbox) (operation : Operation) (outcome : Outcome)
    (cycle : Cycle) : Prop :=
  ∃ snapshot reads steps, ∃ first last : Note, cycle.snapshot? file = some snapshot
    ∧ Grammar.standard.parse (Utf8.decodeLossy snapshot) = .ok operation
    ∧ (∀ e ∈ reads, e.Reads file) ∧ Runs (operation.execute box) steps (.ok outcome)
    ∧ cycle.events = reads ++ (.noted first :: steps ++ [.noted last])

/-- The snapshot of the cycle is no command. -/
def Refuses (file : Text) (refusal : Refusal) (cycle : Cycle) : Prop :=
  ∃ snapshot, cycle.snapshot? file = some snapshot
    ∧ Grammar.standard.parse (Utf8.decodeLossy snapshot) = .error refusal

/-- What a cycle adds to the journal, by its result. -/
inductive Reports (file : Text) (box : Sandbox) (cycle : Cycle) : Prop where
  | empty : cycle.result = .ok .empty → cycle.records = [] → Reports file box cycle
  | duplicate : cycle.result = .ok .duplicate → cycle.records = [] → Reports file box cycle
  | unreadable {call : Call} {error : IoError} : cycle.result = .ok .unreadable →
      .called call (.error error) ∈ cycle.events →
      cycle.records = [⟨.error, "could not read command file".toList
        ++ chained (("Cannot read command file ".toList ++ file) :: error.texts)⟩] →
      Reports file box cycle
  | executed {operation : Operation} {outcome : Outcome} {record : Record} :
      cycle.result = .ok .executed → cycle.Executes file box operation outcome →
      cycle.records = [record] → operation.Tells outcome record → Reports file box cycle
  | rejected {refusal : Refusal} : cycle.result = .ok .rejected → cycle.Refuses file refusal →
      cycle.records = ⟨.error, "could not parse command".toList ++ chained [refusal.message]⟩ ::
        (if refusal.reason = .unknown then
          [⟨.info, "available commands:".toList
            ++ (Grammar.standard.phrases.map Phrase.usage).flatMap fun usage =>
              "\n  ".toList ++ usage⟩]
        else []) →
      Reports file box cycle
  | crashed {why : Crash} : cycle.result = .error why → cycle.records = [] → Reports file box cycle

end Cycle

theorem Reading.records_eq {file : Text} {reads : List Event}
    {found : Except IoError (Option Bytes)} (h : Reading file reads found) :
    records reads = [] := by
  cases h <;> rfl

theorem Reading.exists_called {file : Text} {reads : List Event} {error : IoError}
    (h : Reading file reads (.error error)) : ∃ call, .called call (.error error) ∈ reads := by
  cases h with
  | failed => exact ⟨.status file, by simp⟩
  | unread => exact ⟨.read file, by simp⟩

theorem refusalRecords_eq (grammar : Grammar) (refusal : Refusal) :
    refusalRecords grammar refusal =
      ⟨.error, "could not parse command".toList ++ chained [refusal.message]⟩ ::
        (if refusal.reason = .unknown then
          [⟨.info, "available commands:".toList ++ (grammar.phrases.map Phrase.usage).flatMap
            fun usage => "\n  ".toList ++ usage⟩]
        else []) := by
  rw [List.flatMap_map]
  rfl

section Cycle

variable {file : Text} {box : Sandbox} {seen : Option Bytes} {reads rest events : List Event}
  {snapshot : Bytes}

theorem reports_of_passing {found : Except IoError (Option Bytes)} (h : Reading file reads found) :
    Cycle.Reports file box ⟨reads ++ [.noted (passingNote file found)], .ok (passing found)⟩ := by
  have hrecords : ∀ n, records (reads ++ [.noted n]) = n.record?.toList := by
    intro n
    rw [records_append, h.records_eq]
    cases n <;> rfl
  rcases found with error | _ | snapshot
  · obtain ⟨call, hcall⟩ := h.exists_called
    exact .unreadable rfl (List.mem_append_left _ hcall) (hrecords _)
  · exact .empty rfl (hrecords _)
  · exact .duplicate rfl (hrecords _)

theorem reports_of_interpreting {outcome : Except Crash Interpretation}
    (h : Reading file reads (.ok (some snapshot)))
    (run : Runs (box.interpret (Utf8.decodeLossy snapshot)) rest outcome) :
    Cycle.Reports file box ⟨reads ++ rest,
      outcome.map fun i => if i.isRejected then .rejected else .executed⟩ := by
  have hrecords : records (reads ++ rest) = records rest := by
    rw [records_append, h.records_eq, List.nil_append]
  rcases hparse : Grammar.standard.parse (Utf8.decodeLossy snapshot) with refusal | operation
  · obtain ⟨rfl, rfl⟩ := Sandbox.runs_interpret_of_error hparse run
    refine .rejected rfl ⟨snapshot, h.snapshot?_eq, hparse⟩ (hrecords.trans ?_)
    exact (records_noted _).trans (refusalRecords_eq .standard refusal)
  · obtain ⟨steps, ⟨why, rfl, rfl, hexecute⟩ | ⟨o, rfl, rfl, hexecute⟩⟩ :=
      Sandbox.runs_interpret_of_ok hparse run
    · refine .crashed rfl (hrecords.trans ?_)
      rw [records_log, records_of_runs_execute hexecute]
    · refine .executed rfl
        ⟨snapshot, reads, steps, _, _, h.snapshot?_eq, hparse, h.forall_reads, hexecute, rfl⟩
        (hrecords.trans ?_) (operation.tells_outcomeRecord o)
      rw [records_append, records_log, records_of_runs_execute hexecute]
      rfl

/-- A cycle of an idle loop adds to the journal what its result calls for. -/
theorem reports_of_runs {result : Except Crash (CycleResult × ChangeLoop)}
    (run : Runs (onChange ⟨file, box, .idle, seen⟩) events result) :
    Cycle.Reports file box ⟨events, result.map Prod.fst⟩ := by
  obtain ⟨reads, found, rest, rfl, hreads, hnote | hinterpret⟩ := runs_onChange run
  · obtain ⟨rfl, -, rfl⟩ := hnote
    exact reports_of_passing hreads
  · obtain ⟨snapshot, outcome, rfl, -, hrun, rfl⟩ := hinterpret
    have hreports := reports_of_interpreting hreads hrun
    cases outcome <;> exact hreports

end Cycle

/-- The journal after some cycles. -/
def journal (cycles : List Cycle) : Journal :=
  (cycles.flatMap Cycle.events).foldl Journal.hear Journal.empty

theorem records_journal (cycles : List Cycle) :
    (journal cycles).records = cycles.flatMap Cycle.records := by
  rw [journal, Journal.records_foldl_hear, FileClerk.records, List.filterMap_flatMap]
  rfl

/-- After any cycles of a watch the journal holds what each of them added to it, in their order, and
each added what its result calls for. -/
theorem journal_of_cycles {file : Text} {box : Sandbox} {cycles : List Cycle}
    {loop? : Option ChangeLoop} (h : Cycles (.new file box) cycles loop?) :
    (∀ cycle ∈ cycles, cycle.Reports file box)
      ∧ (journal cycles).records = cycles.flatMap Cycle.records
      ∧ ∀ before later, cycles = before ++ later →
        (journal cycles).records = (journal before).records ++ later.flatMap Cycle.records := by
  refine ⟨fun cycle hcycle => ?_, records_journal cycles, ?_⟩
  · obtain ⟨seen, result, run, hresult⟩ := h.exists_runs cycle hcycle
    have hreports := reports_of_runs run
    rwa [← hresult] at hreports
  · rintro before later rfl
    rw [records_journal, records_journal, List.flatMap_append]

/-- A file that is missing, then holds an unknown command, cannot be read, holds the same, and then
a command that fails. Another error is behind the one that it fails with. -/
theorem journal_of_cycles_denied :
    ∃ cycles loop, Cycles (.new "/c".toList ⟨⟨["work".toList]⟩⟩) cycles (some loop)
      ∧ cycles.map Cycle.result
        = [.ok .empty, .ok .rejected, .ok .unreadable, .ok .duplicate, .ok .executed]
      ∧ (∀ cycle ∈ cycles, cycle.Reports "/c".toList ⟨⟨["work".toList]⟩⟩)
      ∧ (journal cycles).records.map Record.severity = [.error, .info, .error, .error]
      ∧ (journal cycles).records.getLast?
        = some ⟨.error, "delete failed: could not check /work/a: denied: locked".toList⟩ := by
  let box : Sandbox := ⟨⟨["work".toList]⟩⟩
  let unknown := Utf8.encode "x".toList
  let delete := Utf8.encode "delete the file a".toList
  let denied : IoError := ⟨.permissionDenied, "denied".toList, ["locked".toList]⟩
  let failed : Outcome := .failed (.call .check ⟨["work".toList, "a".toList]⟩ denied)
  have hunknown : Grammar.standard.parse (Utf8.decodeLossy unknown)
      = .error ⟨"x".toList, .unknown⟩ := by
    rw [Utf8.decodeLossy_encode, Grammar.parse_eq_unknown_iff (by decide +kernel)]
    rintro ⟨verb, rest, hrest, -⟩
    have hbody : Command.body "x".toList = "x".toList := by decide +kernel
    have hnone : ∀ verb ∈ Verb.all, ¬ verb.words <+: "x".toList := by decide
    exact hnone verb verb.mem_all ⟨rest, hrest.symm.trans hbody⟩
  have hdelete : Grammar.standard.parse (Utf8.decodeLossy delete) = .ok (.delete "a".toList) := by
    rw [Utf8.decodeLossy_encode]
    have hcore : Command.core "delete the file a".toList = Verb.delete.words ++ " a".toList := by
      decide +kernel
    obtain ⟨tail, hreads⟩ := Grammar.reads_of_core_eq hcore (.inr ⟨' ', rfl, by decide⟩)
    exact hreads
  have hrefused : Runs (box.interpret (Utf8.decodeLossy unknown))
      ((refusalRecords .standard ⟨"x".toList, .unknown⟩).map fun record => .noted (.record record))
      (.ok (.rejected ⟨"x".toList, .unknown⟩)) := by
    rw [Sandbox.interpret, hunknown]
    exact (runs_report_iff _).2 ⟨[], (List.append_nil _).symm, .done _⟩
  have hfailed : Runs (box.interpret (Utf8.decodeLossy delete))
      [.noted (.log (Sandbox.parsedLine (.delete "a".toList))),
        .called (.isPresent "/work/a".toList) (.error denied),
        .noted (.record (outcomeRecord (.delete "a".toList) failed))]
      (.ok (.executed (.delete "a".toList) failed)) := by
    rw [Sandbox.interpret, hdelete]
    exact .note (@Runs.ask _ (.isPresent "/work/a".toList) _ (.error denied) _ _ (.note (.done _)))
  have h₀ : Cycles (.new "/c".toList box) [] _ := .start
  have h₁ := h₀.returned
    (@Runs.ask _ (.status "/c".toList) _ (.error ⟨.notFound, [], []⟩) _ _ (.note (.done _)))
  have h₂ := h₁.returned (runs_accepted (by decide) (by decide) hrefused)
  have h₃ := h₂.returned
    (@Runs.ask _ (.status "/c".toList) _ (.error denied) _ _ (.note (.done _)))
  have h₄ := h₃.returned (runs_duplicate (by decide))
  have h₅ := h₄.returned (runs_accepted (by decide) (by decide) hfailed)
  obtain ⟨hreports, hrecords, -⟩ := journal_of_cycles h₅
  refine ⟨_, _, h₅, rfl, hreports, ?_, ?_⟩
  · rw [hrecords]
    rfl
  · rw [hrecords]
    rfl

end Watch

end FileClerk
