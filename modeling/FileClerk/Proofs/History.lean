import Mathlib.Data.List.Destutter
import FileClerk.Proofs.Ending
import FileClerk.Proofs.Language
import FileClerk.Proofs.Runs
import FileClerk.Watch.ChangeLoop

/-!
# The history of a watch

A cycle begins with its readings of the command file; what they find decides how it goes on
(`lawful_of_runs`). Over any number of cycles the snapshots that are interpreted are those found,
less each that repeats the one before it, however many cycles between them found nothing or could
not read (`history_of_cycles`). The one way for a cycle to end without a result is a crash over a
time that the calendar does not hold.
-/

namespace List

variable {α : Type*} [DecidableEq α]

theorem destutter'_concat_ne (b : α) : ∀ (l : List α) (a : α),
    (l ++ [b]).destutter' (· ≠ ·) a =
      if (l.destutter' (· ≠ ·) a).getLast? = some b then l.destutter' (· ≠ ·) a
      else l.destutter' (· ≠ ·) a ++ [b]
  | [], a => by
    by_cases h : a = b <;> simp [h]
  | c :: l, a => by
    rw [cons_append]
    by_cases h : a = c
    · rw [destutter'_cons_neg _ (not_not.2 h), destutter'_cons_neg _ (not_not.2 h),
        destutter'_concat_ne b l a]
    · have hne : l.destutter' (· ≠ ·) c ≠ [] := destutter'_ne_nil _ _
      rw [destutter'_cons_pos _ h, destutter'_cons_pos _ h, destutter'_concat_ne b l c,
        getLast?_cons_of_ne_nil hne]
      split_ifs <;> rfl

/-- One more element is kept unless the last one kept is equal to it. -/
theorem destutter_concat_ne (l : List α) (b : α) :
    (l ++ [b]).destutter (· ≠ ·) =
      if (l.destutter (· ≠ ·)).getLast? = some b then l.destutter (· ≠ ·)
      else l.destutter (· ≠ ·) ++ [b] := by
  cases l with
  | nil => simp
  | cons a l => exact destutter'_concat_ne b l a

end List

namespace FileClerk

open FileClerk.Action

/-- A call that looks at a file or reads it. -/
def Event.Reads (file : Text) : Event → Prop
  | .called call _ => call = .status file ∨ call = .read file
  | .noted _ => False

namespace Watch

/-- A cycle as it went: its steps, and its result unless it crashed. -/
structure Cycle where
  events : List Event
  result : Except Crash CycleResult

/-- Cycles of one loop, each whatever the disk answers in it. A crash leaves no loop to go on. -/
inductive Cycles (start : ChangeLoop) : List Cycle → Option ChangeLoop → Prop where
  | start : Cycles start [] (some start)
  | returned {cycles loop events result next} : Cycles start cycles (some loop) →
      Runs loop.onChange events (.ok (result, next)) →
      Cycles start (cycles ++ [⟨events, .ok result⟩]) (some next)
  | crashed {cycles loop events why} : Cycles start cycles (some loop) →
      Runs loop.onChange events (.error why) → Cycles start (cycles ++ [⟨events, .error why⟩]) none

namespace Cycle

/-- The octets found in the command file, where the file has a size and its reading gave some. -/
def snapshot? (file : Text) (cycle : Cycle) : Option Bytes :=
  match cycle.events with
  | .called (.status p) (.ok status) :: .called (.read q) (.ok content) :: _ =>
    if p = file ∧ q = file ∧ status.size ≠ 0 ∧ content ≠ [] then some content else none
  | _ => none

/-- The command file could not be looked at, or not be read though it has a size, and not because
it is missing. -/
def Fails (file : Text) (cycle : Cycle) : Prop :=
  ∃ error rest, error.kind ≠ .notFound
    ∧ (cycle.events = .called (.status file) (.error error) :: rest
      ∨ ∃ status, status.size ≠ 0 ∧ cycle.events
        = .called (.status file) (.ok status) :: .called (.read file) (.error error) :: rest)

/-- After its readings the cycle interprets a snapshot, once, and its result is the parser's
verdict. It has none exactly if what was told of a place cannot be shown. -/
def Interprets (file : Text) (box : Sandbox) (snapshot : Bytes) (cycle : Cycle) : Prop :=
  ∃ reads steps outcome, cycle.events = reads ++ steps ∧ (∀ e ∈ reads, e.Reads file)
    ∧ Runs (box.interpret (Utf8.decodeLossy snapshot)) steps outcome
    ∧ match Grammar.standard.parse (Utf8.decodeLossy snapshot) with
      | .error refusal => outcome = .ok (.rejected refusal) ∧ cycle.result = .ok .rejected
      | .ok operation =>
        (¬ Execution.Unshowable operation steps ∧ ∃ o, outcome = .ok (.executed operation o)
            ∧ cycle.result = .ok .executed)
          ∨ Execution.Unshowable operation steps ∧ ∃ why, outcome = .error why
            ∧ cycle.result = .error why

/-- After its readings the cycle notes one thing, and interprets nothing. -/
def Passes (file : Text) (cycle : Cycle) : Prop :=
  ∃ reads n, cycle.events = reads ++ [.noted n] ∧ ∀ e ∈ reads, e.Reads file

/-- How a cycle goes when `seen` is the snapshot accepted last. -/
structure Lawful (file : Text) (box : Sandbox) (seen : Option Bytes) (cycle : Cycle) : Prop where
  busy : cycle.result ≠ .ok .busy
  unreadable : cycle.result = .ok .unreadable ↔ cycle.Fails file
  empty : cycle.result = .ok .empty ↔ ¬ cycle.Fails file ∧ cycle.snapshot? file = none
  duplicate : cycle.result = .ok .duplicate
    ↔ ∃ snapshot, cycle.snapshot? file = some snapshot ∧ seen = some snapshot
  passes : cycle.snapshot? file = none ∨ cycle.snapshot? file = seen → cycle.Passes file
  interprets : ∀ snapshot, cycle.snapshot? file = some snapshot → seen ≠ some snapshot →
    cycle.Interprets file box snapshot

/-- The snapshot that a cycle accepted, if it did. -/
def accepted? (file : Text) (cycle : Cycle) : Option Bytes :=
  match cycle.result with
  | .ok .rejected | .ok .executed | .error _ => cycle.snapshot? file
  | .ok .busy | .ok .empty | .ok .duplicate | .ok .unreadable => none

end Cycle

/-- What the readings of a command file find. -/
inductive Reading (file : Text) : List Event → Except IoError (Option Bytes) → Prop where
  | missing {error} : error.kind = .notFound →
      Reading file [.called (.status file) (.error error)] (.ok none)
  | failed {error} : error.kind ≠ .notFound →
      Reading file [.called (.status file) (.error error)] (.error error)
  | sizeless {status} : status.size = 0 →
      Reading file [.called (.status file) (.ok status)] (.ok none)
  | vanished {status error} : status.size ≠ 0 → error.kind = .notFound →
      Reading file [.called (.status file) (.ok status), .called (.read file) (.error error)]
        (.ok none)
  | unread {status error} : status.size ≠ 0 → error.kind ≠ .notFound →
      Reading file [.called (.status file) (.ok status), .called (.read file) (.error error)]
        (.error error)
  | blank {status} : status.size ≠ 0 →
      Reading file [.called (.status file) (.ok status), .called (.read file) (.ok [])] (.ok none)
  | found {status content} : status.size ≠ 0 → content ≠ [] →
      Reading file [.called (.status file) (.ok status), .called (.read file) (.ok content)]
        (.ok (some content))

namespace Reading

variable {file : Text} {reads rest : List Event} {result : Except Crash CycleResult}

theorem fails_iff {found : Except IoError (Option Bytes)} (h : Reading file reads found) :
    (⟨reads ++ rest, result⟩ : Cycle).Fails file ↔ ∃ error, found = .error error := by
  cases h <;> simp_all [Cycle.Fails]

theorem snapshot?_eq {found : Except IoError (Option Bytes)} (h : Reading file reads found) :
    (⟨reads ++ rest, result⟩ : Cycle).snapshot? file = found.toOption.join := by
  cases h with
  | sizeless hsize =>
    unfold Cycle.snapshot?
    split
    · rename_i heq
      obtain ⟨hfirst, -⟩ := List.cons.inj heq
      cases hfirst
      simp [hsize, Except.toOption]
    · rfl
  | missing | failed | vanished | unread | blank | found =>
    simp_all [Cycle.snapshot?, Except.toOption]

theorem forall_reads {found : Except IoError (Option Bytes)} (h : Reading file reads found) :
    ∀ e ∈ reads, e.Reads file := by
  cases h <;> simp [Event.Reads]

end Reading

namespace ChangeLoop

variable {events : List Event}

theorem reading_of_runs {α : Type} {file : Text} {next : Except IoError (Option Bytes) → Action α}
    {result : Except Crash α} (run : Runs (readingSnapshot file next) events result) :
    ∃ reads found rest, events = reads ++ rest ∧ Reading file reads found
      ∧ Runs (next found) rest result := by
  obtain ⟨error | status, rest, rfl, hrest⟩ := runs_ask_iff.1 run
  · dsimp only at hrest
    split_ifs at hrest with hkind
    · exact ⟨_, _, rest, rfl, .missing hkind, hrest⟩
    · exact ⟨_, _, rest, rfl, .failed hkind, hrest⟩
  dsimp only at hrest
  split_ifs at hrest with hsize
  · exact ⟨_, _, rest, rfl, .sizeless hsize, hrest⟩
  obtain ⟨error | content, last, rfl, hlast⟩ := runs_ask_iff.1 hrest
  · dsimp only at hlast
    split_ifs at hlast with hkind
    · exact ⟨_, _, last, rfl, .vanished hsize hkind, hlast⟩
    · exact ⟨_, _, last, rfl, .unread hsize hkind, hlast⟩
  dsimp only at hlast
  split_ifs at hlast with hcontent
  · subst hcontent
    exact ⟨_, _, last, rfl, .blank hsize, hlast⟩
  · exact ⟨_, _, last, rfl, .found hsize hcontent, hlast⟩

/-- The result of a cycle that interprets nothing. -/
def passing : Except IoError (Option Bytes) → CycleResult
  | .error _ => .unreadable
  | .ok none => .empty
  | .ok (some _) => .duplicate

/-- What a cycle notes that interprets nothing; only a failed reading goes into the journal. -/
def passingNote (file : Text) : Except IoError (Option Bytes) → Note
  | .error error =>
    let failure := WatchError.snapshotFailed file error
    .record (.failure "could not read command file".toList (failure.message :: failure.causes))
  | .ok none => logged "command file empty" none
  | .ok (some snapshot) =>
    logged "duplicate" (some (Text.ofNat snapshot.length ++ " bytes".toList))

/-- An idle loop reads the command file. It notes what keeps it from interpreting a new snapshot, or
it interprets the snapshot and remembers it. -/
theorem runs_onChange {file : Text} {box : Sandbox} {seen : Option Bytes}
    {result : Except Crash (CycleResult × ChangeLoop)}
    (run : Runs (onChange ⟨file, box, .idle, seen⟩) events result) :
    ∃ reads found rest, events = reads ++ rest ∧ Reading file reads found
      ∧ ((rest = [.noted (passingNote file found)]
          ∧ (∀ snapshot, found = .ok (some snapshot) → seen = some snapshot)
          ∧ result = .ok (passing found, ⟨file, box, .idle, seen⟩))
        ∨ ∃ snapshot outcome, found = .ok (some snapshot) ∧ seen ≠ some snapshot
          ∧ Runs (box.interpret (Utf8.decodeLossy snapshot)) rest outcome
          ∧ result = outcome.map fun i => (if i.isRejected then .rejected else .executed,
            ⟨file, box, .idle, some snapshot⟩)) := by
  unfold onChange at run
  obtain ⟨reads, found, rest, rfl, hreads, hrest⟩ := reading_of_runs run
  refine ⟨reads, found, rest, rfl, hreads, ?_⟩
  rcases found with error | _ | snapshot
  · obtain ⟨last, rfl, hlast⟩ := (runs_report_iff _).1 hrest
    obtain ⟨rfl, rfl⟩ := runs_done_iff.1 hlast
    exact .inl ⟨rfl, by simp, rfl⟩
  · obtain ⟨last, rfl, hlast⟩ := runs_note_iff.1 hrest
    obtain ⟨rfl, rfl⟩ := runs_done_iff.1 hlast
    exact .inl ⟨rfl, by simp, rfl⟩
  dsimp only at hrest
  split_ifs at hrest with hseen
  · have hseen : seen = some snapshot := eq_of_beq hseen
    obtain ⟨last, rfl, hlast⟩ := runs_note_iff.1 hrest
    obtain ⟨rfl, rfl⟩ := runs_done_iff.1 hlast
    exact .inl ⟨rfl, by simp [hseen], rfl⟩
  have hseen : seen ≠ some snapshot := fun h => hseen (beq_iff_eq.2 h)
  rcases runs_bind _ hrest with ⟨why, rfl, hcrash⟩ | ⟨steps, i, last, rfl, hsteps, hlast⟩
  · exact .inr ⟨snapshot, .error why, rfl, hseen, hcrash, rfl⟩
  · obtain ⟨rfl, rfl⟩ := runs_done_iff.1 hlast
    rw [List.append_nil]
    exact .inr ⟨snapshot, .ok i, rfl, hseen, hsteps, rfl⟩

/-- The readings of a command file that holds some octets. -/
def readings (file : Text) (snapshot : Bytes) : List Event :=
  [.called (.status file) (.ok ⟨.file, snapshot.length, none, none, none⟩),
    .called (.read file) (.ok snapshot)]

section Found

variable {file : Text} {box : Sandbox} {snapshot : Bytes}

theorem runs_readings {α : Type} {next : Except IoError (Option Bytes) → Action α}
    {rest : List Event} {result : Except Crash α} (h : snapshot ≠ [])
    (run : Runs (next (.ok (some snapshot))) rest result) :
    Runs (readingSnapshot file next) (readings file snapshot ++ rest) result := by
  refine .ask _ ?_
  dsimp only
  rw [if_neg (List.length_eq_zero_iff.not.2 h)]
  refine .ask _ ?_
  dsimp only
  rwa [if_neg h]

theorem snapshot?_readings (h : snapshot ≠ []) {rest : List Event}
    {result : Except Crash CycleResult} :
    (⟨readings file snapshot ++ rest, result⟩ : Cycle).snapshot? file = some snapshot :=
  (Reading.found (List.length_eq_zero_iff.not.2 h) h).snapshot?_eq

theorem runs_duplicate (h : snapshot ≠ []) :
    Runs (onChange ⟨file, box, .idle, some snapshot⟩)
      (readings file snapshot ++
        [.noted (logged "duplicate" (some (Text.ofNat snapshot.length ++ " bytes".toList)))])
      (.ok (.duplicate, ⟨file, box, .idle, some snapshot⟩)) := by
  unfold onChange
  refine runs_readings h ?_
  dsimp only
  rw [if_pos (by simp [Memory.isDuplicate])]
  exact .note (.done _)

theorem runs_accepted (h : snapshot ≠ []) {seen : Option Bytes} (hseen : seen ≠ some snapshot)
    {steps : List Event} {outcome : Except Crash Interpretation}
    (run : Runs (box.interpret (Utf8.decodeLossy snapshot)) steps outcome) :
    Runs (onChange ⟨file, box, .idle, seen⟩) (readings file snapshot ++ steps)
      (outcome.map fun i => (if i.isRejected then .rejected else .executed,
        ⟨file, box, .idle, some snapshot⟩)) := by
  unfold onChange
  refine runs_readings h ?_
  dsimp only
  rw [if_neg (by simpa [Memory.isDuplicate] using hseen)]
  cases outcome with
  | error why => exact Runs.bind_error run rfl _
  | ok i =>
    rw [← List.append_nil steps]
    exact Runs.bind run rfl (.done _)

end Found

end ChangeLoop

namespace Cycle

open ChangeLoop

variable {file : Text} {box : Sandbox} {seen : Option Bytes}

theorem lawful_of_note {reads : List Event} {found : Except IoError (Option Bytes)} (n : Note)
    (h : Reading file reads found)
    (hseen : ∀ snapshot, found = .ok (some snapshot) → seen = some snapshot) :
    Lawful file box seen ⟨reads ++ [.noted n], .ok (passing found)⟩ := by
  refine ⟨?_, ?_, ?_, ?_, fun _ => ⟨reads, n, rfl, h.forall_reads⟩, ?_⟩ <;>
    rcases found with error | _ | snapshot <;>
    simp_all [h.fails_iff, h.snapshot?_eq, Except.toOption, passing]

theorem interprets_of_runs {reads steps : List Event} {snapshot : Bytes}
    {outcome : Except Crash Interpretation} (h : ∀ e ∈ reads, e.Reads file)
    (run : Runs (box.interpret (Utf8.decodeLossy snapshot)) steps outcome) :
    Interprets file box snapshot ⟨reads ++ steps,
      outcome.map fun i => if i.isRejected then .rejected else .executed⟩ := by
  refine ⟨reads, steps, outcome, rfl, h, run, ?_⟩
  split <;> rename_i hparse
  · obtain ⟨-, rfl⟩ := Sandbox.runs_interpret_of_error hparse run
    exact ⟨rfl, rfl⟩
  · obtain ⟨first, ⟨why, rfl, rfl, hexecute⟩ | ⟨o, rfl, rfl, hexecute⟩⟩ :=
      Sandbox.runs_interpret_of_ok hparse run
    · refine .inr ⟨?_, why, rfl, rfl⟩
      simpa [Execution.Unshowable] using (Execution.unshowable_iff_crash hexecute).2 ⟨why, rfl⟩
    · refine .inl ⟨fun hunshowable => ?_, o, rfl, rfl⟩
      obtain ⟨why, hcrash⟩ := (Execution.unshowable_iff_crash hexecute).1
        (by simpa [Execution.Unshowable] using hunshowable)
      cases hcrash

theorem Interprets.result_ne {snapshot : Bytes} {cycle : Cycle}
    (h : cycle.Interprets file box snapshot) :
    cycle.result ≠ .ok .busy ∧ cycle.result ≠ .ok .unreadable ∧ cycle.result ≠ .ok .empty
      ∧ cycle.result ≠ .ok .duplicate ∧ cycle.accepted? file = cycle.snapshot? file := by
  obtain ⟨_, _, outcome, -, -, -, h⟩ := h
  split at h
  · simp [h.2, accepted?]
  · rcases h with ⟨-, o, -, hr⟩ | ⟨-, why, -, hr⟩ <;> simp [hr, accepted?]

theorem lawful_of_interprets {reads steps : List Event} {snapshot : Bytes}
    {result : Except Crash CycleResult} (h : Reading file reads (.ok (some snapshot)))
    (hseen : seen ≠ some snapshot)
    (hcycle : Interprets file box snapshot ⟨reads ++ steps, result⟩) :
    Lawful file box seen ⟨reads ++ steps, result⟩ := by
  obtain ⟨hbusy, hunreadable, hempty, hduplicate, -⟩ := hcycle.result_ne
  have hsnap : (⟨reads ++ steps, result⟩ : Cycle).snapshot? file = some snapshot := h.snapshot?_eq
  have hfails : ¬ (⟨reads ++ steps, result⟩ : Cycle).Fails file := by
    simp [h.fails_iff]
  refine ⟨hbusy, iff_of_false hunreadable hfails, iff_of_false hempty ?_,
    iff_of_false hduplicate ?_, ?_, ?_⟩
  · simp [hsnap]
  · simpa [hsnap] using hseen
  · rintro (hnone | heq)
    · simp [hsnap] at hnone
    · exact absurd (heq.symm.trans hsnap) hseen
  · rintro other hother -
    obtain rfl := Option.some.inj (hsnap.symm.trans hother)
    exact hcycle

/-- A lawful cycle accepts its snapshot unless it is the one accepted last. -/
theorem Lawful.accepted?_eq {cycle : Cycle} (h : Lawful file box seen cycle) :
    cycle.accepted? file
      = if cycle.snapshot? file = seen then none else cycle.snapshot? file := by
  rcases hsnap : cycle.snapshot? file with _ | snapshot
  · have hresult : cycle.result = .ok .unreadable ∨ cycle.result = .ok .empty := by
      rw [h.unreadable, h.empty, hsnap]
      tauto
    rcases hresult with hr | hr <;> simp [accepted?, hr]
  · split_ifs with hseen
    · have hr := h.duplicate.2 ⟨snapshot, hsnap, hseen.symm⟩
      simp [accepted?, hr]
    · rw [(h.interprets snapshot hsnap (Ne.symm hseen)).result_ne.2.2.2.2, hsnap]

end Cycle

namespace ChangeLoop

/-- A cycle of an idle loop is lawful and leaves the loop idle, with what it accepted in mind. -/
theorem lawful_of_runs {file : Text} {box : Sandbox} {seen : Option Bytes} {events : List Event}
    {result : Except Crash (CycleResult × ChangeLoop)}
    (run : Runs (ChangeLoop.onChange ⟨file, box, .idle, seen⟩) events result) :
    let cycle : Cycle := ⟨events, result.map Prod.fst⟩
    cycle.Lawful file box seen ∧ ∀ r next, result = .ok (r, next) →
      next = ⟨file, box, .idle, (cycle.accepted? file).or seen⟩ := by
  obtain ⟨reads, found, rest, rfl, hreads, hnote | hinterpret⟩ := runs_onChange run
  · obtain ⟨rfl, hseen, rfl⟩ := hnote
    refine ⟨Cycle.lawful_of_note _ hreads hseen, ?_⟩
    rintro r next ⟨⟩
    cases found with
    | error error => rfl
    | ok snapshot? => cases snapshot? <;> rfl
  · obtain ⟨snapshot, outcome, rfl, hseen, hrun, rfl⟩ := hinterpret
    have hcycle := Cycle.interprets_of_runs hreads.forall_reads hrun
    have haccepted := hcycle.result_ne.2.2.2.2.trans hreads.snapshot?_eq
    cases outcome with
    | error why => exact ⟨Cycle.lawful_of_interprets hreads hseen hcycle, by rintro r next ⟨⟩⟩
    | ok i =>
      refine ⟨Cycle.lawful_of_interprets hreads hseen hcycle, ?_⟩
      rintro r next ⟨⟩
      exact congrArg (fun last => (⟨file, box, .idle, Option.or last seen⟩ : ChangeLoop))
        haccepted.symm

end ChangeLoop

/-- The snapshots interpreted in some cycles, in their order. -/
def interpreted (file : Text) (cycles : List Cycle) : List Bytes :=
  cycles.filterMap (Cycle.accepted? file)

/-- The snapshots found in some cycles, in their order. -/
def snapshots (file : Text) (cycles : List Cycle) : List Bytes :=
  cycles.filterMap (Cycle.snapshot? file)

theorem interpreted_concat (file : Text) (cycles : List Cycle) (cycle : Cycle) :
    interpreted file (cycles ++ [cycle])
      = interpreted file cycles ++ (cycle.accepted? file).toList := by
  rw [interpreted, interpreted, List.filterMap_append]
  cases h : cycle.accepted? file <;> simp [h]

theorem snapshots_concat (file : Text) (cycles : List Cycle) (cycle : Cycle) :
    snapshots file (cycles ++ [cycle])
      = snapshots file cycles ++ (cycle.snapshot? file).toList := by
  rw [snapshots, snapshots, List.filterMap_append]
  cases h : cycle.snapshot? file <;> simp [h]

theorem getLast?_interpreted_concat (file : Text) (cycles : List Cycle) (cycle : Cycle) :
    (interpreted file (cycles ++ [cycle])).getLast?
      = (cycle.accepted? file).or (interpreted file cycles).getLast? := by
  rw [interpreted_concat]
  cases cycle.accepted? file <;> simp

section History

variable {file : Text} {box : Sandbox} {cycles : List Cycle}

/-- Each cycle is lawful with what was interpreted before it in mind. -/
def AllLawful (file : Text) (box : Sandbox) (cycles : List Cycle) : Prop :=
  ∀ before cycle, before ++ [cycle] <+: cycles →
    cycle.Lawful file box (interpreted file before).getLast?

theorem allLawful_concat_iff {cycle : Cycle} :
    AllLawful file box (cycles ++ [cycle]) ↔ AllLawful file box cycles
      ∧ cycle.Lawful file box (interpreted file cycles).getLast? := by
  refine ⟨fun h => ⟨fun before other hpre => ?_, h cycles cycle List.prefix_rfl⟩, ?_⟩
  · exact h before other (hpre.trans (List.prefix_append _ _))
  · rintro ⟨h, hcycle⟩ before other hpre
    rcases List.prefix_concat_iff.1 hpre with heq | hpre
    · obtain ⟨rfl, hlast⟩ := List.append_inj' heq rfl
      obtain rfl := List.singleton_inj.1 hlast
      exact hcycle
    · exact h before other hpre

/-- What lawful cycles interpret is what they find, free of repetitions. -/
theorem AllLawful.interpreted_eq (h : AllLawful file box cycles) :
    interpreted file cycles = (snapshots file cycles).destutter (· ≠ ·) := by
  induction cycles using List.reverseRecOn with
  | nil => rfl
  | append_singleton cycles cycle ih =>
    obtain ⟨hbefore, hcycle⟩ := allLawful_concat_iff.1 h
    rw [interpreted_concat, snapshots_concat, hcycle.accepted?_eq]
    rcases hsnap : cycle.snapshot? file with _ | snapshot
    · simpa using ih hbefore
    · rw [Option.toList_some, List.destutter_concat_ne, ← ih hbefore]
      by_cases hlast : (interpreted file cycles).getLast? = some snapshot
      · simp [hlast]
      · simp [hlast, Ne.symm hlast]

/-- The cycles of a new loop are lawful, and a loop that they leave is idle and remembers what was
interpreted last. -/
theorem Cycles.allLawful {loop? : Option ChangeLoop} (h : Cycles (.new file box) cycles loop?) :
    AllLawful file box cycles
      ∧ ∀ loop ∈ loop?, loop = ⟨file, box, .idle, (interpreted file cycles).getLast?⟩ := by
  induction h with
  | start =>
    refine ⟨fun before cycle hpre => ?_, fun loop hloop => ?_⟩
    · simp at hpre
    · cases hloop
      rfl
  | returned _ run ih =>
    obtain ⟨hall, hloop⟩ := ih
    obtain rfl := hloop _ rfl
    obtain ⟨hlawful, hnext⟩ := ChangeLoop.lawful_of_runs run
    refine ⟨allLawful_concat_iff.2 ⟨hall, hlawful⟩, fun loop hloop => ?_⟩
    cases hloop
    rw [hnext _ _ rfl, getLast?_interpreted_concat]
    rfl
  | crashed _ run ih =>
    obtain ⟨hall, hloop⟩ := ih
    obtain rfl := hloop _ rfl
    exact ⟨allLawful_concat_iff.2 ⟨hall, (ChangeLoop.lawful_of_runs run).1⟩, by simp⟩

/-- Every cycle of a new loop begins with an idle loop. -/
theorem Cycles.exists_runs {loop? : Option ChangeLoop} (h : Cycles (.new file box) cycles loop?) :
    ∀ cycle ∈ cycles, ∃ seen result,
      Runs (ChangeLoop.onChange ⟨file, box, .idle, seen⟩) cycle.events result
        ∧ cycle.result = result.map Prod.fst := by
  induction h with
  | start => simp
  | returned hbefore run ih | crashed hbefore run ih =>
    obtain rfl := hbefore.allLawful.2 _ rfl
    rw [List.forall_mem_append, List.forall_mem_singleton]
    exact ⟨ih, _, _, run, rfl⟩

/-- Every cycle of a new loop goes as its readings and the snapshot interpreted last call for, and
what is interpreted is what is found, free of repetitions. Between cycles the loop is idle. -/
theorem history_of_cycles {loop? : Option ChangeLoop} (h : Cycles (.new file box) cycles loop?) :
    AllLawful file box cycles
      ∧ interpreted file cycles = (snapshots file cycles).destutter (· ≠ ·)
      ∧ (loop? = none ↔ ∃ before cycle why, cycles = before ++ [cycle] ∧ cycle.result = .error why)
      ∧ ∀ loop ∈ loop?, loop = ⟨file, box, .idle, (interpreted file cycles).getLast?⟩ := by
  obtain ⟨hall, hloop⟩ := h.allLawful
  refine ⟨hall, hall.interpreted_eq, ?_, hloop⟩
  cases h <;> simp

/-- A file that is missing, then holds a line feed, cannot be read, and holds it again. -/
theorem history_of_cycles_line_feed :
    ∃ cycles loop, Cycles (.new "/c".toList ⟨⟨[]⟩⟩) cycles (some loop)
      ∧ cycles.map Cycle.result = [.ok .empty, .ok .rejected, .ok .unreadable, .ok .duplicate]
      ∧ interpreted "/c".toList cycles = [[0x0A]] ∧ loop.memory = ⟨.idle, some [0x0A]⟩ := by
  let there : FileStatus := ⟨.file, 1, none, none, none⟩
  have h₀ : Cycles (.new "/c".toList ⟨⟨[]⟩⟩) [] _ := .start
  have h₁ := h₀.returned
    (@Runs.ask _ (.status "/c".toList) _ (.error ⟨.notFound, [], []⟩) _ _ (.note (.done _)))
  have h₂ := h₁.returned (@Runs.ask _ (.status "/c".toList) _ (.ok there) _ _
    (@Runs.ask _ (.read "/c".toList) _ (.ok [0x0A]) _ _ (.note (.done _))))
  have h₃ := h₂.returned
    (@Runs.ask _ (.status "/c".toList) _ (.error ⟨.permissionDenied, [], []⟩) _ _ (.note (.done _)))
  have h₄ := h₃.returned (@Runs.ask _ (.status "/c".toList) _ (.ok there) _ _
    (@Runs.ask _ (.read "/c".toList) _ (.ok [0x0A]) _ _ (.note (.done _))))
  obtain ⟨-, hinterpreted, -, hloop⟩ := history_of_cycles h₄
  refine ⟨_, _, h₄, rfl, ?_, ?_⟩
  · rw [hinterpreted]
    decide
  · rw [hloop _ rfl, hinterpreted]
    decide

/-- A modification time of which the calendar has no date crashes the cycle that is to show it. -/
theorem history_of_cycles_beyond_calendar :
    ∃ cycles, Cycles (.new "/work/command.txt".toList ⟨⟨["work".toList]⟩⟩) cycles none
      ∧ cycles.map (Cycle.snapshot? "/work/command.txt".toList)
        = [some (Utf8.encode "file info a".toList)]
      ∧ Grammar.standard.parse "file info a".toList = .ok (.info "a".toList)
      ∧ cycles.map Cycle.result = [.error .timeOutOfRange] := by
  let status : FileStatus := ⟨.file, 1, none, some ⟨9000000000000000, 0⟩, none⟩
  have hparse : Grammar.standard.parse "file info a".toList = .ok (.info "a".toList) := by
    have hcore : Command.core "file info a".toList = Verb.info.words ++ " a".toList := by
      decide +kernel
    have hopens : Opens Verb.info.words (Command.body "file info a".toList) :=
      ⟨" a".toList, by decide +kernel, .inr ⟨' ', rfl, by decide⟩⟩
    obtain ⟨rest, tail, hrest, -, hreads⟩ := Grammar.parse_of_opens (by rw [hcore]; simp) hopens
    obtain rfl := List.append_cancel_left (hcore.symm.trans hrest)
    exact hreads
  have hcrash : Execution.infoReport? "a".toList status = none := by decide +kernel
  have hdecode : Utf8.decodeLossy (Utf8.encode "file info a".toList) = "file info a".toList := by
    decide +kernel
  have hexecute : Runs ((Operation.info "a".toList).execute ⟨⟨["work".toList]⟩⟩)
      [.called (.isPresent "/work/a".toList) (.ok true),
        .called (.status "/work/a".toList) (.ok status)] (.error .timeOutOfRange) := by
    refine @Runs.ask _ (.isPresent "/work/a".toList) _ (.ok true) _ _ ?_
    refine @Runs.ask _ (.status "/work/a".toList) _ (.ok status) _ _ ?_
    dsimp only
    rw [hcrash]
    exact .crash _
  obtain ⟨steps, hinterpret⟩ : ∃ steps, Runs ((⟨⟨["work".toList]⟩⟩ : Sandbox).interpret
      (Utf8.decodeLossy (Utf8.encode "file info a".toList))) steps (.error .timeOutOfRange) := by
    rw [hdecode, Sandbox.interpret, hparse]
    exact ⟨_, .note (Runs.bind_error hexecute rfl _)⟩
  have hne : Utf8.encode "file info a".toList ≠ [] := by decide +kernel
  refine ⟨_, Cycles.start.crashed (ChangeLoop.runs_accepted hne (by simp) hinterpret), ?_, hparse,
    rfl⟩
  exact congrArg (fun snapshot? => [snapshot?]) (ChangeLoop.snapshot?_readings hne)

end History

end Watch

end FileClerk
