import FileClerk.Proofs.History
import FileClerk.Proofs.Octets
import FileClerk.Proofs.Rendering

/-!
# Appending through the command file

A command to append, written into the command file, is read back with its content whole but for its
line ends, which are folded, and one line feed at its end (`parse_append`). So a watch that meets
such commands one after the other appends what they hold, in their order, and nothing else
(`appends_of_cycles`).
-/

namespace FileClerk

open Text FileClerk.Action

/-- What is left of a content: its line ends folded, and then one line feed gone from its end. -/
def Leaves (content payload : Text) : Prop :=
  ∃ folded, Folds content folded ∧ DropsFinalFeed folded payload

def payload (content : Text) : Text := Command.dropFinalNewline content.foldNewlines

theorem leaves_iff {content s : Text} : Leaves content s ↔ s = payload content := by
  simp only [Leaves, folds_iff, exists_eq_left]
  exact Command.dropsFinalFeed_iff

/-- A path that a command to append keeps apart from its content. -/
structure Separable (path : Text) : Prop where
  newline : ¬ ['\r', '\n'] <:+: path
  head : ∀ c ∈ path.head?, ¬ isBlank c
  last : ∀ c ∈ path.getLast?, ¬ isBlank c
  separator : ¬ " this content: ".toList <:+: ' ' :: path ++ " this content:".toList

section Parse

variable {path : Text} (content : Text)

theorem text_append : (Operation.append path content).text
    = "add to the file ".toList ++ path ++ " this content: ".toList ++ content := rfl

theorem parse_append (h : Separable path) :
    Grammar.standard.parse (Operation.append path content).text
      = .ok (.append path (payload content)) := by
  have hdetached : Detached " this content: ".toList path := by
    refine ⟨h.newline, h.head, h.last, ?_⟩
    have hshort : " this content: ".toList.dropLast = " this content:".toList := by decide +kernel
    rw [hshort]
    exact h.separator
  exact hdetached.reads_payload isSeparator_content (Operation.append path content).reads_text

end Parse

/-- A call that may change what a file holds, or whether it is there. -/
def Call.isChange : Call → Bool
  | .createEmpty _ | .removeFile _ | .rename _ _ | .append _ _ | .copy _ _ | .write _ _ => true
  | .isPresent _ | .createDirectories _ | .read _ | .list _ | .status _ => false

/-- The calls among some steps that may change a file. -/
def changes (events : List Event) : List Call := (events.filterMap Event.call?).filter Call.isChange

theorem changes_append (events later : List Event) :
    changes (events ++ later) = changes events ++ changes later := by
  simp [changes]

theorem changes_of_reads {file : Text} {events : List Event} (h : ∀ e ∈ events, e.Reads file) :
    changes events = [] := by
  rw [changes, List.filter_eq_nil_iff]
  intro call hcall
  obtain ⟨event, hmem, heq⟩ := List.mem_filterMap.1 hcall
  cases event with
  | noted n => cases heq
  | called made answer =>
    obtain rfl : made = call := by simpa [Event.call?] using heq
    rcases h _ hmem with rfl | rfl <;> simp [Call.isChange]

/-- Directories are made and files appended to where that is asked for. -/
def Event.Granted : Event → Prop
  | .called (.createDirectories _) answer => answer = .ok ()
  | .called (.append _ _) answer => answer = .ok ()
  | _ => True

/-- What a file holds after some calls, where appending to it does what it should. -/
def holding (file : Text) (content : Bytes) (calls : List Call) : Bytes :=
  calls.foldl (fun held call => match call with
    | .append path more => if path = file then held ++ more else held
    | _ => held) content

theorem holding_append (file : Text) (payloads : List Text) (content : Bytes) :
    holding file content (payloads.map fun s => .append file (Utf8.encode s))
      = content ++ (payloads.map Utf8.encode).flatten := by
  induction payloads generalizing content with
  | nil => simp [holding]
  | cons s payloads ih =>
    rw [List.map_cons, List.map_cons, List.flatten_cons, ← List.append_assoc, ← ih]
    simp [holding]

section Execution

variable {box : Sandbox} {path : Text} {place : Location} {events : List Event}

open Execution

theorem changes_of_runs_attempting {content : Bytes} {message : Text}
    {result : Except Crash Outcome}
    (run : Runs (attempting .append place (.append place.text content) fun _ => success message)
      events result) (hgranted : ∀ e ∈ events, e.Granted) :
    changes events = [.append place.text content] ∧ result = .ok (.success message) := by
  obtain ⟨answer, rest, rfl, hrest⟩ := runs_ask_iff.1 run
  obtain rfl : answer = .ok () := hgranted _ List.mem_cons_self
  obtain ⟨rfl, rfl⟩ := runs_done_iff.1 hrest
  exact ⟨rfl, rfl⟩

theorem changes_of_runs_execute {content : Text} {result : Except Crash Outcome}
    (hplace : box.resolve path = .ok place)
    (run : Runs ((Operation.append path content).execute box) events result)
    (hgranted : ∀ e ∈ events, e.Granted) :
    changes events = [.append place.text (Utf8.encode content)]
      ∧ ∃ message, result = .ok (.success message) := by
  change Runs (Execution.append box path content) events result at run
  unfold Execution.append at run
  rw [resolving_of_ok hplace] at run
  unfold underParent at run
  split at run
  · obtain ⟨hchanges, hresult⟩ := changes_of_runs_attempting run hgranted
    exact ⟨hchanges, _, hresult⟩
  split_ifs at run
  · obtain ⟨answer, rest, rfl, hrest⟩ := runs_ask_iff.1 run
    rw [List.forall_mem_cons] at hgranted
    obtain rfl : answer = .ok () := hgranted.1
    obtain ⟨hchanges, hresult⟩ := changes_of_runs_attempting hrest hgranted.2
    exact ⟨hchanges, _, hresult⟩
  · obtain ⟨hchanges, hresult⟩ := changes_of_runs_attempting run hgranted
    exact ⟨hchanges, _, hresult⟩

theorem exists_runs_execute (hplace : box.resolve path = .ok place) (content : Text) :
    ∃ events outcome, Runs ((Operation.append path content).execute box) events (.ok outcome)
      ∧ ∀ e ∈ events, e.Granted := by
  change ∃ events outcome, Runs (Execution.append box path content) events (.ok outcome) ∧ _
  unfold Execution.append
  rw [resolving_of_ok hplace]
  unfold underParent
  split
  · exact ⟨_, _, .ask (.ok ()) (.done _), by simp [Event.Granted]⟩
  split_ifs
  · exact ⟨_, _, .ask (.ok ()) (.ask (.ok ()) (.done _)), by simp [Event.Granted]⟩
  · exact ⟨_, _, .ask (.ok ()) (.done _), by simp [Event.Granted]⟩

theorem exists_runs_interpret (hpath : Separable path) (hplace : box.resolve path = .ok place)
    (content : Text) :
    ∃ events i, Runs (box.interpret (Operation.append path content).text) events (.ok i)
      ∧ ∀ e ∈ events, e.Granted := by
  obtain ⟨events, outcome, run, hgranted⟩ := exists_runs_execute hplace (payload content)
  rw [Sandbox.interpret, parse_append content hpath]
  refine ⟨_, _, .note (Runs.bind run rfl (.note (.done _))), ?_⟩
  rw [List.forall_mem_cons, List.forall_mem_append, List.forall_mem_singleton]
  exact ⟨trivial, hgranted, trivial⟩

end Execution

namespace Watch

variable {file : Text} {box : Sandbox} {path : Text} {place : Location} {cycle : Cycle}
  {seen : Option Bytes} {content : Text}

theorem Cycle.Passes.changes_eq (h : cycle.Passes file) : changes cycle.events = [] := by
  obtain ⟨reads, n, hevents, hreads⟩ := h
  rw [hevents, changes_append, changes_of_reads hreads]
  rfl

/-- A cycle that interprets a command to append does so, and nothing else to any file. -/
theorem Cycle.Interprets.changes_eq (hpath : Separable path) (hplace : box.resolve path = .ok place)
    (h : cycle.Interprets file box (Utf8.encode (Operation.append path content).text))
    (hgranted : ∀ e ∈ cycle.events, e.Granted) :
    changes cycle.events = [.append place.text (Utf8.encode (payload content))]
      ∧ cycle.result = .ok .executed := by
  obtain ⟨reads, steps, outcome, hevents, hreads, run, hverdict⟩ := h
  rw [Utf8.decodeLossy_encode] at run hverdict
  rw [parse_append content hpath] at hverdict
  rw [hevents, List.forall_mem_append] at hgranted
  rcases hverdict with ⟨-, o, rfl, hresult⟩ | ⟨⟨_, _, _, hinfo, -⟩, -⟩
  · obtain ⟨first, ⟨why, -, hwhy, -⟩ | ⟨outcome, rfl, -, hexecute⟩⟩ :=
      Sandbox.runs_interpret_of_ok (parse_append content hpath) run
    · cases hwhy
    · have hfirst : ∀ e ∈ first, e.Granted := fun e he =>
        hgranted.2 e (List.mem_cons_of_mem _ (List.mem_append_left _ he))
      have hchanges := (changes_of_runs_execute hplace hexecute hfirst).1
      refine ⟨?_, hresult⟩
      rw [hevents, changes_append, changes_of_reads hreads, List.nil_append]
      change changes (first ++ [.noted _]) = _
      rw [changes_append, hchanges]
      rfl
  · cases hinfo

/-- The octets of a command to append. -/
def commandBytes (path content : Text) : Bytes := Utf8.encode (Operation.append path content).text

theorem commandBytes_injective (path : Text) : Function.Injective (commandBytes path) := by
  intro content other h
  have htext := Utf8.encode_injective h
  rw [text_append, text_append] at htext
  exact List.append_cancel_left htext

theorem interpreted_eq_map {cycles : List Cycle} {contents : List Text}
    (hall : AllLawful file box cycles)
    (hheld : cycles.map (Cycle.snapshot? file) = contents.map fun c => some (commandBytes path c)) :
    interpreted file cycles = (contents.destutter (· ≠ ·)).map (commandBytes path) := by
  have hsnapshots : snapshots file cycles = contents.map (commandBytes path) := by
    have h := congrArg (List.filterMap id) hheld
    simpa [snapshots, List.filterMap_map, Function.comp_def] using h
  rw [hall.interpreted_eq, hsnapshots, List.map_destutter_ne _ (commandBytes_injective path)]

theorem AllLawful.changes_eq (hpath : Separable path) (hplace : box.resolve path = .ok place)
    (cycles : List Cycle) : ∀ {contents : List Text}, AllLawful file box cycles →
      cycles.map (Cycle.snapshot? file) = contents.map (fun c => some (commandBytes path c)) →
      (∀ cycle ∈ cycles, ∀ e ∈ cycle.events, e.Granted) →
      changes (cycles.flatMap Cycle.events) = (contents.destutter (· ≠ ·)).map
          (fun c => .append place.text (Utf8.encode (payload c)))
        ∧ ∀ cycle ∈ cycles, cycle.result = .ok .executed ∨ cycle.result = .ok .duplicate := by
  induction cycles using List.reverseRecOn with
  | nil =>
    intro contents _ hheld _
    obtain rfl : contents = [] := by simpa using hheld.symm
    simp [changes]
  | append_singleton cycles cycle ih =>
    intro contents hall hheld hgranted
    rw [List.map_append, List.map_singleton, eq_comm, List.map_eq_append_iff] at hheld
    obtain ⟨earlier, last, rfl, hearlier, hlast⟩ := hheld
    obtain ⟨content, rfl, hcontent⟩ := List.map_eq_singleton_iff.1 hlast
    obtain ⟨hbefore, hcycle⟩ := allLawful_concat_iff.1 hall
    rw [List.forall_mem_append, List.forall_mem_singleton] at hgranted
    obtain ⟨hchanges, hresults⟩ := ih hbefore hearlier.symm hgranted.1
    have hseen : (interpreted file cycles).getLast? = some (commandBytes path content)
        ↔ (earlier.destutter (· ≠ ·)).getLast? = some content := by
      rw [interpreted_eq_map hbefore hearlier.symm, List.getLast?_map]
      exact Option.map_eq_some_iff.trans
        ⟨fun ⟨c, hc, heq⟩ => commandBytes_injective path heq ▸ hc, fun h => ⟨content, h, rfl⟩⟩
    rw [List.flatMap_append, changes_append, hchanges, List.destutter_concat_ne,
      List.forall_mem_append, List.forall_mem_singleton, List.flatMap_singleton]
    split_ifs with hrepeated
    · -- The command repeats the one before it, and its cycle leaves every file alone.
      have hlast := hseen.2 hrepeated
      rw [(hcycle.passes (.inr (hcontent.symm.trans hlast.symm))).changes_eq, List.append_nil]
      exact ⟨rfl, hresults, .inr (hcycle.duplicate.2 ⟨_, hcontent.symm, hlast⟩)⟩
    · obtain ⟨hchange, hresult⟩ :=
        (hcycle.interprets _ hcontent.symm (mt hseen.1 hrepeated)).changes_eq
        hpath hplace hgranted.2
      rw [hchange, List.map_append]
      exact ⟨rfl, hresults, .inl hresult⟩

theorem commandBytes_ne_nil (path content : Text) : commandBytes path content ≠ [] := by
  intro h
  have htext : (Operation.append path content).text = [] := Utf8.encode_injective h
  rw [text_append] at htext
  simp at htext

/-- Whatever the commands to append, a new watch can meet them, one in each cycle. -/
theorem exists_cycles (file : Text) (hpath : Separable path) (hplace : box.resolve path = .ok place)
    (contents : List Text) :
    ∃ cycles loop, Cycles (.new file box) cycles (some loop)
      ∧ cycles.map (Cycle.snapshot? file) = contents.map (fun c => some (commandBytes path c))
      ∧ ∀ cycle ∈ cycles, ∀ e ∈ cycle.events, e.Granted := by
  induction contents using List.reverseRecOn with
  | nil => exact ⟨[], _, .start, rfl, by simp⟩
  | append_singleton contents content ih =>
    obtain ⟨cycles, loop, h, hheld, hgranted⟩ := ih
    obtain rfl := h.allLawful.2 loop rfl
    have hne := commandBytes_ne_nil path content
    have hlater : ∀ rest : List Event, (∀ e ∈ rest, e.Granted) →
        ∀ e ∈ ChangeLoop.readings file (commandBytes path content) ++ rest, e.Granted := by
      intro rest hrest
      rw [List.forall_mem_append]
      exact ⟨by simp [ChangeLoop.readings, Event.Granted], hrest⟩
    by_cases hseen : (interpreted file cycles).getLast? = some (commandBytes path content)
    · rw [hseen] at h
      refine ⟨_, _, h.returned (ChangeLoop.runs_duplicate hne), ?_, ?_⟩
      · rw [List.map_append, List.map_append, hheld, List.map_singleton,
          ChangeLoop.snapshot?_readings hne, List.map_singleton]
      · rw [List.forall_mem_append, List.forall_mem_singleton]
        exact ⟨hgranted, hlater _ (by simp [Event.Granted])⟩
    · obtain ⟨steps, i, run, hsteps⟩ := exists_runs_interpret hpath hplace content
      rw [← Utf8.decodeLossy_encode (Operation.append path content).text] at run
      refine ⟨_, _, h.returned (ChangeLoop.runs_accepted hne hseen run), ?_, ?_⟩
      · rw [List.map_append, List.map_append, hheld, List.map_singleton]
        exact congrArg (fun snapshot? => _ ++ [snapshot?]) (ChangeLoop.snapshot?_readings hne)
      · rw [List.forall_mem_append, List.forall_mem_singleton]
        exact ⟨hgranted, hlater _ hsteps⟩

/-- Commands to append to one file, met one after the other by a new watch, append what their
contents leave, in order and but for repetitions, and no other call changes a file. -/
theorem appends_of_cycles (hpath : Separable path) (hplace : box.resolve path = .ok place)
    {contents : List Text} {cycles : List Cycle} {loop? : Option ChangeLoop}
    (h : Cycles (.new file box) cycles loop?)
    (hheld : cycles.map (Cycle.snapshot? file)
      = contents.map fun c => some (Utf8.encode (Operation.append path c).text))
    (hgranted : ∀ cycle ∈ cycles, ∀ e ∈ cycle.events, e.Granted) :
    loop?.isSome ∧ ∃ payloads, List.Forall₂ Leaves (contents.destutter (· ≠ ·)) payloads
      ∧ changes (cycles.flatMap Cycle.events)
        = payloads.map (fun s => .append place.text (Utf8.encode s))
      ∧ ∀ content, holding place.text content (changes (cycles.flatMap Cycle.events))
        = content ++ (payloads.map Utf8.encode).flatten := by
  obtain ⟨hall, -⟩ := h.allLawful
  obtain ⟨hchanges, hresults⟩ := hall.changes_eq hpath hplace cycles hheld hgranted
  have hpayloads : changes (cycles.flatMap Cycle.events)
      = ((contents.destutter (· ≠ ·)).map payload).map
        (fun s => .append place.text (Utf8.encode s)) := by
    rw [hchanges, List.map_map]
    rfl
  refine ⟨?_, _, ?_, hpayloads, fun content => ?_⟩
  · cases h with
    | start | returned => rfl
    | crashed =>
      have hcrash := hresults _ (List.mem_append_right _ (List.mem_singleton_self _))
      simp at hcrash
  · exact List.forall₂_map_right_iff.2 (List.forall₂_same.2 fun c _ => leaves_iff.2 rfl)
  · rw [hpayloads, holding_append]

theorem appends_of_cycles_log :
    ∃ cycles loop, Cycles (.new "/c".toList ⟨⟨[]⟩⟩) cycles (some loop)
      ∧ (cycles.map (Cycle.snapshot? "/c".toList)
        = [" \r\n\n", " \r\n\n", "", "b this content: "].map fun c =>
          some (Utf8.encode (Operation.append "a b".toList c.toList).text))
      ∧ changes (cycles.flatMap Cycle.events)
        = [" \n", "", "b this content: "].map fun s =>
          .append "/a b".toList (Utf8.encode s.toList) := by
  have hpath : Separable "a b".toList := by
    refine ⟨by decide +kernel, ?_, ?_, by decide +kernel⟩ <;>
    · rintro c ⟨⟩
      decide
  have hplace : (⟨⟨[]⟩⟩ : Sandbox).resolve "a b".toList = .ok ⟨["a b".toList]⟩ := by
    decide +kernel
  obtain ⟨cycles, loop, h, hheld, hgranted⟩ := exists_cycles "/c".toList hpath hplace
    [" \r\n\n".toList, " \r\n\n".toList, [], "b this content: ".toList]
  obtain ⟨-, payloads, hleaves, hchanges, -⟩ :=
    appends_of_cycles hpath hplace h hheld hgranted
  have hpayloads : payloads = [" \n", "", "b this content: "].map String.toList := by
    have heq := List.forall₂_map_left_iff.2 (hleaves.imp fun _ _ hs => (leaves_iff.1 hs).symm)
    rw [List.forall₂_eq_eq_eq] at heq
    rw [← heq]
    decide +kernel
  refine ⟨cycles, loop, h, hheld, hchanges.trans ?_⟩
  rw [hpayloads, List.map_map]
  rfl

end Watch

end FileClerk
