import Mathlib.Data.Option.Defs
import FileClerk.Disk.Scripted
import FileClerk.Proofs.Ending

/-!
# The spelling of a path

Two spellings of one place are the same to the disk. Operations that differ only in how their paths
are spelled ask the same calls as long as they are answered alike, and end alike: they fail with the
same failure, or their messages differ in the paths they show and in nothing else
(`Operation.alike_of_respelled`).

Two actions are `Alike` if they are so step by step, whatever is answered. Each way of putting an
operation together makes like actions of like parts.
-/

namespace FileClerk

/-- One text shows a path wherever the other shows its counterpart, and the rest is the same. -/
inductive Reworded (pairs : List (Text × Text)) : Text → Text → Prop
  | same (words : Text) : Reworded pairs words words
  | words {s t : Text} (words : Text) : Reworded pairs s t →
      Reworded pairs (s ++ words) (t ++ words)
  | path {s t p q : Text} : (p, q) ∈ pairs → Reworded pairs s t → Reworded pairs (s ++ p) (t ++ q)

/-- Outcomes of one kind, with the same failure or with messages that differ in their paths. -/
inductive Outcome.Alike (pairs : List (Text × Text)) : Outcome → Outcome → Prop
  | success {s t : Text} : Reworded pairs s t → Alike pairs (success s) (success t)
  | skipped {s t : Text} : Reworded pairs s t → Alike pairs (skipped s) (skipped t)
  | failed (failure : Failure) : Alike pairs (failed failure) (failed failure)

namespace Action

variable {α : Type}

/-- Results of one kind: the same crash, or results that are related. -/
inductive EndsAlike (R : α → α → Prop) : Except Crash α → Except Crash α → Prop
  | done {a b : α} : R a b → EndsAlike R (.ok a) (.ok b)
  | crash (why : Crash) : EndsAlike R (.error why) (.error why)

/-- Whatever is answered, the actions ask the same calls, note the same notes, and end with results
that are related. -/
inductive Alike (R : α → α → Prop) : Action α → Action α → Prop
  | done {a b : α} : R a b → Alike R (done a) (done b)
  | crash (why : Crash) : Alike R (crash why) (crash why)
  | ask {call : Call} {next next' : call.Answer → Action α} :
      (∀ answer, Alike R (next answer) (next' answer)) → Alike R (ask call next) (ask call next')
  | note {n : Note} {next next' : Action α} : Alike R next next' →
      Alike R (note n next) (note n next')

theorem Alike.run {σ : Type} {R : α → α → Prop} {action action' : Action α}
    (h : Alike R action action') (answering : Answering σ) (s : σ) :
    (action.run answering s).events = (action'.run answering s).events
      ∧ (action.run answering s).state = (action'.run answering s).state
      ∧ EndsAlike R (action.run answering s).result (action'.run answering s).result := by
  induction h generalizing s with
  | done h => exact ⟨rfl, rfl, .done h⟩
  | crash why => exact ⟨rfl, rfl, .crash why⟩
  | @ask call next next' _ ih =>
    obtain ⟨hevents, hstate, hends⟩ := ih (answering call s).1 (answering call s).2
    exact ⟨congrArg (List.cons _) hevents, hstate, hends⟩
  | note _ ih =>
    obtain ⟨hevents, hstate, hends⟩ := ih s
    exact ⟨congrArg (List.cons _) hevents, hstate, hends⟩

end Action

/-- Operations of one kind whose paths are resolved alike, one by one. -/
inductive Operation.Respelled (box : Sandbox) : Operation → Operation → Prop
  | create {p q : Text} : box.resolve p = box.resolve q → Respelled box (.create p) (.create q)
  | delete {p q : Text} : box.resolve p = box.resolve q → Respelled box (.delete p) (.delete q)
  | rename {p q p' q' : Text} : box.resolve p = box.resolve q → box.resolve p' = box.resolve q' →
      Respelled box (.rename p p') (.rename q q')
  | append {p q : Text} (content : Text) : box.resolve p = box.resolve q →
      Respelled box (.append p content) (.append q content)
  | read {p q : Text} : box.resolve p = box.resolve q → Respelled box (.read p) (.read q)
  | copy {p q p' q' : Text} : box.resolve p = box.resolve q → box.resolve p' = box.resolve q' →
      Respelled box (.copy p p') (.copy q q')
  | list {p q : Text} : box.resolve p = box.resolve q → Respelled box (.list p) (.list q)
  | info {p q : Text} : box.resolve p = box.resolve q → Respelled box (.info p) (.info q)

namespace Execution

open FileClerk.Action Reworded

variable {box : Sandbox} {pairs : List (Text × Text)} {p q p' q' : Text}

theorem alike_resolving {next next' : Location → Action Outcome}
    (hresolve : box.resolve p = box.resolve q)
    (h : ∀ place, Alike (Outcome.Alike pairs) (next place) (next' place)) :
    Alike (Outcome.Alike pairs) (resolving box p next) (resolving box q next') := by
  unfold resolving
  rw [hresolve]
  cases box.resolve q with
  | ok place => exact h place
  | error error => exact .done (.failed _)

theorem alike_attempting {attempt : Attempt} {place : Location} {call : Call}
    {next next' : call.Reply → Action Outcome}
    (h : ∀ reply, Alike (Outcome.Alike pairs) (next reply) (next' reply)) :
    Alike (Outcome.Alike pairs) (attempting attempt place call next)
      (attempting attempt place call next') := by
  refine .ask fun answer => ?_
  cases answer with
  | ok reply => exact h reply
  | error error => exact .done (.failed _)

theorem alike_ifPresent {place : Location} {next next' : Bool → Action Outcome}
    (h : ∀ there, Alike (Outcome.Alike pairs) (next there) (next' there)) :
    Alike (Outcome.Alike pairs) (ifPresent place next) (ifPresent place next') :=
  alike_attempting h

theorem alike_underParent {place : Location} {next next' : Action Outcome}
    (h : Alike (Outcome.Alike pairs) next next') :
    Alike (Outcome.Alike pairs) (underParent box place next) (underParent box place next') := by
  unfold underParent
  split
  · exact h
  · split_ifs
    · exact alike_attempting fun _ => h
    · exact h

theorem alike_success {s t : Text} (h : Reworded pairs s t) :
    Alike (Outcome.Alike pairs) (success s) (success t) := .done (.success h)

theorem alike_skipped {s t : Text} (h : Reworded pairs s t) :
    Alike (Outcome.Alike pairs) (skipped s) (skipped t) := .done (.skipped h)

theorem reworded_absent (h : (p, q) ∈ pairs) : Reworded pairs (absent p) (absent q) :=
  .words _ (.path h (.same _))

theorem reworded_present (h : (p, q) ∈ pairs) : Reworded pairs (present p) (present q) :=
  .words _ (.path h (.same _))

theorem reworded_contentReport (h : (p, q) ∈ pairs) (content : Bytes) :
    Reworded pairs (contentReport p content) (contentReport q content) := by
  have hheading : Reworded pairs ("contents of ".toList ++ p) ("contents of ".toList ++ q) :=
    .path h (.same _)
  unfold contentReport
  dsimp only
  split_ifs
  · exact .words _ (.words _ hheading)
  · split
    · exact .words _ (.words _ hheading)
    · exact .words _ (.words _ (.words _ hheading))

theorem reworded_listReport (h : (p, q) ∈ pairs) (entries : List DirectoryEntry) :
    Reworded pairs (listReport p entries) (listReport q entries) :=
  .words _ (.words _ (.words _ (.words _ (.words _ (.path h (.same []))))))

/-- Whether there is a report on a status does not depend on the path. -/
theorem rel_infoReport? (h : (p, q) ∈ pairs) (status : FileStatus) :
    Option.Rel (Reworded pairs) (infoReport? p status) (infoReport? q status) := by
  unfold infoReport?
  rcases timeText? status.created with _ | created
  · exact .none
  rcases timeText? status.modified with _ | modified
  · exact .none
  rcases timeText? status.accessed with _ | accessed
  · exact .none
  refine .some ?_
  repeat apply Reworded.words
  exact .path h (.same _)

theorem alike_create (h : (p, q) ∈ pairs) (hresolve : box.resolve p = box.resolve q) :
    Alike (Outcome.Alike pairs) (create box p) (create box q) := by
  refine alike_resolving hresolve fun place => alike_ifPresent fun there => ?_
  split_ifs
  · exact alike_skipped (reworded_present h)
  · refine alike_underParent (.ask fun answer => ?_)
    cases answer with
    | ok reply => exact alike_success (.path h (.same _))
    | error error =>
      dsimp only
      split_ifs
      · exact alike_skipped (reworded_present h)
      · exact .done (.failed _)

theorem alike_delete (h : (p, q) ∈ pairs) (hresolve : box.resolve p = box.resolve q) :
    Alike (Outcome.Alike pairs) (delete box p) (delete box q) := by
  refine alike_resolving hresolve fun place => alike_ifPresent fun there => ?_
  split_ifs
  · exact alike_attempting fun _ => alike_success (.path h (.same _))
  · exact alike_skipped (reworded_absent h)

theorem alike_rename (h : (p, q) ∈ pairs) (h' : (p', q') ∈ pairs)
    (hresolve : box.resolve p = box.resolve q) (hresolve' : box.resolve p' = box.resolve q') :
    Alike (Outcome.Alike pairs) (rename box p p') (rename box q q') := by
  refine alike_resolving hresolve fun old => alike_resolving hresolve' fun new =>
    alike_ifPresent fun there => ?_
  split_ifs
  · refine alike_ifPresent fun taken => ?_
    split_ifs
    · exact alike_skipped (.words _ (reworded_present h'))
    · refine alike_underParent (alike_attempting fun _ => alike_success ?_)
      exact .path h' (.words _ (.path h (.same _)))
  · exact alike_skipped (reworded_absent h)

theorem alike_append (h : (p, q) ∈ pairs) (hresolve : box.resolve p = box.resolve q)
    (content : Text) : Alike (Outcome.Alike pairs) (append box p content) (append box q content) :=
  alike_resolving hresolve fun _ =>
    alike_underParent (alike_attempting fun _ => alike_success (.path h (.same _)))

theorem alike_read (h : (p, q) ∈ pairs) (hresolve : box.resolve p = box.resolve q) :
    Alike (Outcome.Alike pairs) (read box p) (read box q) := by
  refine alike_resolving hresolve fun place => alike_ifPresent fun there => ?_
  split_ifs
  · exact alike_attempting fun content => alike_success (reworded_contentReport h content)
  · exact alike_skipped (reworded_absent h)

theorem alike_copy (h : (p, q) ∈ pairs) (h' : (p', q') ∈ pairs)
    (hresolve : box.resolve p = box.resolve q) (hresolve' : box.resolve p' = box.resolve q') :
    Alike (Outcome.Alike pairs) (copy box p p') (copy box q q') := by
  refine alike_resolving hresolve fun old => alike_resolving hresolve' fun new => ?_
  split_ifs
  · exact alike_skipped (.words _ (.path h' (.words _ (.path h (.same [])))))
  · refine alike_ifPresent fun there => ?_
    split_ifs
    · refine alike_underParent (alike_attempting fun count => alike_success ?_)
      exact .words _ (.words _ (.words _ (.path h' (.words _ (.path h (.same _))))))
    · exact alike_skipped (reworded_absent h)

theorem alike_list (h : (p, q) ∈ pairs) (hresolve : box.resolve p = box.resolve q) :
    Alike (Outcome.Alike pairs) (list box p) (list box q) := by
  refine alike_resolving hresolve fun place => .ask fun answer => ?_
  cases answer with
  | error error => exact .done (.failed _)
  | ok status =>
    dsimp only
    split_ifs
    · exact alike_attempting fun entries => alike_success (reworded_listReport h entries)
    · exact .done (.failed _)

theorem alike_info (h : (p, q) ∈ pairs) (hresolve : box.resolve p = box.resolve q) :
    Alike (Outcome.Alike pairs) (info box p) (info box q) := by
  refine alike_resolving hresolve fun place => alike_ifPresent fun there => ?_
  split_ifs
  · refine alike_attempting fun status => ?_
    have hrel := rel_infoReport? h status
    generalize infoReport? p status = report, infoReport? q status = report' at hrel ⊢
    cases hrel with
    | none => exact .crash _
    | some hreport => exact alike_success hreport
  · exact alike_skipped (.words _ (.path h (.same [])))

end Execution

namespace Operation

open Execution

variable {box : Sandbox} {operation operation' : Operation}

theorem Respelled.alike_execute (h : operation.Respelled box operation') :
    Action.Alike (Outcome.Alike (operation.paths.zip operation'.paths))
      (operation.execute box) (operation'.execute box) := by
  cases h with
  | create hresolve => exact alike_create (by simp [paths]) hresolve
  | delete hresolve => exact alike_delete (by simp [paths]) hresolve
  | rename hold hnew => exact alike_rename (by simp [paths]) (by simp [paths]) hold hnew
  | append content hresolve => exact alike_append (by simp [paths]) hresolve content
  | read hresolve => exact alike_read (by simp [paths]) hresolve
  | copy hsource htarget => exact alike_copy (by simp [paths]) (by simp [paths]) hsource htarget
  | list hresolve => exact alike_list (by simp [paths]) hresolve
  | info hresolve => exact alike_info (by simp [paths]) hresolve

/-- On anything that answers from what it was asked before, an operation asks the same calls however
its paths are spelled, and ends alike. -/
theorem alike_of_respelled {σ : Type} (h : operation.Respelled box operation')
    (answering : Answering σ) (s : σ) :
    let run := (operation.execute box).run answering s
    let run' := (operation'.execute box).run answering s
    run.events = run'.events ∧ run.state = run'.state
      ∧ Action.EndsAlike (Outcome.Alike (operation.paths.zip operation'.paths))
        run.result run'.result :=
  h.alike_execute.run answering s

theorem alike_of_respelled_rename :
    let box := Sandbox.ofRoot [] "/work".toList
    let operation := Operation.rename "a".toList "b".toList
    let operation' := Operation.rename "./a".toList "c/../b".toList
    let script : Script := ⟨[.ok true, .ok false], [], [], [], [], [], [], [], [], []⟩
    let run := (operation.execute box).run Script.answer script
    let run' := (operation'.execute box).run Script.answer script
    operation.Respelled box operation'
      ∧ run.result = .ok (.success "renamed a to b".toList)
      ∧ run'.result = .ok (.success "renamed ./a to c/../b".toList)
      ∧ run.events = run'.events
      ∧ Action.EndsAlike (Outcome.Alike (operation.paths.zip operation'.paths))
        run.result run'.result := by
  intro box operation operation' script run run'
  have h : operation.Respelled box operation' := .rename rfl rfl
  obtain ⟨hevents, -, hends⟩ := alike_of_respelled h Script.answer script
  exact ⟨h, rfl, rfl, hevents, hends⟩

end Operation

end FileClerk
