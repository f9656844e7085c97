import FileClerk.Proofs.Ending
import FileClerk.Proofs.Resolution

/-!
# The course of an operation

An operation whose paths are resolved has a plan: what it looks at first, the directory it makes if
it makes one, and the call it is about, its deed. Every run keeps to the plan (`goes_of_runs`): an
answer lets the operation go on to the next call of the plan, or it ends the operation there, and
the last answer decides what comes of it (`Verdict`). An operation without a plan asks nothing.
-/

namespace FileClerk

/-- A call on the way to a deed, and the replies after which the way goes on. -/
structure Preliminary where
  call : Call
  passes : call.Reply → Prop

namespace Preliminary

/-- Looks whether something is at a place, and goes on if the answer is the one given. -/
def look (place : Location) (there : Bool) : Preliminary := ⟨.isPresent place.text, (· = there)⟩

def inspect (place : Location) : Preliminary :=
  ⟨.status place.text, fun status => status.kind = .directory⟩

def make (directory : Location) : Preliminary :=
  ⟨.createDirectories directory.text, fun _ => True⟩

/-- The call was made, and the way goes on after its answer. -/
def Passes (p : Preliminary) (e : Event) : Prop :=
  ∃ reply, p.passes reply ∧ e = .called p.call (.ok reply)

variable {p : Preliminary}

theorem passes_ok_iff {reply : p.call.Reply} :
    p.Passes (.called p.call (.ok reply)) ↔ p.passes reply := by
  simp [Passes]

theorem not_passes_error (error : IoError) : ¬ p.Passes (.called p.call (.error error)) := by
  simp [Passes]

end Preliminary

/-- What an operation asks of a disk as long as every answer lets it go on. -/
structure Plan where
  looks : List Preliminary
  directory? : Option Location
  deed : Call

def Plan.first (plan : Plan) : List Preliminary := plan.looks ++ plan.directory?.toList.map .make

/-- The directory to make for an entry at a place: the one above it, unless it is above the root. -/
def Sandbox.directoryFor? (box : Sandbox) (place : Location) : Option Location :=
  place.parent?.filter (·.isWithin box.root)

namespace Operation

/-- The plan of an operation whose paths are resolved; a copy of a place to itself has none. -/
inductive Plans (box : Sandbox) : Operation → Plan → Prop where
  | create {path place} : box.resolve path = .ok place →
      Plans box (.create path)
        ⟨[.look place false], box.directoryFor? place, .createEmpty place.text⟩
  | delete {path place} : box.resolve path = .ok place →
      Plans box (.delete path) ⟨[.look place true], none, .removeFile place.text⟩
  | rename {source target old new} : box.resolve source = .ok old → box.resolve target = .ok new →
      Plans box (.rename source target)
        ⟨[.look old true, .look new false], box.directoryFor? new, .rename old.text new.text⟩
  | append {path content place} : box.resolve path = .ok place →
      Plans box (.append path content)
        ⟨[], box.directoryFor? place, .append place.text (Utf8.encode content)⟩
  | read {path place} : box.resolve path = .ok place →
      Plans box (.read path) ⟨[.look place true], none, .read place.text⟩
  | copy {source target old new} : box.resolve source = .ok old → box.resolve target = .ok new →
      old ≠ new →
      Plans box (.copy source target)
        ⟨[.look old true], box.directoryFor? new, .copy old.text new.text⟩
  | list {path place} : box.resolve path = .ok place →
      Plans box (.list path) ⟨[.inspect place], none, .list place.text⟩
  | info {path place} : box.resolve path = .ok place →
      Plans box (.info path) ⟨[.look place true], none, .status place.text⟩

/-- An operation that asks nothing, and what comes of it. -/
inductive Idles (box : Sandbox) : Operation → Except Crash Outcome → Prop where
  | refused {operation path error} : path ∈ operation.paths → box.resolve path = .error error →
      Idles box operation (.ok (.failed (.path error)))
  | same {source target place message} : box.resolve source = .ok place →
      box.resolve target = .ok place → Idles box (.copy source target) (.ok (.skipped message))

/-- The errors that tell an operation what it wants to know: that the file to create is there, and
that the directory to list is not. -/
def Expects (operation : Operation) (call : Call) (error : IoError) : Prop :=
  match operation, call with
  | .create _, .createEmpty _ => error.kind = .alreadyExists
  | .list _, .status _ => error.kind = .notFound
  | _, _ => False

end Operation

/-- What a failed call of an operation was made for. -/
def Call.attempt? : Call → Option Attempt
  | .isPresent _ => some .check
  | .createDirectories _ => some .createDirectories
  | .createEmpty _ => some .create
  | .removeFile _ => some .delete
  | .rename _ _ => some .rename
  | .append _ _ => some .append
  | .read _ => some .read
  | .copy _ _ => some .copy
  | .list _ => some .list
  | .status _ => some .inspect
  | .write _ _ => none

/-- The failure is that of a call: it says what was attempted, at the first path of the call, and
has the call's own error as its cause. -/
def Failure.Tells (failure : Failure) (call : Call) (error : IoError) : Prop :=
  ∃ attempt place, call.attempt? = some attempt ∧ call.paths.head? = some place.text
    ∧ failure = .call attempt place error

/-- What the last call makes of an operation. -/
inductive Verdict (operation : Operation) (deed : Call) : Event → Except Crash Outcome → Prop where
  | done {reply message} :
      Verdict operation deed (.called deed (.ok reply)) (.ok (.success message))
  | crashed {reply why} : Verdict operation deed (.called deed (.ok reply)) (.error why)
  | looked {path there message} :
      Verdict operation deed (.called (.isPresent path) (.ok there)) (.ok (.skipped message))
  | unfit {raw place status} : operation = .list raw → status.kind ≠ .directory →
      Verdict operation deed (.called (.status place.text) (.ok status))
        (.ok (.failed (.notADirectory place)))
  | failed {call error failure} : ¬ operation.Expects call error → failure.Tells call error →
      Verdict operation deed (.called call (.error error)) (.ok (.failed failure))
  | missing {place error} : operation.Expects (.status place.text) error →
      Verdict operation deed (.called (.status place.text) (.error error))
        (.ok (.failed (.notFound place)))
  | taken {path error message} : operation.Expects (.createEmpty path) error →
      Verdict operation deed (.called (.createEmpty path) (.error error)) (.ok (.skipped message))

/-- The steps of an operation that has some calls before its deed still to make. -/
inductive Course (operation : Operation) (deed : Call) (result : Except Crash Outcome) :
    List Preliminary → List Event → Prop where
  | deed {answer} : Verdict operation deed (.called deed answer) result →
      Course operation deed result [] [.called deed answer]
  | ended {p rest answer} : ¬ p.Passes (.called p.call answer) →
      Verdict operation deed (.called p.call answer) result →
      Course operation deed result (p :: rest) [.called p.call answer]
  | passed {p rest e events} : p.Passes e → Course operation deed result rest events →
      Course operation deed result (p :: rest) (e :: events)

/-- How the steps of an operation go and what comes of it. -/
def Operation.Goes (box : Sandbox) (operation : Operation) (events : List Event)
    (result : Except Crash Outcome) : Prop :=
  (∃ plan, operation.Plans box plan ∧ Course operation plan.deed result plan.first events)
    ∨ events = [] ∧ operation.Idles box result

namespace Execution

open FileClerk.Action

variable {box : Sandbox} {operation : Operation} {deed : Call} {rest : List Preliminary}
  {events : List Event} {result : Except Crash Outcome} {place : Location}

theorem goes_resolving {raw : Text} {next : Location → Action Outcome}
    (hraw : raw ∈ operation.paths) (run : Runs (resolving box raw next) events result)
    (h : ∀ place, box.resolve raw = .ok place → Runs (next place) events result →
      operation.Goes box events result) : operation.Goes box events result := by
  unfold resolving at run
  split at run
  · rename_i place hplace
    exact h place hplace run
  · rename_i error herror
    obtain ⟨rfl, rfl⟩ := runs_done_iff.1 run
    exact .inr ⟨rfl, .refused hraw herror⟩

theorem course_attempting {p : Preliminary} {attempt : Attempt}
    {next : p.call.Reply → Action Outcome} (run : Runs (attempting attempt place p.call next) events
      result)
    (hattempt : p.call.attempt? = some attempt) (hplace : p.call.paths.head? = some place.text)
    (hexpects : ∀ error, ¬ operation.Expects p.call error)
    (hpass : ∀ reply events, p.passes reply → Runs (next reply) events result →
      Course operation deed result rest events)
    (hend : ∀ reply events, ¬ p.passes reply → Runs (next reply) events result →
      events = [] ∧ Verdict operation deed (.called p.call (.ok reply)) result) :
    Course operation deed result (p :: rest) events := by
  obtain ⟨error | reply, after, rfl, hafter⟩ := runs_ask_iff.1 run
  · obtain ⟨rfl, rfl⟩ := runs_done_iff.1 hafter
    exact .ended (Preliminary.not_passes_error error)
      (.failed (hexpects error) ⟨attempt, place, hattempt, hplace, rfl⟩)
  · by_cases hreply : p.passes reply
    · exact .passed (Preliminary.passes_ok_iff.2 hreply) (hpass reply after hreply hafter)
    · obtain ⟨rfl, hverdict⟩ := hend reply after hreply hafter
      exact .ended (fun h => hreply (Preliminary.passes_ok_iff.1 h)) hverdict

theorem course_ifPresent {next : Bool → Action Outcome} (there : Bool)
    (run : Runs (ifPresent place next) events result)
    (hpass : ∀ events, Runs (next there) events result → Course operation deed result rest events)
    (hend : ∃ message, next (!there) = skipped message) :
    Course operation deed result (.look place there :: rest) events := by
  obtain ⟨message, hend⟩ := hend
  refine course_attempting (p := .look place there) run rfl rfl (fun error h => ?_) ?_ ?_
  · cases operation <;> exact h
  · intro (reply : Bool) events (hreply : reply = there) hrun
    subst hreply
    exact hpass events hrun
  · intro (reply : Bool) events (hreply : ¬ reply = there) hrun
    rw [Bool.eq_not.2 hreply, hend] at hrun
    obtain ⟨rfl, rfl⟩ := runs_done_iff.1 hrun
    exact ⟨rfl, .looked⟩

theorem course_underParent {next : Action Outcome}
    (run : Runs (underParent box place next) events result)
    (h : ∀ events, Runs next events result → Course operation deed result [] events) :
    Course operation deed result ((box.directoryFor? place).toList.map .make) events := by
  unfold underParent at run
  unfold Sandbox.directoryFor?
  split at run
  · rename_i hparent
    rw [hparent]
    exact h events run
  · rename_i parent hparent
    rw [hparent, Option.filter_some]
    split_ifs at run ⊢
    · refine course_attempting (p := .make parent) run rfl rfl (fun error h => ?_) ?_ ?_
      · cases operation <;> exact h
      · exact fun _ events _ hrun => h events hrun
      · exact fun _ _ hreply => absurd trivial hreply
    · exact h events run

theorem course_deed {attempt : Attempt} {next : deed.Reply → Action Outcome}
    (run : Runs (attempting attempt place deed next) events result)
    (hattempt : deed.attempt? = some attempt) (hplace : deed.paths.head? = some place.text)
    (hexpects : ∀ error, ¬ operation.Expects deed error)
    (hnext : ∀ reply, ∃ message, next reply = success message) :
    Course operation deed result [] events := by
  obtain ⟨error | reply, after, rfl, hafter⟩ := runs_ask_iff.1 run
  · obtain ⟨rfl, rfl⟩ := runs_done_iff.1 hafter
    exact .deed (.failed (hexpects error) ⟨attempt, place, hattempt, hplace, rfl⟩)
  · obtain ⟨message, hnext⟩ := hnext reply
    dsimp only at hafter
    rw [hnext] at hafter
    obtain ⟨rfl, rfl⟩ := runs_done_iff.1 hafter
    exact .deed .done

theorem goes_create {raw : Text} (run : Runs (create box raw) events result) :
    (Operation.create raw).Goes box events result := by
  refine goes_resolving (List.mem_singleton_self _) run fun place hplace run => ?_
  refine .inl ⟨_, .create hplace, course_ifPresent false run (fun events run => ?_) ⟨_, rfl⟩⟩
  refine course_underParent run fun events run => ?_
  obtain ⟨error | _, after, rfl, hafter⟩ := runs_ask_iff.1 run
  · dsimp only at hafter
    split_ifs at hafter with hkind
    · obtain ⟨rfl, rfl⟩ := runs_done_iff.1 hafter
      exact .deed (.taken hkind)
    · obtain ⟨rfl, rfl⟩ := runs_done_iff.1 hafter
      exact .deed (.failed hkind ⟨.create, place, rfl, rfl, rfl⟩)
  · obtain ⟨rfl, rfl⟩ := runs_done_iff.1 hafter
    exact .deed .done

theorem goes_delete {raw : Text} (run : Runs (delete box raw) events result) :
    (Operation.delete raw).Goes box events result := by
  refine goes_resolving (List.mem_singleton_self _) run fun place hplace run => ?_
  refine .inl ⟨_, .delete hplace, course_ifPresent true run (fun events run => ?_) ⟨_, rfl⟩⟩
  exact course_deed run rfl rfl (fun _ h => h) fun _ => ⟨_, rfl⟩

theorem goes_rename {source target : Text} (run : Runs (rename box source target) events result) :
    (Operation.rename source target).Goes box events result := by
  refine goes_resolving (by simp [Operation.paths]) run fun old hold run => ?_
  refine goes_resolving (by simp [Operation.paths]) run fun new hnew run => ?_
  refine .inl ⟨_, .rename hold hnew, course_ifPresent true run (fun events run => ?_) ⟨_, rfl⟩⟩
  refine course_ifPresent false run (fun events run => ?_) ⟨_, rfl⟩
  refine course_underParent run fun events run => ?_
  exact course_deed run rfl rfl (fun _ h => h) fun _ => ⟨_, rfl⟩

theorem goes_append {raw content : Text} (run : Runs (append box raw content) events result) :
    (Operation.append raw content).Goes box events result := by
  refine goes_resolving (List.mem_singleton_self _) run fun place hplace run => ?_
  refine .inl ⟨_, .append hplace, course_underParent run fun events run => ?_⟩
  exact course_deed run rfl rfl (fun _ h => h) fun _ => ⟨_, rfl⟩

theorem goes_read {raw : Text} (run : Runs (read box raw) events result) :
    (Operation.read raw).Goes box events result := by
  refine goes_resolving (List.mem_singleton_self _) run fun place hplace run => ?_
  refine .inl ⟨_, .read hplace, course_ifPresent true run (fun events run => ?_) ⟨_, rfl⟩⟩
  exact course_deed run rfl rfl (fun _ h => h) fun _ => ⟨_, rfl⟩

theorem goes_copy {source target : Text} (run : Runs (copy box source target) events result) :
    (Operation.copy source target).Goes box events result := by
  refine goes_resolving (by simp [Operation.paths]) run fun old hold run => ?_
  refine goes_resolving (by simp [Operation.paths]) run fun new hnew run => ?_
  split_ifs at run with hsame
  · subst hsame
    obtain ⟨rfl, rfl⟩ := runs_done_iff.1 run
    exact .inr ⟨rfl, .same hold hnew⟩
  refine .inl ⟨_, .copy hold hnew hsame, course_ifPresent true run (fun events run => ?_) ⟨_, rfl⟩⟩
  refine course_underParent run fun events run => ?_
  exact course_deed run rfl rfl (fun _ h => h) fun _ => ⟨_, rfl⟩

theorem goes_list {raw : Text} (run : Runs (list box raw) events result) :
    (Operation.list raw).Goes box events result := by
  refine goes_resolving (List.mem_singleton_self _) run fun place hplace run => ?_
  refine .inl ⟨_, .list hplace, ?_⟩
  obtain ⟨error | status, after, rfl, hafter⟩ := runs_ask_iff.1 run
  · obtain ⟨rfl, rfl⟩ := runs_done_iff.1 hafter
    refine .ended (p := .inspect place) (Preliminary.not_passes_error error) ?_
    split_ifs with hkind
    · exact .missing hkind
    · exact .failed hkind ⟨.inspect, place, rfl, rfl, rfl⟩
  · dsimp only at hafter
    split_ifs at hafter with hkind
    · refine .passed ⟨status, hkind, rfl⟩ ?_
      exact course_deed hafter rfl rfl (fun _ h => h) fun _ => ⟨_, rfl⟩
    · obtain ⟨rfl, rfl⟩ := runs_done_iff.1 hafter
      exact .ended (p := .inspect place) (fun h => hkind (Preliminary.passes_ok_iff.1 h))
        (.unfit rfl hkind)

theorem goes_info {raw : Text} (run : Runs (info box raw) events result) :
    (Operation.info raw).Goes box events result := by
  refine goes_resolving (List.mem_singleton_self _) run fun place hplace run => ?_
  refine .inl ⟨_, .info hplace, course_ifPresent true run (fun events run => ?_) ⟨_, rfl⟩⟩
  obtain ⟨error | status, after, rfl, hafter⟩ := runs_ask_iff.1 run
  · obtain ⟨rfl, rfl⟩ := runs_done_iff.1 hafter
    exact .deed (.failed (fun h => h) ⟨.inspect, place, rfl, rfl, rfl⟩)
  · dsimp only at hafter
    split at hafter
    · obtain ⟨rfl, rfl⟩ := runs_done_iff.1 hafter
      exact .deed .done
    · cases hafter
      exact .deed .crashed

/-- Every run of an operation keeps to its plan, or asks nothing for want of one. -/
theorem goes_of_runs (run : Runs (operation.execute box) events result) :
    operation.Goes box events result := by
  cases operation with
  | create path => exact goes_create run
  | delete path => exact goes_delete run
  | rename source target => exact goes_rename run
  | append path content => exact goes_append run
  | read path => exact goes_read run
  | copy source target => exact goes_copy run
  | list path => exact goes_list run
  | info path => exact goes_info run

end Execution

namespace Course

variable {operation : Operation} {deed : Call} {result : Except Crash Outcome}
  {first : List Preliminary} {events : List Event}

/-- The steps before any step are calls of the plan that let the operation go on, from the first one
on; the step is the next call of the plan, and lets the operation go on if it is not the last. -/
theorem exists_passed (h : Course operation deed result first events) :
    ∀ {before e after}, events = before ++ e :: after →
      ∃ passed, List.Forall₂ Preliminary.Passes passed before
        ∧ ((∃ p rest answer, first = passed ++ p :: rest ∧ e = .called p.call answer
            ∧ (after ≠ [] → p.Passes e))
          ∨ first = passed ∧ (∃ answer, e = .called deed answer) ∧ after = []) := by
  induction h with
  | deed _ =>
    intro before e after heq
    obtain ⟨rfl, hcons⟩ := List.append_eq_singleton_iff.1 heq.symm |>.resolve_right (by simp)
    obtain ⟨rfl, rfl⟩ := List.cons.inj hcons
    exact ⟨[], .nil, .inr ⟨rfl, ⟨_, rfl⟩, rfl⟩⟩
  | ended _ _ =>
    intro before e after heq
    obtain ⟨rfl, hcons⟩ := List.append_eq_singleton_iff.1 heq.symm |>.resolve_right (by simp)
    obtain ⟨rfl, rfl⟩ := List.cons.inj hcons
    exact ⟨[], .nil, .inl ⟨_, _, _, rfl, rfl, fun h => absurd rfl h⟩⟩
  | @passed p rest e' events hpasses _ ih =>
    intro before e after heq
    cases before with
    | nil =>
      obtain ⟨rfl, rfl⟩ := List.cons.inj heq
      obtain ⟨reply, -, he⟩ := id hpasses
      exact ⟨[], .nil, .inl ⟨p, rest, _, rfl, he, fun _ => hpasses⟩⟩
    | cons e₀ before =>
      obtain ⟨rfl, hrest⟩ := List.cons.inj heq
      obtain ⟨passed, hpassed, ⟨q, more, answer, rfl, he⟩ | ⟨rfl, he⟩⟩ := ih hrest
      · exact ⟨p :: passed, .cons hpasses hpassed, .inl ⟨q, more, answer, rfl, he⟩⟩
      · exact ⟨p :: rest, .cons hpasses hpassed, .inr ⟨rfl, he⟩⟩

/-- The last step does not let the operation go on, or it is the deed; it decides the outcome. -/
theorem exists_last (h : Course operation deed result first events) :
    ∃ before last, events = before ++ [last] ∧ Verdict operation deed last result
      ∧ ((∃ p ∈ first, ∃ answer, last = .called p.call answer ∧ ¬ p.Passes last)
        ∨ ∃ answer, last = .called deed answer) := by
  induction h with
  | deed hverdict => exact ⟨[], _, rfl, hverdict, .inr ⟨_, rfl⟩⟩
  | ended hpasses hverdict =>
    exact ⟨[], _, rfl, hverdict, .inl ⟨_, List.mem_cons_self, _, rfl, hpasses⟩⟩
  | passed _ _ ih =>
    obtain ⟨before, last, rfl, hverdict, hlast⟩ := ih
    refine ⟨_ :: before, last, rfl, hverdict, hlast.imp_left ?_⟩
    rintro ⟨p, hp, h⟩
    exact ⟨p, List.mem_cons_of_mem _ hp, h⟩

end Course

end FileClerk
