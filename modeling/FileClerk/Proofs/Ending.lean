import Mathlib.Tactic.SplitIfs
import FileClerk.Proofs.Law
import FileClerk.Proofs.Runs

/-!
# How operations end

An operation resolves its paths one after the other before it asks anything (`execute_resolving`).
What it does then ends in an outcome that is no path error; the one crash there is comes from a
status whose times the calendar does not hold (`unshowable_iff_crash`).
-/

namespace FileClerk

/-- The paths an operation names, in the order in which they are written. -/
def Operation.paths : Operation → List Text
  | .create p | .delete p | .append p _ | .read p | .list p | .info p => [p]
  | .rename p q | .copy p q => [p, q]

namespace Execution

open FileClerk.Action

variable {box : Sandbox}

theorem resolving_of_error {raw : Text} {next : Location → Action Outcome} {error : PathError}
    (h : box.resolve raw = .error error) :
    resolving box raw next = .done (.failed (.path error)) := by
  simp [resolving, h]

theorem resolving_of_ok {raw : Text} {next : Location → Action Outcome} {place : Location}
    (h : box.resolve raw = .ok place) : resolving box raw next = next place := by
  simp [resolving, h]

theorem runs_resolving_success {raw : Text} {next : Location → Action Outcome}
    {events : List Event} {message : Text}
    (run : Runs (resolving box raw next) events (.ok (.success message))) :
    ∃ place, box.resolve raw = .ok place ∧ Runs (next place) events (.ok (.success message)) := by
  unfold resolving at run
  split at run
  · rename_i place hplace
    exact ⟨place, hplace, run⟩
  · obtain ⟨-, h⟩ := runs_done_iff.1 run
    cases h

/-- An operation that succeeds has had a reply to every attempt. -/
theorem runs_attempting_success {attempt : Attempt} {place : Location} {call : Call}
    {next : call.Reply → Action Outcome} {events : List Event} {message : Text}
    (run : Runs (attempting attempt place call next) events (.ok (.success message))) :
    ∃ reply rest, events = .called call (.ok reply) :: rest
      ∧ Runs (next reply) rest (.ok (.success message)) := by
  obtain ⟨error | reply, rest, rfl, hrest⟩ := runs_ask_iff.1 run
  · obtain ⟨-, h⟩ := runs_done_iff.1 hrest
    cases h
  · exact ⟨reply, rest, rfl, hrest⟩

/-- A law that lets anything be asked and allows every end of an operation but a path error, and a
crash only after a status that cannot be shown. -/
structure Lenient (law : Law Outcome) (operation : Operation) : Prop where
  asks : ∀ past call, law.asks past call
  ends : ∀ past outcome, (∀ e, outcome ≠ .failed (.path e)) → law.ends past (.ok outcome)
  crashes : ∀ past raw path status, operation = .info raw → infoReport? raw status = none →
    law.ends (past ++ [.called (.status path) (.ok status)]) (.error .timeOutOfRange)

/-- The action goes by the law, whatever came before it. -/
def Keeps (law : Law Outcome) (action : Action Outcome) : Prop := ∀ past, action.Obeys law past

variable {law : Law Outcome} {operation : Operation}

theorem Lenient.keeps_success (hlaw : Lenient law operation) (message : Text) :
    Keeps law (success message) := fun past => hlaw.ends past _ fun _ h => by cases h

theorem Lenient.keeps_skipped (hlaw : Lenient law operation) (message : Text) :
    Keeps law (skipped message) := fun past => hlaw.ends past _ fun _ h => by cases h

theorem Lenient.keeps_attempting (hlaw : Lenient law operation) {attempt : Attempt}
    {place : Location} {call : Call} {next : call.Reply → Action Outcome}
    (h : ∀ reply, Keeps law (next reply)) : Keeps law (attempting attempt place call next) :=
  fun _ => obeys_attempting.2
    ⟨hlaw.asks _ _, fun reply => h reply _, fun _ => hlaw.ends _ _ fun _ hpath => by cases hpath⟩

theorem Lenient.keeps_ifPresent (hlaw : Lenient law operation) {place : Location}
    {next : Bool → Action Outcome} (h : ∀ there, Keeps law (next there)) :
    Keeps law (ifPresent place next) := hlaw.keeps_attempting h

theorem Lenient.keeps_underParent (hlaw : Lenient law operation) {place : Location}
    {next : Action Outcome} (h : Keeps law next) : Keeps law (underParent box place next) := by
  unfold underParent
  split
  · exact h
  · split_ifs
    · exact hlaw.keeps_attempting fun _ => h
    · exact h

/-- An operation resolves its paths first, and what it does then keeps a lenient law. -/
theorem execute_resolving (box : Sandbox) (hlaw : Lenient law operation) :
    (∃ (raw : Text) (next : Location → Action Outcome), operation.paths = [raw]
      ∧ operation.execute box = resolving box raw next ∧ ∀ place, Keeps law (next place))
    ∨ ∃ (first second : Text) (next : Location → Location → Action Outcome),
      operation.paths = [first, second]
      ∧ operation.execute box = resolving box first (fun a => resolving box second (next a))
      ∧ ∀ a b, Keeps law (next a b) := by
  cases operation with
  | create raw =>
    refine .inl ⟨raw, _, rfl, rfl, fun place => hlaw.keeps_ifPresent fun there => ?_⟩
    split_ifs
    · exact hlaw.keeps_skipped _
    · refine hlaw.keeps_underParent fun past => ⟨hlaw.asks _ _, ?_⟩
      rintro (error | -)
      · show Obeys _ (if error.kind = .alreadyExists then _ else _) _
        split_ifs
        · exact hlaw.keeps_skipped _ _
        · exact hlaw.ends _ _ fun _ h => by cases h
      · exact hlaw.keeps_success _ _
  | delete raw =>
    refine .inl ⟨raw, _, rfl, rfl, fun place => hlaw.keeps_ifPresent fun there => ?_⟩
    split_ifs
    · exact hlaw.keeps_attempting fun _ => hlaw.keeps_success _
    · exact hlaw.keeps_skipped _
  | rename old new =>
    refine .inr ⟨old, new, _, rfl, rfl, fun source target => hlaw.keeps_ifPresent fun there => ?_⟩
    split_ifs
    · refine hlaw.keeps_ifPresent fun taken => ?_
      split_ifs
      · exact hlaw.keeps_skipped _
      · exact hlaw.keeps_underParent (hlaw.keeps_attempting fun _ => hlaw.keeps_success _)
    · exact hlaw.keeps_skipped _
  | append raw content =>
    exact .inl ⟨raw, _, rfl, rfl, fun place =>
      hlaw.keeps_underParent (hlaw.keeps_attempting fun _ => hlaw.keeps_success _)⟩
  | read raw =>
    refine .inl ⟨raw, _, rfl, rfl, fun place => hlaw.keeps_ifPresent fun there => ?_⟩
    split_ifs
    · exact hlaw.keeps_attempting fun _ => hlaw.keeps_success _
    · exact hlaw.keeps_skipped _
  | copy source target =>
    refine .inr ⟨source, target, _, rfl, rfl, fun old new => ?_⟩
    split_ifs
    · exact hlaw.keeps_skipped _
    · refine hlaw.keeps_ifPresent fun there => ?_
      split_ifs
      · exact hlaw.keeps_underParent (hlaw.keeps_attempting fun _ => hlaw.keeps_success _)
      · exact hlaw.keeps_skipped _
  | list raw =>
    refine .inl ⟨raw, _, rfl, rfl, fun place past => ⟨hlaw.asks _ _, ?_⟩⟩
    rintro (error | status)
    · refine hlaw.ends _ _ fun e h => ?_
      by_cases hkind : error.kind = .notFound <;> simp [hkind] at h
    · show Obeys _ (if status.kind = .directory then _ else _) _
      split_ifs
      · exact hlaw.keeps_attempting (fun _ => hlaw.keeps_success _) _
      · exact hlaw.ends _ _ fun _ h => by cases h
  | info raw =>
    refine .inl ⟨raw, _, rfl, rfl, fun place => hlaw.keeps_ifPresent fun there => ?_⟩
    split_ifs
    · refine fun past => obeys_attempting.2 ⟨hlaw.asks _ _, fun status => ?_, fun _ =>
        hlaw.ends _ _ fun _ hpath => by cases hpath⟩
      cases hreport : infoReport? raw status with
      | none => exact hlaw.crashes _ raw _ status rfl hreport
      | some report => exact hlaw.keeps_success _ _
    · exact hlaw.keeps_skipped _

/-- Information was asked for, and a status was told that cannot be shown. -/
def Unshowable (operation : Operation) (events : List Event) : Prop :=
  ∃ raw path status, operation = .info raw ∧ .called (.status path) (.ok status) ∈ events
    ∧ infoReport? raw status = none

/-- Asks anything and crashes only after a status that cannot be shown. -/
def showing (operation : Operation) : Law Outcome :=
  ⟨fun _ _ => True, fun past r => ∀ why, r = .error why → Unshowable operation past⟩

theorem lenient_showing (operation : Operation) : Lenient (showing operation) operation where
  asks _ _ := trivial
  ends _ _ _ _ h := by cases h
  crashes _ raw path status hop hreport _ _ := ⟨raw, path, status, hop, by simp, hreport⟩

theorem unshowable_of_crash {events : List Event} {why : Crash}
    (run : Runs (operation.execute box) events (.error why)) : Unshowable operation events := by
  have hrefused : ∀ error, Keeps (showing operation) (.done (.failed (.path error))) := by
    intro error past why h
    cases h
  have hkeeps : Keeps (showing operation) (operation.execute box) := by
    obtain ⟨raw, next, -, hx, hnext⟩ | ⟨first, second, next, -, hx, hnext⟩ :=
      execute_resolving box (lenient_showing operation)
    · rw [hx]
      exact fun past => obeys_resolving.2
        ⟨fun place _ => hnext place past, fun error _ => hrefused error past⟩
    · rw [hx]
      exact fun past => obeys_resolving.2
        ⟨fun a _ => obeys_resolving.2
          ⟨fun b _ => hnext a b past, fun error _ => hrefused error past⟩,
          fun error _ => hrefused error past⟩
  exact (run.obeys_nil (hkeeps [])).1 why rfl

theorem infoReport?_ne_none_of_ok {events : List Event} {raw path : Text} {status : FileStatus}
    {outcome : Outcome} (run : Runs (info box raw) events (.ok outcome))
    (hstatus : .called (.status path) (.ok status) ∈ events) : infoReport? raw status ≠ none := by
  unfold info resolving at run
  split at run
  · obtain ⟨error | _ | _, rest, rfl, hrest⟩ := runs_ask_iff.1 run
    · obtain ⟨rfl, -⟩ := runs_done_iff.1 hrest
      simp at hstatus
    · obtain ⟨rfl, -⟩ := runs_done_iff.1 hrest
      simp at hstatus
    · obtain ⟨error | told, last, rfl, hlast⟩ := runs_ask_iff.1 hrest
      · obtain ⟨rfl, -⟩ := runs_done_iff.1 hlast
        simp at hstatus
      · dsimp only at hlast
        split at hlast
        · rename_i report hreport
          obtain ⟨rfl, -⟩ := runs_done_iff.1 hlast
          obtain ⟨-, rfl⟩ : path = _ ∧ status = told := by simpa using hstatus
          simp [hreport]
        · cases hlast
  · obtain ⟨rfl, -⟩ := runs_done_iff.1 run
    simp at hstatus

/-- An operation crashes exactly when it asked for information about a place and the disk told a
time without a date. -/
theorem unshowable_iff_crash {events : List Event} {result : Except Crash Outcome}
    (run : Runs (operation.execute box) events result) :
    Unshowable operation events ↔ ∃ why, result = .error why := by
  constructor
  · rintro ⟨raw, path, status, rfl, hstatus, hreport⟩
    rcases result with why | outcome
    · exact ⟨why, rfl⟩
    · exact absurd hreport (infoReport?_ne_none_of_ok run hstatus)
  · rintro ⟨why, rfl⟩
    exact unshowable_of_crash run

end Execution

end FileClerk
