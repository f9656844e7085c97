import Mathlib.Data.List.Forall2
import FileClerk.Proofs.Course
import FileClerk.Proofs.FileTree

/-!
# Calls come after their checks

No file is made, moved, removed or written before the disk has told what justifies it, whatever it
tells (`guarded_of_runs`): a file is moved only where nothing was found, and copied only to another
place. The checks stand at the front of every plan, the directory is made after them, and the deed
comes last.
-/

namespace FileClerk

namespace Call

/-- The looks that justify a call, with their answers, in their order. -/
def grounds : Call → List Event
  | .createEmpty p => [.called (.isPresent p) (.ok false)]
  | .removeFile p | .read p | .copy p _ => [.called (.isPresent p) (.ok true)]
  | .rename p q => [.called (.isPresent p) (.ok true), .called (.isPresent q) (.ok false)]
  | .isPresent _ | .createDirectories _ | .append _ _ | .list _ | .status _ | .write _ _ => []

/-- The call may come before another. -/
def IsPreliminary : Call → Prop
  | .isPresent _ | .createDirectories _ | .status _ => True
  | .createEmpty _ | .removeFile _ | .rename _ _ | .append _ _ | .read _ | .copy _ _ | .list _
  | .write _ _ => False

/-- The call may leave the disk other than it was. -/
def Changes : Call → Prop
  | .createDirectories _ | .createEmpty _ | .removeFile _ | .rename _ _ | .append _ _ | .copy _ _
  | .write _ _ => True
  | .isPresent _ | .read _ | .list _ | .status _ => False

end Call

namespace Operation

def OnlyReads : Operation → Prop
  | .read _ | .list _ | .info _ => True
  | .create _ | .delete _ | .rename _ _ | .append _ _ | .copy _ _ => False

/-- A call of an operation stands where it may, between the steps before it and those after it. -/
structure Guards (box : Sandbox) (operation : Operation) (before : List Event) (call : Call)
    (after : List Event) : Prop where
  grounds : call.grounds.Sublist before
  apart : ∀ p q, call = .copy p q → p ≠ q
  /-- No check comes after a directory has been made. -/
  checks : ∀ p, call = .isPresent p → ∀ q answer, .called (.createDirectories q) answer ∉ before
  /-- A directory is made once the deed is justified. -/
  directories : ∀ p, call = .createDirectories p →
    ∃ plan, operation.Plans box plan ∧ plan.deed.grounds.Sublist before
  last : ¬ call.IsPreliminary → after = []
  reads : operation.OnlyReads → ¬ call.Changes

end Operation

theorem Sandbox.isName_of_resolve {box : Sandbox} {raw : Text} {place : Location}
    (h : box.resolve raw = .ok place) : ∀ n ∈ place.segments, Path.IsName n := by
  have habs : Path.isAbsolute (Path.join box.root.text raw.trim) := by
    simp [Path.isAbsolute_join, box.root.isAbsolute_text]
  simp only [resolve] at h
  split_ifs at h
  obtain rfl := Except.ok.inj h
  intro n hn
  rw [Location.ofText, Path.segments_eq_walk habs] at hn
  exact Path.isName_of_mem_walk _ (by simp) n hn

theorem Sandbox.text_ne_of_resolve {box : Sandbox} {source target : Text} {old new : Location}
    (hold : box.resolve source = .ok old) (hnew : box.resolve target = .ok new) (hne : old ≠ new) :
    old.text ≠ new.text := by
  intro h
  apply hne
  rw [← Location.ofText_text (isName_of_resolve hold), h,
    Location.ofText_text (isName_of_resolve hnew)]

/-- A call before the deed is one of those looked at first, after others of them, or it makes the
directory after all of them. -/
theorem Plan.mem_looks_or_make {plan : Plan} {passed rest : List Preliminary} {p : Preliminary}
    (h : plan.first = passed ++ p :: rest) :
    (p ∈ plan.looks ∧ ∀ q ∈ passed, q ∈ plan.looks)
      ∨ passed = plan.looks
        ∧ ∃ directory, plan.directory? = some directory ∧ p = .make directory := by
  rcases List.append_eq_append_iff.1 h with ⟨more, rfl, hmore⟩ | ⟨more, hlooks, hmore⟩
  · right
    rcases hdir : plan.directory? with _ | directory
    · simp [hdir] at hmore
    · rw [hdir] at hmore
      obtain ⟨rfl, hcons⟩ := List.append_eq_singleton_iff.1 hmore.symm |>.resolve_right (by simp)
      exact ⟨by simp, directory, rfl, (List.cons.inj hcons).1⟩
  · rcases more with _ | ⟨q, more⟩
    · right
      rcases hdir : plan.directory? with _ | directory
      · simp [hdir] at hmore
      · rw [hdir] at hmore
        exact ⟨by simp [hlooks], directory, rfl, (List.cons.inj hmore).1⟩
    · obtain ⟨rfl, -⟩ := List.cons.inj hmore
      exact .inl ⟨by simp [hlooks], fun q hq => by simp [hlooks, hq]⟩

theorem Preliminary.exists_passes_of_mem {passed : List Preliminary} {before : List Event}
    (h : List.Forall₂ Preliminary.Passes passed before) {e : Event} (he : e ∈ before) :
    ∃ p ∈ passed, p.Passes e := by
  induction h with
  | nil => simp at he
  | @cons p _ _ _ hp _ ih =>
    rcases List.mem_cons.1 he with rfl | he
    · exact ⟨p, List.mem_cons_self, hp⟩
    · obtain ⟨q, hq, hqe⟩ := ih he
      exact ⟨q, List.mem_cons_of_mem _ hq, hqe⟩

namespace Operation.Plans

variable {box : Sandbox} {operation : Operation} {plan : Plan}

/-- Once what is looked at first lets the operation go on, the deed is justified. -/
theorem grounds_sublist (h : operation.Plans box plan) {more : List Preliminary}
    {before : List Event} (hpassed : List.Forall₂ Preliminary.Passes (plan.looks ++ more) before) :
    plan.deed.grounds.Sublist before := by
  cases h with
  | append | list | info => exact List.nil_sublist _
  | create | delete | read | copy =>
    obtain ⟨_, _, ⟨reply, rfl, rfl⟩, -, rfl⟩ := List.forall₂_cons_left_iff.1 hpassed
    exact (List.nil_sublist _).cons_cons _
  | rename =>
    obtain ⟨_, _, ⟨reply, rfl, rfl⟩, hrest, rfl⟩ := List.forall₂_cons_left_iff.1 hpassed
    obtain ⟨_, _, ⟨reply, rfl, rfl⟩, -, rfl⟩ := List.forall₂_cons_left_iff.1 hrest
    exact ((List.nil_sublist _).cons_cons _).cons_cons _

/-- What is looked at first changes nothing and needs no justification. -/
theorem of_mem_looks (h : operation.Plans box plan) {p : Preliminary} (hp : p ∈ plan.looks) :
    (∃ path, p.call = .isPresent path) ∨ ∃ path, p.call = .status path := by
  cases h with
  | append => simp at hp
  | list =>
    obtain rfl := List.mem_singleton.1 hp
    exact .inr ⟨_, rfl⟩
  | rename =>
    rcases List.mem_pair.1 hp with rfl | rfl <;> exact .inl ⟨_, rfl⟩
  | create | delete | read | copy | info =>
    obtain rfl := List.mem_singleton.1 hp
    exact .inl ⟨_, rfl⟩

theorem apart (h : operation.Plans box plan) {p q : Text} (hdeed : plan.deed = .copy p q) :
    p ≠ q := by
  cases h with
  | copy hold hnew hne =>
    obtain ⟨rfl, rfl⟩ := Call.copy.inj hdeed
    exact Sandbox.text_ne_of_resolve hold hnew hne
  | create | delete | rename | append | read | list | info => cases hdeed

theorem deed_ne_isPresent (h : operation.Plans box plan) (p : Text) : plan.deed ≠ .isPresent p := by
  cases h <;> simp

theorem deed_ne_createDirectories (h : operation.Plans box plan) (p : Text) :
    plan.deed ≠ .createDirectories p := by
  cases h <;> simp

theorem of_onlyReads (h : operation.Plans box plan) (hreads : operation.OnlyReads) :
    plan.directory? = none ∧ ¬ plan.deed.Changes := by
  cases h with
  | read | list | info => exact ⟨rfl, id⟩
  | create | delete | rename | append | copy => exact hreads.elim

theorem guards_look (h : operation.Plans box plan) {p : Preliminary} (hp : p ∈ plan.looks)
    {passed : List Preliminary} {before after : List Event}
    (hpassed : List.Forall₂ Preliminary.Passes passed before)
    (hlooks : ∀ q ∈ passed, q ∈ plan.looks) :
    operation.Guards box before p.call after := by
  have hchecks : ∀ q answer, .called (.createDirectories q) answer ∉ before := by
    intro q answer hmem
    obtain ⟨r, hr, reply, -, he⟩ := Preliminary.exists_passes_of_mem hpassed hmem
    rcases h.of_mem_looks (hlooks r hr) with ⟨path, hcall⟩ | ⟨path, hcall⟩ <;>
      simp [hcall] at he
  rcases h.of_mem_looks hp with ⟨path, hcall⟩ | ⟨path, hcall⟩ <;> rw [hcall] <;>
    exact ⟨List.nil_sublist _, by simp, fun _ _ => hchecks, by simp, fun h => absurd trivial h,
      fun _ h => h⟩

theorem guards_make (h : operation.Plans box plan) {directory : Location}
    (hdirectory : plan.directory? = some directory) {before after : List Event}
    (hpassed : List.Forall₂ Preliminary.Passes plan.looks before) :
    operation.Guards box before (Preliminary.make directory).call after where
  grounds := List.nil_sublist _
  apart := by simp [Preliminary.make]
  checks := by simp [Preliminary.make]
  directories _ _ := ⟨plan, h, h.grounds_sublist (by rwa [List.append_nil])⟩
  last hcall := absurd trivial hcall
  reads hreads := by simp [(h.of_onlyReads hreads).1] at hdirectory

theorem guards_deed (h : operation.Plans box plan) {before : List Event}
    (hpassed : List.Forall₂ Preliminary.Passes plan.first before) :
    operation.Guards box before plan.deed [] where
  grounds := h.grounds_sublist hpassed
  apart _ _ := h.apart
  checks p hdeed := absurd hdeed (h.deed_ne_isPresent p)
  directories p hdeed := absurd hdeed (h.deed_ne_createDirectories p)
  last _ := rfl
  reads hreads := (h.of_onlyReads hreads).2

end Operation.Plans

namespace Execution

open FileClerk.Action

variable {box : Sandbox} {operation : Operation} {events before after : List Event}
  {result : Except Crash Outcome} {call : Call} {answer : call.Answer}

/-- Whatever the disk answers, every call of an operation comes after the checks that justify it,
the directory is made after all checks, and no call comes after the deed. -/
theorem guarded_of_runs (run : Runs (operation.execute box) events result)
    (heq : events = before ++ .called call answer :: after) :
    operation.Guards box before call after := by
  obtain ⟨plan, hplan, hcourse⟩ | ⟨rfl, -⟩ := goes_of_runs run
  swap
  · simp at heq
  obtain ⟨passed, hpassed, ⟨p, rest, answer', hfirst, he, -⟩ | ⟨rfl, ⟨answer', he⟩, rfl⟩⟩ :=
    hcourse.exists_passed heq
  · obtain rfl : call = p.call := by cases he; rfl
    rcases Plan.mem_looks_or_make hfirst with ⟨hp, hlooks⟩ | ⟨rfl, directory, hdir, rfl⟩
    · exact hplan.guards_look hp hpassed hlooks
    · exact hplan.guards_make hdir hpassed
  · obtain rfl : call = plan.deed := by cases he; rfl
    exact hplan.guards_deed hpassed

theorem guarded_of_runs_rename :
    let box := Sandbox.ofRoot "/srv".toList "work".toList
    let operation := Operation.rename "a".toList "b/c".toList
    let before : List Event := [.called (.isPresent "/srv/work/a".toList) (.ok true),
      .called (.isPresent "/srv/work/b/c".toList) (.ok false),
      .called (.createDirectories "/srv/work/b".toList) (.ok ())]
    let call := Call.rename "/srv/work/a".toList "/srv/work/b/c".toList
    ∃ outcome, Runs (operation.execute box) (before ++ [.called call (.ok ())]) (.ok outcome)
      ∧ operation.Guards box before call [] := by
  intro box operation before call
  have run : Runs (operation.execute box) (before ++ [.called call (.ok ())])
      (.ok (.success "renamed a to b/c".toList)) := by
    refine @Runs.ask _ (.isPresent "/srv/work/a".toList) _ (.ok true) _ _ ?_
    refine @Runs.ask _ (.isPresent "/srv/work/b/c".toList) _ (.ok false) _ _ ?_
    refine @Runs.ask _ (.createDirectories "/srv/work/b".toList) _ (.ok ()) _ _ ?_
    refine @Runs.ask _ call _ (.ok ()) _ _ ?_
    exact .done _
  exact ⟨_, run, guarded_of_runs run rfl⟩

end Execution

end FileClerk
