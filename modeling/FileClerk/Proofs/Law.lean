import FileClerk.Execution
import FileClerk.Interpretation

/-!
# Laws of actions

A law says what an action may ask, given the steps before it, and how it may end, given them all.
An action that obeys a law does so in every run, whatever is answered (`Runs.obeys`). Each way of
putting an operation together obeys a law exactly when its parts do, so a law of the operations is
proved by following how they are written.
-/

namespace FileClerk

/-- What is asked of an action: of each call after the steps before it, and of the end after all. -/
structure Law (α : Type) where
  asks : List Event → Call → Prop
  ends : List Event → Except Crash α → Prop

namespace Action

variable {α β : Type}

/-- The action goes by the law from the steps `past` on, whatever is answered. -/
def Obeys (law : Law α) : Action α → List Event → Prop
  | done a, past => law.ends past (.ok a)
  | crash why, past => law.ends past (.error why)
  | ask call next, past =>
    law.asks past call ∧ ∀ answer, (next answer).Obeys law (past ++ [.called call answer])
  | note n next, past => next.Obeys law (past ++ [.noted n])

theorem Runs.obeys {law : Law α} {action : Action α} {events : List Event}
    {result : Except Crash α} (run : Runs action events result) :
    ∀ {past : List Event}, action.Obeys law past → law.ends (past ++ events) result
      ∧ ∀ before call answer after, events = before ++ .called call answer :: after →
        law.asks (past ++ before) call := by
  induction run with
  | done a => exact fun h => ⟨by simpa [Obeys] using h, by simp⟩
  | crash why => exact fun h => ⟨by simpa [Obeys] using h, by simp⟩
  | ask answer _ ih =>
    intro past h
    obtain ⟨hends, hasks⟩ := ih (h.2 answer)
    refine ⟨by simpa using hends, fun before call' answer' after heq => ?_⟩
    cases before with
    | nil =>
      obtain ⟨hcall, -⟩ := List.cons.inj heq
      cases hcall
      simpa using h.1
    | cons e before =>
      obtain ⟨rfl, hrest⟩ := List.cons.inj heq
      simpa using hasks before call' answer' after hrest
  | note _ ih =>
    intro past h
    obtain ⟨hends, hasks⟩ := ih h
    refine ⟨by simpa using hends, fun before call answer after heq => ?_⟩
    cases before with
    | nil => cases heq
    | cons e before =>
      obtain ⟨rfl, hrest⟩ := List.cons.inj heq
      simpa using hasks before call answer after hrest

/-- A run that starts from nothing. -/
theorem Runs.obeys_nil {law : Law α} {action : Action α} {events : List Event}
    {result : Except Crash α} (run : Runs action events result) (h : action.Obeys law []) :
    law.ends events result
      ∧ ∀ before call answer after, events = before ++ .called call answer :: after →
        law.asks before call := by
  simpa using run.obeys h

theorem Obeys.mono {law weaker : Law α}
    (hasks : ∀ past call, law.asks past call → weaker.asks past call)
    (hends : ∀ past result, law.ends past result → weaker.ends past result) :
    ∀ {action : Action α} {past : List Event}, action.Obeys law past → action.Obeys weaker past
  | done _, _, h => hends _ _ h
  | crash _, _, h => hends _ _ h
  | ask _ _, _, h => ⟨hasks _ _ h.1, fun answer => (h.2 answer).mono hasks hends⟩
  | note _ next, past, h => by
    rw [Obeys] at h ⊢
    exact h.mono hasks hends

theorem obeys_bind {law : Law β} {next : α → Action β} : ∀ (action : Action α) {past : List Event},
    (action.bind next).Obeys law past ↔ action.Obeys
      ⟨law.asks, fun past result => match result with
        | .ok a => (next a).Obeys law past
        | .error why => law.ends past (.error why)⟩ past
  | done _, _ => Iff.rfl
  | crash _, _ => Iff.rfl
  | ask _ rest, _ => and_congr_right' (forall_congr' fun answer => obeys_bind (rest answer))
  | note _ rest, _ => obeys_bind rest

theorem obeys_report {law : Law α} {next : Action α} (records : List Record) {past : List Event} :
    (report records next).Obeys law past
      ↔ next.Obeys law (past ++ records.map fun record => .noted (.record record)) := by
  induction records generalizing past with
  | nil => simp [report]
  | cons record records ih =>
    rw [List.map_cons, List.append_cons]
    exact ih

end Action

namespace Execution

open FileClerk.Action

variable {law : Law Outcome} {past : List Event} {box : Sandbox}

theorem obeys_resolving {raw : Text} {next : Location → Action Outcome} :
    (resolving box raw next).Obeys law past
      ↔ (∀ place, box.resolve raw = .ok place → (next place).Obeys law past)
        ∧ ∀ error, box.resolve raw = .error error →
          law.ends past (.ok (.failed (.path error))) := by
  unfold resolving
  cases box.resolve raw <;> simp [Obeys]

theorem obeys_attempting {attempt : Attempt} {place : Location} {call : Call}
    {next : call.Reply → Action Outcome} :
    (attempting attempt place call next).Obeys law past
      ↔ law.asks past call
        ∧ (∀ reply, (next reply).Obeys law (past ++ [.called call (.ok reply)]))
        ∧ ∀ error, law.ends (past ++ [.called call (.error error)])
          (.ok (.failed (.call attempt place error))) := by
  refine and_congr_right' ⟨fun h => ⟨fun reply => h (.ok reply), fun error => h (.error error)⟩, ?_⟩
  rintro ⟨hok, herror⟩ (error | reply)
  · exact herror error
  · exact hok reply

end Execution

end FileClerk
