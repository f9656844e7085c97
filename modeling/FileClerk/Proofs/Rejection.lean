import FileClerk.Proofs.Ending

/-!
# Refused commands touch nothing

The first path of an operation that cannot be resolved ends it with nothing asked
(`execute_refused`). Past its paths no operation ends in a path error (`pathless_execute`).
-/

namespace FileClerk

namespace Action

variable {α β σ : Type}

/-- Asks nothing and ends with a result. -/
def silence (result : Except Crash α) : Law α := ⟨fun _ _ => False, fun _ r => r = result⟩

theorem Obeys.run_silent (answering : Answering σ) (s : σ) {result : Except Crash α} :
    ∀ {action : Action α} {past : List Event}, action.Obeys (silence result) past →
      (action.run answering s).calls = [] ∧ (action.run answering s).state = s
        ∧ (action.run answering s).result = result
  | done _, _, h => ⟨rfl, rfl, h⟩
  | crash _, _, h => ⟨rfl, rfl, h⟩
  | ask _ _, _, h => h.1.elim
  | note _ next, past, h => by
    have hnext : next.Obeys (silence result) (past ++ [.noted _]) := h
    exact hnext.run_silent answering s

end Action

namespace Execution

open FileClerk.Action

variable {box : Sandbox} {operation : Operation}

/-- Asks anything and ends in anything but a path error. -/
def pathless : Law Outcome := ⟨fun _ _ => True, fun _ r => ∀ e, r ≠ .ok (.failed (.path e))⟩

theorem lenient_pathless (operation : Operation) : Lenient pathless operation where
  asks _ _ := trivial
  ends _ _ h e heq := h e (Except.ok.inj heq)
  crashes _ _ _ _ _ _ _ h := by cases h

/-- The first path that cannot be resolved ends the operation. -/
theorem execute_refused {before after : List Text} {path : Text}
    {error : PathError} (hpaths : operation.paths = before ++ path :: after)
    (hbefore : ∀ p ∈ before, ∃ place, box.resolve p = .ok place)
    (herror : box.resolve path = .error error) :
    operation.execute box = .done (.failed (.path error)) := by
  obtain ⟨raw, next, hp, hx, -⟩ | ⟨first, second, next, hp, hx, -⟩ :=
    execute_resolving box (lenient_pathless operation)
  · rw [hp] at hpaths
    rcases before with _ | ⟨b, before⟩
    · obtain ⟨rfl, -⟩ := List.cons.inj hpaths
      rw [hx, resolving_of_error herror]
    · simp at hpaths
  · rw [hp] at hpaths
    rcases before with _ | ⟨b, _ | ⟨c, before⟩⟩
    · obtain ⟨rfl, -⟩ := List.cons.inj hpaths
      rw [hx, resolving_of_error herror]
    · obtain ⟨rfl, hrest⟩ := List.cons.inj hpaths
      obtain ⟨rfl, -⟩ := List.cons.inj hrest
      obtain ⟨place, hplace⟩ := hbefore first (by simp)
      rw [hx, resolving_of_ok hplace, resolving_of_error herror]
    · simp at hpaths

theorem pathless_execute
    (h : ∀ path ∈ operation.paths, ∃ place, box.resolve path = .ok place) :
    Keeps pathless (operation.execute box) := by
  obtain ⟨raw, next, hp, hx, hnext⟩ | ⟨first, second, next, hp, hx, hnext⟩ :=
    execute_resolving box (lenient_pathless operation)
  · obtain ⟨place, hplace⟩ := h raw (by simp [hp])
    rw [hx, resolving_of_ok hplace]
    exact hnext place
  · obtain ⟨a, ha⟩ := h first (by simp [hp])
    obtain ⟨b, hb⟩ := h second (by simp [hp])
    rw [hx, resolving_of_ok ha, resolving_of_ok hb]
    exact hnext a b

end Execution

namespace Sandbox

open FileClerk.Action

/-- A command that cannot be read, or names a path that cannot be resolved, leaves the disk alone,
and only the latter ends in a path error: that of the first such path. -/
theorem interpret_refused {σ : Type} (answering : Answering σ) (s : σ) (box : Sandbox)
    (raw : Text) :
    let run := (box.interpret raw).run answering s
    (∀ refusal, Grammar.standard.parse raw = .error refusal →
      run.calls = [] ∧ run.state = s ∧ run.result = .ok (.rejected refusal))
    ∧ ∀ operation, Grammar.standard.parse raw = .ok operation →
      (∀ before path after error, operation.paths = before ++ path :: after →
        (∀ p ∈ before, ∃ place, box.resolve p = .ok place) → box.resolve path = .error error →
        run.calls = [] ∧ run.state = s
          ∧ run.result = .ok (.executed operation (.failed (.path error))))
      ∧ ((∀ path ∈ operation.paths, ∃ place, box.resolve path = .ok place) →
        ∀ executed error, run.result ≠ .ok (.executed executed (.failed (.path error)))) := by
  refine ⟨fun refusal hparse => ?_, fun operation hparse => ⟨?_, fun hpaths => ?_⟩⟩
  · have hobeys : (box.interpret raw).Obeys (silence (.ok (.rejected refusal))) [] := by
      rw [interpret, hparse]
      exact (obeys_report _).2 rfl
    exact hobeys.run_silent answering s
  · intro before path after error hpaths hbefore herror
    have hobeys : (box.interpret raw).Obeys
        (silence (.ok (.executed operation (.failed (.path error))))) [] := by
      rw [interpret, hparse]
      dsimp only
      rw [Execution.execute_refused hpaths hbefore herror]
      exact (obeys_report _).2 rfl
    exact hobeys.run_silent answering s
  · have hobeys : (box.interpret raw).Obeys ⟨fun _ _ => True, fun _ r =>
        ∀ executed error, r ≠ .ok (.executed executed (.failed (.path error)))⟩ [] := by
      rw [interpret, hparse]
      refine (obeys_bind _).2 (Obeys.mono ?_ ?_ (Execution.pathless_execute hpaths _))
      · exact fun _ _ hasks => hasks
      · intro past result hresult
        cases result with
        | error why => exact fun _ _ h => by cases h
        | ok outcome =>
          refine (obeys_report _).2 fun executed error h => hresult error ?_
          cases h
          rfl
    exact ((runs_run answering (box.interpret raw) s).obeys_nil hobeys).1

end Sandbox

end FileClerk
