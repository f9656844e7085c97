import FileClerk.Proofs.Schedule
import FileClerk.Watch.Session

/-!
# Sessions go by a schedule

A session lets the run loop work on a host, a cycle at a time. Whatever it is made to do, what
happens is one of the schedules of the watch (`Goes`), unless a cycle crashes; so what holds of all
schedules holds of every session (`exists_schedule`).
-/

namespace FileClerk

namespace Watch

open FileClerk.Action

namespace Session

/-- A session is at work as a watch is between two steps; a cycle that has begun has yet to do
everything. -/
structure Shows (s : Session) (w : Work) : Prop where
  machine : w.machine = s.machine
  loop : w.loop = s.loop
  running : w.running? = match s.machine.stage with
    | .cycling _ => some ⟨[], s.loop.onChange⟩
    | .listening | .draining | .stopped => none

/-- What happens to a session is a schedule of the watch. -/
def Goes (s s' : Session) : Prop :=
  ∀ w, s.Shows w → ∃ acts w', Schedule w acts w' ∧ s'.Shows w'

variable {s s' s'' : Session} {w w' : Work}

theorem shows_start (host : Host) (listener : Listener) (file : Text) (box : Sandbox)
    (settle capacity : Nat) : (start host listener (.new file box) settle capacity).Shows
      (.new file box settle capacity 0) :=
  ⟨rfl, rfl, rfl⟩

theorem Goes.refl (s : Session) : s.Goes s := fun w h => ⟨[], w, .start, h⟩

theorem Goes.trans (first : s.Goes s') (second : s'.Goes s'') : s.Goes s'' := by
  intro w h
  obtain ⟨acts, w', schedule, h'⟩ := first w h
  obtain ⟨acts', w'', schedule', h''⟩ := second w' h'
  exact ⟨_, w'', schedule.trans schedule', h''⟩

/-- What is of no concern to the loop may change. -/
theorem goes_of_eq (hmachine : s'.machine = s.machine) (hloop : s'.loop = s.loop) : s.Goes s' := by
  intro w h
  refine ⟨[], w, .start, h.machine.trans hmachine.symm, h.loop.trans hloop.symm, ?_⟩
  rw [h.running, hmachine, hloop]

theorem goes_signal {signal : Signal} (hsignal : signal ≠ .finished) :
    s.Goes (s.signal [signal]) := by
  intro w h
  unfold Session.signal Machine.after
  rw [List.foldl_cons, List.foldl_nil]
  rcases hstep : s.machine.step? signal with _ | m
  · exact ⟨[], w, .start, h⟩
  have hm : w.machine.step? signal = some m := by rw [h.machine, hstep]
  cases signal with
  | arrival =>
    obtain ⟨-, rfl⟩ := Machine.step?_arrival_iff.1 hstep
    exact ⟨_, _, .head (.arrival hm) .start, rfl, h.loop, h.running⟩
  | closing =>
    obtain ⟨-, rfl⟩ := Machine.step?_closing_iff.1 hstep
    exact ⟨_, _, .head (.closing hm) .start, rfl, h.loop, h.running⟩
  | receipt now =>
    obtain ⟨-, _, -, rfl⟩ := Machine.step?_receipt_iff.1 hstep
    exact ⟨_, _, .head (.receipt hm) .start, rfl, h.loop, h.running⟩
  | quiet now =>
    obtain ⟨hstage, ⟨-, rfl⟩ | rfl⟩ := Machine.step?_quiet hstep
    · exact ⟨_, _, .head (.begins (h.machine ▸ hstage) hm rfl) .start, rfl, h.loop,
        by simp [h.loop]⟩
    · exact ⟨_, _, .head (.passes hm hstage) .start, rfl, h.loop, h.running⟩
  | finished => exact absurd rfl hsignal
  | discard =>
    obtain ⟨-, _, -, rfl⟩ := Machine.step?_discard_iff.1 hstep
    exact ⟨_, _, .head (.discards hm) .start, rfl, h.loop, h.running⟩
  | drained now =>
    obtain ⟨⟨hstage, -⟩, rfl⟩ := Machine.step?_drained_iff.1 hstep
    refine ⟨_, _, .head (.resumes hm) .start, rfl, h.loop, ?_⟩
    simpa [hstage] using h.running
  | ending =>
    obtain ⟨⟨hstage, -⟩, ⟨-, rfl⟩ | ⟨-, rfl⟩⟩ := Machine.step?_ending_iff.1 hstep
    · exact ⟨_, _, .head (.begins (h.machine ▸ hstage) hm rfl) .start, rfl, h.loop,
        by simp [h.loop]⟩
    · refine ⟨_, _, .head (.stops hm rfl) .start, rfl, h.loop, ?_⟩
      simpa [hstage] using h.running

theorem goes_signals {signals : List Signal} (hsignals : .finished ∉ signals) :
    s.Goes (s.signal signals) := by
  induction signals generalizing s with
  | nil => exact .refl s
  | cons signal signals ih =>
    rw [List.mem_cons, not_or] at hsignals
    exact (goes_signal (Ne.symm hsignals.1)).trans (ih hsignals.2)

theorem crashed_of_cycle (h : s.cycle.crashed = none) : s.crashed = none := by
  unfold cycle at h
  split at h
  · dsimp only at h
    split at h
    · exact h
    · cases h
  · exact h

theorem shows_finished {acts : List Act} {steps : List Event} {result : CycleResult} {last : Bool}
    (schedule : Schedule w acts w') (hmachine : w'.machine = s.machine)
    (hrunning : w'.running? = some ⟨steps, .done (result, s.loop)⟩)
    (hstage : s.machine.stage = .cycling last) :
    ∃ acts w'', Schedule w acts w'' ∧ (s.signal [.finished]).Shows w'' := by
  have hstep : s.machine.step? .finished = some _ :=
    Machine.step?_finished_iff.2 ⟨last, hstage, rfl⟩
  unfold Session.signal Machine.after
  rw [List.foldl_cons, List.foldl_nil, hstep]
  refine ⟨_, _, schedule.step (.finishes hrunning (hmachine ▸ hstep)), ?_, rfl, ?_⟩
  · rw [hmachine]
    rfl
  · cases last <;> rfl

/-- A cycle that does not crash is carried out step by step and ends. -/
theorem goes_cycle (h : s.cycle.crashed = none) : s.Goes s.cycle := by
  unfold cycle at h ⊢
  split at h
  · rename_i last hstage
    intro w hshows
    let run := s.loop.onChange.run Listener.answer (s.host, s.listener)
    have hrun := runs_run Listener.answer s.loop.onChange (s.host, s.listener)
    have hrunning : w.running? = some ⟨[], s.loop.onChange⟩ := by rw [hshows.running, hstage]
    dsimp only at h ⊢
    split at h
    · rename_i result loop hresult
      rw [hresult] at hrun
      have schedule := Schedule.of_runs hrun hrunning rfl
      let ended : Session := { s with
        host := run.state.1, listener := run.state.2, loop := loop, notes := s.notes ++ run.notes }
      obtain ⟨acts, w', first, hfinished⟩ :=
        shows_finished (s := ended) schedule hshows.machine rfl hstage
      -- what follows the end of the cycle empties the mailbox
      have hrest : .finished ∉ List.replicate s.machine.mailbox.queued .discard
          ++ [Signal.drained s.clock] := by
        simp [List.mem_replicate]
      obtain ⟨acts', w'', later, hlater⟩ := goes_signals hrest w' hfinished
      exact ⟨_, w'', first.trans later, hlater⟩
    · cases h
  · exact .refl s

theorem crashed_of_waitFor {limit : Nat} {enough : Option Nat} :
    ∀ {turns : Nat} {s : Session}, (s.waitFor limit enough turns).crashed = none → s.crashed = none
  | 0, _, h => h
  | turns + 1, s, h => by
    unfold waitFor at h
    split_ifs at h
    · exact h
    · have hcycle := crashed_of_cycle (crashed_of_waitFor h)
      exact hcycle
    · exact h

theorem goes_waitFor {limit : Nat} {enough : Option Nat} :
    ∀ {turns : Nat} {s : Session}, (s.waitFor limit enough turns).crashed = none →
      s.Goes (s.waitFor limit enough turns)
  | 0, s, _ => .refl s
  | turns + 1, s, h => by
    unfold waitFor at h ⊢
    split_ifs at h ⊢
    · exact .refl s
    · let later : Session := { s with clock := max s.clock s.machine.deadline }
      have hclock : s.Goes later := goes_of_eq rfl rfl
      have hquiet : later.Goes (later.signal [.quiet later.clock]) := goes_signals (by simp)
      have hcycle := goes_cycle (crashed_of_waitFor h)
      exact ((hclock.trans hquiet).trans hcycle).trans (goes_waitFor h)
    · exact goes_of_eq rfl rfl

theorem goes_notify (s : Session) : s.Goes s.notify := goes_signals (by simp)

theorem goes_change (s : Session) (change : Change) : s.Goes (s.change change) := by
  unfold Session.change
  dsimp only
  split_ifs
  · let changed : Session := { s with
      host := s.host.apply change
      listener := s.listener.afterChange s.host change }
    have hchanged : s.Goes changed := goes_of_eq rfl rfl
    exact hchanged.trans (goes_notify changed)
  · exact goes_of_eq rfl rfl

theorem goes_close (h : s.close.crashed = none) : s.Goes s.close :=
  (goes_signals (by simp)).trans (goes_cycle h)

/-- What a session may be made to do, time after time, as long as no cycle crashes. -/
inductive Reaches (first : Session) : Session → Prop where
  | start : Reaches first first
  | change {s : Session} (c : Change) : Reaches first s → Reaches first (s.change c)
  | notify {s : Session} : Reaches first s → Reaches first s.notify
  | waitFor {s : Session} {limit enough turns} : Reaches first s →
      (s.waitFor limit enough turns).crashed = none →
      Reaches first (s.waitFor limit enough turns)
  | close {s : Session} : Reaches first s → s.close.crashed = none → Reaches first s.close

theorem Reaches.goes {first : Session} (h : first.Reaches s) : first.Goes s := by
  induction h with
  | start => exact .refl first
  | change change _ ih => exact ih.trans (goes_change _ change)
  | notify _ ih => exact ih.trans (goes_notify _)
  | waitFor _ hcrash ih => exact ih.trans (goes_waitFor hcrash)
  | close _ hcrash ih => exact ih.trans (goes_close hcrash)

/-- A session is at every moment where a schedule of the watch leads. -/
theorem exists_schedule {host : Host} {listener : Listener} {file : Text} {box : Sandbox}
    {settle capacity : Nat} (h : (start host listener (.new file box) settle capacity).Reaches s) :
    ∃ acts w, Schedule (.new file box settle capacity 0) acts w ∧ s.Shows w :=
  h.goes _ (shows_start host listener file box settle capacity)

end Session

end Watch

end FileClerk
