import FileClerk.Proofs.Debouncing
import FileClerk.Proofs.History
import FileClerk.Watch.Machine

/-!
# Schedules of a watch

Notifications come at any moment, also while a cycle runs; the loop receives them, its timer runs
out, the source closes. A schedule is any order of all this together with the single steps of the
cycles, whatever the disk answers (`Schedule`). A ledger beside it says what became of every
notification; what holds of all schedules is an invariant of one step (`Sound.of_step`).
-/

namespace FileClerk

namespace Action

variable {α : Type}

/-- A step of an action, and what is left of the action after it. -/
inductive After : Action α → Event → Action α → Prop where
  | asked {call next} (answer : call.Answer) :
      After (ask call next) (.called call answer) (next answer)
  | noted {n next} : After (note n next) (.noted n) next

/-- What is left of an action after some steps. -/
inductive Leaves (action : Action α) : List Event → Action α → Prop where
  | start : Leaves action [] action
  | step {steps rest e next} : Leaves action steps rest → rest.After e next →
      Leaves action (steps ++ [e]) next

variable {action rest : Action α} {steps events : List Event} {result : Except Crash α}

theorem Leaves.runs (h : action.Leaves steps rest) :
    ∀ {events}, Runs rest events result → Runs action (steps ++ events) result := by
  induction h with
  | start => exact fun run => run
  | step _ hafter ih =>
    intro events run
    rw [List.append_assoc, List.singleton_append]
    cases hafter with
    | asked answer => exact ih (.ask answer run)
    | noted => exact ih (.note run)

end Action

namespace Watch

open FileClerk.Action

theorem Mailbox.capacity_offer (mailbox : Mailbox) : mailbox.offer.capacity = mailbox.capacity := by
  unfold offer
  split_ifs <;> rfl

theorem Mailbox.queued_le_offer (mailbox : Mailbox) : mailbox.queued ≤ mailbox.offer.queued := by
  unfold offer
  split_ifs
  · exact Nat.le_refl _
  · exact Nat.le_succ _

namespace Machine

variable {m m' : Machine} {now : Nat}

theorem step?_arrival_iff : m.step? .arrival = some m' ↔
    m.mailbox.isOpen = true ∧ m' = { m with mailbox := m.mailbox.offer } := by
  simp only [step?]
  split_ifs with h <;> simp [h, eq_comm]

theorem step?_closing_iff : m.step? .closing = some m' ↔
    m.mailbox.isOpen = true ∧ m' = { m with mailbox := m.mailbox.close } := by
  simp only [step?]
  split_ifs with h <;> simp [h, eq_comm]

theorem step?_receipt_iff : m.step? (.receipt now) = some m' ↔
    m.stage = .listening ∧ ∃ n, m.mailbox.queued = n + 1 ∧ m' = { m with
      mailbox := { m.mailbox with queued := n }
      debouncer := m.debouncer.record now
      armed := now } := by
  simp only [step?, Mailbox.take?]
  rcases hqueued : m.mailbox.queued with _ | n <;> cases hstage : m.stage <;> simp [eq_comm]

/-- When the timer runs out, a cycle begins for a change that has settled, or nothing happens. -/
theorem step?_quiet_settled (h : m.step? (.quiet now) = some m') :
    (m.stage = .listening ∧ m.deadline ≤ now)
      ∧ ((∃ last, m.debouncer.pending = some last ∧ m.debouncer.settle ≤ now - last
          ∧ m' = { m with
            debouncer := { m.debouncer with pending := none }
            stage := .cycling false
            armed := now })
        ∨ (∀ last, m.debouncer.pending = some last → ¬ m.debouncer.settle ≤ now - last)
          ∧ m' = { m with armed := now }) := by
  simp only [step?] at h
  by_cases hready : m.stage = .listening ∧ m.deadline ≤ now
  · rw [if_pos hready] at h
    obtain rfl := Option.some.inj h
    refine ⟨hready, ?_⟩
    obtain ⟨last, hlast, hsettle, htake⟩ | ⟨hno, htake⟩ :=
      m.debouncer.takeReady_settled_cases now
    · exact .inl ⟨last, hlast, hsettle, by rw [htake]; rfl⟩
    · exact .inr ⟨hno, by rw [htake, ← hready.1]; rfl⟩
  · rw [if_neg hready] at h
    cases h

/-- When the timer runs out, a cycle begins for a change that is held back, or nothing happens. -/
theorem step?_quiet (h : m.step? (.quiet now) = some m') : m.stage = .listening
    ∧ ((m.debouncer.pending ≠ none ∧ m' = { m with
          debouncer := { m.debouncer with pending := none }
          stage := .cycling false
          armed := now })
      ∨ m' = { m with armed := now }) := by
  obtain ⟨⟨hstage, -⟩, ⟨last, hlast, -, hm'⟩ | ⟨-, hm'⟩⟩ := step?_quiet_settled h
  · exact ⟨hstage, .inl ⟨by simp [hlast], hm'⟩⟩
  · exact ⟨hstage, .inr hm'⟩

/-- After a cycle the mailbox is emptied, or the loop stops. -/
theorem step?_finished_iff : m.step? .finished = some m' ↔
    ∃ last, m.stage = .cycling last
      ∧ m' = { m with stage := if last then .stopped else .draining } := by
  simp only [step?]
  cases m.stage <;> simp [eq_comm]

theorem step?_discard_iff : m.step? .discard = some m' ↔
    m.stage = .draining ∧ ∃ n, m.mailbox.queued = n + 1
      ∧ m' = { m with mailbox := { m.mailbox with queued := n } } := by
  simp only [step?, Mailbox.take?]
  rcases hqueued : m.mailbox.queued with _ | n <;> cases hstage : m.stage <;> simp [eq_comm]

theorem step?_drained_iff : m.step? (.drained now) = some m' ↔
    (m.stage = .draining ∧ m.mailbox.queued = 0)
      ∧ m' = { m with stage := .listening, armed := now } := by
  by_cases h : m.stage = .draining ∧ m.mailbox.queued = 0
  · simp [step?, h, eq_comm]
  · simp only [step?, if_neg h]
    simp [h]

/-- At the end of the mailbox a change that is held back gets its cycle, or the loop stops. -/
theorem step?_ending_iff : m.step? .ending = some m' ↔
    (m.stage = .listening ∧ m.mailbox.queued = 0 ∧ m.mailbox.isOpen = false)
      ∧ ((m.debouncer.pending ≠ none ∧ m' = { m with
            debouncer := { m.debouncer with pending := none }
            stage := .cycling true })
        ∨ (m.debouncer.pending = none ∧ m' = { m with stage := .stopped })) := by
  obtain ⟨mailbox, ⟨settle, pending⟩, stage, armed⟩ := m
  simp only [step?, Debouncer.flush]
  by_cases h : stage = .listening ∧ mailbox.queued = 0 ∧ mailbox.isOpen = false
  · cases pending <;> simp [h, eq_comm]
  · simp [h]

/-- A cycle begins for a change that was held back, and no longer is. The last one begins at the end
of a closed mailbox. -/
theorem begins_cases {s : Signal} {last : Bool} (hstage : m.stage = .listening)
    (h : m.step? s = some m') (hcycling : m'.stage = .cycling last) :
    m.debouncer.pending ≠ none ∧ m'.debouncer.pending = none ∧ m'.mailbox = m.mailbox
      ∧ ((∃ now, s = .quiet now ∧ last = false) ∨ s = .ending ∧ last = true
        ∧ m.mailbox.isOpen = false ∧ m.mailbox.queued = 0) := by
  cases s with
  | arrival =>
    obtain ⟨-, rfl⟩ := step?_arrival_iff.1 h
    cases hstage.symm.trans hcycling
  | closing =>
    obtain ⟨-, rfl⟩ := step?_closing_iff.1 h
    cases hstage.symm.trans hcycling
  | receipt now =>
    obtain ⟨-, _, -, rfl⟩ := step?_receipt_iff.1 h
    cases hstage.symm.trans hcycling
  | quiet now =>
    obtain ⟨-, ⟨hpending, rfl⟩ | rfl⟩ := step?_quiet h
    · cases hcycling
      exact ⟨hpending, rfl, rfl, .inl ⟨now, rfl, rfl⟩⟩
    · cases hstage.symm.trans hcycling
  | finished =>
    obtain ⟨_, hrun, -⟩ := step?_finished_iff.1 h
    cases hstage.symm.trans hrun
  | discard =>
    obtain ⟨hdraining, -⟩ := step?_discard_iff.1 h
    cases hstage.symm.trans hdraining
  | drained now =>
    obtain ⟨⟨hdraining, -⟩, -⟩ := step?_drained_iff.1 h
    cases hstage.symm.trans hdraining
  | ending =>
    obtain ⟨⟨-, hqueued, hopen⟩, ⟨hpending, rfl⟩ | ⟨-, rfl⟩⟩ := step?_ending_iff.1 h
    · cases hcycling
      exact ⟨hpending, rfl, rfl, .inr ⟨rfl, rfl, hopen, hqueued⟩⟩
    · cases hcycling

end Machine

/-- What became of the notifications, which are numbered as they come. -/
structure Ledger where
  arrived : Nat
  /-- Those in the mailbox, oldest first. -/
  waiting : List Nat
  /-- Those the loop has received and no cycle has begun for. -/
  received : List Nat
  /-- Those each cycle began for. -/
  causes : List (List Nat)
  /-- Those that were thrown away after a cycle. -/
  discarded : List Nat
  /-- Those that found the mailbox full. -/
  dropped : List Nat

namespace Ledger

def new : Ledger := ⟨0, [], [], [], [], []⟩

def arrive (ledger : Ledger) (full : Bool) : Ledger :=
  if full then
    { ledger with arrived := ledger.arrived + 1, dropped := ledger.dropped ++ [ledger.arrived] }
  else { ledger with arrived := ledger.arrived + 1, waiting := ledger.waiting ++ [ledger.arrived] }

def receive (ledger : Ledger) : Ledger :=
  { ledger with
    waiting := ledger.waiting.drop 1
    received := ledger.received ++ ledger.waiting.take 1 }

def begin (ledger : Ledger) : Ledger :=
  { ledger with received := [], causes := ledger.causes ++ [ledger.received] }

def discard (ledger : Ledger) : Ledger :=
  { ledger with
    waiting := ledger.waiting.drop 1
    discarded := ledger.discarded ++ ledger.waiting.take 1 }

/-- Every notification that has come, once for each thing that became of it. -/
def all (ledger : Ledger) : List Nat :=
  ledger.causes.flatten ++ ledger.received ++ ledger.discarded ++ ledger.dropped ++ ledger.waiting

variable (ledger : Ledger)

theorem all_arrive (full : Bool) :
    (ledger.arrive full).all.Perm (ledger.all ++ [ledger.arrived]) := by
  refine List.perm_iff_count.2 fun n => ?_
  cases full <;>
    simp only [arrive, all, Bool.false_eq_true, if_true, if_false, List.count_append] <;> omega

theorem arrived_arrive (full : Bool) : (ledger.arrive full).arrived = ledger.arrived + 1 := by
  cases full <;> rfl

theorem received_arrive (full : Bool) : (ledger.arrive full).received = ledger.received := by
  cases full <;> rfl

theorem causes_arrive (full : Bool) : (ledger.arrive full).causes = ledger.causes := by
  cases full <;> rfl

theorem count_waiting (n : Nat) : (ledger.waiting.take 1).count n + (ledger.waiting.drop 1).count n
    = ledger.waiting.count n := by
  rw [← List.count_append, List.take_append_drop]

theorem all_receive : ledger.receive.all.Perm ledger.all := by
  refine List.perm_iff_count.2 fun n => ?_
  have hwaiting := ledger.count_waiting n
  simp only [receive, all, List.count_append]
  omega

theorem all_begin : ledger.begin.all = ledger.all := by
  simp [begin, all]

theorem all_discard : ledger.discard.all.Perm ledger.all := by
  refine List.perm_iff_count.2 fun n => ?_
  have hwaiting := ledger.count_waiting n
  simp only [discard, all, List.count_append]
  omega

end Ledger

/-- A cycle that runs: the steps it has made, and what is left of it. -/
structure Running where
  steps : List Event
  rest : Action (CycleResult × ChangeLoop)

/-- A watch at work, between two steps. -/
structure Work where
  machine : Machine
  loop : ChangeLoop
  running? : Option Running
  ledger : Ledger

def Work.new (file : Text) (box : Sandbox) (settle capacity start : Nat) : Work :=
  ⟨.new settle capacity start, .new file box, none, .new⟩

inductive Act where
  | signal (s : Signal)
  /-- A step of the cycle that runs. -/
  | event (e : Event)

/-- What may happen to a watch next. A cycle begins when the timer runs out or the mailbox has come
to its end; it goes on by its own steps and ends, whatever its result, when nothing is left of
it. Then the mailbox is emptied by steps of their own. -/
inductive Step (w : Work) : Act → Work → Prop where
  | arrival {m} : w.machine.step? .arrival = some m →
      Step w (.signal .arrival)
        { w with machine := m, ledger := w.ledger.arrive w.machine.mailbox.isFull }
  | closing {m} : w.machine.step? .closing = some m →
      Step w (.signal .closing) { w with machine := m }
  | receipt {now m} : w.machine.step? (.receipt now) = some m →
      Step w (.signal (.receipt now)) { w with machine := m, ledger := w.ledger.receive }
  | begins {s m last} : w.machine.stage = .listening → w.machine.step? s = some m →
      m.stage = .cycling last →
      Step w (.signal s) ⟨m, w.loop, some ⟨[], w.loop.onChange⟩, w.ledger.begin⟩
  | passes {now m} : w.machine.step? (.quiet now) = some m → m.stage = .listening →
      Step w (.signal (.quiet now)) { w with machine := m }
  | stops {m} : w.machine.step? .ending = some m → m.stage = .stopped →
      Step w (.signal .ending) { w with machine := m }
  | event {steps rest e next} : w.running? = some ⟨steps, rest⟩ → rest.After e next →
      Step w (.event e) { w with running? := some ⟨steps ++ [e], next⟩ }
  | finishes {m steps result loop} : w.running? = some ⟨steps, .done (result, loop)⟩ →
      w.machine.step? .finished = some m →
      Step w (.signal .finished) ⟨m, loop, none, w.ledger⟩
  | discards {m} : w.machine.step? .discard = some m →
      Step w (.signal .discard) { w with machine := m, ledger := w.ledger.discard }
  | resumes {now m} : w.machine.step? (.drained now) = some m →
      Step w (.signal (.drained now)) { w with machine := m }

/-- A watch goes from one state to another by some acts, one after the other. -/
inductive Schedule (start : Work) : List Act → Work → Prop where
  | start : Schedule start [] start
  | step {acts w act next} : Schedule start acts w → Step w act next →
      Schedule start (acts ++ [act]) next

namespace Schedule

variable {w w' w'' : Work} {acts acts' : List Act} {act : Act}

theorem trans (first : Schedule w acts w') (second : Schedule w' acts' w'') :
    Schedule w (acts ++ acts') w'' := by
  induction second with
  | start => rwa [List.append_nil]
  | step _ step ih =>
    rw [← List.append_assoc]
    exact ih.step step

theorem head (step : Step w act w') (rest : Schedule w' acts w'') : Schedule w (act :: acts) w'' :=
  (Schedule.start.step step).trans rest

/-- A cycle may go on as any run of what is left of it. -/
theorem of_runs {rest : Action (CycleResult × ChangeLoop)} {events : List Event}
    {result : Except Crash (CycleResult × ChangeLoop)} (run : Runs rest events result) :
    ∀ {w : Work} {steps : List Event} {a : CycleResult × ChangeLoop},
      w.running? = some ⟨steps, rest⟩ → result = .ok a →
        Schedule w (events.map .event) { w with running? := some ⟨steps ++ events, .done a⟩ } := by
  induction run with
  | done b =>
    rintro w steps a hrunning ⟨⟩
    rw [List.append_nil, ← hrunning]
    exact .start
  | crash why =>
    rintro w steps a hrunning ⟨⟩
  | @ask call next answer events result run ih =>
    intro w steps a hrunning hresult
    have hrest := ih (w := { w with
      running? := some ⟨steps ++ [.called call answer], next answer⟩ }) rfl hresult
    rw [List.append_assoc] at hrest
    exact .head (.event hrunning (.asked answer)) hrest
  | @note n next events result run ih =>
    intro w steps a hrunning hresult
    have hrest := ih (w := { w with running? := some ⟨steps ++ [.noted n], next⟩ }) rfl hresult
    rw [List.append_assoc] at hrest
    exact .head (.event hrunning .noted) hrest

end Schedule

/-- What holds of a watch at work at any moment. -/
structure Work.Sound (file : Text) (box : Sandbox) (w : Work) : Prop where
  loop : ∃ seen, w.loop = ⟨file, box, .idle, seen⟩
  cycling : w.running? = none ↔ ∀ last, w.machine.stage ≠ .cycling last
  running : ∀ steps rest, w.running? = some ⟨steps, rest⟩ → w.loop.onChange.Leaves steps rest
  capacity : 0 < w.machine.mailbox.capacity
  closed : w.machine.stage = .cycling true ∨ w.machine.stage = .stopped →
    w.machine.mailbox.isOpen = false ∧ w.machine.mailbox.queued = 0
  waiting : w.ledger.waiting.length = w.machine.mailbox.queued
  pending : w.ledger.received = [] ↔ w.machine.debouncer.pending = none
  listening : w.machine.stage ≠ .listening → w.ledger.received = []
  causes : ∀ cause ∈ w.ledger.causes, cause ≠ []
  all : w.ledger.all.Perm (List.range w.ledger.arrived)

namespace Work.Sound

variable {file : Text} {box : Sandbox} {w w' : Work} {act : Act}

theorem new (file : Text) (box : Sandbox) (settle capacity start : Nat) :
    (Work.new file box settle capacity start).Sound file box where
  loop := ⟨none, rfl⟩
  cycling := by simp [Work.new, Machine.new]
  running _ _ h := by cases h
  capacity := Nat.lt_of_lt_of_le Nat.one_pos (Nat.le_max_right _ _)
  closed h := by simp [Work.new, Machine.new] at h
  waiting := rfl
  pending := ⟨fun _ => rfl, fun _ => rfl⟩
  listening _ := rfl
  causes _ h := by cases h
  all := .nil

theorem exists_cycling (h : w.Sound file box) {running : Running}
    (hrunning : w.running? = some running) : ∃ last, w.machine.stage = .cycling last := by
  by_contra hstage
  simp [h.cycling.2 (not_exists.1 hstage)] at hrunning

/-- A cycle that has nothing left to do leaves an idle loop. -/
theorem loop_of_done (h : w.Sound file box) {steps : List Event} {result : CycleResult}
    {loop : ChangeLoop} (hrunning : w.running? = some ⟨steps, .done (result, loop)⟩) :
    Runs w.loop.onChange steps (.ok (result, loop)) ∧ ∃ seen, loop = ⟨file, box, .idle, seen⟩ := by
  have run := (h.running _ _ hrunning).runs (.done _)
  rw [List.append_nil] at run
  obtain ⟨seen, hloop⟩ := h.loop
  exact ⟨run, _, (ChangeLoop.lawful_of_runs (hloop ▸ run)).2 _ _ rfl⟩

theorem of_step (h : w.Sound file box) (step : Step w act w') : w'.Sound file box := by
  cases step with
  | arrival hm =>
    obtain ⟨hopen, rfl⟩ := Machine.step?_arrival_iff.1 hm
    refine { h with
      capacity := ?_, closed := fun hstage => ?_, waiting := ?_, pending := ?_, listening := ?_
      causes := ?_, all := ?_ }
    · exact Nat.lt_of_lt_of_eq h.capacity (Mailbox.capacity_offer _).symm
    · simp [(h.closed hstage).1] at hopen
    · unfold Mailbox.offer Ledger.arrive
      split_ifs <;> simp [h.waiting]
    · rw [Ledger.received_arrive]
      exact h.pending
    · rw [Ledger.received_arrive]
      exact h.listening
    · rw [Ledger.causes_arrive]
      exact h.causes
    · rw [Ledger.arrived_arrive, List.range_succ]
      exact (Ledger.all_arrive _ _).trans (h.all.append_right _)
  | closing hm =>
    obtain ⟨hopen, rfl⟩ := Machine.step?_closing_iff.1 hm
    refine { h with closed := fun hstage => ?_ }
    exact ⟨rfl, (h.closed hstage).2⟩
  | receipt hm =>
    obtain ⟨hstage, n, hqueued, rfl⟩ := Machine.step?_receipt_iff.1 hm
    have hlength : w.ledger.waiting.length = n + 1 := h.waiting.trans hqueued
    refine { h with
      closed := fun hclosed => ?_, waiting := ?_, pending := ?_, listening := absurd hstage
      all := (Ledger.all_receive _).trans h.all }
    · simp [hstage] at hclosed
    · simp [Ledger.receive, hlength]
    · refine iff_of_false (fun hreceived => ?_) (by simp [Debouncer.record])
      have htake := congrArg List.length (List.append_eq_nil_iff.1 hreceived).2
      simp [hlength] at htake
  | begins hstage hm hcycling =>
    obtain ⟨hpending, hnone, hmailbox, hlast⟩ := Machine.begins_cases hstage hm hcycling
    have hreceived : w.ledger.received ≠ [] := fun hnil => hpending (h.pending.1 hnil)
    refine { h with
      cycling := by simp [hcycling], running := ?_, capacity := ?_, closed := fun hclosed => ?_
      waiting := ?_, pending := iff_of_true rfl hnone, listening := fun _ => rfl, causes := ?_
      all := ?_ }
    · rintro _ _ ⟨⟩
      exact .start
    · rw [hmailbox]
      exact h.capacity
    · obtain ⟨-, -, rfl⟩ | ⟨-, -, hend⟩ := hlast
      · simp [hcycling] at hclosed
      · rwa [hmailbox]
    · rw [hmailbox]
      exact h.waiting
    · intro cause hcause
      rcases List.mem_append.1 hcause with hcause | hcause
      · exact h.causes cause hcause
      · rwa [List.mem_singleton.1 hcause]
    · rw [Ledger.all_begin]
      exact h.all
  | passes hm hstage =>
    obtain ⟨-, ⟨-, rfl⟩ | rfl⟩ := Machine.step?_quiet hm
    · cases hstage
    · exact { h with }
  | stops hm hstage =>
    obtain ⟨⟨hlistening, hqueued, hopen⟩, ⟨-, rfl⟩ | ⟨hpending, rfl⟩⟩ :=
      Machine.step?_ending_iff.1 hm
    · cases hstage
    refine { h with closed := fun _ => ⟨hopen, hqueued⟩, cycling := ?_, listening := fun _ => ?_ }
    · simp [h.cycling, hlistening]
    · exact h.pending.2 hpending
  | @event steps rest e next hrunning hafter =>
    refine { h with cycling := ?_, running := ?_ }
    · refine iff_of_false (by simp) fun hstage => ?_
      simp [h.cycling.2 hstage] at hrunning
    · rintro _ _ ⟨⟩
      exact (h.running _ _ hrunning).step hafter
  | finishes hrunning hm =>
    obtain ⟨last, hcycling, rfl⟩ := Machine.step?_finished_iff.1 hm
    refine { h with
      loop := (h.loop_of_done hrunning).2, cycling := ?_, running := by simp
      closed := fun hclosed => h.closed (.inl ?_)
      listening := fun _ => h.listening (by simp [hcycling]) }
    · cases last <;> simp
    · cases last
      · simp at hclosed
      · exact hcycling
  | discards hm =>
    obtain ⟨hstage, n, hqueued, rfl⟩ := Machine.step?_discard_iff.1 hm
    have hlength : w.ledger.waiting.length = n + 1 := h.waiting.trans hqueued
    refine { h with
      closed := fun hclosed => ?_, waiting := ?_, all := (Ledger.all_discard _).trans h.all }
    · simp [hstage] at hclosed
    · simp [Ledger.discard, hlength]
  | resumes hm =>
    obtain ⟨⟨hstage, -⟩, rfl⟩ := Machine.step?_drained_iff.1 hm
    refine { h with cycling := ?_, closed := by simp, listening := by simp }
    simp [h.cycling, hstage]

theorem of_schedule {acts : List Act} (schedule : Schedule w acts w') (h : w.Sound file box) :
    w'.Sound file box := by
  induction schedule with
  | start => exact h
  | step _ step ih => exact ih.of_step step

end Work.Sound

end Watch

end FileClerk
