import FileClerk.Proofs.Schedule

/-!
# The law of the run loop

Whatever the order in which notifications come, the timer runs out and the source closes, a cycle
begins only for what was received after the cycle before it, what waits when a cycle ends or comes
until the mailbox has been emptied is thrown away, and the end of the source brings one cycle for
what is left, or none (`lawful_of_schedule`).
-/

namespace FileClerk

namespace Watch

open FileClerk.Action

variable {file : Text} {box : Sandbox} {w w' : Work} {acts : List Act} {act : Act}

/-- A cycle begins between two states. -/
def Work.Begins (w w' : Work) : Prop := w.running? = none ∧ w'.running? ≠ none

/-- The source has come to its end; at most a last cycle still runs. -/
def Work.Ends (w : Work) : Prop := w.machine.stage = .cycling true ∨ w.machine.stage = .stopped

def Act.Unquiet (act : Act) : Prop := ∀ now, act ≠ .signal (.quiet now)

/-- A notification has been thrown away, or will be before the loop listens again. -/
def Work.Loses (w : Work) (n : Nat) : Prop :=
  n ∈ w.ledger.discarded ∨ w.machine.stage = .draining ∧ n ∈ w.ledger.waiting

/-- The law of the run loop, for a watch at some moment. -/
structure Work.Lawful (w : Work) : Prop where
  /-- Every notification has come to one thing. -/
  all : w.ledger.all.Perm (List.range w.ledger.arrived)
  waiting : w.ledger.waiting.length = w.machine.mailbox.queued
  /-- Every cycle so far had something received to begin for. -/
  causes : ∀ cause ∈ w.ledger.causes, cause ≠ []
  /-- A cycle that begins does so for what was received since the last one, and takes it. -/
  begins : ∀ act w', Step w act w' → w.Begins w' → w.ledger.received ≠ []
    ∧ w'.ledger.causes = w.ledger.causes ++ [w.ledger.received] ∧ w'.ledger.received = []
  keeps : ∀ act w', Step w act w' → ¬ w.Begins w' → w'.ledger.causes = w.ledger.causes
  /-- While a cycle runs, and until the mailbox has been emptied after it, nothing is received. -/
  receipt : ∀ now w', Step w (.signal (.receipt now)) w' →
    w.running? = none ∧ w.machine.stage = .listening
  /-- The timer running out begins no cycle if nothing was received. -/
  quiet : ∀ now w', Step w (.signal (.quiet now)) w' → w.ledger.received = [] →
    w'.running? = none ∧ w'.machine.stage = .listening
  /-- A cycle ends with whatever result, and the last one stops the loop. -/
  returns : ∀ steps result loop, w.running? = some ⟨steps, .done (result, loop)⟩ → ∃ w',
    Step w (.signal .finished) w' ∧ (w.machine.stage = .cycling true →
      w'.machine.stage = .stopped)
  /-- After a cycle that the timer began the mailbox is emptied. What was in it when the cycle ended
  is thrown away and never leads to a cycle. -/
  discards : ∀ w', w.machine.stage = .cycling false → Step w (.signal .finished) w' →
    w'.machine.stage = .draining ∧ ∀ acts later, Schedule w' acts later →
      ∀ n ∈ w.ledger.waiting, later.Loses n ∧ ∀ cause ∈ later.ledger.causes, n ∉ cause
  /-- So is what comes while the mailbox is being emptied. -/
  drains : w.machine.stage = .draining → ∀ acts later, Schedule w acts later →
    ∀ n ∈ w.ledger.waiting, later.Loses n ∧ ∀ cause ∈ later.ledger.causes, n ∉ cause
  /-- The mailbox can be emptied at once, and the loop listens again only when nothing is in it. -/
  resumes : w.machine.stage = .draining → ∀ now,
    (∃ w', Schedule w (List.replicate w.machine.mailbox.queued (.signal .discard)
      ++ [.signal (.drained now)]) w' ∧ w'.machine.stage = .listening)
    ∧ ∀ w', Step w (.signal (.drained now)) w' →
      w'.machine.stage = .listening ∧ w'.machine.mailbox.queued = 0
  /-- At its end the source brings one more cycle if anything was received, and none after it. -/
  ending : ∀ w', Step w (.signal .ending) w' → (w.Begins w' ↔ w.ledger.received ≠ [])
    ∧ ∀ acts later, Schedule w' acts later →
      later.Ends ∧ later.ledger.causes = w'.ledger.causes
  /-- Then the loop stops, at once or after its last cycle, whatever the result of that is. -/
  stops : ∀ w', Step w (.signal .ending) w' →
    (w.ledger.received = [] → w'.machine.stage = .stopped)
      ∧ (w.ledger.received ≠ [] → ∀ events result loop,
        Runs w.loop.onChange events (.ok (result, loop)) → ∃ last,
          Schedule w' (events.map .event ++ [.signal .finished]) last
            ∧ last.machine.stage = .stopped)
  /-- As many notifications may come as there is room for, and the source may close then. -/
  fills : w.machine.mailbox.isOpen = true → ∀ n,
    w.machine.mailbox.queued + n ≤ w.machine.mailbox.capacity →
    ∃ w', Schedule w (List.replicate n (.signal .arrival) ++ [.signal .closing]) w'
      ∧ w'.machine.stage = w.machine.stage ∧ w'.ledger.received = w.ledger.received
      ∧ w'.machine.mailbox.isOpen = false
      ∧ w'.machine.mailbox.queued = w.machine.mailbox.queued + n
  /-- Notifications that wait when the source is closed get one cycle all together unless the timer
  runs out. -/
  burst : w.machine.stage = .listening → w.machine.mailbox.isOpen = false → w.ledger.received = [] →
    (∀ acts last, Schedule w acts last → last.machine.stage = .stopped →
      (∀ act ∈ acts, act.Unquiet) →
      last.ledger.causes.length = w.ledger.causes.length + min w.machine.mailbox.queued 1)
    ∧ ∃ acts last, Schedule w acts last ∧ last.machine.stage = .stopped
      ∧ ∀ act ∈ acts, act.Unquiet

theorem Step.causes (h : w.Sound file box) (step : Step w act w') :
    (w.Begins w' ∧ w.ledger.received ≠ []
        ∧ w'.ledger.causes = w.ledger.causes ++ [w.ledger.received] ∧ w'.ledger.received = [])
      ∨ ¬ w.Begins w' ∧ w'.ledger.causes = w.ledger.causes := by
  cases step with
  | begins hstage hm hcycling =>
    obtain ⟨hpending, -⟩ := Machine.begins_cases hstage hm hcycling
    refine .inl ⟨⟨h.cycling.2 (by simp [hstage]), by simp⟩, ?_, rfl, rfl⟩
    exact fun hnil => hpending (h.pending.1 hnil)
  | arrival => exact .inr ⟨fun ⟨hnone, hsome⟩ => hsome hnone, Ledger.causes_arrive _ _⟩
  | closing | receipt | passes | stops | discards | resumes =>
    exact .inr ⟨fun ⟨hnone, hsome⟩ => hsome hnone, rfl⟩
  | event hrunning => exact .inr ⟨fun ⟨hnone, _⟩ => by simp [hrunning] at hnone, rfl⟩
  | finishes => exact .inr ⟨fun ⟨_, hsome⟩ => hsome rfl, rfl⟩

/-- What is lost stays lost: while the mailbox is being emptied, the loop listens again only when
nothing waits any more. -/
theorem Step.loses (h : w.Sound file box) {n : Nat} (hn : w.Loses n) (step : Step w act w') :
    w'.Loses n := by
  cases step with
  | arrival hm =>
    obtain ⟨-, rfl⟩ := Machine.step?_arrival_iff.1 hm
    unfold Work.Loses Ledger.arrive
    split_ifs
    · exact hn
    · exact hn.imp_right fun ⟨hstage, hwaits⟩ => ⟨hstage, List.mem_append_left _ hwaits⟩
  | closing hm =>
    obtain ⟨-, rfl⟩ := Machine.step?_closing_iff.1 hm
    exact hn
  | receipt hm =>
    obtain ⟨hlistening, -⟩ := Machine.step?_receipt_iff.1 hm
    exact .inl (hn.resolve_right (by simp [hlistening]))
  | begins hlistening => exact .inl (hn.resolve_right (by simp [hlistening]))
  | passes hm =>
    obtain ⟨hlistening, -⟩ := Machine.step?_quiet hm
    exact .inl (hn.resolve_right (by simp [hlistening]))
  | stops hm =>
    obtain ⟨⟨hlistening, -⟩, -⟩ := Machine.step?_ending_iff.1 hm
    exact .inl (hn.resolve_right (by simp [hlistening]))
  | event => exact hn
  | finishes _ hm =>
    obtain ⟨_, hcycling, -⟩ := Machine.step?_finished_iff.1 hm
    exact .inl (hn.resolve_right (by simp [hcycling]))
  | discards hm =>
    obtain ⟨hstage, _, -, rfl⟩ := Machine.step?_discard_iff.1 hm
    rcases hn with hdiscarded | ⟨-, hwaits⟩
    · exact .inl (List.mem_append_left _ hdiscarded)
    · rw [← List.take_append_drop 1 w.ledger.waiting, List.mem_append] at hwaits
      exact hwaits.imp (List.mem_append_right _) fun hlater => ⟨hstage, hlater⟩
  | resumes hm =>
    obtain ⟨⟨-, hqueued⟩, -⟩ := Machine.step?_drained_iff.1 hm
    have hnone : w.ledger.waiting = [] := List.length_eq_zero_iff.1 (h.waiting.trans hqueued)
    exact .inl (hn.resolve_right (by simp [hnone]))

theorem Schedule.loses (schedule : Schedule w acts w') (h : w.Sound file box) {n : Nat}
    (hn : w.Loses n) : w'.Loses n := by
  induction schedule with
  | start => exact hn
  | step before step ih => exact step.loses (h.of_schedule before) ih

theorem Work.Sound.not_mem_of_loses (h : w.Sound file box) {n : Nat} (hn : w.Loses n) :
    ∀ cause ∈ w.ledger.causes, n ∉ cause := by
  intro cause hcause hmem
  have hnodup : w.ledger.all.Nodup := h.all.nodup_iff.2 List.nodup_range
  simp only [Ledger.all, List.append_assoc] at hnodup
  refine List.disjoint_of_nodup_append hnodup (List.mem_flatten_of_mem hcause hmem) ?_
  rcases hn with hdiscarded | ⟨-, hwaits⟩
  · simp [hdiscarded]
  · simp [hwaits]

/-- Once the source has come to its end, no cycle begins. -/
theorem Step.ends (h : w.Sound file box) (hends : w.Ends) (step : Step w act w') :
    w'.Ends ∧ w'.ledger.causes = w.ledger.causes := by
  cases step with
  | arrival hm =>
    obtain ⟨hopen, -⟩ := Machine.step?_arrival_iff.1 hm
    simp [(h.closed hends).1] at hopen
  | closing hm =>
    obtain ⟨hopen, -⟩ := Machine.step?_closing_iff.1 hm
    simp [(h.closed hends).1] at hopen
  | receipt hm =>
    obtain ⟨hstage, -⟩ := Machine.step?_receipt_iff.1 hm
    simp [Work.Ends, hstage] at hends
  | begins hstage => simp [Work.Ends, hstage] at hends
  | passes hm =>
    obtain ⟨hstage, -⟩ := Machine.step?_quiet hm
    simp [Work.Ends, hstage] at hends
  | stops hm =>
    obtain ⟨⟨hstage, -⟩, -⟩ := Machine.step?_ending_iff.1 hm
    simp [Work.Ends, hstage] at hends
  | event => exact ⟨hends, rfl⟩
  | finishes _ hm =>
    obtain ⟨last, hcycling, rfl⟩ := Machine.step?_finished_iff.1 hm
    obtain rfl : last = true := by simpa [Work.Ends, hcycling] using hends
    exact ⟨.inr rfl, rfl⟩
  | discards hm =>
    obtain ⟨hstage, -⟩ := Machine.step?_discard_iff.1 hm
    simp [Work.Ends, hstage] at hends
  | resumes hm =>
    obtain ⟨⟨hstage, -⟩, -⟩ := Machine.step?_drained_iff.1 hm
    simp [Work.Ends, hstage] at hends

theorem Schedule.ends (schedule : Schedule w acts w') (h : w.Sound file box) (hends : w.Ends) :
    w'.Ends ∧ w'.ledger.causes = w.ledger.causes := by
  induction schedule with
  | start => exact ⟨hends, rfl⟩
  | step before step ih =>
    obtain ⟨hlast, hcauses⟩ := step.ends (h.of_schedule before) ih.1
    exact ⟨hlast, hcauses.trans ih.2⟩

namespace Work.Sound

theorem receipt (h : w.Sound file box) {now : Nat} (step : Step w (.signal (.receipt now)) w') :
    w.running? = none ∧ w.machine.stage = .listening := by
  have hstage : w.machine.stage = .listening := by
    cases step with
    | receipt hm => exact (Machine.step?_receipt_iff.1 hm).1
    | begins hstage => exact hstage
  exact ⟨h.cycling.2 (by simp [hstage]), hstage⟩

theorem quiet (h : w.Sound file box) {now : Nat} (step : Step w (.signal (.quiet now)) w')
    (hreceived : w.ledger.received = []) :
    w'.running? = none ∧ w'.machine.stage = .listening := by
  cases step with
  | begins hstage hm hcycling =>
    obtain ⟨hpending, -⟩ := Machine.begins_cases hstage hm hcycling
    exact absurd (h.pending.1 hreceived) hpending
  | passes hm hstage =>
    obtain ⟨hlistening, -⟩ := Machine.step?_quiet hm
    exact ⟨h.cycling.2 (by simp [hlistening]), hstage⟩

theorem returns (h : w.Sound file box) {steps : List Event} {result : CycleResult}
    {loop : ChangeLoop} (hrunning : w.running? = some ⟨steps, .done (result, loop)⟩) :
    ∃ w', Step w (.signal .finished) w' ∧ (w.machine.stage = .cycling true →
      w'.machine.stage = .stopped) := by
  obtain ⟨last, hstage⟩ := h.exists_cycling hrunning
  refine ⟨_, .finishes hrunning (Machine.step?_finished_iff.2 ⟨last, hstage, rfl⟩), fun hlast => ?_⟩
  obtain rfl : last = true := by simpa [hstage] using hlast
  rfl

theorem drains (h : w.Sound file box) (hstage : w.machine.stage = .draining) {later : Work}
    (schedule : Schedule w acts later) {n : Nat} (hn : n ∈ w.ledger.waiting) :
    later.Loses n ∧ ∀ cause ∈ later.ledger.causes, n ∉ cause := by
  have hloses := schedule.loses h (.inr ⟨hstage, hn⟩)
  exact ⟨hloses, (h.of_schedule schedule).not_mem_of_loses hloses⟩

/-- What waits when a cycle ends still waits when the emptying of the mailbox begins. -/
theorem discards (h : w.Sound file box) (hstage : w.machine.stage = .cycling false)
    (step : Step w (.signal .finished) w') :
    w'.machine.stage = .draining ∧ ∀ acts later, Schedule w' acts later →
      ∀ n ∈ w.ledger.waiting, later.Loses n ∧ ∀ cause ∈ later.ledger.causes, n ∉ cause := by
  have hsound := h.of_step step
  cases step with
  | begins hlistening => cases hstage.symm.trans hlistening
  | finishes _ hm =>
    obtain ⟨last, hcycling, rfl⟩ := Machine.step?_finished_iff.1 hm
    obtain rfl : last = false := by simpa [hstage] using hcycling.symm
    exact ⟨rfl, fun acts later schedule n => hsound.drains rfl schedule⟩

/-- At the end of the source the last cycle begins, if anything was received, or the loop stops. -/
theorem ending_cases (h : w.Sound file box) (step : Step w (.signal .ending) w') :
    (w.ledger.received ≠ [] ∧ w.Begins w' ∧ w'.machine.stage = .cycling true
        ∧ w'.running? = some ⟨[], w.loop.onChange⟩)
      ∨ (w.ledger.received = [] ∧ ¬ w.Begins w' ∧ w'.machine.stage = .stopped) := by
  cases step with
  | begins hstage hm hcycling =>
    obtain ⟨hpending, -, -, ⟨_, hsignal, -⟩ | ⟨-, rfl, -⟩⟩ :=
      Machine.begins_cases hstage hm hcycling
    · cases hsignal
    · exact .inl ⟨fun hnil => hpending (h.pending.1 hnil),
        ⟨h.cycling.2 (by simp [hstage]), by simp⟩, hcycling, rfl⟩
  | stops hm hstopped =>
    obtain ⟨-, ⟨-, rfl⟩ | ⟨hpending, -⟩⟩ := Machine.step?_ending_iff.1 hm
    · cases hstopped
    · exact .inr ⟨h.pending.2 hpending, fun ⟨hnone, hsome⟩ => hsome hnone, hstopped⟩

theorem begins_ending_iff (h : w.Sound file box) (step : Step w (.signal .ending) w') :
    w.Begins w' ↔ w.ledger.received ≠ [] := by
  obtain ⟨hreceived, hbegins, -⟩ | ⟨hreceived, hbegins, -⟩ := h.ending_cases step
  · exact iff_of_true hbegins hreceived
  · exact iff_of_false hbegins (not_not.2 hreceived)

theorem ends_ending (h : w.Sound file box) (step : Step w (.signal .ending) w') : w'.Ends := by
  obtain ⟨-, -, hstage, -⟩ | ⟨-, -, hstage⟩ := h.ending_cases step
  · exact .inl hstage
  · exact .inr hstage

theorem stopped_ending (h : w.Sound file box) (step : Step w (.signal .ending) w')
    (hreceived : w.ledger.received = []) : w'.machine.stage = .stopped :=
  ((h.ending_cases step).resolve_left fun hsome => hsome.1 hreceived).2.2

theorem stops (h : w.Sound file box) (step : Step w (.signal .ending) w')
    (hreceived : w.ledger.received ≠ []) {events : List Event} {result : CycleResult}
    {loop : ChangeLoop} (run : Runs w.loop.onChange events (.ok (result, loop))) :
    ∃ last, Schedule w' (events.map .event ++ [.signal .finished]) last
      ∧ last.machine.stage = .stopped := by
  obtain ⟨-, -, hstage, hrunning⟩ | ⟨hnil, -⟩ := h.ending_cases step
  · have schedule := Schedule.of_runs run hrunning rfl
    obtain ⟨last, hlast, hstopped⟩ := ((h.of_step step).of_schedule schedule).returns rfl
    exact ⟨last, schedule.step hlast, hstopped hstage⟩
  · exact absurd hnil hreceived

end Work.Sound

/-- As long as the timer does not run out, a closed source brings one cycle if anything waits or was
received, and none otherwise. -/
theorem Schedule.burst (schedule : Schedule w acts w') (h : w.Sound file box)
    (hstage : w.machine.stage = .listening) (hopen : w.machine.mailbox.isOpen = false)
    (hacts : ∀ act ∈ acts, act.Unquiet) :
    (w'.machine.stage = .listening ∧ w'.machine.mailbox.isOpen = false
        ∧ w'.ledger.causes.length = w.ledger.causes.length
        ∧ w'.machine.mailbox.queued + w'.ledger.received.length
          = w.machine.mailbox.queued + w.ledger.received.length)
      ∨ w'.Ends ∧ w'.ledger.causes.length = w.ledger.causes.length
        + min (w.machine.mailbox.queued + w.ledger.received.length) 1 := by
  -- what waits and what was received is together the same until the end of the source is seen
  induction schedule with
  | start => exact .inl ⟨hstage, hopen, rfl, rfl⟩
  | @step acts w₁ act w₂ before step ih =>
    have hsound := h.of_schedule before
    obtain ⟨hstage, hopen, hcauses, hcount⟩ | ⟨hends, hcauses⟩ :=
      ih fun act hact => hacts act (List.mem_append_left _ hact)
    swap
    · obtain ⟨hlast, hsame⟩ := step.ends hsound hends
      exact .inr ⟨hlast, by rw [hsame, hcauses]⟩
    have hact : act.Unquiet := hacts act (by simp)
    cases step with
    | arrival hm => simp [(Machine.step?_arrival_iff.1 hm).1] at hopen
    | closing hm => simp [(Machine.step?_closing_iff.1 hm).1] at hopen
    | receipt hm =>
      obtain ⟨-, n, hqueued, rfl⟩ := Machine.step?_receipt_iff.1 hm
      have hwaiting := hsound.waiting
      refine .inl ⟨hstage, hopen, hcauses, ?_⟩
      simp only [Ledger.receive, List.length_append, List.length_take]
      omega
    | begins hlistening hm hcycling =>
      obtain ⟨hpending, -, -, ⟨now, rfl, -⟩ | ⟨-, rfl, -, hqueued⟩⟩ :=
        Machine.begins_cases hlistening hm hcycling
      · exact absurd rfl (hact now)
      · have hreceived : 0 < w₁.ledger.received.length :=
          List.length_pos_iff.2 fun hnil => hpending (hsound.pending.1 hnil)
        refine .inr ⟨.inl hcycling, ?_⟩
        simp only [Ledger.begin, List.length_append, List.length_singleton]
        omega
    | passes => exact absurd rfl (hact _)
    | stops hm hstopped =>
      obtain ⟨⟨-, hqueued, -⟩, ⟨-, rfl⟩ | ⟨hpending, -⟩⟩ := Machine.step?_ending_iff.1 hm
      · cases hstopped
      · have hreceived := congrArg List.length (hsound.pending.2 hpending)
        simp only [List.length_nil] at hreceived
        refine .inr ⟨.inr hstopped, ?_⟩
        dsimp only
        omega
    | event hrunning | finishes hrunning =>
      obtain ⟨last, hcycling⟩ := hsound.exists_cycling hrunning
      cases hstage.symm.trans hcycling
    | discards hm =>
      obtain ⟨hdraining, -⟩ := Machine.step?_discard_iff.1 hm
      cases hstage.symm.trans hdraining
    | resumes hm =>
      obtain ⟨⟨hdraining, -⟩, -⟩ := Machine.step?_drained_iff.1 hm
      cases hstage.symm.trans hdraining

theorem exists_received : ∀ {n : Nat} {w : Work}, w.machine.mailbox.queued = n →
    w.machine.stage = .listening → ∃ acts w', Schedule w acts w' ∧ (∀ act ∈ acts, act.Unquiet)
      ∧ w'.machine.stage = .listening ∧ w'.machine.mailbox.queued = 0
      ∧ w'.machine.mailbox.isOpen = w.machine.mailbox.isOpen
  | 0, w, hqueued, hstage => ⟨[], w, .start, by simp, hstage, hqueued, rfl⟩
  | n + 1, w, hqueued, hstage => by
    obtain ⟨w₁, step, hqueued₁, hstage₁, hopen₁⟩ : ∃ w₁,
        Step w (.signal (.receipt w.machine.armed)) w₁ ∧ w₁.machine.mailbox.queued = n
          ∧ w₁.machine.stage = .listening
          ∧ w₁.machine.mailbox.isOpen = w.machine.mailbox.isOpen :=
      ⟨_, .receipt (Machine.step?_receipt_iff.2 ⟨hstage, n, hqueued, rfl⟩), rfl, hstage, rfl⟩
    obtain ⟨acts, w', schedule, hacts, hstage', hqueued', hopen'⟩ :=
      exists_received hqueued₁ hstage₁
    refine ⟨_, w', .head step schedule, ?_, hstage', hqueued', hopen'.trans hopen₁⟩
    simpa [Act.Unquiet] using hacts

theorem Work.Sound.runs_empty (h : w.Sound file box) : ∃ events result loop,
    Runs w.loop.onChange events (.ok (result, loop)) := by
  obtain ⟨seen, hloop⟩ := h.loop
  rw [hloop]
  -- a cycle that finds no command file
  exact ⟨_, _, _, @Runs.ask _ (.status file) _ (.error ⟨.notFound, [], []⟩) _ _ (.note (.done _))⟩

theorem Work.Sound.exists_stopped (h : w.Sound file box) (hstage : w.machine.stage = .listening)
    (hopen : w.machine.mailbox.isOpen = false) : ∃ acts last, Schedule w acts last
      ∧ last.machine.stage = .stopped ∧ ∀ act ∈ acts, act.Unquiet := by
  obtain ⟨acts, w', schedule, hacts, hstage', hqueued, hopen'⟩ := exists_received rfl hstage
  have hsound := h.of_schedule schedule
  obtain ⟨next, step⟩ : ∃ next, Step w' (.signal .ending) next := by
    have hend := (⟨hstage', hqueued, hopen'.trans hopen⟩ : _ ∧ _ ∧ _)
    by_cases hpending : w'.machine.debouncer.pending = none
    · exact ⟨_, .stops (Machine.step?_ending_iff.2 ⟨hend, .inr ⟨hpending, rfl⟩⟩) rfl⟩
    · exact ⟨_, .begins hstage' (Machine.step?_ending_iff.2 ⟨hend, .inl ⟨hpending, rfl⟩⟩) rfl⟩
  have hacts' : ∀ act ∈ acts ++ [.signal .ending], act.Unquiet := by
    simpa [or_imp, forall_and, Act.Unquiet] using hacts
  obtain ⟨hreceived, -⟩ | ⟨-, -, hstopped⟩ := hsound.ending_cases step
  · obtain ⟨events, result, loop, run⟩ := hsound.runs_empty
    obtain ⟨last, more, hstopped⟩ := hsound.stops step hreceived run
    refine ⟨_, last, (schedule.step step).trans more, hstopped, ?_⟩
    simpa [or_imp, forall_and, Act.Unquiet] using hacts
  · exact ⟨_, next, schedule.step step, hstopped, hacts'⟩

/-- One after the other what waits is thrown away, and then the loop listens again. -/
theorem exists_resumed (now : Nat) : ∀ {n : Nat} {w : Work}, w.machine.stage = .draining →
    w.machine.mailbox.queued = n → ∃ w', Schedule w
      (List.replicate n (.signal .discard) ++ [.signal (.drained now)]) w'
        ∧ w'.machine.stage = .listening
  | 0, _, hstage, hqueued =>
    ⟨_, .head (.resumes (Machine.step?_drained_iff.2 ⟨⟨hstage, hqueued⟩, rfl⟩)) .start, rfl⟩
  | n + 1, w, hstage, hqueued => by
    obtain ⟨w₁, step, hstage₁, hqueued₁⟩ : ∃ w₁, Step w (.signal .discard) w₁
        ∧ w₁.machine.stage = .draining ∧ w₁.machine.mailbox.queued = n :=
      ⟨_, .discards (Machine.step?_discard_iff.2 ⟨hstage, n, hqueued, rfl⟩), hstage, rfl⟩
    obtain ⟨w', schedule, hlistening⟩ := exists_resumed now hstage₁ hqueued₁
    exact ⟨w', .head step schedule, hlistening⟩

theorem queued_of_drained {now : Nat} (step : Step w (.signal (.drained now)) w') :
    w'.machine.stage = .listening ∧ w'.machine.mailbox.queued = 0 := by
  cases step with
  | begins hstage hm hcycling =>
    obtain ⟨-, -, -, ⟨_, hsignal, -⟩ | ⟨hsignal, -⟩⟩ := Machine.begins_cases hstage hm hcycling <;>
      cases hsignal
  | resumes hm =>
    obtain ⟨⟨-, hqueued⟩, rfl⟩ := Machine.step?_drained_iff.1 hm
    exact ⟨rfl, hqueued⟩

theorem exists_filled (hopen : w.machine.mailbox.isOpen = true) : ∀ n : Nat,
    w.machine.mailbox.queued + n ≤ w.machine.mailbox.capacity →
    ∃ w', Schedule w (List.replicate n (.signal .arrival)) w'
      ∧ w'.machine.stage = w.machine.stage ∧ w'.ledger.received = w.ledger.received
      ∧ w'.machine.mailbox
        = { w.machine.mailbox with queued := w.machine.mailbox.queued + n }
  | 0, _ => ⟨w, .start, rfl, rfl, rfl⟩
  | n + 1, hroom => by
    obtain ⟨w₁, schedule, hstage, hreceived, hmailbox⟩ := exists_filled hopen n (by omega)
    have step : Step w₁ (.signal .arrival) _ :=
      .arrival (Machine.step?_arrival_iff.2 ⟨by rw [hmailbox, hopen], rfl⟩)
    rw [List.replicate_succ']
    refine ⟨_, schedule.step step, hstage, ?_, ?_⟩
    · rwa [Ledger.received_arrive]
    · have hfull : ¬ w.machine.mailbox.capacity ≤ w.machine.mailbox.queued + n := by omega
      simp [hmailbox, Mailbox.offer, Mailbox.isFull, hfull, Nat.add_assoc]

theorem exists_closed (hopen : w.machine.mailbox.isOpen = true) (n : Nat)
    (hroom : w.machine.mailbox.queued + n ≤ w.machine.mailbox.capacity) :
    ∃ w', Schedule w (List.replicate n (.signal .arrival) ++ [.signal .closing]) w'
      ∧ w'.machine.stage = w.machine.stage ∧ w'.ledger.received = w.ledger.received
      ∧ w'.machine.mailbox.isOpen = false
      ∧ w'.machine.mailbox.queued = w.machine.mailbox.queued + n := by
  obtain ⟨w₁, schedule, hstage, hreceived, hmailbox⟩ := exists_filled hopen n hroom
  have step : Step w₁ (.signal .closing) _ :=
    .closing (Machine.step?_closing_iff.2 ⟨by rw [hmailbox, hopen], rfl⟩)
  exact ⟨_, schedule.step step, hstage, hreceived, rfl, by simp [Mailbox.close, hmailbox]⟩

/-- The law of the run loop holds at every moment of every schedule. -/
theorem lawful_of_schedule {settle capacity start : Nat}
    (schedule : Schedule (.new file box settle capacity start) acts w) : w.Lawful := by
  have h : w.Sound file box := (Work.Sound.new file box settle capacity start).of_schedule schedule
  exact {
    all := h.all
    waiting := h.waiting
    causes := h.causes
    begins := fun act w' step hbegins =>
      ((step.causes h).resolve_right fun hno => hno.1 hbegins).2
    keeps := fun act w' step hno => ((step.causes h).resolve_left fun hyes => hno hyes.1).2
    receipt := fun now w' step => h.receipt step
    quiet := fun now w' step => h.quiet step
    returns := fun steps result loop hrunning => h.returns hrunning
    discards := fun w' hstage step => h.discards hstage step
    drains := fun hstage acts later schedule n => h.drains hstage schedule
    resumes := fun hstage now => ⟨exists_resumed now hstage rfl, fun w' => queued_of_drained⟩
    ending := fun w' step => ⟨h.begins_ending_iff step, fun acts later schedule =>
      schedule.ends (h.of_step step) (h.ends_ending step)⟩
    stops := fun w' step => ⟨h.stopped_ending step, fun hreceived events result loop run =>
      h.stops step hreceived run⟩
    fills := exists_closed
    burst := fun hstage hopen hreceived => ⟨fun acts last schedule hstopped hacts => by
      obtain ⟨hlistening, -⟩ | ⟨-, hcauses⟩ := schedule.burst h hstage hopen hacts
      · cases hstopped.symm.trans hlistening
      · simpa [hreceived] using hcauses,
      h.exists_stopped hstage hopen⟩ }

/-- A notification that comes while a cycle runs is thrown away, and so is one that comes while the
mailbox is being emptied. -/
theorem lawful_of_schedule_discard :
    let acts : List Act := [.signal .arrival, .signal (.receipt 0), .signal (.quiet 10),
      .event (.called (.status "/c".toList) (.error ⟨.notFound, [], []⟩)),
      .event (.noted (ChangeLoop.logged "command file empty" none)), .signal .arrival,
      .signal .finished, .signal .discard, .signal .arrival, .signal .discard,
      .signal (.drained 11)]
    ∃ w, Schedule (.new "/c".toList ⟨⟨[]⟩⟩ 5 1 0) acts w
      ∧ w.ledger = ⟨3, [], [], [[0]], [1, 2], []⟩ ∧ w.Lawful := by
  intro acts
  obtain ⟨w, schedule, hledger⟩ : ∃ w, Schedule (.new "/c".toList ⟨⟨[]⟩⟩ 5 1 0) acts w
      ∧ w.ledger = ⟨3, [], [], [[0]], [1, 2], []⟩ := by
    refine ⟨_, .head (.arrival rfl) <| .head (.receipt rfl) <| .head (.begins rfl rfl rfl) <|
      .head (.event rfl (.asked _)) <| .head (.event rfl .noted) <| .head (.arrival rfl) <|
      .head (.finishes rfl rfl) <| .head (.discards rfl) <| .head (.arrival rfl) <|
      .head (.discards rfl) <| .head (.resumes rfl) .start, rfl⟩
  exact ⟨w, schedule, hledger, lawful_of_schedule schedule⟩

end Watch

end FileClerk
