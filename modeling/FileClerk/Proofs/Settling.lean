import FileClerk.Proofs.RunLoop

/-!
# Changes settle before a cycle begins

The timer of the run loop never begins a cycle before the last notification received has settled,
and never leaves one that was received without its cycle (`settles_of_schedule`). Both rest on one
fact that every step keeps: what is held back came no later than the timer was started
(`Work.Timed`). So when the timer runs out, as late as it may, the settling time has passed, since
the timer never runs for less.

Nothing is asked of the clock but that the timer runs out no earlier than its deadline. A schedule
may let any time pass before it does.
-/

namespace FileClerk

namespace Watch

variable {file : Text} {box : Sandbox} {settle : Nat} {w w' : Work} {acts : List Act} {act : Act}

/-- When a notification was received by an act. -/
def Act.receipt? : Act → Option Nat
  | .signal (.receipt now) => some now
  | .signal _ | .event _ => none

/-- When the last notification was received among some acts. -/
def lastReceipt? (acts : List Act) : Option Nat := (acts.filterMap Act.receipt?).getLast?

theorem lastReceipt?_concat_receipt (acts : List Act) (now : Nat) :
    lastReceipt? (acts ++ [.signal (.receipt now)]) = some now := by
  simp [lastReceipt?, Act.receipt?]

theorem lastReceipt?_concat_of_none (acts : List Act) (h : act.receipt? = none) :
    lastReceipt? (acts ++ [act]) = lastReceipt? acts := by
  simp [lastReceipt?, h]

theorem Machine.settle_of_step? {m m' : Machine} {s : Signal} (h : m.step? s = some m') :
    m'.debouncer.settle = m.debouncer.settle := by
  cases s with
  | arrival =>
    obtain ⟨-, rfl⟩ := step?_arrival_iff.1 h
    rfl
  | closing =>
    obtain ⟨-, rfl⟩ := step?_closing_iff.1 h
    rfl
  | receipt now =>
    obtain ⟨-, _, -, rfl⟩ := step?_receipt_iff.1 h
    rfl
  | quiet now => obtain ⟨-, ⟨-, rfl⟩ | rfl⟩ := step?_quiet h <;> rfl
  | finished =>
    obtain ⟨_, -, rfl⟩ := step?_finished_iff.1 h
    rfl
  | discard =>
    obtain ⟨-, _, -, rfl⟩ := step?_discard_iff.1 h
    rfl
  | drained now =>
    obtain ⟨-, rfl⟩ := step?_drained_iff.1 h
    rfl
  | ending => obtain ⟨-, ⟨-, rfl⟩ | ⟨-, rfl⟩⟩ := step?_ending_iff.1 h <;> rfl

theorem Step.settle_eq (step : Step w act w') :
    w'.machine.debouncer.settle = w.machine.debouncer.settle := by
  cases step with
  | arrival hm | closing hm | receipt hm | begins _ hm | passes hm | stops hm | finishes _ hm
  | discards hm | resumes hm => exact Machine.settle_of_step? hm
  | event => rfl

/-- What is held back after some acts was the last to be received, and came no later than the timer
was started. -/
structure Work.Timed (settle : Nat) (acts : List Act) (w : Work) : Prop where
  settle : w.machine.debouncer.settle = settle
  last : ∀ last, w.machine.debouncer.pending = some last →
    lastReceipt? acts = some last ∧ last ≤ w.machine.armed

/-- Nothing is held back while a cycle runs, nor until the mailbox has been emptied after it. -/
theorem Work.Sound.pending_eq_none (h : w.Sound file box) (hstage : w.machine.stage ≠ .listening) :
    w.machine.debouncer.pending = none := h.pending.1 (h.listening hstage)

namespace Work.Timed

/-- Another act that receives nothing, with the timer started later if at all. -/
theorem last_concat (h : w.Timed settle acts) (hact : act.receipt? = none) {last armed : Nat}
    (hlast : w.machine.debouncer.pending = some last) (harmed : w.machine.armed ≤ armed) :
    lastReceipt? (acts ++ [act]) = some last ∧ last ≤ armed := by
  obtain ⟨hreceipt, hle⟩ := h.last last hlast
  exact ⟨by rw [lastReceipt?_concat_of_none acts hact, hreceipt], hle.trans harmed⟩

theorem of_step (h : w.Timed settle acts) (hsound : w.Sound file box) (step : Step w act w') :
    w'.Timed settle (acts ++ [act]) := by
  refine ⟨step.settle_eq.trans h.settle, fun last hlast => ?_⟩
  cases step with
  | arrival hm =>
    obtain ⟨-, rfl⟩ := Machine.step?_arrival_iff.1 hm
    exact h.last_concat rfl hlast (Nat.le_refl _)
  | closing hm =>
    obtain ⟨-, rfl⟩ := Machine.step?_closing_iff.1 hm
    exact h.last_concat rfl hlast (Nat.le_refl _)
  | @receipt now _ hm =>
    obtain ⟨-, _, -, rfl⟩ := Machine.step?_receipt_iff.1 hm
    obtain rfl : now = last := Option.some.inj hlast
    exact ⟨lastReceipt?_concat_receipt acts now, Nat.le_refl now⟩
  | begins hstage hm hcycling =>
    obtain ⟨-, hnone, -⟩ := Machine.begins_cases hstage hm hcycling
    simp [hnone] at hlast
  | passes hm hstage =>
    obtain ⟨⟨-, hdeadline⟩, ⟨_, -, -, rfl⟩ | ⟨-, rfl⟩⟩ := Machine.step?_quiet_settled hm
    · cases hstage
    · exact h.last_concat rfl hlast ((Nat.le_add_right _ _).trans hdeadline)
  | stops hm hstage =>
    obtain ⟨-, ⟨-, rfl⟩ | ⟨hnone, rfl⟩⟩ := Machine.step?_ending_iff.1 hm
    · cases hstage
    · simp [hnone] at hlast
  | event => exact h.last_concat rfl hlast (Nat.le_refl _)
  | finishes _ hm =>
    obtain ⟨_, hstage, rfl⟩ := Machine.step?_finished_iff.1 hm
    simp [hsound.pending_eq_none (by simp [hstage])] at hlast
  | discards hm =>
    obtain ⟨hstage, _, -, rfl⟩ := Machine.step?_discard_iff.1 hm
    simp [hsound.pending_eq_none (by simp [hstage])] at hlast
  | resumes hm =>
    obtain ⟨⟨hstage, -⟩, rfl⟩ := Machine.step?_drained_iff.1 hm
    simp [hsound.pending_eq_none (by simp [hstage])] at hlast

theorem of_schedule {capacity start : Nat}
    (schedule : Schedule (.new file box settle capacity start) acts w) : w.Timed settle acts := by
  induction schedule with
  | start => exact ⟨rfl, fun last hlast => by cases hlast⟩
  | step before step ih =>
    exact ih.of_step ((Work.Sound.new file box settle capacity start).of_schedule before) step

/-- What is held back has settled when the timer runs out. -/
theorem settled_of_deadline_le (h : w.Timed settle acts) {now last : Nat}
    (hdeadline : w.machine.deadline ≤ now) (hlast : w.machine.debouncer.pending = some last) :
    last + settle ≤ now := by
  have hle := (h.last last hlast).2
  have hsettle := h.settle
  unfold Machine.deadline Machine.tick at hdeadline
  omega

/-- A cycle begins when the last notification received has settled, or at the end of the mailbox. -/
theorem begins (h : w.Timed settle acts) (step : Step w act w') (hbegins : w.Begins w') :
    (∃ now last, act = .signal (.quiet now) ∧ lastReceipt? acts = some last ∧ last + settle ≤ now)
      ∨ act = .signal .ending ∧ w.machine.mailbox.isOpen = false ∧ w.machine.mailbox.queued = 0
        ∧ w'.machine.stage = .cycling true := by
  cases step with
  | begins hstage hm hcycling =>
    obtain ⟨-, -, -, ⟨now, rfl, rfl⟩ | ⟨rfl, rfl, hopen, hqueued⟩⟩ :=
      Machine.begins_cases hstage hm hcycling
    · obtain ⟨⟨-, hdeadline⟩, ⟨last, hlast, -⟩ | ⟨-, rfl⟩⟩ := Machine.step?_quiet_settled hm
      · exact .inl ⟨now, last, rfl, (h.last last hlast).1, h.settled_of_deadline_le hdeadline hlast⟩
      · cases hstage.symm.trans hcycling
    · exact .inr ⟨rfl, hopen, hqueued, hcycling⟩
  | arrival | closing | receipt | passes | stops | discards | resumes =>
    exact absurd hbegins.1 hbegins.2
  | event hrunning => simp [Work.Begins, hrunning] at hbegins
  | finishes => exact absurd rfl hbegins.2

/-- When the timer runs out, nothing is left of what was received: it has its cycle. -/
theorem quiet (h : w.Timed settle acts) (hsound : w.Sound file box) {now : Nat}
    (step : Step w (.signal (.quiet now)) w') : w'.ledger.received = []
      ∧ (w.ledger.received ≠ [] → w.Begins w'
        ∧ w'.ledger.causes = w.ledger.causes ++ [w.ledger.received]) := by
  cases step with
  | begins hstage => exact ⟨rfl, fun _ => ⟨⟨hsound.cycling.2 (by simp [hstage]), by simp⟩, rfl⟩⟩
  | passes hm hstage =>
    obtain ⟨⟨-, hdeadline⟩, ⟨_, -, -, rfl⟩ | ⟨hno, -⟩⟩ := Machine.step?_quiet_settled hm
    · cases hstage
    have hreceived : w.ledger.received = [] := by
      refine hsound.pending.2 (Option.eq_none_iff_forall_ne_some.2 fun last hlast => ?_)
      have hsettled := h.settled_of_deadline_le hdeadline hlast
      have hsettle := h.settle
      exact hno last hlast (by omega)
    exact ⟨hreceived, fun hne => absurd hreceived hne⟩

end Work.Timed

/-- A notification has been received, whether a cycle has begun for it or not. -/
def Ledger.Took (ledger : Ledger) (n : Nat) : Prop :=
  n ∈ ledger.received ∨ ∃ cause ∈ ledger.causes, n ∈ cause

theorem Step.took {n : Nat} (h : w.ledger.Took n) (step : Step w act w') : w'.ledger.Took n := by
  cases step with
  | arrival =>
    unfold Ledger.Took
    rwa [Ledger.received_arrive, Ledger.causes_arrive]
  | receipt => exact h.imp_left (List.mem_append_left _)
  | begins =>
    obtain hreceived | ⟨cause, hcause, hn⟩ := h
    · exact .inr ⟨_, List.mem_append_right _ List.mem_cons_self, hreceived⟩
    · exact .inr ⟨cause, List.mem_append_left _ hcause, hn⟩
  | closing | passes | stops | event | finishes | discards | resumes => exact h

theorem Schedule.took {n : Nat} (h : w.ledger.Took n) (schedule : Schedule w acts w') :
    w'.ledger.Took n := by
  induction schedule with
  | start => exact h
  | step _ step ih => exact step.took ih

/-- The settling law of the run loop, for a watch after some acts. -/
structure Work.Settles (settle : Nat) (acts : List Act) (w : Work) : Prop where
  /-- While the loop listens, the timer may run out at any moment from its deadline on. -/
  expires : w.machine.stage = .listening → ∀ now, w.machine.deadline ≤ now →
    ∃ w', Step w (.signal (.quiet now)) w'
  /-- A cycle waits for the last notification to settle, unless it is the last one, at the end of
  the closed mailbox. -/
  begins : ∀ act w', Step w act w' → w.Begins w' →
    (∃ now last, act = .signal (.quiet now) ∧ lastReceipt? acts = some last ∧ last + settle ≤ now)
      ∨ act = .signal .ending ∧ w.machine.mailbox.isOpen = false ∧ w.machine.mailbox.queued = 0
        ∧ w'.machine.stage = .cycling true
  /-- When the timer has run out, all that was received has its cycle. -/
  quiet : ∀ now w', Step w (.signal (.quiet now)) w' → w'.ledger.received = []
    ∧ (w.ledger.received ≠ [] → w.Begins w'
      ∧ w'.ledger.causes = w.ledger.causes ++ [w.ledger.received])
  /-- What has been received has its cycle the next time the timer has run out, if not before. -/
  waits : ∀ n ∈ w.ledger.received, ∀ later w₁ now w₂, Schedule w later w₁ →
    Step w₁ (.signal (.quiet now)) w₂ → ∃ cause ∈ w₂.ledger.causes, n ∈ cause

theorem exists_quiet_step (hstage : w.machine.stage = .listening) {now : Nat}
    (hdeadline : w.machine.deadline ≤ now) : ∃ w', Step w (.signal (.quiet now)) w' := by
  obtain ⟨m, hm⟩ : ∃ m, w.machine.step? (.quiet now) = some m := by
    simp [Machine.step?, hstage, hdeadline]
  obtain ⟨-, ⟨-, rfl⟩ | rfl⟩ := Machine.step?_quiet hm
  · exact ⟨_, .begins hstage hm rfl⟩
  · exact ⟨_, .passes hm hstage⟩

/-- The settling law holds at every moment of every schedule. -/
theorem settles_of_schedule {capacity start : Nat}
    (schedule : Schedule (.new file box settle capacity start) acts w) :
    w.Settles settle acts := by
  have hsound : w.Sound file box :=
    (Work.Sound.new file box settle capacity start).of_schedule schedule
  have htimed : w.Timed settle acts := .of_schedule schedule
  refine ⟨fun hstage now => exists_quiet_step hstage, fun act w' => htimed.begins,
    fun now w' => htimed.quiet hsound, fun n hn later w₁ now w₂ more step => ?_⟩
  have htimed₁ : w₁.Timed settle (acts ++ later) := .of_schedule (schedule.trans more)
  have hempty := (htimed₁.quiet (hsound.of_schedule more) step).1
  exact (step.took (more.took (.inl hn))).resolve_left (by simp [hempty])

/-- The second notification comes before the first has settled, and the cycle waits for it too. -/
theorem settles_of_schedule_reset :
    let acts : List Act := [.signal .arrival, .signal (.receipt 0), .signal .arrival,
      .signal (.receipt 30)]
    ∃ w w', Schedule (.new "/c".toList ⟨⟨[]⟩⟩ 50 1 0) acts w ∧ Step w (.signal (.quiet 80)) w'
      ∧ w.Begins w' ∧ w.Settles 50 acts := by
  intro acts
  obtain ⟨w, w', schedule, step, hreceived⟩ : ∃ w w',
      Schedule (.new "/c".toList ⟨⟨[]⟩⟩ 50 1 0) acts w ∧ Step w (.signal (.quiet 80)) w'
        ∧ w.ledger.received ≠ [] := by
    refine ⟨_, _, .head (.arrival rfl) <| .head (.receipt rfl) <| .head (.arrival rfl) <|
      .head (.receipt rfl) .start, .begins rfl rfl rfl, by decide⟩
  have hsettles := settles_of_schedule schedule
  exact ⟨w, w', schedule, step, ((hsettles.quiet 80 w' step).2 hreceived).1, hsettles⟩

end Watch

end FileClerk
