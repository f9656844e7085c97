import FileClerk.Proofs.Schedule

/-!
# Notifications that find the mailbox full

A notification is dropped when the mailbox is full. Nothing is lost by it as long as a cycle is
still to read the command file (`Owes`): the state keeps this debt at every step until a cycle pays
it (`pays_of_drop`). From a cycle's reading of the file until the mailbox has been emptied after it,
what is dropped may come to nothing: no reading is owed then, and what fills the mailbox is thrown
away (`no_reading_after_drop`).
-/

namespace FileClerk

namespace Watch

open FileClerk.Action

variable {file : Text} {box : Sandbox} {w w' last : Work} {acts : List Act} {act : Act}

/-- A cycle runs that has read the command file. -/
def Work.HasRead (file : Text) (w : Work) : Prop :=
  ∃ steps rest reads found, w.running? = some ⟨steps, rest⟩ ∧ Reading file reads found
    ∧ reads <+: steps

/-- A cycle runs that has read the command file and done nothing else. -/
def Work.JustRead (file : Text) (w : Work) : Prop :=
  ∃ reads rest found, w.running? = some ⟨reads, rest⟩ ∧ Reading file reads found

/-- A cycle has yet to read the command file: one that runs, or one that is to come. -/
def Work.Owes (file : Text) (w : Work) : Prop :=
  (w.machine.stage = .listening
      ∧ (0 < w.machine.mailbox.queued ∨ w.machine.debouncer.pending ≠ none))
    ∨ (w.running? ≠ none ∧ ¬ w.HasRead file)

/-- Among some acts there is one by which a cycle has read the command file. -/
def Schedule.Pays (file : Text) (w : Work) (acts : List Act) (last : Work) : Prop :=
  ∃ before e after w₁ w₂, acts = before ++ .event e :: after ∧ Schedule w before w₁
    ∧ Step w₁ (.event e) w₂ ∧ w₂.JustRead file ∧ Schedule w₂ after last

theorem Reading.ne_nil {reads : List Event} {found : Except IoError (Option Bytes)}
    (h : Reading file reads found) : reads ≠ [] := by
  cases h <;> simp

namespace Work.Sound

theorem hasRead_of_done (h : w.Sound file box) {steps : List Event} {result : CycleResult}
    {loop : ChangeLoop} (hrunning : w.running? = some ⟨steps, .done (result, loop)⟩) :
    w.HasRead file := by
  obtain ⟨run, -⟩ := h.loop_of_done hrunning
  obtain ⟨seen, hloop⟩ := h.loop
  rw [hloop] at run
  obtain ⟨reads, found, rest, rfl, hreads, -⟩ := ChangeLoop.runs_onChange run
  exact ⟨_, _, reads, found, hrunning, hreads, List.prefix_append _ _⟩

/-- A dropped notification leaves a reading to come, unless a cycle has had its own and the mailbox
has not been emptied after it. -/
theorem owes_of_full (h : w.Sound file box) (hfull : w.machine.mailbox.isFull)
    (hopen : w.machine.mailbox.isOpen = true) (hread : ¬ w.HasRead file)
    (hdrain : w.machine.stage ≠ .draining) : w.Owes file := by
  have hcapacity := h.capacity
  have hqueued : w.machine.mailbox.capacity ≤ w.machine.mailbox.queued := by
    simpa [Mailbox.isFull] using hfull
  cases hstage : w.machine.stage with
  | listening => exact .inl ⟨hstage, .inl (by omega)⟩
  | cycling final => exact .inr ⟨fun hnone => h.cycling.1 hnone final hstage, hread⟩
  | draining => exact absurd hstage hdrain
  | stopped => simp [(h.closed (.inr hstage)).1] at hopen

/-- A reading is owed by a loop that listens or by a cycle that runs. -/
theorem not_owes (h : w.Sound file box) (hlistening : w.machine.stage ≠ .listening)
    (hcycling : ∀ last, w.machine.stage ≠ .cycling last) : ¬ w.Owes file := by
  rintro (⟨hstage, -⟩ | ⟨hrunning, -⟩)
  · exact hlistening hstage
  · exact hrunning (h.cycling.2 hcycling)

/-- A step keeps the reading that is to come, or it is that reading. -/
theorem owes_of_step (h : w.Sound file box) (howes : w.Owes file) (step : Step w act w') :
    w'.Owes file ∨ ∃ e, act = .event e ∧ w'.JustRead file := by
  cases step with
  | arrival hm =>
    obtain ⟨-, rfl⟩ := Machine.step?_arrival_iff.1 hm
    refine .inl (howes.imp_left fun ⟨hstage, hdue⟩ => ⟨hstage, hdue.imp_left fun hqueued => ?_⟩)
    exact Nat.lt_of_lt_of_le hqueued (Mailbox.queued_le_offer _)
  | closing hm =>
    obtain ⟨-, rfl⟩ := Machine.step?_closing_iff.1 hm
    exact .inl howes
  | receipt hm =>
    obtain ⟨hstage, _, -, rfl⟩ := Machine.step?_receipt_iff.1 hm
    exact .inl (.inl ⟨hstage, .inr (by simp [Debouncer.record])⟩)
  | begins =>
    refine .inl (.inr ⟨by simp, ?_⟩)
    rintro ⟨_, _, reads, found, ⟨⟩, hreads, hprefix⟩
    exact hreads.ne_nil (List.prefix_nil.1 hprefix)
  | passes hm hstage =>
    obtain ⟨-, ⟨-, rfl⟩ | rfl⟩ := Machine.step?_quiet hm
    · cases hstage
    · exact .inl howes
  | stops hm hstage =>
    obtain ⟨⟨hlistening, hqueued, -⟩, ⟨-, rfl⟩ | ⟨hpending, rfl⟩⟩ := Machine.step?_ending_iff.1 hm
    · cases hstage
    · obtain ⟨-, hdue | hdue⟩ | ⟨hrunning, -⟩ := howes
      · simp [hqueued] at hdue
      · exact absurd hpending hdue
      · exact absurd (h.cycling.2 (by simp [hlistening])) hrunning
  | @event steps rest e next hrunning hafter =>
    obtain ⟨last, hcycling⟩ := h.exists_cycling hrunning
    obtain ⟨hlistening, -⟩ | ⟨-, hread⟩ := howes
    · cases hcycling.symm.trans hlistening
    -- the reading is complete with this step, or it was complete before, or it still is not
    by_cases hnow : Work.HasRead file { w with running? := some ⟨steps ++ [e], next⟩ }
    · obtain ⟨_, _, reads, found, ⟨⟩, hreads, hprefix⟩ := hnow
      rcases List.prefix_concat_iff.1 hprefix with rfl | hprefix
      · exact .inr ⟨e, rfl, _, next, found, rfl, hreads⟩
      · exact absurd ⟨_, _, reads, found, hrunning, hreads, hprefix⟩ hread
    · exact .inl (.inr ⟨by simp, hnow⟩)
  | finishes hrunning =>
    obtain ⟨last, hcycling⟩ := h.exists_cycling hrunning
    obtain ⟨hlistening, -⟩ | ⟨-, hread⟩ := howes
    · cases hcycling.symm.trans hlistening
    · exact absurd (h.hasRead_of_done hrunning) hread
  | discards hm =>
    obtain ⟨hstage, -⟩ := Machine.step?_discard_iff.1 hm
    exact absurd howes (h.not_owes (by simp [hstage]) (by simp [hstage]))
  | resumes hm =>
    obtain ⟨⟨hstage, -⟩, -⟩ := Machine.step?_drained_iff.1 hm
    exact absurd howes (h.not_owes (by simp [hstage]) (by simp [hstage]))

theorem owes_or_pays (h : w.Sound file box) (howes : w.Owes file) (schedule : Schedule w acts w') :
    w'.Owes file ∨ Schedule.Pays file w acts w' := by
  induction schedule with
  | start => exact .inl howes
  | @step acts w₁ act w₂ before step ih =>
    rcases ih with howes₁ | ⟨first, e, rest, u, v, rfl, hfirst, hstep, hread, hrest⟩
    · rcases (h.of_schedule before).owes_of_step howes₁ step with howes₂ | ⟨e, rfl, hread⟩
      · exact .inl howes₂
      · exact .inr ⟨acts, e, [], w₁, w₂, rfl, before, step, hread, .start⟩
    · refine .inr ⟨first, e, rest ++ [act], u, v, ?_, hfirst, hstep, hread, hrest.step step⟩
      rw [List.append_assoc, List.cons_append]

end Work.Sound

theorem Step.isOpen_of_arrival (step : Step w (.signal .arrival) w') :
    w.machine.mailbox.isOpen = true := by
  cases step with
  | arrival hm => exact (Machine.step?_arrival_iff.1 hm).1
  | begins hstage hm hcycling =>
    obtain ⟨-, -, -, ⟨_, hsignal, -⟩ | ⟨hsignal, -⟩⟩ := Machine.begins_cases hstage hm hcycling <;>
      cases hsignal

/-- A notification that is dropped is followed by a reading of the command file before the loop has
stopped, unless it was dropped between the reading of a cycle that runs and the end of the emptying
of the mailbox after it. -/
theorem pays_of_drop {settle capacity start : Nat} {before : List Act}
    (reached : Schedule (.new file box settle capacity start) before w)
    (drop : Step w (.signal .arrival) w') (hfull : w.machine.mailbox.isFull)
    (hread : ¬ w.HasRead file) (hdrain : w.machine.stage ≠ .draining)
    (schedule : Schedule w' acts last) (hstopped : last.machine.stage = .stopped) :
    Schedule.Pays file w' acts last := by
  have h : w.Sound file box := (Work.Sound.new file box settle capacity start).of_schedule reached
  have h' : w'.Sound file box := h.of_step drop
  have howes : w.Owes file := h.owes_of_full hfull drop.isOpen_of_arrival hread hdrain
  rcases h.owes_of_step howes drop with howes' | ⟨e, hevent, -⟩
  · exact (h'.owes_or_pays howes' schedule).resolve_left
      ((h'.of_schedule schedule).not_owes (by simp [hstopped]) (by simp [hstopped]))
  · cases hevent

/-- The second notification finds the one place of the mailbox taken, and the first one brings a
cycle. -/
theorem pays_of_drop_unread :
    ∃ w w' last acts, Schedule (.new "/c".toList ⟨⟨[]⟩⟩ 5 1 0) [.signal .arrival] w
      ∧ Step w (.signal .arrival) w' ∧ w.machine.mailbox.isFull ∧ ¬ w.HasRead "/c".toList
      ∧ w.machine.stage ≠ .draining ∧ Schedule w' acts last ∧ last.machine.stage = .stopped
      ∧ Schedule.Pays "/c".toList w' acts last := by
  let loop : ChangeLoop := .new "/c".toList ⟨⟨[]⟩⟩
  let w : Work :=
    ⟨⟨⟨1, 1, true⟩, ⟨5, none⟩, .listening, 0⟩, loop, none, ⟨1, [0], [], [], [], []⟩⟩
  let w' : Work := { w with ledger := ⟨2, [0], [], [], [], [1]⟩ }
  let last : Work :=
    ⟨⟨⟨1, 0, false⟩, ⟨5, none⟩, .stopped, 11⟩, loop, none, ⟨2, [], [], [[0]], [], [1]⟩⟩
  have reached : Schedule (.new "/c".toList ⟨⟨[]⟩⟩ 5 1 0) [.signal .arrival] w :=
    .head (.arrival rfl) .start
  have drop : Step w (.signal .arrival) w' := .arrival rfl
  have schedule : Schedule w' [.signal (.receipt 0), .signal (.quiet 10),
      .event (.called (.status "/c".toList) (.error ⟨.notFound, [], []⟩)),
      .event (.noted (ChangeLoop.logged "command file empty" none)), .signal .finished,
      .signal (.drained 11), .signal .closing, .signal .ending] last :=
    .head (.receipt rfl) <| .head (.begins rfl rfl rfl) <| .head (.event rfl (.asked _)) <|
      .head (.event rfl .noted) <| .head (.finishes rfl rfl) <| .head (.resumes rfl) <|
      .head (.closing rfl) <| .head (.stops rfl rfl) .start
  have hread : ¬ w.HasRead "/c".toList := by
    rintro ⟨_, _, _, _, hnone, -⟩
    cases hnone
  have hdrain : w.machine.stage ≠ .draining := Stage.noConfusion
  exact ⟨w, w', last, _, reached, drop, rfl, hread, hdrain, schedule, rfl,
    pays_of_drop reached drop rfl hread hdrain schedule rfl⟩

/-- A notification that is dropped at this stage, in some schedule of a watch with one place in its
mailbox, is followed by no reading at all. -/
def Stage.LosesDrop (file : Text) (stage : Stage) : Prop :=
  ∃ before w w' acts last, Schedule (.new file ⟨⟨[]⟩⟩ 5 1 0) before w ∧ w.machine.stage = stage
    ∧ Step w (.signal .arrival) w' ∧ w.machine.mailbox.isFull
    ∧ Schedule w' acts last ∧ last.machine.stage = .stopped
    ∧ ∀ e, .event e ∈ acts → ¬ e.Reads file

/-- A notification may be lost that is dropped while a cycle is at work that has read the command
file, and one that is dropped when the cycle has ended and the mailbox is yet to be emptied. -/
theorem no_reading_after_drop :
    Stage.LosesDrop "/c".toList (.cycling false) ∧ Stage.LosesDrop "/c".toList .draining := by
  let loop : ChangeLoop := .new "/c".toList ⟨⟨[]⟩⟩
  let empty : Note := ChangeLoop.logged "command file empty" none
  let running : Running :=
    ⟨[.called (.status "/c".toList) (.error ⟨.notFound, [], []⟩)],
      .note empty (.done (.empty, loop))⟩
  let cycling : Work :=
    ⟨⟨⟨1, 1, true⟩, ⟨5, none⟩, .cycling false, 10⟩, loop, running, ⟨2, [1], [], [[0]], [], []⟩⟩
  let draining : Work :=
    ⟨⟨⟨1, 1, true⟩, ⟨5, none⟩, .draining, 10⟩, loop, none, ⟨2, [1], [], [[0]], [], []⟩⟩
  have reached : Schedule (.new "/c".toList ⟨⟨[]⟩⟩ 5 1 0) [.signal .arrival, .signal (.receipt 0),
      .signal (.quiet 10), .event (.called (.status "/c".toList) (.error ⟨.notFound, [], []⟩)),
      .signal .arrival] cycling :=
    .head (.arrival rfl) <| .head (.receipt rfl) <| .head (.begins rfl rfl rfl) <|
      .head (.event rfl (.asked _)) <| .head (.arrival rfl) .start
  have ended : ∀ ledger : Ledger, Schedule { cycling with ledger := ledger }
      [.event (.noted empty), .signal .finished] { draining with ledger := ledger } := fun ledger =>
    .head (.event rfl .noted) <| .head (.finishes rfl rfl) .start
  have emptied : ∀ ledger : Ledger, ∃ last, Schedule { draining with ledger := ledger }
      [.signal .discard, .signal (.drained 11), .signal .closing, .signal .ending] last
        ∧ last.machine.stage = .stopped := fun ledger =>
    ⟨_, .head (.discards rfl) <| .head (.resumes rfl) <| .head (.closing rfl) <|
      .head (.stops rfl rfl) .start, rfl⟩
  constructor
  · obtain ⟨last, rest, hstopped⟩ := emptied (cycling.ledger.arrive true)
    refine ⟨_, cycling, _, _, last, reached, rfl, .arrival rfl, rfl, (ended _).trans rest, hstopped,
      fun e he => ?_⟩
    obtain rfl : e = .noted empty := by simpa using he
    exact id
  · obtain ⟨last, rest, hstopped⟩ := emptied (draining.ledger.arrive true)
    exact ⟨_, draining, _, _, last, reached.trans (ended _), rfl, .arrival rfl, rfl, rest, hstopped,
      by simp⟩

end Watch

end FileClerk
