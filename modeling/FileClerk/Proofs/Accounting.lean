import FileClerk.Proofs.Guarding

/-!
# Outcomes account for the answers

What comes of an operation tells how its calls were answered (`accounts_of_runs`). It succeeds when
every call had a reply and its deed was done, it is skipped when a check stops it, and otherwise the
last call failed it and the failure says so; no error is lost. The exception is a status with a time
that has no date: every call had a reply, and there is no outcome.
-/

namespace FileClerk

def Event.Replied : Event → Prop
  | .called _ (.ok _) => True
  | .called _ (.error _) | .noted _ => False

theorem Preliminary.Passes.replied {p : Preliminary} {e : Event} (h : p.Passes e) : e.Replied := by
  obtain ⟨reply, -, rfl⟩ := h
  trivial

namespace Operation

/-- An operation has nothing to do, as its calls tell: what it is about is missing, what it would
make is there, or a file would be copied to itself. -/
inductive Stopped (box : Sandbox) : Operation → List Event → Prop where
  | created {path place} : box.resolve path = .ok place →
      Stopped box (.create path) [.called (.isPresent place.text) (.ok true)]
  /-- What is to be created came to be after the check. -/
  | overtaken {path place before error} : box.resolve path = .ok place →
      error.kind = .alreadyExists →
      Stopped box (.create path) (before ++ [.called (.createEmpty place.text) (.error error)])
  | deleted {path place} : box.resolve path = .ok place →
      Stopped box (.delete path) [.called (.isPresent place.text) (.ok false)]
  | moved {source target old} : box.resolve source = .ok old →
      Stopped box (.rename source target) [.called (.isPresent old.text) (.ok false)]
  | occupied {source target old new} : box.resolve source = .ok old →
      box.resolve target = .ok new →
      Stopped box (.rename source target)
        [.called (.isPresent old.text) (.ok true), .called (.isPresent new.text) (.ok true)]
  | unread {path place} : box.resolve path = .ok place →
      Stopped box (.read path) [.called (.isPresent place.text) (.ok false)]
  | same {source target place} : box.resolve source = .ok place → box.resolve target = .ok place →
      Stopped box (.copy source target) []
  | uncopied {source target old} : box.resolve source = .ok old →
      Stopped box (.copy source target) [.called (.isPresent old.text) (.ok false)]
  | unknown {path place} : box.resolve path = .ok place →
      Stopped box (.info path) [.called (.isPresent place.text) (.ok false)]

/-- The last call of an operation fails it: it has an error, and the failure tells that error unless
a directory to list is missing, or what is to be listed is no directory. -/
inductive FailsAt (operation : Operation) : Event → Failure → Prop where
  | call {call error failure} : ¬ operation.Expects call error → failure.Tells call error →
      FailsAt operation (.called call (.error error)) failure
  | missing {raw place error} : operation = .list raw → error.kind = .notFound →
      FailsAt operation (.called (.status place.text) (.error error)) (.notFound place)
  | unfit {raw place status} : operation = .list raw → status.kind ≠ .directory →
      FailsAt operation (.called (.status place.text) (.ok status)) (.notADirectory place)

/-- What comes of an operation accounts for the answers to its calls. -/
structure Accounts (box : Sandbox) (operation : Operation) (events : List Event)
    (result : Except Crash Outcome) : Prop where
  /-- No call comes after one that failed. -/
  halts : ∀ before call error after,
    events = before ++ .called call (.error error) :: after → after = []
  success : (∃ message, result = .ok (.success message)) ↔
    (∀ e ∈ events, e.Replied)
      ∧ (∃ plan reply, operation.Plans box plan ∧ .called plan.deed (.ok reply) ∈ events)
      ∧ ¬ Execution.Unshowable operation events
  skipped : (∃ message, result = .ok (.skipped message)) ↔ operation.Stopped box events
  failed : ∀ failure, result = .ok (.failed failure) →
    ∃ before last, events = before ++ [last] ∧ (∀ e ∈ before, e.Replied)
      ∧ operation.FailsAt last failure
  /-- A failed call fails the operation, unless it is that a file to create is there. -/
  errors : ∀ call error, .called call (.error error) ∈ events →
    (∃ failure, result = .ok (.failed failure)
        ∧ operation.FailsAt (.called call (.error error)) failure)
      ∨ (∃ path message, call = .createEmpty path ∧ operation.Expects call error
        ∧ result = .ok (.skipped message))
  crash : (∃ why, result = .error why) ↔ Execution.Unshowable operation events

theorem Stopped.exists_last {box : Sandbox} {operation : Operation} {events : List Event}
    (h : operation.Stopped box events) : events = [] ∨ ∃ before last, events = before ++ [last]
      ∧ ((∃ path there, last = .called (.isPresent path) (.ok there))
        ∨ ∃ path error, last = .called (.createEmpty path) (.error error)
          ∧ operation.Expects (.createEmpty path) error) := by
  cases h with
  | same => exact .inl rfl
  | overtaken _ hkind => exact .inr ⟨_, _, rfl, .inr ⟨_, _, rfl, hkind⟩⟩
  | occupied => exact .inr ⟨[_], _, rfl, .inl ⟨_, _, rfl⟩⟩
  | created | deleted | moved | unread | uncopied | unknown =>
    exact .inr ⟨[], _, rfl, .inl ⟨_, _, rfl⟩⟩

end Operation

namespace Verdict

variable {operation : Operation} {deed : Call} {result : Except Crash Outcome}

theorem of_deed {reply : deed.Reply} (h : Verdict operation deed (.called deed (.ok reply)) result)
    (hlook : ∀ p, deed ≠ .isPresent p) (hlist : ∀ raw p, operation = .list raw → deed ≠ .status p) :
    (∃ message, result = .ok (.success message)) ∨ ∃ why, result = .error why := by
  cases h with
  | done => exact .inl ⟨_, rfl⟩
  | crashed => exact .inr ⟨_, rfl⟩
  | looked => exact absurd rfl (hlook _)
  | unfit hop => exact absurd rfl (hlist _ _ hop)

theorem of_success {last : Event} {message : Text}
    (h : Verdict operation deed last (.ok (.success message))) :
    ∃ reply, last = .called deed (.ok reply) := by
  cases h with
  | done => exact ⟨_, rfl⟩

theorem of_skipped {last : Event} {message : Text}
    (h : Verdict operation deed last (.ok (.skipped message))) :
    (∃ path there, last = .called (.isPresent path) (.ok there))
      ∨ ∃ path error, last = .called (.createEmpty path) (.error error)
        ∧ operation.Expects (.createEmpty path) error := by
  cases h with
  | looked => exact .inl ⟨_, _, rfl⟩
  | taken hexpects => exact .inr ⟨_, _, rfl, hexpects⟩

theorem of_isPresent {path : Text} {there : Bool}
    (h : Verdict operation deed (.called (.isPresent path) (.ok there)) result)
    (hlook : ∀ p, deed ≠ .isPresent p) : ∃ message, result = .ok (.skipped message) := by
  cases h with
  | done | crashed => exact absurd rfl (hlook _)
  | looked => exact ⟨_, rfl⟩

theorem of_error {call : Call} {error : IoError}
    (h : Verdict operation deed (.called call (.error error)) result) :
    (∃ failure, result = .ok (.failed failure)
        ∧ operation.FailsAt (.called call (.error error)) failure)
      ∨ ∃ path message, call = .createEmpty path ∧ operation.Expects call error
        ∧ result = .ok (.skipped message) := by
  cases h with
  | failed hexpects htells => exact .inl ⟨_, rfl, .call hexpects htells⟩
  | missing hexpects =>
    cases operation with
    | list => exact .inl ⟨_, rfl, .missing rfl hexpects⟩
    | create | delete | rename | append | read | copy | info => exact hexpects.elim
  | taken hexpects => exact .inr ⟨_, _, rfl, hexpects, rfl⟩

theorem failsAt {last : Event} {failure : Failure}
    (h : Verdict operation deed last (.ok (.failed failure))) : operation.FailsAt last failure := by
  cases h with
  | unfit hop hkind => exact .unfit hop hkind
  | failed hexpects htells => exact .call hexpects htells
  | missing hexpects =>
    cases operation with
    | list => exact .missing rfl hexpects
    | create | delete | rename | append | read | copy | info => exact hexpects.elim

end Verdict

namespace Course

variable {operation : Operation} {deed : Call} {result : Except Crash Outcome}
  {first : List Preliminary} {events : List Event} {message : Text}

theorem eq_nil_of_error (h : Course operation deed result first events)
    {before after : List Event} {call : Call} {error : IoError}
    (heq : events = before ++ .called call (.error error) :: after) : after = [] := by
  obtain ⟨passed, -, ⟨p, rest, answer, -, -, hpasses⟩ | ⟨-, -, hafter⟩⟩ := h.exists_passed heq
  · by_contra hne
    exact (hpasses hne).replied
  · exact hafter

/-- Every call before the last one had a reply, and the last one decides. -/
theorem exists_verdict (h : Course operation deed result first events) :
    ∃ before last, events = before ++ [last] ∧ (∀ e ∈ before, e.Replied)
      ∧ Verdict operation deed last result := by
  obtain ⟨before, last, heq, hverdict, -⟩ := h.exists_last
  obtain ⟨passed, hpassed, -⟩ := h.exists_passed heq
  refine ⟨before, last, heq, fun e he => ?_, hverdict⟩
  obtain ⟨p, -, hp⟩ := Preliminary.exists_passes_of_mem hpassed he
  exact hp.replied

theorem verdict_of_eq_concat (h : Course operation deed result first events) {before : List Event}
    {last : Event} (heq : events = before ++ [last]) : Verdict operation deed last result := by
  obtain ⟨before', last', heq', -, hverdict⟩ := h.exists_verdict
  obtain ⟨-, hlast⟩ := List.append_inj' (heq.symm.trans heq') rfl
  obtain rfl := List.singleton_inj.1 hlast
  exact hverdict

/-- A look stops an operation that is skipped, or lets it go on. -/
theorem skipped_look {place : Location} {there : Bool} {rest : List Preliminary}
    (h : Course operation deed (.ok (.skipped message)) (.look place there :: rest) events) :
    events = [.called (.isPresent place.text) (.ok (!there))]
      ∨ ∃ after, events = .called (.isPresent place.text) (.ok there) :: after
        ∧ Course operation deed (.ok (.skipped message)) rest after := by
  cases h with
  | passed hpasses h =>
    obtain ⟨(reply : Bool), (hreply : reply = there), rfl⟩ := hpasses
    exact .inr ⟨_, by rw [hreply]; rfl, h⟩
  | @ended _ _ answer hpasses hverdict =>
    cases answer with
    | error error =>
      rcases hverdict.of_error with ⟨_, hfailed, -⟩ | ⟨_, _, hcall, -⟩
      · cases hfailed
      · cases hcall
    | ok reply =>
      have hreply : reply ≠ there := fun h => hpasses (Preliminary.passes_ok_iff.2 h)
      exact .inl (by rw [Bool.eq_not.2 hreply]; rfl)

/-- An operation that is skipped without a look was to create a file, which is there. -/
theorem skipped_deed (hlook : ∀ p, deed ≠ .isPresent p)
    (hfirst : ∀ p ∈ first, ∃ place, p = .make place ∨ p = .inspect place)
    (h : Course operation deed (.ok (.skipped message)) first events) :
    ∃ path error before, deed = .createEmpty path ∧ operation.Expects (.createEmpty path) error
      ∧ events = before ++ [.called (.createEmpty path) (.error error)] := by
  obtain ⟨before, last, rfl, hverdict, ⟨p, hp, answer, rfl, -⟩ | ⟨answer, rfl⟩⟩ := h.exists_last
  · obtain ⟨place, rfl | rfl⟩ := hfirst p hp <;>
      obtain ⟨_, _, he⟩ | ⟨_, _, he, -⟩ := hverdict.of_skipped <;> cases he
  · obtain ⟨path, there, he⟩ | ⟨path, error, he, hexpects⟩ := hverdict.of_skipped
    · exact absurd (Event.called.inj he).1 (hlook _)
    · exact ⟨path, error, before, (Event.called.inj he).1, hexpects, by rw [he]⟩

theorem skipped_make {directory? : Option Location} (hlook : ∀ p, deed ≠ .isPresent p)
    (h : Course operation deed (.ok (.skipped message)) (directory?.toList.map .make) events) :
    ∃ path error before, deed = .createEmpty path ∧ operation.Expects (.createEmpty path) error
      ∧ events = before ++ [.called (.createEmpty path) (.error error)] := by
  refine h.skipped_deed hlook fun p hp => ?_
  obtain ⟨directory, -, rfl⟩ := List.mem_map.1 hp
  exact ⟨directory, .inl rfl⟩

end Course

namespace Operation.Plans

variable {box : Sandbox} {operation : Operation} {plan : Plan} {events : List Event}
  {result : Except Crash Outcome}

theorem unique (h : operation.Plans box plan) {plan' : Plan} (h' : operation.Plans box plan') :
    plan = plan' := by
  cases h <;> cases h' <;> simp_all

theorem deed_ne_status (h : operation.Plans box plan) (raw p : Text) (hop : operation = .list raw) :
    plan.deed ≠ .status p := by
  cases h with
  | list => simp
  | create | delete | rename | append | read | copy | info => cases hop

theorem call_ne_deed (h : operation.Plans box plan) {p : Preliminary} (hp : p ∈ plan.first) :
    p.call ≠ plan.deed := by
  intro hcall
  rcases List.mem_append.1 hp with hp | hp
  · rcases h.of_mem_looks hp with ⟨path, hlook⟩ | ⟨path, hstatus⟩
    · exact h.deed_ne_isPresent path (hcall.symm.trans hlook)
    · cases h with
      | list => exact absurd (hcall.symm.trans hstatus) (by simp)
      | info =>
        obtain rfl := List.mem_singleton.1 hp
        cases hstatus
      | create | delete | rename | append | read | copy =>
        exact absurd (hcall.symm.trans hstatus) (by simp)
  · obtain ⟨directory, -, rfl⟩ := List.mem_map.1 hp
    exact h.deed_ne_createDirectories _ hcall.symm

theorem exists_eq_concat_deed (h : operation.Plans box plan)
    (hcourse : Course operation plan.deed result plan.first events) {answer : plan.deed.Answer}
    (hmem : .called plan.deed answer ∈ events) :
    ∃ before, events = before ++ [.called plan.deed answer] := by
  obtain ⟨before, after, heq⟩ := List.append_of_mem hmem
  obtain ⟨passed, -, ⟨p, rest, answer', hfirst, he, -⟩ | ⟨-, -, rfl⟩⟩ := hcourse.exists_passed heq
  · exact absurd (Event.called.inj he).1.symm (h.call_ne_deed (by simp [hfirst]))
  · exact ⟨before, heq⟩

theorem success_iff (h : operation.Plans box plan)
    (hcourse : Course operation plan.deed result plan.first events)
    (hcrash : Execution.Unshowable operation events ↔ ∃ why, result = .error why) :
    (∃ message, result = .ok (.success message)) ↔ (∀ e ∈ events, e.Replied)
      ∧ (∃ reply, .called plan.deed (.ok reply) ∈ events)
      ∧ ¬ Execution.Unshowable operation events := by
  constructor
  · rintro ⟨message, rfl⟩
    obtain ⟨before, last, rfl, hbefore, hverdict⟩ := hcourse.exists_verdict
    obtain ⟨reply, rfl⟩ := hverdict.of_success
    refine ⟨fun e he => ?_, ⟨reply, by simp⟩, fun hshow => ?_⟩
    · rcases List.mem_append.1 he with he | he
      · exact hbefore e he
      · obtain rfl := List.mem_singleton.1 he
        trivial
    · obtain ⟨why, hwhy⟩ := hcrash.1 hshow
      cases hwhy
  · rintro ⟨-, ⟨reply, hmem⟩, hshow⟩
    obtain ⟨before, heq⟩ := h.exists_eq_concat_deed hcourse hmem
    have hverdict := hcourse.verdict_of_eq_concat heq
    exact (hverdict.of_deed h.deed_ne_isPresent h.deed_ne_status).resolve_right
      fun hwhy => hshow (hcrash.2 hwhy)

theorem stopped_of_skipped (h : operation.Plans box plan) {message : Text}
    (hcourse : Course operation plan.deed (.ok (.skipped message)) plan.first events) :
    operation.Stopped box events := by
  have hlook := h.deed_ne_isPresent
  cases h with
  | create hplace =>
    obtain rfl | ⟨after, rfl, hrest⟩ := hcourse.skipped_look
    · exact .created hplace
    · obtain ⟨path, error, before, hdeed, hkind, rfl⟩ := hrest.skipped_make hlook
      obtain rfl := Call.createEmpty.inj hdeed
      rw [← List.cons_append]
      exact .overtaken hplace hkind
  | delete hplace =>
    obtain rfl | ⟨after, rfl, hrest⟩ := hcourse.skipped_look
    · exact .deleted hplace
    · obtain ⟨_, _, _, hdeed, -⟩ := hrest.skipped_make hlook
      cases hdeed
  | rename hold hnew =>
    obtain rfl | ⟨after, rfl, hrest⟩ := hcourse.skipped_look
    · exact .moved hold
    · obtain rfl | ⟨after, rfl, hlast⟩ := hrest.skipped_look
      · exact .occupied hold hnew
      · obtain ⟨_, _, _, hdeed, -⟩ := hlast.skipped_make hlook
        cases hdeed
  | append =>
    obtain ⟨_, _, _, hdeed, -⟩ := hcourse.skipped_make hlook
    cases hdeed
  | read hplace =>
    obtain rfl | ⟨after, rfl, hrest⟩ := hcourse.skipped_look
    · exact .unread hplace
    · obtain ⟨_, _, _, hdeed, -⟩ := hrest.skipped_make hlook
      cases hdeed
  | copy hold =>
    obtain rfl | ⟨after, rfl, hrest⟩ := hcourse.skipped_look
    · exact .uncopied hold
    · obtain ⟨_, _, _, hdeed, -⟩ := hrest.skipped_make hlook
      cases hdeed
  | list =>
    obtain ⟨_, _, _, hdeed, -⟩ := hcourse.skipped_deed hlook fun p hp =>
      ⟨_, .inr (List.mem_singleton.1 hp)⟩
    cases hdeed
  | info hplace =>
    obtain rfl | ⟨after, rfl, hrest⟩ := hcourse.skipped_look
    · exact .unknown hplace
    · obtain ⟨_, _, _, hdeed, -⟩ := hrest.skipped_make hlook
      cases hdeed

theorem skipped_iff (h : operation.Plans box plan)
    (hcourse : Course operation plan.deed result plan.first events) :
    (∃ message, result = .ok (.skipped message)) ↔ operation.Stopped box events := by
  constructor
  · rintro ⟨message, rfl⟩
    exact h.stopped_of_skipped hcourse
  · intro hstopped
    rcases hstopped.exists_last with
      rfl | ⟨before, last, heq, ⟨path, there, rfl⟩ | ⟨path, error, rfl, hexpects⟩⟩
    · obtain ⟨before, last, heq, -⟩ := hcourse.exists_verdict
      simp at heq
    · exact (hcourse.verdict_of_eq_concat heq).of_isPresent h.deed_ne_isPresent
    · rcases (hcourse.verdict_of_eq_concat heq).of_error with
        ⟨failure, rfl, hfails⟩ | ⟨_, message, _, _, hresult⟩
      · cases hfails with
        | call hunexpected => exact absurd hexpects hunexpected
      · exact ⟨message, hresult⟩

theorem accounts (h : operation.Plans box plan)
    (hcourse : Course operation plan.deed result plan.first events)
    (hcrash : Execution.Unshowable operation events ↔ ∃ why, result = .error why) :
    operation.Accounts box events result where
  halts _ _ _ _ heq := hcourse.eq_nil_of_error heq
  success := by
    rw [h.success_iff hcourse hcrash]
    refine and_congr_right fun _ => and_congr_left fun _ => ?_
    constructor
    · rintro ⟨reply, hmem⟩
      exact ⟨plan, reply, h, hmem⟩
    · rintro ⟨plan', reply, h', hmem⟩
      obtain rfl := h.unique h'
      exact ⟨reply, hmem⟩
  skipped := h.skipped_iff hcourse
  failed := by
    rintro failure rfl
    obtain ⟨before, last, heq, hbefore, hverdict⟩ := hcourse.exists_verdict
    exact ⟨before, last, heq, hbefore, hverdict.failsAt⟩
  errors call error hmem := by
    obtain ⟨before, after, heq⟩ := List.append_of_mem hmem
    obtain rfl := hcourse.eq_nil_of_error heq
    exact (hcourse.verdict_of_eq_concat heq).of_error
  crash := hcrash.symm

end Operation.Plans

/-- A file that is to be copied to itself is left alone. -/
theorem Operation.accounts_same {box : Sandbox} {source target : Text} {place : Location}
    (hsource : box.resolve source = .ok place) (htarget : box.resolve target = .ok place)
    (message : Text)
    (hcrash : Execution.Unshowable (.copy source target) [] ↔
      ∃ why, (.ok (.skipped message) : Except Crash Outcome) = .error why) :
    (Operation.copy source target).Accounts box [] (.ok (.skipped message)) where
  halts _ _ _ _ heq := by simp at heq
  success := by simp
  skipped := ⟨fun _ => .same hsource htarget, fun _ => ⟨_, rfl⟩⟩
  failed _ h := by simp at h
  errors _ _ h := by simp at h
  crash := hcrash.symm

namespace Execution

open FileClerk.Action

variable {box : Sandbox} {operation : Operation} {events : List Event}
  {result : Except Crash Outcome}

/-- What comes of an operation on places in the sandbox accounts for every answer, whatever the
answers are. -/
theorem accounts_of_runs
    (hpaths : ∀ path ∈ operation.paths, ∃ place, box.resolve path = .ok place)
    (run : Runs (operation.execute box) events result) :
    operation.Accounts box events result := by
  have hcrash := unshowable_iff_crash run
  obtain ⟨plan, hplan, hcourse⟩ | ⟨rfl, hidle⟩ := goes_of_runs run
  · exact hplan.accounts hcourse hcrash
  · cases hidle with
    | refused hpath herror =>
      obtain ⟨place, hplace⟩ := hpaths _ hpath
      cases hplace.symm.trans herror
    | same hsource htarget => exact Operation.accounts_same hsource htarget _ hcrash

/-- A file that comes to be between the check and the creation is not an error. -/
theorem accounts_of_runs_overtaken :
    let box : Sandbox := ⟨⟨["work".toList]⟩⟩
    let events : List Event := [.called (.isPresent "/work/a".toList) (.ok false),
      .called (.createDirectories "/work".toList) (.ok ()),
      .called (.createEmpty "/work/a".toList) (.error ⟨.alreadyExists, [], []⟩)]
    let result := .ok (.skipped (present "a".toList))
    (∀ path ∈ (Operation.create "a".toList).paths, ∃ place, box.resolve path = .ok place)
      ∧ Runs ((Operation.create "a".toList).execute box) events result
      ∧ (Operation.create "a".toList).Accounts box events result := by
  intro box events result
  have hpaths : ∀ path ∈ (Operation.create "a".toList).paths,
      ∃ place, box.resolve path = .ok place := by
    intro path hpath
    obtain rfl := List.mem_singleton.1 hpath
    exact ⟨⟨["work".toList, "a".toList]⟩, by decide⟩
  have run : Runs ((Operation.create "a".toList).execute box) events result := by
    refine @Runs.ask _ (.isPresent "/work/a".toList) _ (.ok false) _ _ ?_
    refine @Runs.ask _ (.createDirectories "/work".toList) _ (.ok ()) _ _ ?_
    refine @Runs.ask _ (.createEmpty "/work/a".toList) _ (.error ⟨.alreadyExists, [], []⟩) _ _ ?_
    exact .done _
  exact ⟨hpaths, run, accounts_of_runs hpaths run⟩

/-- A time without a date leaves an operation of which every call had a reply, its deed too, without
an outcome. -/
theorem not_success_of_undated :
    ∃ (box : Sandbox) (events : List Event) (result : Except Crash Outcome) (plan : Plan)
      (reply : plan.deed.Reply),
      (∀ path ∈ (Operation.info "a".toList).paths, ∃ place, box.resolve path = .ok place)
        ∧ Runs ((Operation.info "a".toList).execute box) events result
        ∧ (∀ e ∈ events, e.Replied)
        ∧ (Operation.info "a".toList).Plans box plan ∧ .called plan.deed (.ok reply) ∈ events
        ∧ ∀ outcome, result ≠ .ok outcome := by
  let box : Sandbox := ⟨⟨["work".toList]⟩⟩
  let status : FileStatus := ⟨.file, 1, none, some ⟨9000000000000000, 0⟩, none⟩
  have hplace : box.resolve "a".toList = .ok ⟨["work".toList, "a".toList]⟩ := by decide
  have hreport : infoReport? "a".toList status = none := by decide +kernel
  have run : Runs ((Operation.info "a".toList).execute box)
      [.called (.isPresent "/work/a".toList) (.ok true),
        .called (.status "/work/a".toList) (.ok status)] (.error .timeOutOfRange) := by
    refine @Runs.ask _ (.isPresent "/work/a".toList) _ (.ok true) _ _ ?_
    refine @Runs.ask _ (.status "/work/a".toList) _ (.ok status) _ _ ?_
    dsimp only
    rw [hreport]
    exact .crash _
  refine ⟨box, _, _, _, status, fun path hpath => ?_, run, ?_, .info hplace, ?_, by simp⟩
  · obtain rfl := List.mem_singleton.1 hpath
    exact ⟨_, hplace⟩
  · intro e he
    rcases List.mem_pair.1 he with rfl | rfl <;> trivial
  · exact List.mem_cons_of_mem _ List.mem_cons_self

end Execution

end FileClerk
