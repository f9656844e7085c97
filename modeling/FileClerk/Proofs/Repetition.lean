import FileClerk.Proofs.Accounting
import FileClerk.Proofs.Effect
import FileClerk.Proofs.TreeDisk

/-!
# Operations carried out twice

An operation asks the calls of its plan. Once its deed is done or refused, none of them changes the
tree any more (`settled_of_course`), so carried out a second time it leaves the tree of the first
time (`state_run_again`). What comes of it then follows from what the first time left: a look finds
the deed done, or what is told is the same (`repeats_of_run_again`).
-/

namespace FileClerk

namespace TreeDisk

open FileTree

variable (disk : TreeDisk) {tree after : FileTree} {call : Call}

section Course

variable {operation : Operation} {deed : Call} {result : Except Crash Outcome}
  {first looks : List Preliminary} {events : List Event}

/-- An operation of which no call changes the tree does not change it. -/
theorem state_of_course (h : Course operation deed result first events)
    (hgives : disk.Gives tree events after) (hdeed : (disk.answer deed tree).2 = tree)
    (hfirst : ∀ p ∈ first, (disk.answer p.call tree).2 = tree) : after = tree := by
  induction h with
  | deed =>
    obtain ⟨-, rfl⟩ := hgives
    exact hdeed
  | ended =>
    obtain ⟨-, rfl⟩ := hgives
    exact hfirst _ List.mem_cons_self
  | @passed p rest e events hpasses _ ih =>
    rw [List.forall_mem_cons] at hfirst
    obtain ⟨reply, -, rfl⟩ := hpasses
    obtain ⟨-, hgives⟩ := hgives
    rw [hfirst.1] at hgives
    exact ih hgives hfirst.2

/-- Looking changes nothing, so an operation stops short of what it changes or leaves the tree as
the rest of the plan does. -/
theorem exists_course_of_looks (h : Course operation deed result (looks ++ first) events)
    (hgives : disk.Gives tree events after) (hlooks : ∀ p ∈ looks, ¬ p.call.Changes) :
    after = tree ∨ ∃ rest, Course operation deed result first rest
      ∧ disk.Gives tree rest after := by
  induction looks generalizing events with
  | nil => exact .inr ⟨events, h, hgives⟩
  | cons p looks ih =>
    rw [List.forall_mem_cons] at hlooks
    rw [List.cons_append] at h
    cases h with
    | ended =>
      obtain ⟨-, rfl⟩ := hgives
      exact .inl (disk.state_of_reads hlooks.1)
    | passed hpasses h =>
      obtain ⟨reply, -, rfl⟩ := hpasses
      obtain ⟨-, hgives⟩ := hgives
      rw [disk.state_of_reads hlooks.1] at hgives
      exact ih h hgives hlooks.2

/-- The deed comes on a tree in which the directory it needs has been made. -/
theorem exists_ready {directory? : Option Location}
    (h : Course operation deed result (directory?.toList.map .make) events)
    (hgives : disk.Gives tree events after) :
    after = tree ∨ ∃ ready, after = (disk.answer deed ready).2 ∧ ∀ directory ∈ directory?,
      ready.node? (.ofText directory.text) = some .directory := by
  cases directory? with
  | none =>
    cases h with
    | deed =>
      obtain ⟨-, rfl⟩ := hgives
      exact .inr ⟨tree, rfl, by simp⟩
  | some directory =>
    have hcases := disk.createDirectories_cases directory.text tree
    cases h with
    | @ended _ _ answer hpasses =>
      obtain ⟨hanswer, rfl⟩ := hgives
      rcases hcases with ⟨ready, hmake, -⟩ | ⟨error, hmake⟩
      · obtain rfl : .ok () = answer := (congrArg Prod.fst hmake).symm.trans hanswer
        exact absurd ⟨(), trivial, rfl⟩ hpasses
      · exact .inl (congrArg Prod.snd hmake)
    | passed hpasses h =>
      obtain ⟨reply, -, rfl⟩ := hpasses
      obtain ⟨hanswer, hgives⟩ := hgives
      cases h with
      | deed =>
        obtain ⟨-, rfl⟩ := hgives
        rcases hcases with ⟨ready, hmake, hready⟩ | ⟨error, hmake⟩
        · have hstate : (disk.answer (Preliminary.make directory).call tree).2 = ready :=
            congrArg Prod.snd hmake
          refine .inr ⟨ready, by rw [hstate], fun other hother => ?_⟩
          obtain rfl := Option.some.inj hother
          rw [hready]
          exact node?_withDirectories_of_isWithin (Location.isWithin_refl _)
        · cases (congrArg Prod.fst hmake).symm.trans hanswer

end Course

section Operation

variable {box : Sandbox} {operation : Operation} {plan : Plan} {ready : FileTree}

theorem node?_directory_of_performs (hplan : operation.Plans box plan) {directory : Location}
    (hdirectory : directory ∈ plan.directory?) {reply : plan.deed.Reply}
    (h : Performs ready plan.deed reply after) :
    after.node? (.ofText directory.text) = some .directory := by
  -- A deed that needs a directory leaves something in it.
  have hfilled : ∀ {raw place}, box.resolve raw = .ok place →
      directory ∈ box.directoryFor? place → after.node? (.ofText place.text) ≠ none →
      after.node? (.ofText directory.text) = some .directory := by
    intro raw place hplace hdirectory hthere
    have hnames := Sandbox.isName_of_resolve hplace
    obtain ⟨hparent, -⟩ := Option.filter_eq_some_iff.1 hdirectory
    obtain rfl := Location.above_of_parent? hparent
    rw [Location.ofText_text hnames] at hthere
    rw [Location.ofText_text_above hnames]
    exact after.directory_above place hthere
  cases hplan with
  | create hplace =>
    obtain ⟨-, hroom, rfl⟩ := h.of_createEmpty rfl
    exact hfilled hplace hdirectory (by simp [node?_put_self])
  | append hplace =>
    obtain ⟨hroom, rfl⟩ := h.of_append rfl
    exact hfilled hplace hdirectory (by simp [node?_put_self])
  | rename _ hnew =>
    obtain ⟨hmoves, rfl⟩ := h.of_rename rfl rfl
    exact hfilled hnew hdirectory (node?_move_new hmoves ▸ hmoves.present)
  | copy _ hnew =>
    obtain ⟨content, -, hroom, rfl⟩ := h.of_copy rfl rfl
    exact hfilled hnew hdirectory (by simp [node?_put_self])
  | delete | read | list | info => cases hdirectory

theorem deed_ne_append (hplan : operation.Plans box plan)
    (happend : ∀ path content, operation ≠ .append path content) (path : Text) (content : Bytes) :
    plan.deed ≠ .append path content := by
  cases hplan with
  | append => exact absurd rfl (happend _ _)
  | create | delete | rename | read | copy | list | info => simp

/-- Once an operation has been carried out, or one of its calls has failed it, no call of its plan
changes the tree, unless nothing was changed in the first place. -/
theorem settled_of_course (hplan : operation.Plans box plan)
    (happend : ∀ path content, operation ≠ .append path content)
    {result : Except Crash Outcome} {events : List Event}
    (h : Course operation plan.deed result plan.first events)
    (hgives : disk.Gives tree events after) :
    after = tree ∨ (disk.answer plan.deed after).2 = after
      ∧ ∀ p ∈ plan.first, (disk.answer p.call after).2 = after := by
  have hlooks : ∀ p ∈ plan.looks, ¬ p.call.Changes := by
    intro p hp
    obtain ⟨path, hcall⟩ | ⟨path, hcall⟩ := hplan.of_mem_looks hp <;> rw [hcall] <;> exact id
  obtain heq | ⟨rest, hrest, hgives⟩ := disk.exists_course_of_looks h hgives hlooks
  · exact .inl heq
  obtain heq | ⟨ready, rfl, hready⟩ := disk.exists_ready hrest hgives
  · exact .inl heq
  refine .inr ⟨disk.state_again (deed_ne_append hplan happend), fun p hp => ?_⟩
  rcases List.mem_append.1 hp with hp | hp
  · exact disk.state_of_reads (hlooks p hp)
  · obtain ⟨directory, hdirectory, rfl⟩ := List.mem_map.1 hp
    rw [Option.mem_toList] at hdirectory
    refine disk.state_createDirectories ?_
    obtain ⟨reply, after, hdeed, hperforms⟩ | ⟨error, hdeed⟩ := disk.answer_cases plan.deed ready
    · rw [hdeed]
      exact node?_directory_of_performs hplan hdirectory hperforms
    · rw [hdeed]
      exact hready directory hdirectory

theorem state_run_again (happend : ∀ path content, operation ≠ .append path content)
    (tree : FileTree) :
    let once := (operation.execute box).run disk.answer tree
    ((operation.execute box).run disk.answer once.state).state = once.state := by
  intro once
  have hgives := disk.gives_run (operation.execute box)
  have hgoes := fun tree => Execution.goes_of_runs
    (Action.runs_run disk.answer (operation.execute box) tree)
  obtain ⟨plan, hplan, hcourse⟩ | ⟨hevents, -⟩ := hgoes tree
  swap
  · have hstate : once.state = tree := by
      have h := hgives tree
      rwa [hevents] at h
    rw [hstate]
    exact hstate
  obtain hstate | ⟨hdeed, hfirst⟩ := disk.settled_of_course hplan happend hcourse (hgives tree)
  · change once.state = tree at hstate
    rw [hstate]
    exact hstate
  obtain ⟨plan', hplan', hcourse'⟩ | ⟨hevents, -⟩ := hgoes once.state
  · obtain rfl := hplan.unique hplan'
    exact disk.state_of_course hcourse' (hgives once.state) hdeed hfirst
  · have h := hgives once.state
    rwa [hevents] at h

/-- An operation that succeeds has done its deed last. -/
theorem exists_performs_of_success {message : Text}
    (h : ((operation.execute box).run disk.answer tree).result = .ok (.success message)) :
    ∃ plan ready reply, operation.Plans box plan ∧ .called plan.deed (.ok reply)
        ∈ ((operation.execute box).run disk.answer tree).events
      ∧ Performs ready plan.deed reply ((operation.execute box).run disk.answer tree).state := by
  have hrun := Action.runs_run disk.answer (operation.execute box) tree
  have hgives := disk.gives_run (operation.execute box) tree
  rw [h] at hrun
  obtain ⟨plan, hplan, hcourse⟩ | ⟨-, hidle⟩ := Execution.goes_of_runs hrun
  · obtain ⟨before, last, hevents, -, hverdict⟩ := hcourse.exists_verdict
    obtain ⟨reply, rfl⟩ := hverdict.of_success
    rw [hevents] at hgives ⊢
    obtain ⟨ready, hanswer, hstate⟩ := disk.gives_append hgives
    refine ⟨plan, ready, reply, hplan, by simp, ?_⟩
    obtain ⟨reply', after, hdeed, hperforms⟩ | ⟨error, hdeed⟩ := disk.answer_cases plan.deed ready
    · rw [hdeed] at hanswer hstate
      obtain rfl := Except.ok.inj hanswer
      change _ = after at hstate
      rwa [hstate]
    · rw [hdeed] at hanswer
      cases hanswer
  · cases hidle

theorem state_of_onlyReads (hreads : operation.OnlyReads) (tree : FileTree) :
    ((operation.execute box).run disk.answer tree).state = tree := by
  have hgives := disk.gives_run (operation.execute box) tree
  obtain ⟨plan, hplan, hcourse⟩ | ⟨hevents, -⟩ := Execution.goes_of_runs
    (Action.runs_run disk.answer (operation.execute box) tree)
  · obtain ⟨hdirectory, hdeed⟩ := hplan.of_onlyReads hreads
    refine disk.state_of_course hcourse hgives (disk.state_of_reads hdeed) fun p hp => ?_
    rw [Plan.first, hdirectory, Option.toList_none, List.map_nil, List.append_nil] at hp
    refine disk.state_of_reads ?_
    obtain ⟨path, hcall⟩ | ⟨path, hcall⟩ := hplan.of_mem_looks hp <;> rw [hcall] <;> exact id
  · rwa [hevents] at hgives

end Operation

section Able

open Execution

variable {disk} {box : Sandbox} {place : Location} {raw : Text}

theorem Able.run_ifPresent (hable : disk.Able) (hplace : ∀ n ∈ place.segments, Path.IsName n)
    (hfree : tree.FileFree place.above) (next : Bool → Action Outcome) :
    ((ifPresent place next).run disk.answer tree).result
      = ((next (tree.node? place).isSome).run disk.answer tree).result := by
  have htext := Location.ofText_text hplace
  rw [← htext] at hfree
  obtain ⟨there, hthere⟩ := hable.looks hfree
  obtain ⟨reply, after, hanswer, hperforms⟩ | ⟨error, hanswer⟩ :=
    disk.answer_cases (.isPresent place.text) tree
  · cases hperforms with
    | isPresent _ hreply =>
      rw [htext] at hreply
      simp only [ifPresent, attempting, Action.run, hanswer, hreply]
  · rw [hanswer] at hthere
    cases hthere

theorem Able.run_underParent (hable : disk.Able) (hplace : ∀ n ∈ place.segments, Path.IsName n)
    (hmade : tree.node? place.above = some .directory) (next : Action Outcome) :
    ((underParent box place next).run disk.answer tree).result
      = (next.run disk.answer tree).result := by
  unfold underParent
  split
  · rfl
  · rename_i parent hparent
    split_ifs
    · obtain rfl := Location.above_of_parent? hparent
      have htext := Location.ofText_text_above hplace
      have hmake : (disk.answer (.createDirectories place.above.text) tree).1 = .ok () :=
        hable.makes (htext.symm ▸ fileFree_of_directory hmade)
      have hstate : (disk.answer (.createDirectories place.above.text) tree).2 = tree :=
        disk.state_createDirectories (htext.symm ▸ hmade)
      simp only [attempting, Action.run, hmake, hstate]
    · rfl

theorem Able.create_again (hable : disk.Able) (hplace : box.resolve raw = .ok place) {reply : Unit}
    {ready : FileTree} (h : Performs ready (.createEmpty place.text) reply after) :
    ((create box raw).run disk.answer after).result = .ok (.skipped (present raw)) := by
  have hnames := Sandbox.isName_of_resolve hplace
  obtain ⟨-, hroom, rfl⟩ := h.of_createEmpty (Location.ofText_text hnames)
  have hfile : (ready.put place [] hroom).node? place = some (.file []) := node?_put_self hroom
  rw [create, resolving_of_ok hplace,
    hable.run_ifPresent hnames (fileFree_above (by simp [hfile])), hfile]
  rfl

theorem Able.delete_again (hable : disk.Able) (hplace : box.resolve raw = .ok place) {reply : Unit}
    {ready : FileTree} (h : Performs ready (.removeFile place.text) reply after) :
    ((delete box raw).run disk.answer after).result = .ok (.skipped (absent raw)) := by
  have hnames := Sandbox.isName_of_resolve hplace
  obtain ⟨content, hfile, rfl⟩ := h.of_removeFile (Location.ofText_text hnames)
  have habove := ready.directory_above place (by simp [hfile])
  have hne : place.above ≠ place := by
    intro heq
    simp [heq, hfile] at habove
  rw [← node?_remove_of_ne hfile hne] at habove
  rw [delete, resolving_of_ok hplace,
    hable.run_ifPresent hnames (fileFree_of_directory habove), node?_remove_self]
  rfl

theorem Able.rename_again (hable : disk.Able) {source target : Text} {old new : Location}
    (hold : box.resolve source = .ok old) (hnew : box.resolve target = .ok new) {reply : Unit}
    {ready : FileTree} (h : Performs ready (.rename old.text new.text) reply after) :
    ((rename box source target).run disk.answer after).result
      = .ok (.skipped (absent source)) := by
  have hnames := Sandbox.isName_of_resolve hold
  obtain ⟨hmoves, rfl⟩ := h.of_rename (Location.ofText_text hnames)
    (Location.ofText_text (Sandbox.isName_of_resolve hnew))
  have habove := node?_move_above_old hmoves
  rw [rename, resolving_of_ok hold, resolving_of_ok hnew,
    hable.run_ifPresent hnames (fileFree_of_directory habove), node?_move_old]
  rfl

/-- What is said of a copy of so many octets. -/
def copied (source target : Text) (count : Nat) : Text :=
  "copied ".toList ++ source ++ " to ".toList ++ target ++ " (".toList ++ Text.ofNat count
    ++ " bytes)".toList

theorem message_of_runs_copy {source target message : Text} {old new : Location}
    (hold : box.resolve source = .ok old) (hnew : box.resolve target = .ok new) (hne : old ≠ new)
    {count : Nat} {events : List Event}
    (run : Action.Runs (copy box source target) events (.ok (.success message)))
    (hcopy : .called (.copy old.text new.text) (.ok count) ∈ events) :
    message = copied source target count := by
  have hlast : ∀ {last}, Action.Runs (attempting .copy old (.copy old.text new.text)
      fun count => success (copied source target count)) last (.ok (.success message)) →
      .called (.copy old.text new.text) (.ok count) ∈ last →
      message = copied source target count := by
    intro last hrun hmem
    obtain ⟨told, _, rfl, hend⟩ := runs_attempting_success hrun
    obtain ⟨rfl, h⟩ := Action.runs_done_iff.1 hend
    obtain rfl : count = told := by simpa using hmem
    exact Outcome.success.inj (Except.ok.inj h)
  rw [copy, resolving_of_ok hold, resolving_of_ok hnew, if_neg hne] at run
  obtain ⟨there, rest, rfl, hrest⟩ := runs_attempting_success run
  cases there with
  | false =>
    obtain ⟨-, h⟩ := Action.runs_done_iff.1 hrest
    cases h
  | true =>
    have hmem : .called (.copy old.text new.text) (.ok count) ∈ rest := by simpa using hcopy
    rw [if_pos rfl, underParent] at hrest
    split at hrest
    · exact hlast hrest hmem
    · split_ifs at hrest
      · obtain ⟨_, last, rfl, hend⟩ := runs_attempting_success hrest
        exact hlast hend (by simpa using hmem)
      · exact hlast hrest hmem

theorem Able.result_copy (hable : disk.Able) {source target : Text} {old new : Location}
    (hold : box.resolve source = .ok old) (hnew : box.resolve target = .ok new) (hne : old ≠ new)
    {content : Bytes} (hsource : tree.node? old = some (.file content))
    (hroom : tree.HasRoom new) : ((copy box source target).run disk.answer tree).result
      = .ok (.success (copied source target content.length)) := by
  have holdNames := Sandbox.isName_of_resolve hold
  have hnewNames := Sandbox.isName_of_resolve hnew
  have holdText := Location.ofText_text holdNames
  have hnewText := Location.ofText_text hnewNames
  obtain ⟨told, htold⟩ := hable.copies (holdText.symm ▸ hsource) (hnewText.symm ▸ hroom)
    (by rwa [holdText, hnewText])
  obtain ⟨count, after, hanswer, hperforms⟩ | ⟨error, hanswer⟩ :=
    disk.answer_cases (.copy old.text new.text) tree
  · have hcount : count = content.length := by
      cases hperforms with
      | copy _ hfile hcopied =>
        rw [holdText, hsource] at hfile
        obtain rfl := Node.file.inj (Option.some.inj hfile)
        rw [hcopied, holdText, hnewText, if_neg hne]
    rw [copy, resolving_of_ok hold, resolving_of_ok hnew, if_neg hne,
      hable.run_ifPresent holdNames (fileFree_above (by simp [hsource])), hsource,
      Option.isSome_some, if_pos rfl, hable.run_underParent hnewNames hroom.above]
    simp only [attempting, Action.run, hanswer, hcount]
    rfl
  · rw [hanswer] at htold
    cases htold

theorem Able.copy_again (hable : disk.Able) {source target : Text} {old new : Location}
    (hold : box.resolve source = .ok old) (hnew : box.resolve target = .ok new) (hne : old ≠ new)
    {count : Nat} {ready : FileTree} (h : Performs ready (.copy old.text new.text) count after) :
    ((copy box source target).run disk.answer after).result
      = .ok (.success (copied source target count)) := by
  have holdText := Location.ofText_text (Sandbox.isName_of_resolve hold)
  have hnewText := Location.ofText_text (Sandbox.isName_of_resolve hnew)
  obtain ⟨content, hsource, htarget, rfl⟩ : ∃ content, after.node? old = some (.file content)
      ∧ after.node? new = some (.file content) ∧ count = content.length := by
    cases h with
    | copy hroom hfile hcopied =>
      rw [holdText, hnewText, if_neg hne] at hcopied
      subst hcopied
      rw [holdText] at hfile
      refine ⟨_, ?_, ?_, rfl⟩
      · rwa [node?_put_of_ne hroom (hnewText.symm ▸ hne)]
      · exact (congrArg _ hnewText.symm).trans (node?_put_self hroom)
  have habove := after.directory_above new (by simp [htarget])
  exact hable.result_copy hold hnew hne hsource ⟨by simp [htarget], habove⟩

end Able

/-- What comes of an operation that has succeeded, with a message, when it is carried out again. -/
inductive Repeats (message : Text) : Operation → Except Crash Outcome → Prop where
  | create {path} : Repeats message (.create path) (.ok (.skipped (Execution.present path)))
  | delete {path} : Repeats message (.delete path) (.ok (.skipped (Execution.absent path)))
  | rename {source target} :
      Repeats message (.rename source target) (.ok (.skipped (Execution.absent source)))
  | read {path} : Repeats message (.read path) (.ok (.success message))
  | copy {source target} : Repeats message (.copy source target) (.ok (.success message))
  | list {path} : Repeats message (.list path) (.ok (.success message))
  | info {path} : Repeats message (.info path) (.ok (.success message))

/-- An operation but appending, carried out a second time, changes nothing more, whatever came of it
the first time. If it was done then, creating, deleting and renaming are skipped now, and reading,
copying, listing and informing tell the same. -/
theorem repeats_of_run_again (box : Sandbox) {operation : Operation}
    (happend : ∀ path content, operation ≠ .append path content) (tree : FileTree) :
    let once := (operation.execute box).run disk.answer tree
    let twice := (operation.execute box).run disk.answer once.state
    twice.state = once.state ∧ (disk.Able → ∀ message,
      once.result = .ok (.success message) → Repeats message operation twice.result) := by
  intro once twice
  refine ⟨disk.state_run_again happend tree, fun hable message hmessage => ?_⟩
  obtain ⟨plan, ready, reply, hplan, hdeed, hperforms⟩ :=
    disk.exists_performs_of_success hmessage
  have hreads : operation.OnlyReads → twice.result = .ok (.success message) := fun hreads => by
    change (Action.run disk.answer _ (Action.run disk.answer _ tree).state).result = _
    rw [disk.state_of_onlyReads hreads]
    exact hmessage
  cases hplan with
  | create hplace =>
    have h : twice.result = _ := hable.create_again hplace hperforms
    rw [h]
    exact .create
  | delete hplace =>
    have h : twice.result = _ := hable.delete_again hplace hperforms
    rw [h]
    exact .delete
  | rename hold hnew =>
    have h : twice.result = _ := hable.rename_again hold hnew hperforms
    rw [h]
    exact .rename
  | append => exact absurd rfl (happend _ _)
  | read =>
    rw [hreads trivial]
    exact .read
  | @copy source target _ _ hold hnew hne =>
    have hrun := Action.runs_run disk.answer (Execution.copy box source target) tree
    have hcopied := message_of_runs_copy hold hnew hne (hmessage ▸ hrun) hdeed
    have h : twice.result = _ := hable.copy_again hold hnew hne hperforms
    rw [h, ← hcopied]
    exact .copy
  | list =>
    rw [hreads trivial]
    exact .list
  | info =>
    rw [hreads trivial]
    exact .info

/-- A file is copied beside itself. -/
theorem repeats_of_run_again_drawer :
    let operation := Operation.copy "d/a".toList "d/b".toList
    let once := (operation.execute ⟨.top⟩).run willing.answer drawer
    let twice := (operation.execute ⟨.top⟩).run willing.answer once.state
    let message := "copied d/a to d/b (1 bytes)".toList
    (∀ path content, operation ≠ .append path content) ∧ willing.Able
      ∧ once.result = .ok (.success message)
      ∧ twice.state = once.state ∧ Repeats message operation twice.result := by
  intro operation once twice message
  have happend : ∀ path content, operation ≠ .append path content := by simp [operation]
  have hresult : once.result = .ok (.success message) := by
    have hcopied : copied "d/a".toList "d/b".toList 1 = message := by decide +kernel
    have hold : Sandbox.resolve ⟨.top⟩ "d/a".toList = .ok ⟨["d".toList, "a".toList]⟩ := by decide
    have hnew : Sandbox.resolve ⟨.top⟩ "d/b".toList = .ok ⟨["d".toList, "b".toList]⟩ := by decide
    have hsource : drawer.node? ⟨["d".toList, "a".toList]⟩ = some (.file [0x61]) := by
      decide +kernel
    rw [← hcopied]
    exact able_willing.result_copy hold hnew (by decide) hsource
      ⟨by decide +kernel, by decide +kernel⟩
  obtain ⟨hstate, hrepeats⟩ := willing.repeats_of_run_again ⟨.top⟩ happend drawer
  exact ⟨happend, able_willing, hresult, hstate, hrepeats able_willing _ hresult⟩

end TreeDisk

end FileClerk
