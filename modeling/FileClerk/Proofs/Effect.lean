import Mathlib.Data.Set.Insert
import FileClerk.Proofs.Confinement
import FileClerk.Proofs.FileTree

/-!
# What operations do to a tree

An operation that succeeds changes the tree where it says it does, and away from there it makes at
most directories that were missing above its target (`Operation.Does`). One that fails leaves no
more than such directories behind, and one that is skipped leaves nothing (`effect_of_runs`). Each
operation is followed through its calls by the rule for each way of putting operations together; the
trees between the calls are told apart only by directories above the target.
-/

namespace FileClerk

namespace FileTree

/-- Away from the locations `touched` nothing changed, but for directories above a place that were
missing and have been made. -/
def UnchangedBut (touched : Set Location) (place : Location) (tree after : FileTree) : Prop :=
  ∀ p, p ∉ touched → after.node? p = tree.node? p
    ∨ tree.node? p = none ∧ after.node? p = some .directory ∧ place.above.isWithin p

variable {tree ready after : FileTree} {p place : Location} {touched : Set Location}

theorem UnchangedBut.refl (touched : Set Location) (place : Location) (tree : FileTree) :
    UnchangedBut touched place tree tree := fun _ _ => .inl rfl

theorem UnchangedBut.node?_eq (h : UnchangedBut touched place tree after) (hp : p ∉ touched)
    (hnode : tree.node? p ≠ none ∨ ¬ place.above.isWithin p) : after.node? p = tree.node? p := by
  refine (h p hp).resolve_right ?_
  rintro ⟨hnone, -, hwithin⟩
  exact hnode.elim (fun hsome => hsome hnone) fun hnot => hnot hwithin

/-- A place itself is not above itself. -/
theorem UnchangedBut.node?_place (h : UnchangedBut ∅ place tree after) :
    after.node? place = tree.node? place := by
  refine h.node?_eq (Set.notMem_empty _) ?_
  by_cases htop : place = .top
  · rw [htop, tree.top]
    simp
  · exact .inr fun hwithin => htop (Location.eq_top_of_above_isWithin hwithin)

theorem unchangedBut_withDirectories (hfree : tree.FileFree place.above) :
    UnchangedBut ∅ place tree (tree.withDirectories place.above) := by
  intro p _
  by_cases hwithin : place.above.isWithin p
  · have hmade := @node?_withDirectories_of_isWithin tree p place.above hwithin
    rcases hnode : tree.node? p with _ | content | _
    · exact .inr ⟨rfl, hmade, hwithin⟩
    · exact absurd hnode (hfree p content hwithin)
    · exact .inl hmade
  · exact .inl (node?_withDirectories_of_not hwithin)

theorem UnchangedBut.put (h : UnchangedBut ∅ place tree ready) {content : Bytes}
    (hroom : ready.HasRoom place) :
    UnchangedBut {place} place tree (ready.put place content hroom) := by
  intro p hp
  rw [node?_put_of_ne hroom hp]
  exact h p (Set.notMem_empty p)

theorem HasRoom.file_or_none (h : tree.HasRoom place) :
    tree.node? place = some (.file (tree.bytes place))
      ∨ tree.node? place = none ∧ tree.bytes place = [] := by
  unfold bytes
  rcases hnode : tree.node? place with _ | content | _
  · exact .inr ⟨rfl, rfl⟩
  · exact .inl rfl
  · exact absurd hnode h.free

end FileTree

namespace Operation

/-- The path of which the parent is made if it is missing. -/
def target? : Operation → Option Text
  | .create p | .append p _ | .rename _ p | .copy _ p => some p
  | .delete _ | .read _ | .list _ | .info _ => none

/-- What an operation that succeeds does to a tree. -/
def Does (box : Sandbox) (tree after : FileTree) : Operation → Prop
  | .create path => ∃ place, box.resolve path = .ok place
      ∧ tree.node? place = none ∧ after.node? place = some (.file [])
      ∧ FileTree.UnchangedBut {place} place tree after
  | .delete path => ∃ place content, box.resolve path = .ok place
      ∧ tree.node? place = some (.file content) ∧ after.node? place = none
      ∧ ∀ p, p ≠ place → after.node? p = tree.node? p
  | .rename source target => ∃ old new, box.resolve source = .ok old ∧ box.resolve target = .ok new
      ∧ tree.node? old ≠ none ∧ tree.node? new = none
      ∧ (∀ rest, after.node? ⟨new.segments ++ rest⟩ = tree.node? ⟨old.segments ++ rest⟩)
      ∧ (∀ p, p.isWithin old → after.node? p = none)
      ∧ FileTree.UnchangedBut {p | p.isWithin old ∨ p.isWithin new} new tree after
  | .append path content => ∃ place before, box.resolve path = .ok place
      ∧ (tree.node? place = some (.file before) ∨ tree.node? place = none ∧ before = [])
      ∧ after.node? place = some (.file (before ++ Utf8.encode content))
      ∧ FileTree.UnchangedBut {place} place tree after
  | .copy source target => ∃ old new content, box.resolve source = .ok old
      ∧ box.resolve target = .ok new ∧ tree.node? old = some (.file content)
      ∧ tree.node? new ≠ some .directory ∧ after.node? old = some (.file content)
      ∧ after.node? new = some (.file content) ∧ FileTree.UnchangedBut {new} new tree after
  | .read _ | .list _ | .info _ => after = tree

/-- What an operation that is not carried out may leave of a tree. -/
def MayLeave (box : Sandbox) (tree after : FileTree) (operation : Operation) : Prop :=
  after = tree ∨ ∃ raw place, operation.target? = some raw ∧ box.resolve raw = .ok place
    ∧ FileTree.UnchangedBut ∅ place tree after

end Operation

namespace FileTree

/-- A call fails because something exists only where something does. -/
def Honest : Faults := fun tree call error =>
  error.kind = .alreadyExists → ∃ path ∈ call.paths, tree.node? (.ofText path) ≠ none

/-- What comes of an operation on a tree. -/
def Outcomes (faults : Faults) (box : Sandbox) (operation : Operation) (tree : FileTree) :
    Except Crash Outcome → FileTree → Prop
  | .ok (.success _), after => operation.Does box tree after
  | .ok (.skipped _), after => operation.MayLeave box tree after
      ∧ ((∀ tree call error, faults tree call error → Honest tree call error) → after = tree)
  | .ok (.failed _), after => operation.MayLeave box tree after
  | .error _, after => after = tree

end FileTree

namespace Execution

open FileClerk.Action FileTree

variable {faults : Faults} {post : Except Crash Outcome → FileTree → Prop} {box : Sandbox}
  {raw : Text} {place : Location} {tree : FileTree}

theorem leads_resolving {next : Location → Action Outcome} (hbox : box.IsRooted)
    (h : ∀ place, box.resolve raw = .ok place → box.Holds place →
      (next place).Leads faults post tree)
    (hfailed : ∀ failure, post (.ok (.failed failure)) tree) :
    (resolving box raw next).Leads faults post tree := by
  unfold resolving
  split
  · rename_i place hplace
    exact h place hplace (Sandbox.of_resolve_eq_ok hbox hplace)
  · exact hfailed _

theorem leads_attempting {attempt : Attempt} {call : Call} {next : call.Reply → Action Outcome}
    (h : ∀ reply between, Performs tree call reply between →
      (next reply).Leads faults post between)
    (hfailed : ∀ failure, post (.ok (.failed failure)) tree) :
    (attempting attempt place call next).Leads faults post tree := by
  rintro answer between (hperforms | -)
  · exact h _ _ hperforms
  · exact hfailed _

theorem leads_ifPresent {next : Bool → Action Outcome} (hplace : box.Holds place)
    (hthere : tree.node? place ≠ none → (next true).Leads faults post tree)
    (hgone : tree.node? place = none → (next false).Leads faults post tree)
    (hfailed : ∀ failure, post (.ok (.failed failure)) tree) :
    (ifPresent place next).Leads faults post tree := by
  refine leads_attempting ?_ hfailed
  rintro _ _ ⟨-, rfl⟩
  rw [Location.ofText_text hplace.1]
  cases hnode : tree.node? place with
  | none => exact hgone hnode
  | some node => exact hthere (by simp [hnode])

/-- What follows is carried out on a tree that differs by directories above the place at most. -/
theorem leads_underParent {next : Action Outcome} (hplace : box.Holds place)
    (h : ∀ ready, UnchangedBut ∅ place tree ready → next.Leads faults post ready)
    (hfailed : ∀ failure, post (.ok (.failed failure)) tree) :
    (underParent box place next).Leads faults post tree := by
  unfold underParent
  split
  · exact h tree (.refl _ _ _)
  · rename_i parent hparent
    split_ifs
    · refine leads_attempting ?_ hfailed
      rintro _ _ (_ | hfree)
      obtain rfl := Location.above_of_parent? hparent
      rw [Location.ofText_text_above hplace.1] at hfree ⊢
      exact h _ (unchangedBut_withDirectories hfree)
    · exact h tree (.refl _ _ _)

theorem leads_skipped {operation : Operation} (message : Text) :
    (skipped message).Leads faults (Outcomes faults box operation tree) tree :=
  ⟨.inl rfl, fun _ => rfl⟩

section Operations

variable (hbox : box.IsRooted) (tree)
include hbox

theorem leads_create (raw : Text) :
    (create box raw).Leads faults (Outcomes faults box (.create raw) tree) tree := by
  refine leads_resolving hbox (fun place hresolve hplace => ?_) fun _ => .inl rfl
  have htext := Location.ofText_text hplace.1
  refine leads_ifPresent hplace (fun _ => leads_skipped _) (fun hgone => ?_) fun _ => .inl rfl
  refine leads_underParent hplace (fun ready hready => ?_) fun _ => .inl rfl
  have hleft : Operation.MayLeave box tree ready (.create raw) :=
    .inr ⟨raw, place, rfl, hresolve, hready⟩
  rintro _ after (hperforms | hfault)
  · obtain ⟨-, hroom, rfl⟩ := hperforms.of_createEmpty htext
    exact ⟨place, hresolve, hgone, node?_put_self hroom, hready.put hroom⟩
  · dsimp only
    split_ifs with hkind
    · refine ⟨hleft, fun hhonest => ?_⟩
      -- An honest disk does not say that something exists where nothing does.
      obtain ⟨path, hpath, hpresent⟩ := hhonest _ _ _ hfault hkind
      obtain rfl := List.mem_singleton.1 hpath
      rw [htext, hready.node?_place] at hpresent
      exact absurd hgone hpresent
    · exact hleft

theorem leads_delete (raw : Text) :
    (delete box raw).Leads faults (Outcomes faults box (.delete raw) tree) tree := by
  refine leads_resolving hbox (fun place hresolve hplace => ?_) fun _ => .inl rfl
  refine leads_ifPresent hplace (fun _ => ?_) (fun _ => leads_skipped _) fun _ => .inl rfl
  refine leads_attempting (fun _ after hperforms => ?_) fun _ => .inl rfl
  obtain ⟨content, hfile, rfl⟩ := hperforms.of_removeFile (Location.ofText_text hplace.1)
  exact ⟨place, content, hresolve, hfile, node?_remove_self hfile,
    fun p hne => node?_remove_of_ne hfile hne⟩

theorem leads_rename (source target : Text) :
    (rename box source target).Leads faults (Outcomes faults box (.rename source target) tree)
      tree := by
  refine leads_resolving hbox (fun old hsource hold => ?_) fun _ => .inl rfl
  refine leads_resolving hbox (fun new htarget hnew => ?_) fun _ => .inl rfl
  refine leads_ifPresent hold (fun hthere => ?_) (fun _ => leads_skipped _) fun _ => .inl rfl
  refine leads_ifPresent hnew (fun _ => leads_skipped _) (fun hfree => ?_) fun _ => .inl rfl
  refine leads_underParent hnew (fun ready hready => ?_) fun _ => .inl rfl
  refine leads_attempting (fun _ after hperforms => ?_)
    fun _ => .inr ⟨target, new, rfl, htarget, hready⟩
  obtain ⟨hmoves, rfl⟩ :=
    hperforms.of_rename (Location.ofText_text hold.1) (Location.ofText_text hnew.1)
  refine ⟨old, new, hsource, htarget, hthere, hfree, fun rest => ?_, fun p hp => ?_, fun p hp => ?_⟩
  · -- Directories above the target are no part of what is moved.
    rw [node?_move_append]
    refine hready.node?_eq (Set.notMem_empty _) (.inr fun hwithin => hmoves.apart ?_)
    exact Location.isWithin_trans new.isWithin_above
      (Location.isWithin_trans hwithin (Location.append_isWithin old rest))
  · refine node?_move_of_isWithin hmoves hp fun hpnew => ?_
    rcases Location.isWithin_or_isWithin hp hpnew with hwithin | hwithin
    · exact hthere (node?_eq_none_of_isWithin hfree hwithin)
    · exact hmoves.apart hwithin
  · simp only [Set.mem_ofPred_eq, not_or] at hp
    rw [node?_move_of_not_isWithin hmoves hp.1 hp.2]
    exact hready p (Set.notMem_empty p)

theorem leads_append (raw content : Text) :
    (append box raw content).Leads faults (Outcomes faults box (.append raw content) tree)
      tree := by
  refine leads_resolving hbox (fun place hresolve hplace => ?_) fun _ => .inl rfl
  refine leads_underParent hplace (fun ready hready => ?_) fun _ => .inl rfl
  refine leads_attempting (fun _ after hperforms => ?_)
    fun _ => .inr ⟨raw, place, rfl, hresolve, hready⟩
  obtain ⟨hroom, rfl⟩ := hperforms.of_append (Location.ofText_text hplace.1)
  refine ⟨place, ready.bytes place, hresolve, ?_, node?_put_self hroom, hready.put hroom⟩
  rw [← hready.node?_place]
  exact hroom.file_or_none

theorem leads_read (raw : Text) :
    (read box raw).Leads faults (Outcomes faults box (.read raw) tree) tree := by
  refine leads_resolving hbox (fun place hresolve hplace => ?_) fun _ => .inl rfl
  refine leads_ifPresent hplace (fun _ => ?_) (fun _ => leads_skipped _) fun _ => .inl rfl
  refine leads_attempting ?_ fun _ => .inl rfl
  rintro _ _ ⟨-⟩
  exact rfl

theorem leads_copy (source target : Text) :
    (copy box source target).Leads faults (Outcomes faults box (.copy source target) tree)
      tree := by
  refine leads_resolving hbox (fun old hsource hold => ?_) fun _ => .inl rfl
  refine leads_resolving hbox (fun new htarget hnew => ?_) fun _ => .inl rfl
  split_ifs with hsame
  · exact leads_skipped _
  refine leads_ifPresent hold (fun hthere => ?_) (fun _ => leads_skipped _) fun _ => .inl rfl
  refine leads_underParent hnew (fun ready hready => ?_) fun _ => .inl rfl
  refine leads_attempting (fun _ after hperforms => ?_)
    fun _ => .inr ⟨target, new, rfl, htarget, hready⟩
  obtain ⟨content, hfile, hroom, rfl⟩ :=
    hperforms.of_copy (Location.ofText_text hold.1) (Location.ofText_text hnew.1)
  rw [if_neg hsame]
  refine ⟨old, new, content, hsource, htarget, ?_, ?_, ?_, node?_put_self hroom, hready.put hroom⟩
  · rwa [← hready.node?_eq (Set.notMem_empty old) (.inl hthere)]
  · rw [← hready.node?_place]
    exact hroom.free
  · rwa [node?_put_of_ne hroom hsame]

theorem leads_list (raw : Text) :
    (list box raw).Leads faults (Outcomes faults box (.list raw) tree) tree := by
  refine leads_resolving hbox (fun place hresolve hplace => ?_) fun _ => .inl rfl
  rintro _ _ (hperforms | -)
  · obtain ⟨-⟩ := hperforms
    dsimp only
    split_ifs
    · refine leads_attempting ?_ fun _ => .inl rfl
      rintro _ _ ⟨-⟩
      exact rfl
    · exact .inl rfl
  · exact .inl rfl

theorem leads_info (raw : Text) :
    (info box raw).Leads faults (Outcomes faults box (.info raw) tree) tree := by
  refine leads_resolving hbox (fun place hresolve hplace => ?_) fun _ => .inl rfl
  refine leads_ifPresent hplace (fun _ => ?_) (fun _ => leads_skipped _) fun _ => .inl rfl
  refine leads_attempting ?_ fun _ => .inl rfl
  rintro status _ ⟨-⟩
  cases infoReport? raw status <;> exact rfl

theorem leads_execute (operation : Operation) :
    (operation.execute box).Leads faults (Outcomes faults box operation tree) tree := by
  cases operation with
  | create path => exact leads_create tree hbox path
  | delete path => exact leads_delete tree hbox path
  | rename source target => exact leads_rename tree hbox source target
  | append path content => exact leads_append tree hbox path content
  | read path => exact leads_read tree hbox path
  | copy source target => exact leads_copy tree hbox source target
  | list path => exact leads_list tree hbox path
  | info path => exact leads_info tree hbox path

end Operations

end Execution

namespace FileTree

open FileClerk.Action

/-- On a plain tree of files, an operation that succeeds does what it says and nothing else but to
make directories above its target. Skipped, it changes nothing; failed, it leaves nothing behind but
such directories. -/
theorem effect_of_runs (workingDirectory root : Text) (operation : Operation)
    (habs : Path.isAbsolute root ∨ Path.isAbsolute workingDirectory) {tree after : FileTree}
    {events : List Event} {result : Except Crash Outcome}
    (run : Runs (operation.execute (.ofRoot workingDirectory root)) events result)
    (served : Serves Honest tree events after) :
    let box := Sandbox.ofRoot workingDirectory root
    (∀ message, result = .ok (.success message) → operation.Does box tree after)
      ∧ (∀ message, result = .ok (.skipped message) → after = tree)
      ∧ (∀ failure, result = .ok (.failed failure) → operation.MayLeave box tree after)
      ∧ ∀ why, result = .error why → after = tree := by
  intro box
  have h := run.leads (Execution.leads_execute tree (Sandbox.isRooted_ofRoot habs) operation) served
  refine ⟨?_, ?_, ?_, ?_⟩ <;> rintro x rfl
  · exact h
  · exact h.2 fun _ _ _ hfault => hfault
  · exact h
  · exact h

/-- A directory with a file in it. -/
def drawer : FileTree :=
  (empty.withDirectories ⟨["d".toList]⟩).put ⟨["d".toList, "a".toList]⟩ [0x61]
    ⟨by decide +kernel, by decide +kernel⟩

/-- The directory moves to where the directory above is missing. -/
theorem exists_moved_drawer :
    ∃ after events message, Runs ((Operation.rename "d".toList "e/f".toList).execute
        (.ofRoot [] "/".toList)) events (.ok (.success message))
      ∧ Serves Honest drawer events after
      ∧ after.node? ⟨["e".toList, "f".toList, "a".toList]⟩ = some (.file [0x61]) := by
  have hmoves : (drawer.withDirectories (.ofText "/e".toList)).Moves (.ofText "/d".toList)
      (.ofText "/e/f".toList) :=
    ⟨by decide +kernel, by decide +kernel, by decide +kernel, .inl (by decide +kernel)⟩
  have he : (drawer.node? (.ofText "/e".toList)) = none := by decide +kernel
  have hfree : drawer.FileFree (.ofText "/e".toList) :=
    .of_above drawer.fileFree_top (by rw [he]; simp)
  let events : List Event :=
    [.called (.isPresent "/d".toList) (.ok true), .called (.isPresent "/e/f".toList) (.ok false),
      .called (.createDirectories "/e".toList) (.ok ()),
      .called (.rename "/d".toList "/e/f".toList) (.ok ())]
  refine ⟨.move _ _ _ hmoves, events, "renamed d to e/f".toList, ?_, ?_, ?_⟩
  · refine @Runs.ask _ (.isPresent "/d".toList) _ (.ok true) _ _ ?_
    refine @Runs.ask _ (.isPresent "/e/f".toList) _ (.ok false) _ _ ?_
    refine @Runs.ask _ (.createDirectories "/e".toList) _ (.ok ()) _ _ ?_
    refine @Runs.ask _ (.rename "/d".toList "/e/f".toList) _ (.ok ()) _ _ ?_
    exact .done _
  · refine .called (.ok (.isPresent drawer.fileFree_top (by decide +kernel))) ?_
    refine .called (.ok (.isPresent hfree (by decide +kernel))) ?_
    exact .called (.ok (.createDirectories hfree)) (.called (.ok (.rename hmoves)) .nil)
  · exact (node?_move_append hmoves ["a".toList]).trans (by decide +kernel)

theorem effect_of_runs_drawer :
    let box := Sandbox.ofRoot [] "/".toList
    let operation := Operation.rename "d".toList "e/f".toList
    (Path.isAbsolute "/".toList ∨ Path.isAbsolute []) ∧ ∃ after events message,
      Runs (operation.execute box) events (.ok (.success message))
        ∧ Serves Honest drawer events after ∧ operation.Does box drawer after
        ∧ after.node? ⟨["e".toList, "f".toList, "a".toList]⟩ = some (.file [0x61]) := by
  intro box operation
  have habs : Path.isAbsolute "/".toList ∨ Path.isAbsolute [] := by decide
  obtain ⟨after, events, message, run, served, hfile⟩ := exists_moved_drawer
  refine ⟨habs, after, events, message, run, served, ?_, hfile⟩
  exact (effect_of_runs [] "/".toList operation habs run served).1 message rfl

end FileTree

end FileClerk
