import Mathlib.Tactic.SplitIfs
import FileClerk.Action
import FileClerk.Disk.Tree
import FileClerk.Proofs.Walk

/-!
# A plain tree of files

Without links a disk is a tree: whatever lies anywhere has a directory above it, up to the top. So
nothing lies below what is absent (`node?_eq_none_of_isWithin`). `Performs` says what each call does
to a tree when it succeeds and when it can. `Serves` runs through the calls of an action: each that
succeeds is performed, and one that fails leaves the tree alone.
-/

namespace FileClerk

namespace Location

variable {p q place old new : Location}

theorem isWithin_iff : p.isWithin q ↔ q.segments <+: p.segments := List.isPrefixOf_iff_prefix

theorem isWithin_top (p : Location) : p.isWithin .top := isWithin_iff.2 List.nil_prefix

theorem eq_top_of_isWithin (h : top.isWithin p) : p = .top :=
  congrArg Location.mk (List.prefix_nil.1 (isWithin_iff.1 h))

theorem isWithin_refl (p : Location) : p.isWithin p := isWithin_iff.2 List.prefix_rfl

theorem isWithin_trans {r : Location} (h : p.isWithin q) (h' : q.isWithin r) : p.isWithin r :=
  isWithin_iff.2 ((isWithin_iff.1 h').trans (isWithin_iff.1 h))

theorem isWithin_above (p : Location) : p.isWithin p.above :=
  isWithin_iff.2 (List.dropLast_prefix _)

/-- What lies below a location has its directory at or below it. -/
theorem above_isWithin (h : p.isWithin q) (hne : p ≠ q) : p.above.isWithin q := by
  obtain ⟨rest, hrest⟩ := isWithin_iff.1 h
  rcases List.eq_nil_or_concat rest with rfl | ⟨rest, name, rfl⟩
  · rw [List.append_nil] at hrest
    exact absurd (congrArg Location.mk hrest).symm hne
  · refine isWithin_iff.2 ⟨rest, ?_⟩
    rw [above, ← hrest, List.concat_eq_append, ← List.append_assoc, List.dropLast_concat]

theorem eq_top_of_above_isWithin (h : p.above.isWithin p) : p = .top := by
  have hle := (isWithin_iff.1 h).length_le
  rw [above, List.length_dropLast] at hle
  exact congrArg Location.mk (List.length_eq_zero_iff.1 (by omega))

theorem isWithin_or_isWithin (hp : place.isWithin p) (hq : place.isWithin q) :
    p.isWithin q ∨ q.isWithin p := by
  simp only [isWithin_iff] at *
  exact (List.prefix_or_prefix_of_prefix hp hq).symm

theorem exists_of_isWithin (h : p.isWithin q) : ∃ rest, p = ⟨q.segments ++ rest⟩ := by
  obtain ⟨rest, hrest⟩ := isWithin_iff.1 h
  exact ⟨rest, congrArg Location.mk hrest.symm⟩

theorem append_isWithin (q : Location) (rest : List Text) :
    (⟨q.segments ++ rest⟩ : Location).isWithin q := isWithin_iff.2 (List.prefix_append _ _)

theorem moved_append (old new : Location) (rest : List Text) :
    moved old new ⟨old.segments ++ rest⟩ = ⟨new.segments ++ rest⟩ := by
  rw [moved, if_pos (append_isWithin old rest), List.drop_left]

theorem moved_of_not_isWithin (h : ¬ p.isWithin old) : moved old new p = p := if_neg h

theorem above_append_concat (q : Location) (rest : List Text) (name : Text) :
    (⟨q.segments ++ (rest ++ [name])⟩ : Location).above = ⟨q.segments ++ rest⟩ := by
  rw [above, ← List.append_assoc, List.dropLast_concat]

theorem moved_above (h : p.isWithin old) (hne : p ≠ old) :
    moved old new p.above = (moved old new p).above := by
  obtain ⟨rest, rfl⟩ := exists_of_isWithin h
  rcases List.eq_nil_or_concat rest with rfl | ⟨rest, name, rfl⟩
  · exact absurd (by rw [List.append_nil]) hne
  · rw [List.concat_eq_append, above_append_concat, moved_append, moved_append,
      above_append_concat]

theorem ofText_text (h : ∀ n ∈ place.segments, Path.IsName n) : ofText place.text = place := by
  rw [ofText, Path.segments_eq_walk place.isAbsolute_text, walk_text h]

theorem ofText_text_above (h : ∀ n ∈ place.segments, Path.IsName n) :
    ofText place.above.text = place.above :=
  ofText_text fun n hn => h n (List.mem_of_mem_dropLast hn)

theorem above_of_parent? {parent : Location} (h : place.parent? = some parent) :
    place.above = parent := by
  unfold parent? at h
  split_ifs at h
  exact Option.some.inj h

end Location

/-- What lies at a location of a plain tree. -/
inductive Node where
  | file (content : Bytes)
  | directory
  deriving DecidableEq

def Node.kind : Node → EntryKind
  | file _ => .file
  | directory => .directory

structure FileTree where
  node? : Location → Option Node
  top : node? .top = some .directory
  directory_above : ∀ place, node? place ≠ none → node? place.above = some .directory

namespace FileTree

variable {tree after : FileTree} {p q place old new : Location}

theorem node?_eq_directory (h : tree.node? p ≠ none) (hp : p.isWithin q) (hne : p ≠ q) :
    tree.node? q = some .directory := by
  obtain ⟨rest, rfl⟩ := Location.exists_of_isWithin hp
  clear hp
  induction rest using List.reverseRecOn with
  | nil => exact absurd (by rw [List.append_nil]) hne
  | append_singleton rest name ih =>
    have habove := tree.directory_above _ h
    rw [Location.above_append_concat] at habove
    by_cases hrest : (⟨q.segments ++ rest⟩ : Location) = q
    · rwa [hrest] at habove
    · exact ih (by simp [habove]) hrest

theorem node?_eq_none_of_isWithin (h : tree.node? q = none) (hp : p.isWithin q) :
    tree.node? p = none := by
  by_contra hsome
  by_cases heq : p = q
  · exact hsome (heq ▸ h)
  · simp [node?_eq_directory hsome hp heq] at h

/-- What the file at a location holds; where there is none, nothing. -/
def bytes (tree : FileTree) (place : Location) : Bytes :=
  match tree.node? place with
  | some (.file content) => content
  | _ => []

/-- No file lies at a location or above it. -/
def FileFree (tree : FileTree) (place : Location) : Prop :=
  ∀ q content, place.isWithin q → tree.node? q ≠ some (.file content)

/-- A file may be put at a location, in place of the one there. -/
structure HasRoom (tree : FileTree) (place : Location) : Prop where
  free : tree.node? place ≠ some .directory
  above : tree.node? place.above = some .directory

/-- What lies at one location may be moved to another. It may take the place of its like, a
directory only that of an empty one. -/
structure Moves (tree : FileTree) (old new : Location) : Prop where
  present : tree.node? old ≠ none
  apart : ¬ new.isWithin old
  above : tree.node? new.above = some .directory
  free : tree.node? new = none
    ∨ (∃ content, tree.node? old = some (.file content))
      ∧ (∃ content, tree.node? new = some (.file content))
    ∨ tree.node? old = some .directory ∧ tree.node? new = some .directory
      ∧ ∀ p, p.isWithin new → p ≠ new → tree.node? p = none

theorem fileFree_top (tree : FileTree) : tree.FileFree .top := by
  intro q content hq
  rw [Location.eq_top_of_isWithin hq, tree.top]
  simp

theorem FileFree.of_above (h : tree.FileFree place.above)
    (hfile : ∀ content, tree.node? place ≠ some (.file content)) : tree.FileFree place := by
  intro q content hq
  by_cases heq : place = q
  · exact heq ▸ hfile content
  · exact h q content (Location.above_isWithin hq heq)

/-- Above a directory lie directories only. -/
theorem fileFree_of_directory (h : tree.node? p = some .directory) : tree.FileFree p := by
  intro q content hq
  by_cases heq : p = q
  · simp [← heq, h]
  · have hthere : tree.node? p ≠ none := by simp [h]
    simp [node?_eq_directory hthere hq heq]

theorem fileFree_above (h : tree.node? p ≠ none) : tree.FileFree p.above :=
  fileFree_of_directory (tree.directory_above p h)

theorem HasRoom.ne_top (h : tree.HasRoom place) : place ≠ .top := by
  rintro rfl
  exact h.free tree.top

theorem Moves.ne_top (h : tree.Moves old new) : new ≠ .top := by
  rintro rfl
  have hne : old ≠ .top := by
    rintro rfl
    exact h.apart (Location.isWithin_refl _)
  have htop := tree.top
  rcases h.free with hnone | ⟨-, content, hfile⟩ | ⟨-, -, hempty⟩
  · simp [htop] at hnone
  · simp [htop] at hfile
  · exact h.present (hempty old old.isWithin_top hne)

/-- The tree with nothing in it. -/
def empty : FileTree where
  node? p := if p = .top then some .directory else none
  top := if_pos rfl
  directory_above p hp := by
    have htop : p = .top := by
      by_contra hne
      exact hp (if_neg hne)
    rw [htop]
    exact if_pos rfl

/-- Makes the directories that are missing at a location and above it. -/
def withDirectories (tree : FileTree) (place : Location) : FileTree where
  node? p := if place.isWithin p then some .directory else tree.node? p
  top := if_pos place.isWithin_top
  directory_above p hp := by
    split_ifs with habove
    · rfl
    · have hp' : ¬ place.isWithin p := fun h => habove (Location.isWithin_trans h p.isWithin_above)
      rw [if_neg hp'] at hp
      exact tree.directory_above p hp

/-- Puts a file at a location. -/
def put (tree : FileTree) (place : Location) (content : Bytes) (h : tree.HasRoom place) :
    FileTree where
  node? p := if p = place then some (.file content) else tree.node? p
  top := by rw [if_neg (Ne.symm h.ne_top), tree.top]
  directory_above p hp := by
    have habove : tree.node? p.above = some .directory := by
      split_ifs at hp with heq
      · exact heq ▸ h.above
      · exact tree.directory_above p hp
    rw [if_neg fun heq : p.above = place => h.free (heq ▸ habove), habove]

def remove (tree : FileTree) (place : Location) {content : Bytes}
    (h : tree.node? place = some (.file content)) : FileTree where
  node? p := if p = place then none else tree.node? p
  top := by
    rw [if_neg ?_, tree.top]
    rintro rfl
    simp [tree.top] at h
  directory_above p hp := by
    have habove : tree.node? p.above = some .directory := by
      split_ifs at hp
      · exact absurd rfl hp
      · exact tree.directory_above p hp
    rw [if_neg ?_, habove]
    rintro rfl
    simp [habove] at h

/-- Moves a location and all below it. -/
def move (tree : FileTree) (old new : Location) (h : tree.Moves old new) : FileTree where
  node? p :=
    if p.isWithin new then tree.node? (.moved new old p)
    else if p.isWithin old then none else tree.node? p
  top := by
    have hnew : ¬ Location.top.isWithin new := fun h' => h.ne_top (Location.eq_top_of_isWithin h')
    have hold : ¬ Location.top.isWithin old := fun h' =>
      h.apart (Location.eq_top_of_isWithin h' ▸ new.isWithin_top)
    rw [if_neg hnew, if_neg hold, tree.top]
  directory_above p hp := by
    by_cases hpnew : p.isWithin new
    · rw [if_pos hpnew] at hp
      by_cases heq : p = new
      · -- The directory above the target is no part of what is moved.
        subst heq
        have hnew : ¬ p.above.isWithin p := fun h' =>
          h.ne_top (Location.eq_top_of_above_isWithin h')
        have hold : ¬ p.above.isWithin old := fun h' =>
          h.apart (Location.isWithin_trans p.isWithin_above h')
        rw [if_neg hnew, if_neg hold, h.above]
      · rw [if_pos (Location.above_isWithin hpnew heq), Location.moved_above hpnew heq]
        exact tree.directory_above _ hp
    · have hnew : ¬ p.above.isWithin new := fun h' =>
        hpnew (Location.isWithin_trans p.isWithin_above h')
      rw [if_neg hpnew] at hp
      split_ifs at hp with hpold
      · exact absurd rfl hp
      · have hold : ¬ p.above.isWithin old := fun h' =>
          hpold (Location.isWithin_trans p.isWithin_above h')
        rw [if_neg hnew, if_neg hold, tree.directory_above p hp]

theorem node?_withDirectories_of_isWithin (h : place.isWithin p) :
    (tree.withDirectories place).node? p = some .directory := if_pos h

theorem node?_withDirectories_of_not (h : ¬ place.isWithin p) :
    (tree.withDirectories place).node? p = tree.node? p := if_neg h

theorem node?_put_self {content : Bytes} (h : tree.HasRoom place) :
    (tree.put place content h).node? place = some (.file content) := if_pos rfl

theorem node?_put_of_ne {content : Bytes} (h : tree.HasRoom place) (hne : p ≠ place) :
    (tree.put place content h).node? p = tree.node? p := if_neg hne

theorem node?_remove_self {content : Bytes} (h : tree.node? place = some (.file content)) :
    (tree.remove place h).node? place = none := if_pos rfl

theorem node?_remove_of_ne {content : Bytes} (h : tree.node? place = some (.file content))
    (hne : p ≠ place) : (tree.remove place h).node? p = tree.node? p := if_neg hne

/-- At and below the target lies what lay at and below the source. -/
theorem node?_move_append (h : tree.Moves old new) (rest : List Text) :
    (tree.move old new h).node? ⟨new.segments ++ rest⟩ = tree.node? ⟨old.segments ++ rest⟩ := by
  change (if _ then _ else _) = _
  rw [if_pos (Location.append_isWithin new rest), Location.moved_append]

/-- Nothing is left at or below the source, unless the target lies above it. -/
theorem node?_move_of_isWithin (h : tree.Moves old new) (hp : p.isWithin old)
    (hnew : ¬ p.isWithin new) : (tree.move old new h).node? p = none := by
  change (if _ then _ else _) = _
  rw [if_neg hnew, if_pos hp]

theorem node?_move_of_not_isWithin (h : tree.Moves old new) (hold : ¬ p.isWithin old)
    (hnew : ¬ p.isWithin new) : (tree.move old new h).node? p = tree.node? p := by
  change (if _ then _ else _) = _
  rw [if_neg hnew, if_neg hold]

/-- What a call that succeeds is answered with, and the tree it leaves. -/
inductive Performs (tree : FileTree) : (call : Call) → call.Reply → FileTree → Prop where
  | isPresent {path there} : tree.FileFree (Location.ofText path).above →
      (tree.node? (.ofText path)).isSome = there → Performs tree (.isPresent path) there tree
  | createDirectories {path} : tree.FileFree (.ofText path) →
      Performs tree (.createDirectories path) () (tree.withDirectories (.ofText path))
  | createEmpty {path} (h : tree.HasRoom (.ofText path)) : tree.node? (.ofText path) = none →
      Performs tree (.createEmpty path) () (tree.put _ [] h)
  | removeFile {path content} (h : tree.node? (.ofText path) = some (.file content)) :
      Performs tree (.removeFile path) () (tree.remove _ h)
  | rename {source target} (h : tree.Moves (.ofText source) (.ofText target)) :
      Performs tree (.rename source target) () (tree.move _ _ h)
  | append {path content} (h : tree.HasRoom (.ofText path)) :
      Performs tree (.append path content) () (tree.put _ (tree.bytes (.ofText path) ++ content) h)
  | read {path content} : tree.node? (.ofText path) = some (.file content) →
      Performs tree (.read path) content tree
  /-- The target is emptied before anything is read. -/
  | copy {source target content copied} (h : tree.HasRoom (.ofText target)) :
      tree.node? (.ofText source) = some (.file content) →
      (copied = if Location.ofText source = .ofText target then [] else content) →
      Performs tree (.copy source target) copied.length (tree.put _ copied h)
  | list {path entries} : tree.node? (.ofText path) = some .directory →
      (∀ entry, entry ∈ entries ↔ ∃ node,
        tree.node? ((Location.ofText path).child entry.name) = some node ∧ node.kind = entry.kind) →
      Performs tree (.list path) entries tree
  | status {path status node} : tree.node? (.ofText path) = some node → status.kind = node.kind →
      (∀ content, node = .file content → status.size = content.length) →
      Performs tree (.status path) status tree
  | write {path content} (h : tree.HasRoom (.ofText path)) :
      Performs tree (.write path content) () (tree.put _ content h)

section Inversion

variable {path source target : Text} {content : Bytes}

theorem Performs.of_createEmpty {reply} (h : Performs tree (.createEmpty path) reply after)
    (hplace : .ofText path = place) :
    tree.node? place = none ∧ ∃ hroom : tree.HasRoom place, after = tree.put place [] hroom := by
  subst hplace
  cases h with
  | createEmpty hroom hnone => exact ⟨hnone, hroom, rfl⟩

theorem Performs.of_removeFile {reply} (h : Performs tree (.removeFile path) reply after)
    (hplace : .ofText path = place) :
    ∃ content, ∃ hfile : tree.node? place = some (.file content),
      after = tree.remove place hfile := by
  subst hplace
  cases h with
  | removeFile hfile => exact ⟨_, hfile, rfl⟩

theorem Performs.of_rename {reply} (h : Performs tree (.rename source target) reply after)
    (hold : .ofText source = old) (hnew : .ofText target = new) :
    ∃ hmoves : tree.Moves old new, after = tree.move old new hmoves := by
  subst hold hnew
  cases h with
  | rename hmoves => exact ⟨hmoves, rfl⟩

theorem Performs.of_append {reply} (h : Performs tree (.append path content) reply after)
    (hplace : .ofText path = place) :
    ∃ hroom : tree.HasRoom place, after = tree.put place (tree.bytes place ++ content) hroom := by
  subst hplace
  cases h with
  | append hroom => exact ⟨hroom, rfl⟩

theorem Performs.of_copy {reply} (h : Performs tree (.copy source target) reply after)
    (hold : .ofText source = old) (hnew : .ofText target = new) :
    ∃ content, tree.node? old = some (.file content)
      ∧ ∃ hroom : tree.HasRoom new,
        after = tree.put new (if old = new then [] else content) hroom := by
  subst hold hnew
  cases h with
  | copy hroom hfile hcopied => exact ⟨_, hfile, hroom, by rw [hcopied]⟩

end Inversion

/-- Which failures a call may have on a tree. -/
abbrev Faults : Type := FileTree → Call → IoError → Prop

/-- A call succeeds and is performed, or it fails and leaves the tree alone. -/
inductive Answers (faults : Faults) (tree : FileTree) :
    (call : Call) → call.Answer → FileTree → Prop where
  | ok {call reply after} : Performs tree call reply after →
      Answers faults tree call (.ok reply) after
  | error {call error} : faults tree call error → Answers faults tree call (.error error) tree

/-- The calls among some steps are answered one after the other. -/
inductive Serves (faults : Faults) : FileTree → List Event → FileTree → Prop where
  | nil {tree : FileTree} : Serves faults tree [] tree
  | called {tree between after : FileTree} {call answer events} :
      Answers faults tree call answer between → Serves faults between events after →
      Serves faults tree (.called call answer :: events) after
  | noted {tree after : FileTree} {n events} : Serves faults tree events after →
      Serves faults tree (.noted n :: events) after

theorem Serves.mono {faults weaker : Faults}
    (h : ∀ tree call error, faults tree call error → weaker tree call error)
    {events : List Event} (served : Serves faults tree events after) :
    Serves weaker tree events after := by
  induction served with
  | nil => exact .nil
  | called answers _ ih =>
    cases answers with
    | ok hperforms => exact .called (.ok hperforms) ih
    | error hfault => exact .called (.error (h _ _ _ hfault)) ih
  | noted _ ih => exact .noted ih

end FileTree

namespace Action

open FileTree

variable {α : Type} {faults : Faults} {post : Except Crash α → FileTree → Prop}

/-- The action ends as a postcondition says, with whatever tree it is carried out on. -/
def Leads (faults : Faults) (post : Except Crash α → FileTree → Prop) : Action α → FileTree → Prop
  | done a, tree => post (.ok a) tree
  | crash why, tree => post (.error why) tree
  | ask call next, tree =>
    ∀ answer between, Answers faults tree call answer between →
      (next answer).Leads faults post between
  | note _ next, tree => next.Leads faults post tree

theorem Runs.leads {action : Action α} {events : List Event} {result : Except Crash α}
    (run : Runs action events result) :
    ∀ {tree after : FileTree}, action.Leads faults post tree → Serves faults tree events after →
      post result after := by
  induction run with
  | done a =>
    rintro tree _ h ⟨⟩
    exact h
  | crash why =>
    rintro tree _ h ⟨⟩
    exact h
  | ask answer _ ih =>
    rintro tree after h (_ | ⟨hanswer, hrest⟩)
    exact ih (h _ _ hanswer) hrest
  | note _ ih =>
    rintro tree after h (_ | _ | hrest)
    exact ih h hrest

end Action

end FileClerk
