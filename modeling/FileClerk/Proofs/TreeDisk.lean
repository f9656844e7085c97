import FileClerk.Proofs.Guarding

/-!
# A disk that is a plain tree

Nothing but the tree settles what such a disk answers, so the same call on the same tree has the
same answer. Each call but appending leaves what it left when it is made again
(`FileTree.Performs.eq_of_again`, `TreeDisk.state_again`). A disk may refuse whatever it wants;
`TreeDisk.Able` says which calls must not be refused without a reason in the tree, and there is a
disk that refuses nothing else (`able_willing`).
-/

namespace FileClerk

namespace FileTree

variable {tree after last : FileTree} {place p : Location} {call : Call}

theorem eq_of_node? (h : ∀ p, after.node? p = tree.node? p) : after = tree := by
  obtain ⟨node?, _, _⟩ := tree
  obtain ⟨node?', _, _⟩ := after
  obtain rfl : node?' = node? := funext h
  rfl

theorem withDirectories_eq_self (h : tree.node? p = some .directory) :
    tree.withDirectories p = tree := by
  refine eq_of_node? fun q => ?_
  by_cases hq : p.isWithin q
  · rw [node?_withDirectories_of_isWithin hq]
    by_cases heq : p = q
    · rw [← heq, h]
    · exact (node?_eq_directory (by simp [h]) hq heq).symm
  · exact node?_withDirectories_of_not hq

theorem put_eq_self {content : Bytes} (hroom : tree.HasRoom place)
    (h : tree.node? place = some (.file content)) : tree.put place content hroom = tree := by
  refine eq_of_node? fun q => ?_
  by_cases hq : q = place
  · rw [hq, node?_put_self, h]
  · exact node?_put_of_ne hroom hq

/-- What is moved does not lie below the place it is moved to. -/
theorem Moves.not_isWithin {old new : Location} (h : tree.Moves old new) : ¬ old.isWithin new := by
  intro hwithin
  have hne : old ≠ new := by
    rintro rfl
    exact h.apart (Location.isWithin_refl _)
  have hdirectory := node?_eq_directory h.present hwithin hne
  rcases h.free with hnone | ⟨-, content, hfile⟩ | ⟨-, -, hempty⟩
  · simp [hnone] at hdirectory
  · simp [hfile] at hdirectory
  · exact h.present (hempty old hwithin hne)

theorem node?_move_old {old new : Location} (h : tree.Moves old new) :
    (tree.move old new h).node? old = none :=
  node?_move_of_isWithin h (Location.isWithin_refl _) h.not_isWithin

theorem node?_move_above_old {old new : Location} (h : tree.Moves old new) :
    (tree.move old new h).node? old.above = some .directory := by
  have hold : ¬ old.above.isWithin old := fun hwithin =>
    h.apart (Location.eq_top_of_above_isWithin hwithin ▸ new.isWithin_top)
  have hnew : ¬ old.above.isWithin new := fun hwithin =>
    h.not_isWithin (Location.isWithin_trans old.isWithin_above hwithin)
  rw [node?_move_of_not_isWithin h hold hnew]
  exact tree.directory_above _ h.present

theorem node?_move_new {old new : Location} (h : tree.Moves old new) :
    (tree.move old new h).node? new = tree.node? old := by
  simpa using node?_move_append h []

/-- A call but appending, made again after it was performed, changes nothing more. -/
theorem Performs.eq_of_again (happend : ∀ path content, call ≠ .append path content)
    {reply reply' : call.Reply} (h : Performs tree call reply after)
    (h' : Performs after call reply' last) : last = after := by
  cases h with
  | isPresent | read | list | status =>
    cases h'
    rfl
  | createDirectories =>
    cases h'
    exact withDirectories_eq_self (node?_withDirectories_of_isWithin (Location.isWithin_refl _))
  | createEmpty hroom =>
    obtain ⟨hnone, -⟩ := h'.of_createEmpty rfl
    simp [node?_put_self] at hnone
  | removeFile hfile =>
    obtain ⟨content, hfile', -⟩ := h'.of_removeFile rfl
    simp [node?_remove_self] at hfile'
  | rename hmoves =>
    obtain ⟨hmoves', -⟩ := h'.of_rename rfl rfl
    exact absurd (node?_move_old hmoves) hmoves'.present
  | append => exact absurd rfl (happend _ _)
  | @copy source target content copied hroom hfile hcopied =>
    obtain ⟨content', hfile', hroom', rfl⟩ := h'.of_copy rfl rfl
    refine put_eq_self hroom' ?_
    rw [node?_put_self, hcopied]
    split_ifs with hsame
    · rfl
    · rw [node?_put_of_ne hroom hsame, hfile] at hfile'
      exact hfile'
  | write hroom =>
    cases h' with
    | write hroom' => exact put_eq_self hroom' (node?_put_self hroom)

end FileTree

open FileTree

/-- A disk that is a plain tree: the tree alone settles what is answered, and a call that has an
error leaves the tree alone. -/
structure TreeDisk where
  answer : Answering FileTree
  answers : ∀ call tree,
    Answers (fun _ _ _ => True) tree call (answer call tree).1 (answer call tree).2

namespace TreeDisk

variable (disk : TreeDisk) {tree after : FileTree} {call : Call}

theorem answer_cases (call : Call) (tree : FileTree) :
    (∃ reply after, disk.answer call tree = (.ok reply, after) ∧ Performs tree call reply after)
      ∨ ∃ error, disk.answer call tree = (.error error, tree) := by
  have h := disk.answers call tree
  rcases hpair : disk.answer call tree with ⟨answer, after⟩
  rw [hpair] at h
  cases h with
  | ok hperforms => exact .inl ⟨_, _, rfl, hperforms⟩
  | error => exact .inr ⟨_, rfl⟩

theorem state_of_reads (h : ¬ call.Changes) : (disk.answer call tree).2 = tree := by
  obtain ⟨reply, after, hanswer, hperforms⟩ | ⟨error, hanswer⟩ := disk.answer_cases call tree
  · rw [hanswer]
    cases hperforms with
    | isPresent | read | list | status => rfl
    | createDirectories | createEmpty | removeFile | rename | append | copy | write =>
      exact absurd trivial h
  · rw [hanswer]

theorem createDirectories_cases (path : Text) (tree : FileTree) :
    (∃ ready, disk.answer (.createDirectories path) tree = (.ok (), ready)
        ∧ ready = tree.withDirectories (.ofText path))
      ∨ ∃ error, disk.answer (.createDirectories path) tree = (.error error, tree) := by
  obtain ⟨reply, ready, hanswer, hperforms⟩ | herror :=
    disk.answer_cases (.createDirectories path) tree
  · cases hperforms
    exact .inl ⟨_, hanswer, rfl⟩
  · exact .inr herror

theorem state_createDirectories {path : Text}
    (h : tree.node? (.ofText path) = some .directory) :
    (disk.answer (.createDirectories path) tree).2 = tree := by
  obtain ⟨ready, hanswer, rfl⟩ | ⟨error, hanswer⟩ := disk.createDirectories_cases path tree
  · rw [hanswer]
    exact withDirectories_eq_self h
  · rw [hanswer]

/-- A call but appending leaves what it left when it is made again. -/
theorem state_again (happend : ∀ path content, call ≠ .append path content) :
    (disk.answer call (disk.answer call tree).2).2 = (disk.answer call tree).2 := by
  obtain ⟨reply, after, hanswer, hperforms⟩ | ⟨error, hanswer⟩ := disk.answer_cases call tree
  · rw [hanswer]
    obtain ⟨reply', last, hagain, hperforms'⟩ | ⟨error, hagain⟩ := disk.answer_cases call after
    · rw [hagain]
      exact hperforms.eq_of_again happend hperforms'
    · rw [hagain]
  · rw [hanswer]
    dsimp only
    rw [hanswer]

/-- The disk answers the calls among some steps one after the other. -/
def Gives : FileTree → List Event → FileTree → Prop
  | tree, [], after => after = tree
  | tree, .called call answer :: events, after =>
    (disk.answer call tree).1 = answer ∧ Gives (disk.answer call tree).2 events after
  | tree, .noted _ :: events, after => Gives tree events after

theorem gives_run {α : Type} : ∀ (action : Action α) (tree : FileTree),
    disk.Gives tree (action.run disk.answer tree).events (action.run disk.answer tree).state
  | .done _, _ => rfl
  | .crash _, _ => rfl
  | .ask call next, tree => ⟨rfl, gives_run (next (disk.answer call tree).1) _⟩
  | .note _ next, tree => gives_run next tree

theorem gives_append {before rest : List Event} :
    ∀ {tree : FileTree}, disk.Gives tree (before ++ rest) after →
      ∃ between, disk.Gives between rest after := by
  induction before with
  | nil => exact fun h => ⟨_, h⟩
  | cons e before ih =>
    intro tree h
    cases e with
    | called call answer => exact ih h.2
    | noted n => exact ih h

/-- Looking, making directories and copying succeed where the tree allows it. -/
structure Able : Prop where
  looks : ∀ {tree : FileTree} {path : Text}, tree.FileFree (Location.ofText path).above →
    ∃ there, (disk.answer (.isPresent path) tree).1 = .ok there
  makes : ∀ {tree : FileTree} {path : Text}, tree.FileFree (.ofText path) →
    (disk.answer (.createDirectories path) tree).1 = .ok ()
  copies : ∀ {tree : FileTree} {source target : Text} {content : Bytes},
    tree.node? (.ofText source) = some (.file content) → tree.HasRoom (.ofText target) →
    Location.ofText source ≠ .ofText target →
    ∃ count, (disk.answer (.copy source target) tree).1 = .ok count

open Classical in
/-- The disk on which every call succeeds that can. -/
noncomputable def willing : TreeDisk where
  answer call tree :=
    if h : ∃ reply after, Performs tree call reply after then (.ok h.choose, h.choose_spec.choose)
    else (.error ⟨.other, [], []⟩, tree)
  answers call tree := by
    split_ifs with h
    · exact .ok h.choose_spec.choose_spec
    · exact .error trivial

theorem exists_reply_willing {reply : call.Reply} (h : Performs tree call reply after) :
    ∃ reply', (willing.answer call tree).1 = .ok reply' := by
  have hexists : ∃ reply after, Performs tree call reply after := ⟨_, _, h⟩
  exact ⟨hexists.choose, by simp only [willing, dif_pos hexists]⟩

theorem able_willing : willing.Able where
  looks hfree := exists_reply_willing (.isPresent hfree rfl)
  makes hfree := by
    obtain ⟨reply, hreply⟩ := exists_reply_willing (.createDirectories hfree)
    exact hreply
  copies hfile hroom hne := exists_reply_willing (.copy hroom hfile (if_neg hne).symm)

end TreeDisk

end FileClerk
