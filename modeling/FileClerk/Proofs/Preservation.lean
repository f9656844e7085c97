import Mathlib.Data.Set.Function
import FileClerk.Proofs.Effect

/-!
# No file is lost

Every operation but deleting and copying over a file keeps each file that there is: it stays where
it is or moves with its directory, and no octet of it goes (`exists_embeds_of_outcomes`). Two files
never end up as one, since what is moved never meets anything at its target. So any number of such
operations, whatever fails among them, keep every file (`exists_embeds_of_session`).
-/

namespace FileClerk

namespace Location

variable {old new p q : Location}

/-- Moving keeps apart all that does not lie at the target already. -/
theorem moved_injOn (old new : Location) : Set.InjOn (moved old new) {p | ¬ p.isWithin new} := by
  have happart : ∀ {p q : Location}, p.isWithin old → ¬ q.isWithin old → ¬ q.isWithin new →
      moved old new p ≠ moved old new q := by
    intro p q hp hq hnew heq
    obtain ⟨rest, rfl⟩ := exists_of_isWithin hp
    rw [moved_append, moved_of_not_isWithin hq] at heq
    exact hnew (heq ▸ append_isWithin new rest)
  intro p hp q hq heq
  by_cases hpold : p.isWithin old <;> by_cases hqold : q.isWithin old
  · obtain ⟨rest, rfl⟩ := exists_of_isWithin hpold
    obtain ⟨rest', rfl⟩ := exists_of_isWithin hqold
    rw [moved_append, moved_append] at heq
    rw [List.append_cancel_left (congrArg Location.segments heq)]
  · exact absurd heq (happart hpold hqold hq)
  · exact absurd heq.symm (happart hqold hpold hp)
  · rwa [moved_of_not_isWithin hpold, moved_of_not_isWithin hqold] at heq

end Location

namespace FileTree

variable {tree between after : FileTree} {f g : Location → Location}

def files (tree : FileTree) : Set Location := {p | ∃ content, tree.node? p = some (.file content)}

/-- Each file has an image of its own, which begins with what the file holds. -/
structure Embeds (f : Location → Location) (tree after : FileTree) : Prop where
  injective : Set.InjOn f tree.files
  begins : ∀ p content, tree.node? p = some (.file content) →
    ∃ more, after.node? (f p) = some (.file (content ++ more))

theorem Embeds.refl (tree : FileTree) : Embeds id tree tree :=
  ⟨Set.injOn_id _, fun p content hfile => ⟨[], by simpa using hfile⟩⟩

theorem Embeds.trans (hf : Embeds f tree between) (hg : Embeds g between after) :
    Embeds (g ∘ f) tree after where
  injective := by
    refine hg.injective.comp hf.injective ?_
    rintro p ⟨content, hfile⟩
    obtain ⟨more, hmore⟩ := hf.begins p content hfile
    exact ⟨_, hmore⟩
  begins p content hfile := by
    obtain ⟨more, hmore⟩ := hf.begins p content hfile
    obtain ⟨further, hfurther⟩ := hg.begins _ _ hmore
    exact ⟨more ++ further, by rw [Function.comp_apply, hfurther, List.append_assoc]⟩

/-- Where nothing but directories has come up, every file is as it was. -/
theorem UnchangedBut.embeds {touched : Set Location} {place : Location}
    (h : UnchangedBut touched place tree after) (hfiles : ∀ p ∈ tree.files, p ∉ touched) :
    Embeds id tree after where
  injective := Set.injOn_id _
  begins p content hfile := by
    refine ⟨[], ?_⟩
    rw [id, h.node?_eq (hfiles p ⟨content, hfile⟩) (.inl (by simp [hfile])), hfile,
      List.append_nil]

end FileTree

namespace Operation

/-- The operation does not delete, and does not copy over a file that there is. -/
def Spares (box : Sandbox) (tree : FileTree) : Operation → Prop
  | .delete _ => False
  | .copy _ target => ∀ place, box.resolve target = .ok place → place ∉ tree.files
  | .create _ | .rename _ _ | .append _ _ | .read _ | .list _ | .info _ => True

end Operation

namespace FileTree

open FileClerk.Action

variable {box : Sandbox} {operation : Operation} {tree after : FileTree}

theorem exists_embeds_of_mayLeave (h : operation.MayLeave box tree after) :
    ∃ f, Embeds f tree after := by
  rcases h with rfl | ⟨_, _, -, -, hleft⟩
  · exact ⟨_, .refl _⟩
  · exact ⟨_, hleft.embeds fun p _ => Set.notMem_empty p⟩

theorem exists_embeds_of_does (h : operation.Does box tree after)
    (hspares : operation.Spares box tree) : ∃ f, Embeds f tree after := by
  cases operation with
  | create path =>
    obtain ⟨place, -, hnone, -, helse⟩ := h
    refine ⟨_, helse.embeds ?_⟩
    rintro p ⟨content, hfile⟩ rfl
    simp [hnone] at hfile
  | delete path => exact hspares.elim
  | rename source target =>
    obtain ⟨old, new, -, -, -, hfree, hmoved, -, helse⟩ := h
    have hfiles : ∀ p ∈ tree.files, ¬ p.isWithin new := by
      rintro p ⟨content, hfile⟩ hwithin
      simp [node?_eq_none_of_isWithin hfree hwithin] at hfile
    refine ⟨Location.moved old new, (Location.moved_injOn old new).mono hfiles,
      fun p content hfile => ⟨[], ?_⟩⟩
    rw [List.append_nil, ← hfile]
    by_cases hold : p.isWithin old
    · obtain ⟨rest, rfl⟩ := Location.exists_of_isWithin hold
      rw [Location.moved_append, hmoved]
    · rw [Location.moved_of_not_isWithin hold]
      refine helse.node?_eq ?_ (.inl (by simp [hfile]))
      rintro (hwithin | hwithin)
      · exact hold hwithin
      · exact hfiles p ⟨content, hfile⟩ hwithin
  | append path content =>
    obtain ⟨place, before, -, hbefore, hafter, helse⟩ := h
    refine ⟨id, Set.injOn_id _, fun p held hfile => ?_⟩
    by_cases hp : p = place
    · subst hp
      rcases hbefore with hbefore | ⟨hnone, -⟩
      · obtain rfl : before = held := by simpa [hbefore] using hfile
        exact ⟨_, hafter⟩
      · simp [hnone] at hfile
    · refine ⟨[], ?_⟩
      rw [id, helse.node?_eq hp (.inl (by simp [hfile])), hfile, List.append_nil]
  | copy source target =>
    obtain ⟨old, new, content, -, htarget, -, -, -, -, helse⟩ := h
    exact ⟨_, helse.embeds fun p hp heq => hspares new htarget (heq ▸ hp)⟩
  | read path | list path | info path =>
    obtain rfl : after = tree := h
    exact ⟨_, .refl _⟩

/-- Whatever comes of an operation that spares the files, it keeps them. -/
theorem exists_embeds_of_outcomes {faults : Faults} {result : Except Crash Outcome}
    (h : Outcomes faults box operation tree result after) (hspares : operation.Spares box tree) :
    ∃ f, Embeds f tree after := by
  rcases result with why | _ | _ | _
  · obtain rfl : after = tree := h
    exact ⟨_, .refl _⟩
  · exact exists_embeds_of_does h hspares
  · exact exists_embeds_of_mayLeave h.1
  · exact exists_embeds_of_mayLeave h

/-- Operations carried out one after the other, each with the tree that it meets. Any call may fail,
and any operation may end in any way. -/
inductive Session (box : Sandbox) : FileTree → List (Operation × FileTree) → FileTree → Prop where
  | nil {tree : FileTree} : Session box tree [] tree
  | cons {tree between after : FileTree} {operation events result steps} :
      Runs (operation.execute box) events result → Serves (fun _ _ _ => True) tree events between →
      Session box between steps after → Session box tree ((operation, tree) :: steps) after

/-- Operations that neither delete nor copy over a file that there is keep every file: each has an
image of its own at the end, which begins with what the file held at the start. -/
theorem exists_embeds_of_session (workingDirectory root : Text)
    (habs : Path.isAbsolute root ∨ Path.isAbsolute workingDirectory) {tree after : FileTree}
    {steps : List (Operation × FileTree)}
    (h : Session (.ofRoot workingDirectory root) tree steps after)
    (hspares : ∀ step ∈ steps, step.1.Spares (.ofRoot workingDirectory root) step.2) :
    ∃ f, Embeds f tree after := by
  induction h with
  | nil => exact ⟨_, .refl _⟩
  | cons run served _ ih =>
    rw [List.forall_mem_cons] at hspares
    have houtcomes := run.leads
      (Execution.leads_execute _ (Sandbox.isRooted_ofRoot habs) _) served
    obtain ⟨f, hf⟩ := exists_embeds_of_outcomes houtcomes hspares.1
    obtain ⟨g, hg⟩ := ih hspares.2
    exact ⟨_, hf.trans hg⟩

theorem exists_embeds_of_session_drawer :
    let box := Sandbox.ofRoot [] "/".toList
    (Path.isAbsolute "/".toList ∨ Path.isAbsolute []) ∧ ∃ steps after,
      Session box drawer steps after
      ∧ steps.map Prod.fst = [.rename "d".toList "e/f".toList, .append "e/f/a".toList "b".toList]
      ∧ (∀ step ∈ steps, step.1.Spares box step.2)
      ∧ after.node? ⟨["e".toList, "f".toList, "a".toList]⟩ = some (.file [0x61, 0x62])
      ∧ ∃ f, Embeds f drawer after := by
  intro box
  have habs : Path.isAbsolute "/".toList ∨ Path.isAbsolute [] := by decide
  obtain ⟨moved, events, message, run, served, hfile⟩ := exists_moved_drawer
  have ha : Location.ofText "/e/f/a".toList = ⟨["e".toList, "f".toList, "a".toList]⟩ := by
    decide +kernel
  have hf : Location.ofText "/e/f".toList = (Location.ofText "/e/f/a".toList).above := by
    decide +kernel
  have hout : ¬ (Location.ofText "/e/f".toList).isWithin (.ofText "/e/f/a".toList) := by
    decide +kernel
  rw [← ha] at hfile
  have hfree : moved.FileFree (.ofText "/e/f".toList) := by
    rw [hf]
    exact fileFree_above (hfile ▸ Option.some_ne_none _)
  let ready := moved.withDirectories (.ofText "/e/f".toList)
  have hready : ready.node? (.ofText "/e/f/a".toList) = some (.file [0x61]) :=
    (node?_withDirectories_of_not hout).trans hfile
  have hroom : ready.HasRoom (.ofText "/e/f/a".toList) :=
    ⟨by rw [hready]; simp, node?_withDirectories_of_isWithin (hf ▸ Location.isWithin_refl _)⟩
  have hrun : Runs ((Operation.append "e/f/a".toList "b".toList).execute box)
      [.called (.createDirectories "/e/f".toList) (.ok ()),
        .called (.append "/e/f/a".toList [0x62]) (.ok ())]
      (.ok (.success "appended 1 bytes to e/f/a".toList)) := by
    refine @Runs.ask _ (.createDirectories "/e/f".toList) _ (.ok ()) _ _ ?_
    refine @Runs.ask _ (.append "/e/f/a".toList [0x62]) _ (.ok ()) _ _ ?_
    exact .done _
  have hserved : Serves (fun _ _ _ => True) moved
      [.called (.createDirectories "/e/f".toList) (.ok ()),
        .called (.append "/e/f/a".toList [0x62]) (.ok ())] _ :=
    .called (.ok (.createDirectories hfree)) (.called (.ok (.append hroom)) .nil)
  have hsession := Session.cons run (served.mono fun _ _ _ _ => trivial)
    (.cons hrun hserved .nil)
  have hspares : ∀ step ∈ [(Operation.rename "d".toList "e/f".toList, drawer),
      (.append "e/f/a".toList "b".toList, moved)], step.1.Spares box step.2 := by
    simp [Operation.Spares]
  refine ⟨habs, _, _, hsession, rfl, hspares, ?_,
    exists_embeds_of_session [] "/".toList habs hsession hspares⟩
  rw [← ha, node?_put_self, bytes, hready]
  rfl

end FileTree

end FileClerk
