import FileClerk.Proofs.Names
import FileClerk.Settings.Reading

/-!
# Levels of modules as data

Levels are said in a map of texts, and such a map is read as the levels it says. Levels that come in
the order of their modules are kept as they come.
-/

namespace FileClerk

namespace Settings

/-- What levels of modules say. -/
def levelData (levels : List (Text × Text)) : Keyed Datum := levels.map fun e => (e.1, .text e.2)

theorem get?_levelData (name : Text) (levels : List (Text × Text)) :
    Keyed.get? name (levelData levels) = (Keyed.get? name levels).map .text := by
  induction levels with
  | nil => rfl
  | cons e levels ih =>
    rw [levelData, List.map_cons, ← levelData, Keyed.get?, Keyed.get?, ih]
    split <;> rfl

/-- A map that has a text under each name says levels. -/
theorem exists_levelData : ∀ {entries : Keyed Datum}, (∀ e ∈ entries, ∃ s, e.2 = .text s) →
    ∃ levels, entries = levelData levels
  | [], _ => ⟨[], rfl⟩
  | (name, d) :: rest, h => by
    obtain ⟨⟨level, rfl⟩, hrest⟩ := List.forall_mem_cons.1 h
    obtain ⟨levels, rfl⟩ := exists_levelData hrest
    exact ⟨(name, level) :: levels, rfl⟩

/-- Levels that come in the order of their modules are kept as they come. -/
theorem entries_ofList {levels : List (Text × Text)} (h : Keyed.Ordered levels) :
    (ModuleLevels.ofList levels).entries = levels := by
  have hentries : ∀ (levels : List (Text × Text)) (front : ModuleLevels),
      (levels.foldl (fun levels e => levels.put e.1 e.2) front).entries
        = levels.foldl (fun (m : Keyed Text) e => m.put e.1 e.2) front.entries := by
    intro levels
    induction levels with
    | nil => exact fun _ => rfl
    | cons e levels ih => exact fun front => ih (front.put e.1 e.2)
  rw [ModuleLevels.ofList, hentries]
  exact @Keyed.foldl_put_of_ordered _ [] levels h

theorem ofList_entries (levels : ModuleLevels) : ModuleLevels.ofList levels.entries = levels := by
  have hentries := entries_ofList levels.ordered
  rcases levels with ⟨entries, hordered⟩
  rcases hlevels : ModuleLevels.ofList entries with ⟨entries', hordered'⟩
  simp_all

theorem readLevels_levelData (levels : List (Text × Text)) :
    readLevels (.map (levelData levels)) = .ok (.ofList levels) := by
  have hmap : (levelData levels).mapM (fun e => (do
      return (e.1, ← (readText .string e.2).mapError (·.under e.1)) :
        Except Mistake (Text × Text))) = .ok levels := by
    induction levels with
    | nil => rfl
    | cons e levels ih =>
      rw [levelData, List.map_cons, List.mapM_cons, ← levelData, ih]
      rfl
  unfold readLevels
  dsimp only
  rw [hmap]
  rfl

end Settings

end FileClerk
