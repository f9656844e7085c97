import FileClerk.Proofs.Document
import FileClerk.Proofs.Levels

/-!
# Written settings as a map

The lines that settings are written in make one table with two others in it, and in one of these a
third. What stands under a name is what was written under it, and names of modules that come in
their order stay in it. A document of one header and one entry says nothing beside that entry
(`document?_section`).
-/

namespace FileClerk

namespace Settings

open Toml

/-- What settings say, in the order of names, with any datum for the levels of modules. -/
def dataWith (s : Settings) (modules : Datum) : Keyed Datum :=
  [("command_file".toList, .text s.commandFile),
    ("logging".toList, .map [("default".toList, .text s.logging.level),
      ("modules".toList, modules)])] ++
  (s.sandboxRoot.map fun root => ("sandbox_root".toList, Datum.text root)).toList ++
  [("version".toList, .signed s.version.toNat),
    ("watch".toList, .map [("channel_capacity".toList, .signed s.watching.capacity.toNat),
      ("settle_ms".toList, .signed s.watching.settle.toNat)])]

/-- What settings say, in the order of names. -/
def data (s : Settings) : Keyed Datum := s.dataWith (.map (levelData s.logging.modules.entries))

theorem leadingEntries_map (entries : Keyed Datum) :
    leadingEntries (entries.map fun e => .entry [e.1] e.2)
      = (entries.map fun e => ([e.1], e.2), []) := by
  induction entries with
  | nil => rfl
  | cons e entries ih => rw [List.map_cons, leadingEntries, ih, List.map_cons]

theorem assign_of_forall_lt {front : Keyed Toml.Node} {key : Text} (h : ∀ e ∈ front, e.1 < key)
    (d : Datum) : Table.assign ⟨.spelled, front⟩ [key] d
      = some ⟨.spelled, front ++ [(key, .value d)]⟩ := by
  have hnone : Keyed.get? key front = none := Keyed.get?_eq_none_iff.2 fun e he heq =>
    List.lt_irrefl _ (heq ▸ h e he)
  simp [Table.assign, Table.add, Table.put, hnone, Keyed.put_of_forall_lt _ h]

/-- Entries of one part each, in the order of their names, stand in a table as they came. -/
theorem foldlM_assign : ∀ {front : Keyed Toml.Node} {entries : Keyed Datum},
    Keyed.Ordered (front ++ entries.map fun e => (e.1, Toml.Node.value e.2)) →
      (entries.map fun e => ([e.1], e.2)).foldlM (fun (t : Table) e => t.assign e.1 e.2)
          ⟨.spelled, front⟩
        = some ⟨.spelled, front ++ entries.map fun e => (e.1, Toml.Node.value e.2)⟩
  | front, [], _ => by simp
  | front, e :: entries, h => by
    have hlt : ∀ f ∈ front, f.1 < e.1 := fun f hf =>
      (List.pairwise_append.1 h).2.2 f hf _ List.mem_cons_self
    rw [List.map_cons, List.append_cons] at h
    rw [List.map_cons, List.foldlM_cons, assign_of_forall_lt hlt]
    exact (foldlM_assign h).trans (by rw [List.append_assoc]; rfl)

theorem fill_levels (levels : ModuleLevels) :
    fill (levels.entries.map fun e => .entry [e.1] (.text e.2)) ⟨.spelled, []⟩
      = some ⟨.spelled, (levelData levels.entries).map fun e => (e.1, Toml.Node.value e.2)⟩ := by
  have hlines : levels.entries.map (fun e => Line.entry [e.1] (.text e.2))
      = (levelData levels.entries).map fun e => .entry [e.1] e.2 := by
    simp [levelData]
  have hordered : Keyed.Ordered
      ((levelData levels.entries).map fun e => (e.1, Toml.Node.value e.2)) := by
    simpa [Keyed.Ordered, levelData, List.pairwise_map] using levels.ordered
  rw [hlines, fill, leadingEntries_map]
  exact foldlM_assign hordered

theorem entriesData_map (entries : Keyed Datum) :
    Toml.Node.entriesData (entries.map fun e => (e.1, .value e.2)) = entries := by
  induction entries with
  | nil => rfl
  | cons e entries ih => rw [List.map_cons, Toml.Node.entriesData, Toml.Node.datum, ih]

theorem addSections_entries (entries : List (Text × Text)) (top : Table) :
    addSections (entries.map fun e => .entry [e.1] (.text e.2)) top = some top := by
  induction entries with
  | nil => rfl
  | cons e entries ih => exact ih

/-- A table inside another is filled from the lines below its header. -/
theorem addSections_nested {top filled : Table} {outer inner : Text} {entries : Keyed Toml.Node}
    {lines : List Line} (houter : top.entries.get? outer = some (.table .spelled entries))
    (hinner : entries.get? inner = none) (hfill : fill lines ⟨.spelled, []⟩ = some filled) :
    addSections (.table [outer, inner] :: lines) top
      = addSections lines
        (top.put outer (.table .spelled (entries.put inner (.table .spelled filled.entries)))) := by
  simp [addSections, Table.within, Table.onChild, Table.openTable, houter, hinner, hfill, Table.put]

/-- A table opened where nothing is yet stands at the end of its path, and nothing beside it. -/
theorem exists_within_empty {fill : Table → Option Table} {filled : Table} (name : Text)
    (hfill : fill (.empty .spelled) = some filled) : ∀ (front : List Text) (origin : Origin),
      ∃ t, (Table.empty origin).within front (fun t => t.openTable name fill) = some t
        ∧ t.datum = .nest (front ++ [name]) filled.datum
  | [], origin => by
    have hopen : (Table.empty origin).openTable name fill
        = (fill (.empty .spelled)).map fun t =>
          (Table.empty origin).put name (.table .spelled t.entries) := by
      rw [Option.map_eq_bind]
      rfl
    rw [Table.within, hopen, hfill]
    exact ⟨_, rfl, rfl⟩
  | key :: front, origin => by
    obtain ⟨child, hchild, hdatum⟩ := exists_within_empty name hfill front .passed
    have hthrough : (Table.empty origin).within (key :: front) (fun t => t.openTable name fill)
        = ((Table.empty .passed).within front fun t => t.openTable name fill).map fun t =>
          (Table.empty origin).put key (.table t.origin t.entries) := by
      rw [Option.map_eq_bind]
      rfl
    rw [hthrough, hchild]
    refine ⟨_, rfl, ?_⟩
    rw [List.cons_append, Datum.nest, ← hdatum]
    rfl

/-- A document with one header and one entry below it says one thing, under the whole path. -/
theorem document?_section {header entry name key : Text} {d : Datum} (front : List Text)
    (hmark : (header ++ entry).dropMark = header ++ entry)
    (hheader : Spells header (some [.table (front ++ [name])]))
    (hentry : Spells entry (some [.entry [key] d])) :
    document? (header ++ entry) = some (.nest (front ++ [name]) (.map [(key, d)])) := by
  have hfill : fill [.entry [key] d] (.empty .spelled) = some ⟨.spelled, [(key, .value d)]⟩ := rfl
  obtain ⟨t, ht, hdatum⟩ := exists_within_empty name hfill front .spelled
  have hsection : addSections [.table (front ++ [name]), .entry [key] d] (.empty .spelled)
      = some t := by
    rw [addSections, List.getLast?_concat, List.dropLast_concat]
    exact congrArg (· >>= addSections [.entry [key] d]) ht
  have hfirst : fill [.table (front ++ [name]), .entry [key] d] (.empty .spelled)
      = some (.empty .spelled) := rfl
  rw [document?_of_spells hmark (hheader.append hentry)]
  simp only [Option.bind_some, Option.map_some, List.singleton_append, hfirst, hsection, hdatum]
  rfl

/-- The table at the top before any header, with the settings that stand there. -/
def heading (s : Settings) : Keyed Toml.Node :=
  [("command_file".toList, .value (.text s.commandFile))] ++
  (s.sandboxRoot.map fun root => ("sandbox_root".toList, Toml.Node.value (.text root))).toList ++
  [("version".toList, .value (.signed s.version.toNat))]

/-- The table at the top with what stands below the headers, up to some. -/
def sections (s : Settings) (logging : Keyed Toml.Node) : Keyed Toml.Node :=
  [("command_file".toList, .value (.text s.commandFile)),
    ("logging".toList,
      .table .spelled (("default".toList, .value (.text s.logging.level)) :: logging))] ++
  (s.sandboxRoot.map fun root => ("sandbox_root".toList, Toml.Node.value (.text root))).toList ++
  [("version".toList, .value (.signed s.version.toNat)),
    ("watch".toList, .table .spelled
      [("channel_capacity".toList, .value (.signed s.watching.capacity.toNat)),
        ("settle_ms".toList, .value (.signed s.watching.settle.toNat))])]

theorem addSections_lines (s : Settings) : addSections s.lines ⟨.spelled, s.heading⟩
    = some ⟨.spelled, s.sections [("modules".toList, .table .spelled
      ((levelData s.logging.modules.entries).map fun e => (e.1, .value e.2)))]⟩ := by
  have hfirst : addSections s.lines ⟨.spelled, s.heading⟩
      = addSections (.table ["logging".toList, "modules".toList] ::
        s.logging.modules.entries.map fun e => .entry [e.1] (.text e.2))
          ⟨.spelled, s.sections []⟩ := by
    unfold lines heading sections
    cases s.sandboxRoot <;> rfl
  have hlogging : Keyed.get? "logging".toList (s.sections [])
      = some (.table .spelled [("default".toList, .value (.text s.logging.level))]) := rfl
  rw [hfirst, addSections_nested hlogging rfl (fill_levels _), addSections_entries]
  rfl

theorem entriesData_sections (s : Settings) :
    Toml.Node.entriesData (s.sections [("modules".toList, .table .spelled
      ((levelData s.logging.modules.entries).map fun e => (e.1, .value e.2)))]) = s.data := by
  have hlevels := entriesData_map (levelData s.logging.modules.entries)
  unfold sections data dataWith
  cases s.sandboxRoot <;> simp [Toml.Node.entriesData, Toml.Node.datum, hlevels]

theorem document?_document (s : Settings) :
    Toml.document? s.document = if s.Fits then some (.map s.data) else none := by
  rw [document?_of_spells rfl (spells_document s)]
  split_ifs with hfit
  · have hheading : fill s.lines (.empty .spelled) = some ⟨.spelled, s.heading⟩ := by
      unfold lines heading
      cases s.sandboxRoot <;> rfl
    simp only [Option.bind_some, hheading, addSections_lines]
    exact congrArg (fun entries => some (Datum.map entries)) (entriesData_sections s)
  · rfl

end Settings

end FileClerk
