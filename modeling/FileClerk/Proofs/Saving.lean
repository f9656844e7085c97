import FileClerk.Proofs.Loading
import FileClerk.Proofs.Reserved
import FileClerk.Proofs.Sections

/-!
# Settings saved and loaded

The document that settings are written as is read as the map of what they say, and the settings made
of that map are the same again.
-/

namespace FileClerk

namespace Settings

open Toml FileClerk.Action

section Reading

theorem carried?_levelData (levels : List (Text × Text)) : carried? (.map (levelData levels))
    = if (Keyed.get? identityKey (levelData levels)).isSome then none
      else some ((Keyed.get? carriedKey (levelData levels)).getD (.map (levelData levels))) := by
  have hclear : ∀ e ∈ levelData levels, Clear e.2 := by
    intro e he
    obtain ⟨f, -, rfl⟩ := List.mem_map.1 he
    exact .text f.2
  conv_lhs => unfold carried?
  rw [carriedEntries?_of_clear hclear]

/-- Of the tables that settings are written as, only the levels of modules have names of any
kind. -/
theorem ofDocument?_data (s : Settings) : ofDocument? (.map s.data)
    = (carried? (.map (levelData s.logging.modules.entries))).map fun modules =>
      .map (s.dataWith modules) := by
  unfold data dataWith
  generalize Datum.map (levelData s.logging.modules.entries) = levels
  have hwatch : ∀ m n : Int, carried? (.map [("channel_capacity".toList, .signed m),
      ("settle_ms".toList, .signed n)]) = some (.map [("channel_capacity".toList, .signed m),
        ("settle_ms".toList, .signed n)]) := fun _ _ => rfl
  have hlogging : ∀ level,
      carried? (.map [("default".toList, .text level), ("modules".toList, levels)])
      = (carried? levels).map fun levels =>
        .map [("default".toList, .text level), ("modules".toList, levels)] := by
    intro level
    simp only [carried?, carriedEntries?, Option.bind_eq_bind, Option.bind_some]
    cases carried? levels <;> rfl
  cases s.sandboxRoot <;> cases hcarried : carried? levels <;>
    simp only [ofDocument?, carriedEntries?, Option.map_none, Option.map_some, Option.toList_none,
      Option.toList_some, List.cons_append, List.nil_append, carried?_of_clear (.text _),
      carried?_of_clear (.signed _), hwatch, hlogging, hcarried, Option.bind_eq_bind,
      Option.bind_some, Option.bind_none]

theorem readWord32_toNat (n : UInt32) : readWord32 (.signed n.toNat) = .ok n := by
  have hlt := n.toNat_lt
  have hnat : readNat .word32 0xFFFFFFFF (.signed n.toNat) = .ok n.toNat := by
    simp [readNat]
    omega
  rw [readWord32, hnat]
  exact congrArg Except.ok (UInt32.ofNat_toNat)

theorem readWord64_toNat (wanted : Kind) (n : UInt64) :
    readWord64 wanted (.signed n.toNat) = .ok n := by
  have hlt := n.toNat_lt
  have hnat : readNat wanted 0xFFFFFFFFFFFFFFFF (.signed n.toNat) = .ok n.toNat := by
    simp [readNat]
    omega
  rw [readWord64, hnat]
  exact congrArg Except.ok (UInt64.ofNat_toNat)

theorem ofEntries_dataWith (s : Settings) (modules : Datum) : ofEntries (s.dataWith modules)
    = match readLevels modules with
      | .ok levels => .ok { s with logging := ⟨s.logging.level, levels⟩ }
      | .error mistake => .error ((mistake.under "modules".toList).under "logging".toList) := by
  have hwatching : readWatching (.map
      [("channel_capacity".toList, .signed s.watching.capacity.toNat),
        ("settle_ms".toList, .signed s.watching.settle.toNat)]) = .ok s.watching := by
    have hsettle : Keyed.get? "settle_ms".toList
        [("channel_capacity".toList, Datum.signed s.watching.capacity.toNat),
          ("settle_ms".toList, .signed s.watching.settle.toNat)]
        = some (.signed s.watching.settle.toNat) := rfl
    unfold readWatching
    dsimp only
    rw [hsettle, Keyed.get?, if_pos rfl, part, part, readWord64_toNat, readWord64_toNat]
    rfl
  have hlogging : readLogging (.map [("default".toList, .text s.logging.level),
      ("modules".toList, modules)])
        = match readLevels modules with
          | .ok levels => .ok ⟨s.logging.level, levels⟩
          | .error mistake => .error (mistake.under "modules".toList) := by
    have hmodules : Keyed.get? "modules".toList
        [("default".toList, .text s.logging.level), ("modules".toList, modules)]
        = some modules := rfl
    unfold readLogging
    dsimp only
    rw [hmodules, Keyed.get?, if_pos rfl, part, part]
    cases readLevels modules <;> rfl
  have hentries : ofEntries (s.dataWith modules) = (do
      let logging ← (readLogging (.map [("default".toList, .text s.logging.level),
        ("modules".toList, modules)])).mapError (Mistake.under "logging".toList)
      let version ← (readWord32 (.signed s.version.toNat)).mapError (Mistake.under "version".toList)
      let watching ← (readWatching (.map
        [("channel_capacity".toList, .signed s.watching.capacity.toNat),
          ("settle_ms".toList, .signed s.watching.settle.toNat)])).mapError
            (Mistake.under "watch".toList)
      return { s with version, watching, logging }) := by
    unfold dataWith
    cases s with
    | mk version commandFile sandboxRoot watching logging => cases sandboxRoot <;> rfl
  rw [hentries, hlogging, readWord32_toNat, hwatching]
  cases readLevels modules <;> rfl

/-- What is made of a file that holds written settings. -/
theorem documentIn_document (s : Settings) : documentIn (.ok (Utf8.encode s.document))
    = if s.Fits then
        match carried? (.map (levelData s.logging.modules.entries)) with
        | none => .error .malformed
        | some modules => .ok (some (.map (s.dataWith modules)))
      else .error .malformed := by
  unfold documentIn
  dsimp only
  rw [Utf8.decode?_eq_some_iff.2 rfl, Option.bind_some, document?_document]
  split_ifs
  · rw [Option.bind_some, ofDocument?_data]
    cases carried? (.map (levelData s.logging.modules.entries)) <;> rfl
  · rfl

theorem ofLayers_nothing (entries : Keyed Datum) :
    ofLayers (some (.map entries)) (.map []) = ofEntries entries := by
  simp [ofLayers, Datum.overlay, Datum.overlayEntries]

theorem ofEnvironment_of_silent {environment : List (Text × Text)}
    (h : ∀ v ∈ environment, pathOf? v.1 = none) : ofEnvironment environment = .ok (.map []) := by
  unfold ofEnvironment
  induction environment with
  | nil => rfl
  | cons v environment ih =>
    rw [List.forall_mem_cons] at h
    rw [List.foldlM_cons, h.1]
    exact ih h.2

/-- Settings that a written document keeps: numbers that fit, and no reserved name of a module. -/
def Storable (s : Settings) : Prop := s.Fits ∧ ∀ e ∈ s.logging.modules.entries, ¬ Reserved e.1

instance (s : Settings) : Decidable s.Storable := inferInstanceAs (Decidable (_ ∧ _))

theorem conclude_document {environment : List (Text × Text)}
    (hsilent : ∀ v ∈ environment, pathOf? v.1 = none) (s : Settings) :
    (s.Storable → conclude environment (documentIn (.ok (Utf8.encode s.document))) = .ok (.ok s))
      ∧ (¬ s.Storable → ∃ mistake, conclude environment
        (documentIn (.ok (Utf8.encode s.document))) = .ok (.error mistake)) := by
  have hconclude : ∀ document, conclude environment document
      = .ok (document.bind fun document => ofLayers document (.map [])) := by
    intro document
    rw [conclude, ofEnvironment_of_silent hsilent]
    rfl
  have hreserved : ∀ {key : Text} {d : Datum}, Reserved key →
      Keyed.get? key (levelData s.logging.modules.entries) = some d →
        ¬ s.Storable ∧ ∃ level, d = .text level := by
    intro key d hkey hfound
    obtain ⟨e, he, heq⟩ := List.mem_map.1 (Keyed.mem_of_get? hfound)
    obtain ⟨rfl, rfl⟩ := Prod.mk.inj heq
    exact ⟨fun h => h.2 e he hkey, e.2, rfl⟩
  rw [hconclude, documentIn_document, carried?_levelData]
  split_ifs with hfits hidentity
  · obtain ⟨d, hd⟩ := Option.isSome_iff_exists.1 hidentity
    exact ⟨fun h => absurd h (hreserved (.inr rfl) hd).1, fun _ => ⟨.malformed, rfl⟩⟩
  · cases hcarried : Keyed.get? carriedKey (levelData s.logging.modules.entries) with
    | some d =>
      obtain ⟨hnot, level, rfl⟩ := hreserved (.inl rfl) hcarried
      refine ⟨fun h => absurd h hnot,
        fun _ => ⟨.wrongType ["logging".toList, "modules".toList] (.text level) .levels, ?_⟩⟩
      change Except.ok (ofLayers (some (.map (s.dataWith (.text level)))) (.map [])) = _
      rw [ofLayers_nothing, ofEntries_dataWith]
      rfl
    | none =>
      have hclear : s.Storable := by
        rw [Option.not_isSome_iff_eq_none] at hidentity
        refine ⟨hfits, fun e he hkey => ?_⟩
        have hmem : (e.1, Datum.text e.2) ∈ levelData s.logging.modules.entries :=
          List.mem_map_of_mem he
        rcases hkey with hkey | hkey
        · exact Keyed.get?_eq_none_iff.1 hcarried _ hmem hkey
        · exact Keyed.get?_eq_none_iff.1 hidentity _ hmem hkey
      refine ⟨fun _ => ?_, fun h => absurd hclear h⟩
      change Except.ok (ofLayers (some (.map s.data)) (.map [])) = _
      rw [ofLayers_nothing, data, ofEntries_dataWith, readLevels_levelData, ofList_entries]
  · exact ⟨fun h => absurd h.1 hfits, fun _ => ⟨.malformed, rfl⟩⟩

end Reading

section Disk

variable {s : Settings} {path : Text} {workingDirectory : Location}
  {environment : List (Text × Text)} {saving loading : List Event}

/-- Settings are saved when the document they are written as has been written. -/
theorem written_of_runs (run : Runs (save s path) saving (.ok (.ok ()))) :
    .called (.write path (Utf8.encode s.document)) (.ok ()) ∈ saving := by
  have hwrite : ∀ {events : List Event}, Runs (call (.write path (Utf8.encode s.document))) events
      (.ok (.ok ())) → .called (.write path (Utf8.encode s.document)) (.ok ()) ∈ events := by
    intro events run
    obtain ⟨answer, rest, rfl, hrest⟩ := runs_ask_iff.1 run
    obtain ⟨-, hanswer⟩ := runs_done_iff.1 hrest
    obtain rfl := Except.ok.inj hanswer
    exact List.mem_cons_self
  unfold save writeWithParents at run
  split at run
  · exact hwrite run
  · obtain ⟨answer, rest, rfl, hrest⟩ := runs_ask_iff.1 run
    cases answer with
    | error error => cases (runs_done_iff.1 hrest).2
    | ok made => exact List.mem_cons_of_mem _ (hwrite hrest)

/-- A place holds a file with some content whenever it is asked for. -/
def Holds (events : List Event) (file : Text) (content : Bytes) : Prop :=
  (∀ answer, .called (.status file) answer ∈ events →
      ∃ status, answer = .ok status ∧ status.kind = .file)
    ∧ ∀ answer, .called (.read file) answer ∈ events → answer = .ok content

theorem exists_candidates (workingDirectory : Location) (path : Text) :
    ∃ others,
      candidates workingDirectory path = Path.join workingDirectory.text path :: others := by
  unfold candidates
  split_ifs with habsolute
  · exact ⟨[], by simp [Path.join, habsolute]⟩
  · obtain ⟨others, hothers⟩ : ∃ others,
        Path.ancestors workingDirectory.text = workingDirectory.text :: others := by
      unfold Path.ancestors Path.ancestors.go
      split
      · exact ⟨[], rfl⟩
      · split
        · exact ⟨[], rfl⟩
        · exact ⟨_, rfl⟩
    rw [hothers]
    exact ⟨_, rfl⟩

theorem document_of_holds {content : Bytes} {document : Except Mistake (Option Datum)}
    (run : Runs (findDocument workingDirectory path) loading (.ok document))
    (hholds : Holds loading (Path.join workingDirectory.text path) content) :
    document = documentIn (.ok content) := by
  obtain ⟨others, hcandidates⟩ := exists_candidates workingDirectory path
  obtain ⟨asked, found, hasked, hfound⟩ := runs_findDocument run
  rw [hcandidates] at hasked
  obtain ⟨answer, rest, rfl, hanswer⟩ := runs_firstOfKind_cons hasked
  have hevents : .called (.status (Path.join workingDirectory.text path)) answer ∈ loading := by
    cases found with
    | none =>
      rw [hfound.1]
      exact List.mem_cons_self
    | some file =>
      obtain ⟨_, rfl, -⟩ := hfound
      exact List.mem_cons_self
  obtain ⟨status, rfl, hkind⟩ := hholds.1 answer hevents
  rcases hanswer with ⟨_, -, -, -, hplace⟩ | ⟨hother, -⟩
  · obtain rfl := Except.ok.inj hplace
    obtain ⟨answer, rfl, hresult⟩ := hfound
    obtain rfl := hholds.2 answer (List.mem_append_right _ List.mem_cons_self)
    exact Except.ok.inj hresult
  · exact absurd hkind (hother status rfl)

/-- Settings that were saved are the settings that are loaded, if a document keeps them, and are not
loaded at all otherwise. -/
theorem reloaded_of_runs {result : Except Crash (Except Mistake Settings)}
    (saved : Runs (save s path) saving (.ok (.ok ())))
    (loaded : Runs (loadFrom workingDirectory environment path) loading result)
    (hsilent : ∀ v ∈ environment, pathOf? v.1 = none)
    (hkept : ∀ content, .called (.write path content) (.ok ()) ∈ saving →
      Holds loading (Path.join workingDirectory.text path) content) :
    (s.Storable → result = .ok (.ok s))
      ∧ (¬ s.Storable → ∃ mistake, result = .ok (.error mistake)) := by
  obtain ⟨document, hdocument, rfl⟩ := runs_loadFrom_iff.1 loaded
  rw [document_of_holds hdocument (hkept _ (written_of_runs saved))]
  exact conclude_document hsilent s

section Steps

/-- The steps of saving settings to a file. -/
def stored (s : Settings) : List Event :=
  [.called (.write "s".toList (Utf8.encode s.document)) (.ok ())]

/-- The steps of loading them from the directory where they were saved. -/
def fetched (s : Settings) : List Event := fetching (Utf8.encode s.document)

theorem runs_stored (s : Settings) : Runs (save s "s".toList) s.stored (.ok (.ok ())) :=
  @Runs.ask _ (.write "s".toList (Utf8.encode s.document)) _ (.ok ()) _ _ (.done _)

theorem runs_fetched (s : Settings) : Runs (loadFrom ⟨[]⟩ [] "s".toList) s.fetched
    (conclude [] (documentIn (.ok (Utf8.encode s.document)))) :=
  runs_fetching [] _

theorem holds_fetched (s : Settings) : ∀ content,
    .called (.write "s".toList content) (.ok ()) ∈ s.stored →
      Holds s.fetched (Path.join (Location.text ⟨[]⟩) "s".toList) content := by
  intro content hwritten
  have hplace : Path.join (Location.text ⟨[]⟩) "s".toList = "/s".toList := rfl
  obtain rfl : content = Utf8.encode s.document := by
    cases List.mem_singleton.1 hwritten
    rfl
  rw [hplace]
  constructor
  · intro answer h
    rcases List.mem_cons.1 h with h | h
    · cases h
      exact ⟨_, rfl, rfl⟩
    · cases List.mem_singleton.1 h
  · intro answer h
    rcases List.mem_cons.1 h with h | h
    · cases h
    · cases List.mem_singleton.1 h
      rfl

end Steps

/-- Marks of every sort come back. -/
theorem reloaded_of_runs_marks :
    let s : Settings := { Settings.default with
      commandFile := "'a'\n\"b\"\\\x07".toList
      sandboxRoot := some []
      logging := ⟨"'''\"\"\"".toList, .ofList [("a.b \"c\"".toList, "d\r\n".toList)]⟩ }
    ∃ result, Runs (save s "s".toList) s.stored (.ok (.ok ()))
      ∧ Runs (loadFrom ⟨[]⟩ [] "s".toList) s.fetched result ∧ result = .ok (.ok s) := by
  intro s
  refine ⟨_, runs_stored s, runs_fetched s, ?_⟩
  have hlaw := reloaded_of_runs (runs_stored s) (runs_fetched s) (by simp) (holds_fetched s)
  exact hlaw.1 (by decide)

/-- A quiet time beyond 64 bits with a sign is saved and not loaded. -/
theorem not_reloaded_of_great_settle :
    let s : Settings := { Settings.default with watching := ⟨0x8000000000000000, 64⟩ }
    Runs (save s "s".toList) s.stored (.ok (.ok ()))
      ∧ ∃ mistake, Runs (loadFrom ⟨[]⟩ [] "s".toList) s.fetched (.ok (.error mistake)) := by
  intro s
  have run := runs_fetched s
  obtain ⟨mistake, hmistake⟩ := (conclude_document (List.forall_mem_nil _) s).2 (by decide)
  rw [hmistake] at run
  exact ⟨runs_stored s, mistake, run⟩

end Disk

end Settings

end FileClerk
