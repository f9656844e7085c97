import Mathlib.Data.List.Induction
import FileClerk.Proofs.Loading
import FileClerk.Proofs.Ordering
import FileClerk.Proofs.Reserved
import FileClerk.Proofs.Schema
import FileClerk.Proofs.Sections

/-!
# Settings in layers

Each setting is what the last variable that speaks of it says, else what the file says of it, else
its default, whatever else the environment and the file say of its neighbours. One variable after
the other is laid over what is there, and none of them loses a setting it does not speak of.
-/

namespace FileClerk

namespace Settings

open Datum FileClerk.Action

section Layers

variable {lower upper d : Datum}

theorem Key.not_isMap_of_read? {key : Key} (h : (key.read? d).isSome) : ¬ d.IsMap := by
  cases d with
  | map entries => cases key <;> cases h
  | _ => exact id

theorem Key.at?_overlay (key : Key) (hordered : Ordered upper) (hlower : WellTyped lower)
    (hupper : WellTyped upper) :
    (lower.overlay upper).at? key.path = (upper.at? key.path).or (lower.at? key.path) :=
  Datum.at?_overlay hordered (hlower.leads key) (hupper.leads key) fun found hfound =>
    not_isMap_of_read? (hupper.typed key found hfound)

/-- Data of the right types come to data of the right types. -/
theorem WellTyped.overlay (hordered : Ordered upper) (hlower : WellTyped lower)
    (hupper : WellTyped upper) : WellTyped (lower.overlay upper) where
  leads key := leads_overlay hordered (hlower.leads key) (hupper.leads key)
  typed key found hfound := by
    rw [key.at?_overlay hordered hlower hupper, Option.or_eq_some_iff] at hfound
    rcases hfound with hfound | ⟨-, hfound⟩
    · exact hupper.typed key found hfound
    · exact hlower.typed key found hfound

theorem Key.said?_overlay (key : Key) (hordered : Ordered upper) (hlower : WellTyped lower)
    (hupper : WellTyped upper) :
    key.said? (lower.overlay upper) = (key.said? upper).or (key.said? lower) := by
  rw [Key.said?, key.at?_overlay hordered hlower hupper, Key.said?, Key.said?]
  cases hfound : upper.at? key.path with
  | none => rfl
  | some found =>
    obtain ⟨v, hv⟩ := Option.isSome_iff_exists.1 (hupper.typed key found hfound)
    simp [hv]

theorem wellTyped_empty : WellTyped (.map []) where
  leads key := by
    cases key <;> exact fun d hd => nomatch hd
  typed key found hfound := by
    cases key <;> cases hfound

theorem WellTyped.exists_map (h : WellTyped d) : ∃ entries, d = .map entries := by
  have hleads := h.leads .version
  cases d with
  | map entries => exact ⟨entries, rfl⟩
  | _ => cases hleads

end Layers

section Keys

theorem Key.eq_of_prefix {key other : Key} (h : key.path <+: other.path) : key = other := by
  cases key <;> cases other <;> simp_all [path]

/-- A datum under a path is found there and nowhere beside it. -/
theorem eq_of_at?_nest (d : Datum) : ∀ {other path : List Text}, (path <+: other → path = other) →
    (other <+: path → path = other) → ∀ found, (nest path d).at? other = some found →
      path = other ∧ d = found
  | [], path, h, h', found, hfound => by
    obtain rfl := h' List.nil_prefix
    exact ⟨rfl, Option.some.inj hfound⟩
  | k :: other, [], h, _, _, _ => nomatch h List.nil_prefix
  | k :: other, key :: path, h, h', found, hfound => by
    obtain ⟨next, hnext, hfound⟩ := Option.bind_eq_some_iff.1 hfound
    have hkey : key = k ∧ nest path d = next := by
      simpa [Keyed.get?] using hnext
    obtain ⟨rfl, rfl⟩ := hkey
    obtain ⟨rfl, rfl⟩ := eq_of_at?_nest d
      (fun hprefix => (List.cons.inj (h (by simpa using hprefix))).2)
      (fun hprefix => (List.cons.inj (h' (by simpa using hprefix))).2) _ hfound
    exact ⟨rfl, rfl⟩

/-- A setting of its type, and nothing else, is of the right types. -/
theorem wellTyped_nest {key : Key} {d : Datum} (h : (key.read? d).isSome) :
    WellTyped (nest key.path d) where
  leads other := leads_nest d fun hprefix => congrArg Key.path (Key.eq_of_prefix hprefix)
  typed other found hfound := by
    obtain ⟨hpath, rfl⟩ := eq_of_at?_nest d
      (fun hprefix => congrArg Key.path (Key.eq_of_prefix hprefix))
      (fun hprefix => (congrArg Key.path (Key.eq_of_prefix hprefix)).symm) found hfound
    obtain rfl : key = other := Key.eq_of_prefix (hpath ▸ List.prefix_rfl)
    exact h

end Keys

section Environment

variable {environment : List (Text × Text)}

/-- What a variable says, under its path. -/
def layer? (v : Text × Text) : Option Datum :=
  (pathOf? v.1).bind fun path => (ofVariable v.2).toOption.map (nest path)

/-- The value of the last variable that speaks of a setting. -/
def setBy (environment : List (Text × Text)) (key : Key) : Option Value :=
  environment.reverse.findSome? fun v => (layer? v).bind key.said?

theorem layer?_of {v : Text × Text} {path : List Text} {d : Datum} (hpath : pathOf? v.1 = some path)
    (hd : ofVariable v.2 = .ok d) : layer? v = some (nest path d) := by
  rw [layer?, hpath, Option.bind_some, hd]
  rfl

theorem setBy_concat (environment : List (Text × Text)) (v : Text × Text) (key : Key) :
    setBy (environment ++ [v]) key = ((layer? v).bind key.said?).or (setBy environment key) := by
  rw [setBy, List.reverse_append, List.reverse_singleton, List.singleton_append,
    List.findSome?_cons, setBy]
  cases (layer? v).bind key.said? <;> rfl

/-- What the variables say is of the right types. -/
def TypedEnvironment (environment : List (Text × Text)) : Prop :=
  ∀ v ∈ environment, ∀ path, pathOf? v.1 = some path →
    ∃ d, ofVariable v.2 = .ok d ∧ WellTyped (nest path d)

/-- The last variable is laid over what the others say. -/
theorem ofEnvironment_concat (environment : List (Text × Text)) (v : Text × Text) :
    ofEnvironment (environment ++ [v]) = ofEnvironment environment >>= fun said =>
      match pathOf? v.1 with
      | some path => (ofVariable v.2).map fun d => said.overlay (nest path d)
      | none => .ok said := by
  rw [ofEnvironment, List.foldlM_append]
  refine congrArg (ofEnvironment environment >>= ·) (funext fun said => ?_)
  rw [List.foldlM_cons]
  cases pathOf? v.1 with
  | none => rfl
  | some path => cases ofVariable v.2 <;> rfl

theorem exists_ofEnvironment (h : TypedEnvironment environment) :
    ∃ said, ofEnvironment environment = .ok said ∧ Ordered said ∧ WellTyped said
      ∧ ∀ key : Key, key.said? said = setBy environment key := by
  induction environment using List.reverseRecOn with
  | nil =>
    refine ⟨.map [], rfl, ordered_empty, wellTyped_empty, fun key => ?_⟩
    cases key <;> rfl
  | append_singleton environment v ih =>
    have hlast := h v (List.mem_append_right _ List.mem_cons_self)
    obtain ⟨said, hsaid, hordered, htyped, hvalue⟩ := ih fun w hw =>
      h w (List.mem_append_left _ hw)
    have hstep := ofEnvironment_concat environment v
    rw [hsaid] at hstep
    cases hpath : pathOf? v.1 with
    | none =>
      refine ⟨said, by rw [hstep, hpath]; rfl, hordered, htyped, fun key => ?_⟩
      rw [setBy_concat, layer?, hpath]
      exact hvalue key
    | some path =>
      obtain ⟨d, hd, hlayer⟩ := hlast path hpath
      have hnest : Ordered (nest path d) := ordered_nest (ordered_of_ofVariable hd) path
      refine ⟨said.overlay (nest path d), by rw [hstep, hpath, hd]; rfl,
        ordered_overlay hordered hnest, htyped.overlay hnest hlayer, fun key => ?_⟩
      rw [key.said?_overlay hnest htyped hlayer, setBy_concat, layer?_of hpath hd, hvalue]
      rfl

end Environment

section Runs

variable {workingDirectory : Location} {environment : List (Text × Text)} {path : Text}
  {events : List Event} {result : Except Crash (Except Mistake Settings)}

/-- The document that a run has read, or that it has read no file. -/
def Found (events : List Event) : Option Datum → Prop
  | none => ∀ file answer, .called (.read file) answer ∉ events
  | some d => ∃ file content, .called (.read file) (.ok content) ∈ events
    ∧ (Utf8.decode? content).bind Toml.document? = some d

/-- No table in a document uses a reserved name, the one at the top apart. -/
def ClearBelow : Datum → Prop
  | .map entries => ∀ e ∈ entries, Clear e.2
  | _ => True

theorem document_of_found {found : Except Mistake (Option Datum)} {document : Option Datum}
    (run : Runs (findDocument workingDirectory path) events (.ok found))
    (hfound : Found events document) (hclear : ∀ d ∈ document, ClearBelow d) :
    found = .ok document := by
  obtain ⟨asked, place, hasked, hplace⟩ := runs_findDocument run
  have hstatus : ∀ file answer, .called (.read file) answer ∉ asked := by
    intro file answer hread
    obtain ⟨p, other, heq⟩ := (runs_firstOfKind hasked).2 _ hread
    cases heq
  cases place with
  | none =>
    obtain ⟨rfl, hresult⟩ := hplace
    cases document with
    | none => exact Except.ok.inj hresult
    | some d =>
      obtain ⟨file, content, hread, -⟩ := hfound
      exact absurd hread (hstatus file _)
  | some place =>
    obtain ⟨answer, rfl, hresult⟩ := hplace
    cases document with
    | none => exact absurd (List.mem_append_right _ List.mem_cons_self) (hfound place answer)
    | some d =>
      obtain ⟨file, content, hread, hd⟩ := hfound
      rcases List.mem_append.1 hread with hread | hread
      · exact absurd hread (hstatus file _)
      · cases List.mem_singleton.1 hread
        have hsame : ofDocument? d = some d := by
          have hbelow := hclear d rfl
          cases d with
          | map entries => exact ofDocument?_of_clear hbelow
          | _ => rfl
        rw [Except.ok.inj hresult, documentIn, hd, Option.bind_some, hsame]

theorem layered_of_runs {document : Option Datum}
    (run : Runs (loadFrom workingDirectory environment path) events result)
    (hfound : Found events document)
    (hdocument : ∀ d ∈ document, WellTyped d ∧ ClearBelow d)
    (henvironment : TypedEnvironment environment) :
    ∃ s, result = .ok (.ok s) ∧ ∀ key : Key, s.valueAt? key
      = ((setBy environment key).or (document.bind key.said?)).or (default.valueAt? key) := by
  obtain ⟨found, hrun, rfl⟩ := runs_loadFrom_iff.1 run
  rw [document_of_found hrun hfound fun d hd => (hdocument d hd).2]
  obtain ⟨said, hsaid, hordered, htyped, hset⟩ := exists_ofEnvironment henvironment
  obtain ⟨hlowerOrdered, hlower, hfile⟩ : Ordered (document.getD (.map []))
      ∧ WellTyped (document.getD (.map []))
      ∧ ∀ key : Key, key.said? (document.getD (.map [])) = document.bind key.said? := by
    cases document with
    | none =>
      refine ⟨ordered_empty, wellTyped_empty, fun key => ?_⟩
      cases key <;> rfl
    | some d =>
      obtain ⟨file, content, -, hd⟩ := hfound
      obtain ⟨text, -, htext⟩ := Option.bind_eq_some_iff.1 hd
      exact ⟨Toml.ordered_of_document? htext, (hdocument d rfl).1, fun key => rfl⟩
  have hmerged := hlower.overlay hordered htyped
  have hmergedOrdered := ordered_overlay hlowerOrdered hordered
  have hlayers : ofLayers document said = match (document.getD (.map [])).overlay said with
      | .map entries => ofEntries entries
      | _ => ofEntries [] := rfl
  obtain ⟨entries, hentries⟩ := hmerged.exists_map
  rw [hentries] at hmerged hmergedOrdered hlayers
  obtain ⟨s, hs, hvalue⟩ := exists_ofEntries hmergedOrdered hmerged
  refine ⟨s, ?_, fun key => ?_⟩
  · exact (conclude_of_said hsaid document).trans (congrArg Except.ok (hlayers.trans hs))
  · rw [hvalue, ← hentries, key.said?_overlay hordered hlower htyped, hset, hfile]

theorem found_fetching {s : Text} {d : Datum} (h : Toml.document? s = some d) :
    Found (fetching (Utf8.encode s)) (some d) :=
  ⟨_, _, List.mem_cons_of_mem _ List.mem_cons_self, by rw [Utf8.decode?_eq_some_iff.2 rfl]; exact h⟩

/-- The file gives the quiet time, the environment its neighbour and the level of a module. -/
theorem layered_of_runs_siblings :
    let environment := [("CMDWATCH_WATCH__CHANNEL_CAPACITY".toList, "7".toList),
      ("CMDWATCH_LOGGING__MODULES__NET".toList, "debug".toList)]
    ∃ s, Runs (loadFrom ⟨[]⟩ environment "s".toList)
        (fetching (Utf8.encode "[watch]\nsettle_ms = 5\n".toList)) (.ok (.ok s))
      ∧ s.valueAt? .settle = some (.number 5) ∧ s.valueAt? .capacity = some (.number 7)
      ∧ s.valueAt? (.module "net".toList) = some (.text "debug".toList)
      ∧ s.valueAt? .level = some (.text "info".toList) := by
  intro environment
  have hdocument : Toml.document? "[watch]\nsettle_ms = 5\n".toList
      = some (nest Key.settle.path (.signed 5)) := by
    have hheader : Toml.Spells "[watch]\n".toList (some [.table ["watch".toList]]) :=
      Toml.spells_of_line (by decide) (some (.table _)) fun _ => rfl
    have hentry := spells_numberLine "settle_ms" (by decide) 5
    have hlines : "[watch]\nsettle_ms = 5\n".toList
        = "[watch]\n".toList ++ numberLine "settle_ms" 5 := by
      decide +kernel
    rw [hlines]
    exact document?_section [] rfl hheader hentry
  have hcapacity : pathOf? "CMDWATCH_WATCH__CHANNEL_CAPACITY".toList = some Key.capacity.path := by
    decide +kernel
  have hmodule : pathOf? "CMDWATCH_LOGGING__MODULES__NET".toList
      = some (Key.module "net".toList).path := by
    decide +kernel
  have hseven : ofVariable "7".toList = .ok (.unsigned 7) := rfl
  have hdebug : ofVariable "debug".toList = .ok (.text "debug".toList) := rfl
  have henvironment : TypedEnvironment environment := by
    intro v hv path hpath
    rcases List.mem_cons.1 hv with rfl | hv
    · cases hcapacity.symm.trans hpath
      exact ⟨_, hseven, wellTyped_nest rfl⟩
    · cases List.mem_singleton.1 hv
      cases hmodule.symm.trans hpath
      exact ⟨_, hdebug, wellTyped_nest rfl⟩
  have hclear : ClearBelow (nest Key.settle.path (.signed 5)) :=
    List.forall_mem_singleton.2 (.map (List.forall_mem_singleton.2 (by decide))
      (List.forall_mem_singleton.2 (.signed 5)))
  have run := runs_fetching environment (Utf8.encode "[watch]\nsettle_ms = 5\n".toList)
  obtain ⟨s, hs, hvalue⟩ := layered_of_runs run (found_fetching hdocument)
    (fun d hd => Option.mem_some_iff.1 hd ▸ ⟨wellTyped_nest rfl, hclear⟩) henvironment
  have hset : ∀ key : Key, setBy environment key = (key.said? (nest (Key.module "net".toList).path
      (.text "debug".toList))).or (key.said? (nest Key.capacity.path (.unsigned 7))) := by
    intro key
    have hlast := setBy_concat
      [("CMDWATCH_WATCH__CHANNEL_CAPACITY".toList, "7".toList)]
      ("CMDWATCH_LOGGING__MODULES__NET".toList, "debug".toList) key
    have hfirst := setBy_concat [] ("CMDWATCH_WATCH__CHANNEL_CAPACITY".toList, "7".toList) key
    rw [layer?_of hcapacity hseven] at hfirst
    rw [layer?_of hmodule hdebug] at hlast
    refine hlast.trans (congrArg _ (hfirst.trans ?_))
    exact Option.or_none
  refine ⟨s, hs ▸ run, ?_, ?_, ?_, ?_⟩
  · rw [hvalue, hset]
    rfl
  · rw [hvalue, hset]
    rfl
  · rw [hvalue, hset]
    rfl
  · rw [hvalue, hset]
    rfl

/-- A module with a reserved name makes a file of the right types one that is not loaded. -/
theorem not_layered_of_reserved :
    let file := Utf8.encode "[logging.modules]\n___figment_value_value = 'x'\n".toList
    ∃ d mistake, Found (fetching file) (some d) ∧ WellTyped d
      ∧ Runs (loadFrom ⟨[]⟩ [] "s".toList) (fetching file) (.ok (.error mistake)) := by
  intro file
  have hdocument : Toml.document? "[logging.modules]\n___figment_value_value = 'x'\n".toList
      = some (nest (Key.module carriedKey).path (.text "x".toList)) := by
    have hheader : Toml.Spells "[logging.modules]\n".toList
        (some [.table ["logging".toList, "modules".toList]]) :=
      Toml.spells_of_line (by decide) (some (.table _)) fun _ => rfl
    have hentry := spells_entryLine carriedKey
      (readsAs_literal (s := "x".toList) (by decide) (by decide))
    have hlines : "[logging.modules]\n___figment_value_value = 'x'\n".toList
        = "[logging.modules]\n".toList
          ++ entryLine (quotedName carriedKey) (literal "x".toList) := by
      decide +kernel
    rw [hlines]
    exact document?_section ["logging".toList] rfl hheader hentry
  have hcarried : ofDocument? (nest (Key.module carriedKey).path (.text "x".toList))
      = some (nest ["logging".toList, "modules".toList] (.text "x".toList)) := by
    have hdistinct : carriedKey ≠ identityKey := by decide
    have hmodules : "modules".toList ≠ carriedKey ∧ "modules".toList ≠ identityKey := by decide
    simp only [nest, Key.path, ofDocument?, carriedEntries?, carried?, Keyed.get?, hdistinct,
      hmodules, if_false, if_true, Option.bind_eq_bind, Option.bind_some, Option.isSome_none,
      Option.getD_some, Option.getD_none, Option.map_some, Bool.false_eq_true]
  have hlayers : ofLayers (some (nest ["logging".toList, "modules".toList] (.text "x".toList)))
      (.map [])
        = .error (.wrongType ["logging".toList, "modules".toList] (.text "x".toList) .levels) :=
    rfl
  have run := runs_fetching [] file
  rw [documentIn_encode hdocument hcarried, conclude_of_said rfl, hlayers] at run
  exact ⟨_, _, found_fetching hdocument, wellTyped_nest rfl, run⟩

end Runs

end Settings

end FileClerk
