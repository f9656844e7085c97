import FileClerk.Proofs.Overriding
import FileClerk.Proofs.PlainValues
import FileClerk.Proofs.Replacing

/-!
# A text put over a setting

A variable that speaks of a setting which has to be a text replaces that setting and nothing beside
it, so settings that load without it are loaded with it exactly if its value is read as a text.
A value that has the form of a truth value, a number, an array or a map is not, and is refused.
-/

namespace FileClerk

namespace Settings

open Datum FileClerk.Action

/-- What is asked for where a setting that has to be one text is none. -/
def Key.wanted? : Key → Option Kind
  | commandFile | sandboxRoot => some .path
  | level => some .string
  | _ => none

section Environment

variable {environment before after : List (Text × Text)} {v : Text × Text} {path : List Text}
  {said d : Datum} {P : Datum → Prop}

/-- No variable speaks of a path, of what is on the way to it or of what is behind it. -/
def ApartFrom (path : List Text) (environment : List (Text × Text)) : Prop :=
  ∀ v ∈ environment, ∀ other, pathOf? v.1 = some other → Apart path other

theorem ofEnvironment_concat_of_ok {last : Text × Text}
    (h : ofEnvironment (environment ++ [last]) = .ok said) :
    ∃ earlier, ofEnvironment environment = .ok earlier
      ∧ ((pathOf? last.1 = none ∧ earlier = said)
        ∨ ∃ other d, pathOf? last.1 = some other ∧ ofVariable last.2 = .ok d
          ∧ earlier.overlay (nest other d) = said) := by
  rw [ofEnvironment_concat] at h
  obtain ⟨earlier, hearlier, h⟩ := bind_eq_ok.1 h
  refine ⟨earlier, hearlier, ?_⟩
  cases hpath : pathOf? last.1 with
  | none =>
    rw [hpath] at h
    exact .inl ⟨rfl, Except.ok.inj h⟩
  | some other =>
    rw [hpath] at h
    obtain ⟨d, hd, h⟩ := map_eq_ok.1 h
    exact .inr ⟨other, d, rfl, hd, h⟩

theorem ordered_of_ofEnvironment (h : ofEnvironment environment = .ok said) : Ordered said := by
  induction environment using List.reverseRecOn generalizing said with
  | nil =>
    cases h
    exact ordered_empty
  | append_singleton environment last ih =>
    obtain ⟨earlier, hearlier, ⟨-, rfl⟩ | ⟨other, d, -, hd, rfl⟩⟩ := ofEnvironment_concat_of_ok h
    · exact ih hearlier
    · exact ordered_overlay (ih hearlier) (ordered_nest (ordered_of_ofVariable hd) other)

theorem leads_of_ofEnvironment (hapart : ApartFrom path environment)
    (h : ofEnvironment environment = .ok said) : Leads path said := by
  induction environment using List.reverseRecOn generalizing said with
  | nil =>
    cases h
    cases path with
    | nil => trivial
    | cons key path => exact fun d hd => nomatch hd
  | append_singleton environment last ih =>
    have hearlierApart : ApartFrom path environment := fun v hv =>
      hapart v (List.mem_append_left _ hv)
    obtain ⟨earlier, hearlier, ⟨-, rfl⟩ | ⟨other, d, hother, hd, rfl⟩⟩ :=
      ofEnvironment_concat_of_ok h
    · exact ih hearlierApart hearlier
    · have hlast := hapart last (List.mem_append_right _ List.mem_cons_self) other hother
      exact leads_overlay (ordered_nest (ordered_of_ofVariable hd) other)
        (ih hearlierApart hearlier) (leads_nest d fun hprefix => absurd hprefix hlast.2)

theorem cons_concat (before after : List (Text × Text)) (v last : Text × Text) :
    before ++ v :: (after ++ [last]) = (before ++ v :: after) ++ [last] := by
  simp

/-- One more variable replaces what the others say at its path. -/
theorem replaces_of_variable (hpath : pathOf? v.1 = some path) (hv : ofVariable v.2 = .ok d)
    (hd : ∀ lower, P (atop lower d)) (hafter : ApartFrom path after)
    (h : ofEnvironment (before ++ after) = .ok said) :
    ∃ new, ofEnvironment (before ++ v :: after) = .ok new ∧ Replaces P path (some said) new := by
  induction after using List.reverseRecOn generalizing said with
  | nil =>
    rw [List.append_nil] at h
    refine ⟨said.overlay (nest path d), ?_, ?_⟩
    · rw [ofEnvironment_concat, h, hpath, hv]
      rfl
    · exact replaces_atop_nest (ordered_of_ofVariable hv) hd path (some said)
  | append_singleton after last ih =>
    rw [← List.append_assoc] at h
    rw [cons_concat, ofEnvironment_concat]
    have hearlierApart : ApartFrom path after := fun v hv => hafter v (List.mem_append_left _ hv)
    obtain ⟨earlier, hearlier, ⟨hlast, rfl⟩ | ⟨other, e, hlast, he, rfl⟩⟩ :=
      ofEnvironment_concat_of_ok h
    · obtain ⟨new, hnew, hreplaces⟩ := ih hearlierApart hearlier
      refine ⟨new, ?_, hreplaces⟩
      rw [hnew, hlast]
      rfl
    · obtain ⟨new, hnew, hreplaces⟩ := ih hearlierApart hearlier
      have hother := hafter last (List.mem_append_right _ List.mem_cons_self) other hlast
      refine ⟨new.overlay (nest other e), ?_,
        hreplaces.overlay_nest (ordered_of_ofVariable he) hother⟩
      rw [hnew, hlast, he]
      rfl

/-- A value that cannot be read ends the reading of all the variables. -/
theorem ofEnvironment_of_crash {why : Crash} (hpath : pathOf? v.1 = some path)
    (hv : ofVariable v.2 = .error why) (h : ofEnvironment (before ++ after) = .ok said) :
    ofEnvironment (before ++ v :: after) = .error why := by
  induction after using List.reverseRecOn generalizing said with
  | nil =>
    rw [List.append_nil] at h
    rw [ofEnvironment_concat, h, hpath, hv]
    rfl
  | append_singleton after last ih =>
    rw [← List.append_assoc] at h
    obtain ⟨earlier, hearlier, -⟩ := ofEnvironment_concat_of_ok h
    rw [cons_concat, ofEnvironment_concat, ih hearlier]
    rfl

end Environment

section Reading

variable {old new : List (Text × Datum)} {s : Settings} {P : Datum → Prop}

theorem part_eq_ok {α : Type} {name : Text} {found : Option Datum} {read : Read α} {default a : α} :
    part name found read default = .ok a ↔
      (found = none ∧ default = a) ∨ ∃ d, found = some d ∧ read d = .ok a := by
  cases found with
  | none => simp [part]
  | some d =>
    cases hread : read d <;> simp [part, hread, Except.mapError]

theorem ofEntries_eq_ok : ofEntries old = .ok s ↔
    part "command_file".toList (Keyed.get? "command_file".toList old) (readText .path)
        default.commandFile = .ok s.commandFile
      ∧ part "logging".toList (Keyed.get? "logging".toList old) readLogging default.logging
        = .ok s.logging
      ∧ part "sandbox_root".toList (Keyed.get? "sandbox_root".toList old)
        (fun d => (readText .path d).map some) default.sandboxRoot = .ok s.sandboxRoot
      ∧ part "version".toList (Keyed.get? "version".toList old) readWord32 default.version
        = .ok s.version
      ∧ part "watch".toList (Keyed.get? "watch".toList old) readWatching default.watching
        = .ok s.watching := by
  constructor
  · intro h
    obtain ⟨commandFile, hcommand, h⟩ := bind_eq_ok.1 h
    obtain ⟨logging, hlogging, h⟩ := bind_eq_ok.1 h
    obtain ⟨sandboxRoot, hroot, h⟩ := bind_eq_ok.1 h
    obtain ⟨version, hversion, h⟩ := bind_eq_ok.1 h
    obtain ⟨watching, hwatching, h⟩ := bind_eq_ok.1 h
    cases h
    exact ⟨hcommand, hlogging, hroot, hversion, hwatching⟩
  · rintro ⟨hcommand, hlogging, hroot, hversion, hwatching⟩
    exact ofEntries_of_parts hcommand hlogging hroot hversion hwatching

theorem readText_of_ne {wanted : Kind} {d : Datum} (h : ∀ t, d ≠ .text t) :
    readText wanted d = .error (.wrongType [] d wanted) := by
  cases d with
  | text t => exact absurd rfl (h t)
  | _ => rfl

/-- The levels of modules are readable in what is left of a table for logging. -/
theorem exists_levels_of_logging {found : Option Datum} {logging : Logging}
    (h : part "logging".toList found readLogging default.logging = .ok logging) :
    ∃ modules, part "modules".toList (found.bind (at? ["modules".toList])) readLevels
      default.logging.modules = .ok modules := by
  rcases part_eq_ok.1 h with ⟨rfl, -⟩ | ⟨d, rfl, hread⟩
  · exact ⟨_, rfl⟩
  · cases d with
    | map sub =>
      obtain ⟨level, -, hread⟩ := bind_eq_ok.1 hread
      obtain ⟨modules, hmodules, -⟩ := bind_eq_ok.1 hread
      rw [Option.bind_some, at?_singleton]
      exact ⟨modules, hmodules⟩
    | _ => exact ⟨_, rfl⟩

/-- A table for logging in which the level is replaced is readable if the level is. -/
theorem readLogging_of_replaces {below : Option Datum} {table : Datum} {logging : Logging}
    (h : part "logging".toList below readLogging default.logging = .ok logging)
    (hreplaces : Replaces P ["default".toList] below table) :
    ∃ found, P found
      ∧ (∀ t, found = .text t → ∃ l, readLogging table = .ok l ∧ l.level = t)
      ∧ ((∀ t, found ≠ .text t) →
        readLogging table = .error (.wrongType ["default".toList] found .string)) := by
  obtain ⟨modules, hmodules⟩ := exists_levels_of_logging h
  obtain ⟨hmap, ⟨found, hfound, hP⟩, hbeside⟩ := hreplaces
  cases table with
  | map sub =>
    rw [← hbeside "modules".toList (by decide), at?_singleton] at hmodules
    rw [at?_singleton] at hfound
    refine ⟨found, hP, fun t ht => ⟨⟨t, modules⟩, readLogging_of_parts ?_ hmodules, rfl⟩,
      fun hne => ?_⟩
    · rw [hfound, ht]
      rfl
    · unfold readLogging
      dsimp only
      rw [hfound, part, readText_of_ne hne]
      rfl
  | _ => cases hmap

/-- What comes of settings when the entry that a key begins with is read anew. -/
def Key.reread (key : Key) (s : Settings) (d : Datum) : Except Mistake Settings :=
  match key with
  | commandFile => (readText .path d).map fun t => { s with commandFile := t }
  | sandboxRoot => (readText .path d).map fun t => { s with sandboxRoot := some t }
  | level => (readLogging d).map fun logging => { s with logging := logging }
  | _ => .ok s

/-- With one entry replaced and the others as they are, only that entry is read anew. -/
theorem ofEntries_of_replaced {key : Key} {wanted : Kind} {name : Text} {rest : List Text}
    {d : Datum} (hkey : key.wanted? = some wanted) (hpath : key.path = name :: rest)
    (hs : ofEntries old = .ok s) (hd : Keyed.get? name new = some d)
    (hbeside : ∀ other, other ≠ name → Keyed.get? other new = Keyed.get? other old) :
    ofEntries new = (key.reread s d).mapError (·.under name) := by
  obtain ⟨hcommand, hlogging, hroot, hversion, hwatching⟩ := ofEntries_eq_ok.1 hs
  have hother : ∀ other, other ≠ name → ∀ {α : Type} (read : Read α) (default : α),
      part other (Keyed.get? other new) read default
        = part other (Keyed.get? other old) read default := by
    intro other hne α read default
    rw [hbeside other hne]
  unfold ofEntries
  dsimp only
  cases key with
  | commandFile =>
    cases hpath
    rw [hother "logging".toList (by decide), hother "sandbox_root".toList (by decide),
      hother "version".toList (by decide), hother "watch".toList (by decide), hlogging, hroot,
      hversion, hwatching, hd, Key.reread, part]
    cases readText .path d <;> rfl
  | sandboxRoot =>
    cases hpath
    rw [hother "command_file".toList (by decide), hother "logging".toList (by decide),
      hother "version".toList (by decide), hother "watch".toList (by decide), hcommand, hlogging,
      hversion, hwatching, hd, Key.reread, part]
    cases readText .path d <;> rfl
  | level =>
    cases hpath
    rw [hother "command_file".toList (by decide), hother "sandbox_root".toList (by decide),
      hother "version".toList (by decide), hother "watch".toList (by decide), hcommand, hroot,
      hversion, hwatching, hd, Key.reread, part]
    cases readLogging d <;> rfl
  | _ => cases hkey

/-- A setting that has to be a text is read anew if a text is found in its place. -/
theorem exists_reread {key : Key} {wanted : Kind} {name : Text} {rest : List Text} {d : Datum}
    (hkey : key.wanted? = some wanted) (hpath : key.path = name :: rest)
    (hs : ofEntries old = .ok s) (h : Replaces P rest (Keyed.get? name old) d) :
    ∃ found, P found
      ∧ (∀ t, found = .text t → ∃ s', key.reread s d = .ok s' ∧ s'.valueAt? key = some (.text t))
      ∧ ((∀ t, found ≠ .text t) → key.reread s d = .error (.wrongType rest found wanted)) := by
  cases key with
  | commandFile | sandboxRoot =>
    cases hkey
    cases hpath
    refine ⟨d, h, ?_, fun hne => ?_⟩
    · rintro t rfl
      exact ⟨_, rfl, rfl⟩
    · rw [Key.reread, readText_of_ne hne]
      rfl
  | level =>
    cases hkey
    cases hpath
    obtain ⟨found, hP, hlevel, hnone⟩ := readLogging_of_replaces (ofEntries_eq_ok.1 hs).2.1 h
    refine ⟨found, hP, fun t ht => ?_, fun hne => ?_⟩
    · obtain ⟨l, hl, rfl⟩ := hlevel t ht
      exact ⟨{ s with logging := l }, by rw [Key.reread, hl]; rfl, rfl⟩
    · rw [Key.reread, hnone hne]
      rfl
  | _ => cases hkey

/-- Settings are read of a table in which one that has to be a text is replaced, if it is one. -/
theorem exists_of_replaces {key : Key} {wanted : Kind} (hkey : key.wanted? = some wanted)
    (hs : ofEntries old = .ok s) (h : Replaces P key.path (some (.map old)) (.map new)) :
    ∃ found, P found
      ∧ (∀ t, found = .text t → ∃ s, ofEntries new = .ok s ∧ s.valueAt? key = some (.text t))
      ∧ ((∀ t, found ≠ .text t) →
        ofEntries new = .error (.wrongType key.path found wanted)) := by
  obtain ⟨name, rest, hpath⟩ : ∃ name rest, key.path = name :: rest := by
    cases key <;> exact ⟨_, _, rfl⟩
  rw [hpath] at h ⊢
  obtain ⟨-, ⟨d, hd, hreplaces⟩, hbeside⟩ := h
  rw [at?_singleton] at hd
  rw [Option.bind_some, at?_singleton] at hreplaces
  have hread : ofEntries new = (key.reread s d).mapError (·.under name) := by
    refine ofEntries_of_replaced hkey hpath hs hd fun other hother => ?_
    simpa only [Option.bind_some, at?_singleton] using hbeside other hother
  obtain ⟨found, hP, htext, hne⟩ := exists_reread hkey hpath hs hreplaces
  rw [hread]
  refine ⟨found, hP, fun t ht => ?_, fun hno => ?_⟩
  · obtain ⟨s', hs', hvalue⟩ := htext t ht
    exact ⟨s', by rw [hs']; rfl, hvalue⟩
  · rw [hne hno]
    rfl

end Reading

section Runs

variable {workingDirectory : Location} {before after : List (Text × Text)} {path name v : Text}
  {events : List Event} {s : Settings} {P : Datum → Prop} {said new : Datum}
  {document : Option Datum}

theorem ofLayers_of_isMap (document : Option Datum) (h : said.IsMap) :
    ∃ entries, atop (some (document.getD (.map []))) said = .map entries
      ∧ ofLayers document said = ofEntries entries := by
  have hmap := isMap_atop (some (document.getD (.map []))) h
  cases hupper : atop (some (document.getD (.map []))) said with
  | map entries =>
    refine ⟨entries, rfl, ?_⟩
    rw [atop] at hupper
    rw [ofLayers, hupper]
  | _ =>
    rw [hupper] at hmap
    cases hmap

theorem exists_ofLayers {key : Key} {wanted : Kind} (hkey : key.wanted? = some wanted)
    (hP : ∀ lower d, P d → P (atop lower d)) (hsaid : Ordered said) (hleads : Leads key.path said)
    (hnew : Ordered new) (h : Replaces P key.path (some said) new)
    (hs : ofLayers document said = .ok s) :
    ∃ found, P found
      ∧ (∀ t, found = .text t →
        ∃ s, ofLayers document new = .ok s ∧ s.valueAt? key = some (.text t))
      ∧ ((∀ t, found ≠ .text t) →
        ofLayers document new = .error (.wrongType key.path found wanted)) := by
  have hsaidMap : said.IsMap := by
    cases said with
    | map entries => trivial
    | _ => cases key <;> cases hleads
  have hnewMap : new.IsMap := by
    cases key <;> exact h.1
  have hboth := h.atop hP (fun d hd => Option.mem_some_iff.1 hd ▸ ⟨hsaid, hleads⟩) hnew
    (some (document.getD (.map [])))
  obtain ⟨old, hold, hsettings⟩ := ofLayers_of_isMap document hsaidMap
  obtain ⟨entries, hentries, hread⟩ := ofLayers_of_isMap document hnewMap
  rw [Option.elim_some, hold, hentries] at hboth
  rw [hsettings] at hs
  rw [hread]
  exact exists_of_replaces hkey hs hboth

theorem atop_text (lower : Option Datum) (t : Text) : atop lower (.text t) = .text t := by
  rcases lower with _ | lower
  · rfl
  · exact overlay_of_not_isMap lower id

theorem atop_ne_text (lower : Option Datum) {d : Datum} (h : ∀ t, d ≠ .text t) :
    ∀ t, atop lower d ≠ .text t := by
  cases d with
  | map entries =>
    have hmap := isMap_atop lower (isMap_map entries)
    intro t ht
    rw [ht] at hmap
    cases hmap
  | _ =>
    rcases lower with _ | lower
    · exact h
    · rwa [atop, overlay_of_not_isMap lower id]

/-- What one more variable changes, where settings come of the others. -/
theorem conclude_of_variable {found : Except Mistake (Option Datum)} {key : Key} {wanted : Kind}
    (hkey : key.wanted? = some wanted) (hname : pathOf? name = some key.path)
    (hothers : ApartFrom key.path (before ++ after))
    (hs : conclude (before ++ after) found = .ok (.ok s)) :
    match ofVariable v with
    | .ok (.text t) => ∃ s, conclude (before ++ (name, v) :: after) found = .ok (.ok s)
        ∧ s.valueAt? key = some (.text t)
    | .ok _ => ∃ d, conclude (before ++ (name, v) :: after) found
        = .ok (.error (.wrongType key.path d wanted))
    | .error why => conclude (before ++ (name, v) :: after) found = .error why := by
  obtain ⟨said, hsaid, hs⟩ := map_eq_ok.1 hs
  obtain ⟨document, rfl, hs⟩ := bind_eq_ok.1 hs
  have hleads := leads_of_ofEnvironment hothers hsaid
  have hafter : ApartFrom key.path after := fun w hw => hothers w (List.mem_append_right _ hw)
  -- what is found in place of the setting is the value of the variable, up to what `P` says of it
  have hreplaced : ∀ {d : Datum} {P : Datum → Prop}, ofVariable v = .ok d → P d →
      (∀ lower d, P d → P (atop lower d)) →
      ∃ new, ofEnvironment (before ++ (name, v) :: after) = .ok new
        ∧ ∃ found, P found
          ∧ (∀ t, found = .text t →
            ∃ s, ofLayers document new = .ok s ∧ s.valueAt? key = some (.text t))
          ∧ ((∀ t, found ≠ .text t) →
            ofLayers document new = .error (.wrongType key.path found wanted)) := by
    intro d P hv hd hP
    obtain ⟨new, hnew, hreplaces⟩ := replaces_of_variable (v := (name, v)) hname hv
      (fun lower => hP lower d hd) hafter hsaid
    exact ⟨new, hnew, exists_ofLayers hkey hP (ordered_of_ofEnvironment hsaid) hleads
      (ordered_of_ofEnvironment hnew) hreplaces hs⟩
  split
  · rename_i t hv
    obtain ⟨new, hnew, found, rfl, hread, -⟩ := hreplaced (P := (· = .text t)) hv rfl
      fun lower d hd => by rw [hd, atop_text]
    obtain ⟨s, hs, hvalue⟩ := hread t rfl
    exact ⟨s, (conclude_of_said hnew document).trans (congrArg Except.ok hs), hvalue⟩
  · rename_i d hd hv
    have hne : ∀ t, d ≠ .text t := fun t ht => hd t ht
    obtain ⟨new, hnew, found, hfound, -, hread⟩ := hreplaced (P := fun d => ∀ t, d ≠ .text t) hv hne
      fun lower d hd => atop_ne_text lower hd
    exact ⟨found, (conclude_of_said hnew document).trans (congrArg Except.ok (hread hfound))⟩
  · rename_i why hv
    rw [conclude, ofEnvironment_of_crash (v := (name, v)) hname hv hsaid]
    rfl

/-- Settings come with the text of the value exactly if the value reads as that text. -/
theorem conclude_decides {found : Except Mistake (Option Datum)} {key : Key} {wanted : Kind}
    (hkey : key.wanted? = some wanted) (hname : pathOf? name = some key.path)
    (hothers : ApartFrom key.path (before ++ after))
    (hs : conclude (before ++ after) found = .ok (.ok s)) :
    let result := conclude (before ++ (name, v) :: after) found
    ((∃ s, result = .ok (.ok s) ∧ s.valueAt? key = some (.text v)) ↔ ofVariable v = .ok (.text v))
      ∧ (∀ d, ofVariable v = .ok d → (∀ t, d ≠ .text t) →
        ∃ found, result = .ok (.error (.wrongType key.path found wanted)))
      ∧ ∀ why, ofVariable v = .error why → result = .error why := by
  have hresult := conclude_of_variable (v := v) hkey hname hothers hs
  dsimp only
  split at hresult
  · rename_i t hv
    obtain ⟨s, hs, hvalue⟩ := hresult
    rw [hs, hv]
    refine ⟨⟨?_, ?_⟩, ?_, by simp⟩
    · rintro ⟨_, ⟨⟩, hvalue'⟩
      cases hvalue.symm.trans hvalue'
      rfl
    · rintro ⟨⟩
      exact ⟨s, rfl, hvalue⟩
    · rintro _ ⟨⟩ hne
      exact absurd rfl (hne t)
  · rename_i d hd hv
    obtain ⟨found, hfound⟩ := hresult
    rw [hfound, hv]
    refine ⟨⟨?_, ?_⟩, fun _ _ _ => ⟨found, rfl⟩, by simp⟩
    · rintro ⟨_, ⟨⟩, -⟩
    · rintro ⟨⟩
      exact absurd rfl (hd v)
  · rename_i why hv
    rw [hresult, hv]
    refine ⟨⟨?_, ?_⟩, by simp, ?_⟩
    · rintro ⟨_, ⟨⟩, -⟩
    · rintro ⟨⟩
    · rintro _ ⟨⟩
      rfl

/-- A variable that speaks of a setting which has to be a text gives it the text of its value
exactly if the value reads as that text: one that no quote, bracket or brace begins does so unless
all of it is a truth value or a number. If it reads as no text at all, nothing is loaded. -/
theorem overridden_of_runs {key : Key} {wanted : Kind} (hkey : key.wanted? = some wanted)
    (hname : pathOf? name = some key.path) (hothers : ApartFrom key.path (before ++ after))
    (run : Runs (loadFrom workingDirectory (before ++ after) path) events (.ok (.ok s))) :
    ∃ result, (∀ r, Runs (loadFrom workingDirectory (before ++ (name, v) :: after) path) events r
        ↔ r = result)
      ∧ ((∃ s, result = .ok (.ok s) ∧ s.valueAt? key = some (.text v)) ↔
        ofVariable v = .ok (.text v))
      ∧ (v.trim = v → (∀ c ∈ v.head?, ¬ beginsMore c) →
        ((∃ s, result = .ok (.ok s) ∧ s.valueAt? key = some (.text v)) ↔
          v ≠ "true".toList ∧ v ≠ "false".toList ∧ ((∃ c ∈ v, endsWord c) ∨ ¬ IsNumber v)))
      ∧ (∀ d, ofVariable v = .ok d → (∀ t, d ≠ .text t) →
        ∃ found, result = .ok (.error (.wrongType key.path found wanted)))
      ∧ ∀ why, ofVariable v = .error why → result = .error why := by
  obtain ⟨document, hrun, hconclude⟩ := runs_loadFrom_iff.1 run
  obtain ⟨hkept, hrefused, hcrash⟩ :=
    conclude_decides (v := v) hkey hname hothers hconclude.symm
  exact ⟨_, (runs_loadFrom_iff.2 ⟨document, hrun, rfl⟩).iff_eq, hkept,
    fun htrim hhead => hkept.trans (ofVariable_eq_text_iff htrim hhead), hrefused, hcrash⟩

/-- A level with a comma in it is one text, beside the level of a module and over that of the
file. -/
theorem overridden_of_runs_comma :
    let file := Utf8.encode "[logging]\ndefault = 'info'\n".toList
    let others := [("CMDWATCH_LOGGING__MODULES__NET".toList, "debug".toList)]
    let added := ("CMDWATCH_LOGGING__DEFAULT".toList, "warn,net=trace".toList)
    ∃ s, Runs (loadFrom ⟨[]⟩ (added :: others) "s".toList) (fetching file) (.ok (.ok s))
      ∧ s.valueAt? .level = some (.text "warn,net=trace".toList) := by
  intro file others added
  have hdocument : Toml.document? "[logging]\ndefault = 'info'\n".toList
      = some (nest Key.level.path (.text "info".toList)) := by
    have hheader : Toml.Spells "[logging]\n".toList (some [.table ["logging".toList]]) :=
      Toml.spells_of_line (by decide) (some (.table _)) fun _ => rfl
    have hentry := spells_entryLine "default".toList
      (readsAs_literal (s := "info".toList) (by decide) (by decide))
    have hlines : "[logging]\ndefault = 'info'\n".toList
        = "[logging]\n".toList
          ++ entryLine (quotedName "default".toList) (literal "info".toList) := by
      decide +kernel
    rw [hlines]
    exact document?_section [] rfl hheader hentry
  have hread : ofDocument? (nest Key.level.path (.text "info".toList))
      = some (nest Key.level.path (.text "info".toList)) :=
    ofDocument?_of_clear (List.forall_mem_singleton.2
      (.map (List.forall_mem_singleton.2 (by decide)) (List.forall_mem_singleton.2 (.text _))))
  have hmodule : pathOf? "CMDWATCH_LOGGING__MODULES__NET".toList
      = some (Key.module "net".toList).path := by
    decide +kernel
  have hlevel : pathOf? "CMDWATCH_LOGGING__DEFAULT".toList = some Key.level.path := by
    decide +kernel
  have hsaid : ofEnvironment others
      = .ok (nest (Key.module "net".toList).path (.text "debug".toList)) := by
    have hlast := ofEnvironment_concat [] ("CMDWATCH_LOGGING__MODULES__NET".toList, "debug".toList)
    rw [hmodule] at hlast
    exact hlast
  have hlayers : ofLayers (some (nest Key.level.path (.text "info".toList)))
      (nest (Key.module "net".toList).path (.text "debug".toList))
        = .ok { Settings.default with
            logging := ⟨"info".toList, .ofList [("net".toList, "debug".toList)]⟩ } :=
    rfl
  have hothers : ApartFrom Key.level.path ([] ++ others) := by
    intro v hv other hother
    cases List.mem_singleton.1 hv
    cases hmodule.symm.trans hother
    exact ⟨by decide, by decide⟩
  have run := runs_fetching others file
  rw [documentIn_encode hdocument hread, conclude_of_said hsaid, hlayers] at run
  obtain ⟨result, hresult, hvalue, -⟩ :=
    overridden_of_runs (v := "warn,net=trace".toList) rfl hlevel hothers run
  obtain ⟨s, rfl, hs⟩ := hvalue.2 rfl
  exact ⟨s, (hresult _).2 rfl, hs⟩

/-- A command file whose name is a numeral is refused. -/
theorem not_overridden_of_numeral :
    let file := Utf8.encode []
    (∃ s, Runs (loadFrom ⟨[]⟩ [] "s".toList) (fetching file) (.ok (.ok s)))
      ∧ ∀ r, Runs (loadFrom ⟨[]⟩ [("CMDWATCH_COMMAND_FILE".toList, "12".toList)] "s".toList)
          (fetching file) r
        ↔ r = .ok (.error (.wrongType Key.commandFile.path (.unsigned 12) .path)) := by
  intro file
  have hdocument : Toml.document? [] = some (.map []) := rfl
  have hname : pathOf? "CMDWATCH_COMMAND_FILE".toList = some Key.commandFile.path := by
    decide +kernel
  have hsaid : ofEnvironment [("CMDWATCH_COMMAND_FILE".toList, "12".toList)]
      = .ok (nest Key.commandFile.path (.unsigned 12)) := by
    have hlast := ofEnvironment_concat [] ("CMDWATCH_COMMAND_FILE".toList, "12".toList)
    rw [hname] at hlast
    exact hlast
  have hdefault : ofLayers (some (.map [])) (.map []) = .ok .default := rfl
  have hrefused : ofLayers (some (.map [])) (nest Key.commandFile.path (.unsigned 12))
      = .error (.wrongType Key.commandFile.path (.unsigned 12) .path) := rfl
  have without := runs_fetching [] file
  have run := runs_fetching [("CMDWATCH_COMMAND_FILE".toList, "12".toList)] file
  rw [documentIn_encode hdocument rfl, conclude_of_said rfl, hdefault] at without
  rw [documentIn_encode hdocument rfl, conclude_of_said hsaid, hrefused] at run
  exact ⟨⟨_, without⟩, run.iff_eq⟩

end Runs

end Settings

end FileClerk
