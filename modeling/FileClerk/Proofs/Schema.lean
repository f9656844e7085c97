import FileClerk.Proofs.Layering
import FileClerk.Proofs.Levels
import FileClerk.Settings.Layers

/-!
# The settings one by one

Each setting has a path of names and a type of its own. A datum that has tables on the way to every
setting, and nothing of another type where one is found, is read as settings, and each of these is
what the datum says of it or else its default (`exists_ofEntries`).
-/

namespace FileClerk

namespace Settings

open Datum

/-- The settings that are given one by one. -/
inductive Key where
  | version
  | commandFile
  | sandboxRoot
  | settle
  | capacity
  | level
  | module (name : Text)
  deriving DecidableEq

inductive Value where
  | number (n : Nat)
  | text (s : Text)
  deriving DecidableEq, Repr

namespace Key

def path : Key → List Text
  | version => ["version".toList]
  | commandFile => ["command_file".toList]
  | sandboxRoot => ["sandbox_root".toList]
  | settle => ["watch".toList, "settle_ms".toList]
  | capacity => ["watch".toList, "channel_capacity".toList]
  | level => ["logging".toList, "default".toList]
  | module name => ["logging".toList, "modules".toList, name]

/-- The whole number a datum is, from zero up to a limit. -/
def nat? (limit : Nat) : Datum → Option Nat
  | .signed n => if 0 ≤ n ∧ n ≤ limit then some n.toNat else none
  | .unsigned n => if n ≤ limit then some n else none
  | _ => none

def text? : Datum → Option Text
  | .text s => some s
  | _ => none

/-- The value a datum is of a setting's type. -/
def read? : Key → Datum → Option Value
  | version, d => (nat? 0xFFFFFFFF d).map .number
  | settle, d | capacity, d => (nat? 0xFFFFFFFFFFFFFFFF d).map .number
  | commandFile, d | sandboxRoot, d | level, d | module _, d => (text? d).map .text

/-- What a datum says of a setting. -/
def said? (key : Key) (d : Datum) : Option Value := (d.at? key.path).bind key.read?

end Key

/-- The value that settings have under a key; only a root and levels of modules may be missing. -/
def valueAt? (s : Settings) : Key → Option Value
  | .version => some (.number s.version.toNat)
  | .commandFile => some (.text s.commandFile)
  | .sandboxRoot => s.sandboxRoot.map .text
  | .settle => some (.number s.watching.settle.toNat)
  | .capacity => some (.number s.watching.capacity.toNat)
  | .level => some (.text s.logging.level)
  | .module name => (s.logging.modules.entries.get? name).map .text

/-- A datum has tables where settings are looked for, and settings of their types in them. -/
structure WellTyped (d : Datum) : Prop where
  leads : ∀ key : Key, Leads key.path d
  typed : ∀ (key : Key) (found : Datum), d.at? key.path = some found → (key.read? found).isSome

section Reading

variable {entries : List (Text × Datum)} {d : Datum}

theorem readNat_of_nat? (wanted : Kind) {limit n : Nat} (h : Key.nat? limit d = some n) :
    readNat wanted limit d = .ok n ∧ n ≤ limit := by
  unfold Key.nat? at h
  split at h
  · rename_i m
    rw [Option.ite_none_right_eq_some] at h
    obtain ⟨hle, h⟩ := h
    cases h
    exact ⟨if_pos hle, by omega⟩
  · rename_i m
    rw [Option.ite_none_right_eq_some] at h
    obtain ⟨hle, h⟩ := h
    cases h
    exact ⟨if_pos hle, hle⟩
  · cases h

theorem exists_word32 {say : Datum → Option Value}
    (hsay : say d = (Key.nat? 0xFFFFFFFF d).map .number) (h : (say d).isSome) :
    ∃ a v, readWord32 d = .ok a ∧ say d = some v ∧ some (.number a.toNat) = some v := by
  rw [hsay, Option.isSome_map] at h
  obtain ⟨n, hn⟩ := Option.isSome_iff_exists.1 h
  obtain ⟨hread, hle⟩ := readNat_of_nat? .word32 hn
  have hnat : n.toUInt32.toNat = n := UInt32.toNat_ofNat_of_lt' (Nat.lt_succ_of_le hle)
  refine ⟨n.toUInt32, .number n, by rw [readWord32, hread]; rfl, by rw [hsay, hn]; rfl, ?_⟩
  rw [hnat]

theorem exists_word64 {say : Datum → Option Value} (wanted : Kind)
    (hsay : say d = (Key.nat? 0xFFFFFFFFFFFFFFFF d).map .number) (h : (say d).isSome) :
    ∃ a v, readWord64 wanted d = .ok a ∧ say d = some v ∧ some (.number a.toNat) = some v := by
  rw [hsay, Option.isSome_map] at h
  obtain ⟨n, hn⟩ := Option.isSome_iff_exists.1 h
  obtain ⟨hread, hle⟩ := readNat_of_nat? wanted hn
  have hnat : n.toUInt64.toNat = n := UInt64.toNat_ofNat_of_lt' (Nat.lt_succ_of_le hle)
  refine ⟨n.toUInt64, .number n, by rw [readWord64, hread]; rfl, by rw [hsay, hn]; rfl, ?_⟩
  rw [hnat]

theorem exists_text {say : Datum → Option Value} (hsay : say d = (Key.text? d).map .text)
    (h : (say d).isSome) : ∃ s, d = .text s ∧ say d = some (.text s) := by
  rw [hsay] at h ⊢
  cases d with
  | text s => exact ⟨s, rfl, rfl⟩
  | _ => cases h

/-- A part that is of its type where it is found has the value it says, or else its default. -/
theorem exists_part {α : Type} {found : Option Datum} (name : Text) (read : Read α) (default : α)
    (value : α → Option Value) (say : Datum → Option Value)
    (h : ∀ d, found = some d → ∃ a v, read d = .ok a ∧ say d = some v ∧ value a = some v) :
    ∃ a, part name found read default = .ok a ∧ value a = (found.bind say).or (value default) := by
  cases found with
  | none => exact ⟨default, rfl, rfl⟩
  | some d =>
    obtain ⟨a, v, hread, hsay, hvalue⟩ := h d rfl
    refine ⟨a, by rw [part, hread]; rfl, ?_⟩
    rw [Option.bind_some, hsay, hvalue]
    rfl

theorem readWatching_of_parts {w : Watching} (hcapacity : part "channel_capacity".toList
      (Keyed.get? "channel_capacity".toList entries) (readWord64 .size) default.watching.capacity
        = .ok w.capacity)
    (hsettle : part "settle_ms".toList (Keyed.get? "settle_ms".toList entries) (readWord64 .word64)
      default.watching.settle = .ok w.settle) : readWatching (.map entries) = .ok w := by
  unfold readWatching
  dsimp only
  rw [hcapacity, hsettle]
  rfl

theorem readLogging_of_parts {l : Logging} (hlevel : part "default".toList
      (Keyed.get? "default".toList entries) (readText .string) default.logging.level = .ok l.level)
    (hmodules : part "modules".toList (Keyed.get? "modules".toList entries) readLevels
      default.logging.modules = .ok l.modules) : readLogging (.map entries) = .ok l := by
  unfold readLogging
  dsimp only
  rw [hlevel, hmodules]
  rfl

theorem ofEntries_of_parts {s : Settings}
    (hcommand : part "command_file".toList (Keyed.get? "command_file".toList entries)
      (readText .path) default.commandFile = .ok s.commandFile)
    (hlogging : part "logging".toList (Keyed.get? "logging".toList entries) readLogging
      default.logging = .ok s.logging)
    (hroot : part "sandbox_root".toList (Keyed.get? "sandbox_root".toList entries)
      (fun d => (readText .path d).map some) default.sandboxRoot = .ok s.sandboxRoot)
    (hversion : part "version".toList (Keyed.get? "version".toList entries) readWord32
      default.version = .ok s.version)
    (hwatching : part "watch".toList (Keyed.get? "watch".toList entries) readWatching
      default.watching = .ok s.watching) : ofEntries entries = .ok s := by
  unfold ofEntries
  dsimp only
  rw [hcommand, hlogging, hroot, hversion, hwatching]
  rfl

theorem exists_watching (h : WellTyped (.map entries)) :
    ∃ w, part "watch".toList (Keyed.get? "watch".toList entries) readWatching default.watching
        = .ok w
      ∧ some (.number w.settle.toNat)
        = (Key.settle.said? (.map entries)).or (default.valueAt? .settle)
      ∧ some (.number w.capacity.toNat)
        = (Key.capacity.said? (.map entries)).or (default.valueAt? .capacity) := by
  unfold Key.said? Key.path
  rw [at?_cons, at?_cons]
  cases hfound : Keyed.get? "watch".toList entries with
  | none => exact ⟨default.watching, rfl, rfl, rfl⟩
  | some d =>
    have hleads : Leads ["settle_ms".toList] d := h.leads .settle d hfound
    cases d with
    | map sub =>
      have htyped : ∀ (key : Key) (name : Text) d, key.path = ["watch".toList, name] →
          Keyed.get? name sub = some d → (key.read? d).isSome := by
        intro key name d hpath hd
        refine h.typed key d ?_
        rw [hpath, at?_cons, hfound, Option.bind_some, at?_singleton, hd]
      obtain ⟨capacity, hcapacity, hcapacityValue⟩ := exists_part "channel_capacity".toList
        (readWord64 .size) default.watching.capacity (fun n => some (.number n.toNat))
        Key.capacity.read? fun d hd => exists_word64 .size rfl (htyped .capacity _ d rfl hd)
      obtain ⟨settle, hsettle, hsettleValue⟩ := exists_part "settle_ms".toList
        (readWord64 .word64) default.watching.settle (fun n => some (.number n.toNat))
        Key.settle.read? fun d hd => exists_word64 .word64 rfl (htyped .settle _ d rfl hd)
      have hread : readWatching (.map sub) = .ok ⟨settle, capacity⟩ :=
        readWatching_of_parts hcapacity hsettle
      refine ⟨⟨settle, capacity⟩, by rw [part, hread]; rfl, ?_, ?_⟩
      · rw [Option.bind_some, at?_singleton]
        exact hsettleValue
      · rw [Option.bind_some, at?_singleton]
        exact hcapacityValue
    | _ => cases hleads

theorem exists_levels {sub : List (Text × Datum)} (hordered : Keyed.Ordered sub)
    (htyped : ∀ name d, Keyed.get? name sub = some d → ((Key.module name).read? d).isSome) :
    ∃ levels, readLevels (.map sub) = .ok levels ∧ ∀ name, (levels.entries.get? name).map .text
      = (Keyed.get? name sub).bind (Key.module name).read? := by
  have htexts : ∀ e ∈ sub, ∃ s, e.2 = .text s := by
    intro e he
    obtain ⟨s, hs, -⟩ := exists_text rfl (htyped e.1 e.2 ((Keyed.get?_eq_some_iff hordered).2 he))
    exact ⟨s, hs⟩
  obtain ⟨levels, rfl⟩ := exists_levelData htexts
  have hlevels : Keyed.Ordered levels := by
    simpa [Keyed.Ordered, levelData, List.pairwise_map] using hordered
  refine ⟨_, readLevels_levelData levels, fun name => ?_⟩
  rw [entries_ofList hlevels, get?_levelData]
  cases Keyed.get? name levels <;> rfl

theorem exists_modules {sub : List (Text × Datum)} (hordered : Ordered (.map sub))
    (hleads : Leads ["modules".toList, []] (.map sub))
    (htyped : ∀ name d, at? ["modules".toList, name] (.map sub) = some d →
      ((Key.module name).read? d).isSome) :
    ∃ modules, part "modules".toList (Keyed.get? "modules".toList sub) readLevels
        default.logging.modules = .ok modules
      ∧ ∀ name, (modules.entries.get? name).map .text
        = (at? ["modules".toList, name] (.map sub)).bind (Key.module name).read? := by
  simp only [at?_cons] at htyped ⊢
  cases hmodules : Keyed.get? "modules".toList sub with
  | none => exact ⟨default.logging.modules, rfl, fun _ => rfl⟩
  | some d =>
    have hlevelsMap : Leads [[]] d := hleads _ hmodules
    cases d with
    | map levels =>
      have hmoduleTyped : ∀ name d, Keyed.get? name levels = some d →
          ((Key.module name).read? d).isSome := by
        intro name d hd
        refine htyped name d ?_
        rw [hmodules, Option.bind_some, at?_singleton, hd]
      obtain ⟨modules, hread, hvalue⟩ := exists_levels (hordered.get? hmodules).names hmoduleTyped
      refine ⟨modules, by rw [part, hread]; rfl, fun name => ?_⟩
      rw [hvalue, Option.bind_some, at?_singleton]
    | _ => cases hlevelsMap

theorem exists_logging (hordered : Ordered (.map entries)) (h : WellTyped (.map entries)) :
    ∃ l, part "logging".toList (Keyed.get? "logging".toList entries) readLogging default.logging
        = .ok l
      ∧ some (.text l.level) = (Key.level.said? (.map entries)).or (default.valueAt? .level)
      ∧ ∀ name, (l.modules.entries.get? name).map .text
        = ((Key.module name).said? (.map entries)).or (default.valueAt? (.module name)) := by
  unfold Key.said? Key.path
  simp only [at?_cons]
  cases hfound : Keyed.get? "logging".toList entries with
  | none => exact ⟨default.logging, rfl, rfl, fun _ => rfl⟩
  | some d =>
    have hleads : Leads ["default".toList] d := h.leads .level d hfound
    cases d with
    | map sub =>
      have htyped : ∀ (key : Key) (path : List Text) d, key.path = "logging".toList :: path →
          at? path (.map sub) = some d → (key.read? d).isSome := by
        intro key path d hpath hd
        refine h.typed key d ?_
        rw [hpath, at?_cons, hfound, Option.bind_some, hd]
      have hlevelTyped : ∀ d, Keyed.get? "default".toList sub = some d →
          ∃ s v, readText .string d = .ok s ∧ Key.level.read? d = some v
            ∧ some (.text s) = some v := by
        intro d hd
        have hsome : (Key.level.read? d).isSome := by
          refine htyped .level ["default".toList] d rfl ?_
          rw [at?_singleton, hd]
        obtain ⟨s, rfl, hs⟩ := exists_text rfl hsome
        exact ⟨s, .text s, rfl, hs, rfl⟩
      obtain ⟨level, hlevel, hlevelValue⟩ := exists_part "default".toList (readText .string)
        default.logging.level (fun s => some (.text s)) Key.level.read? hlevelTyped
      obtain ⟨modules, hmodules, hmodulesValue⟩ := exists_modules (hordered.get? hfound)
        (h.leads (.module []) _ hfound) fun name d hd => htyped (.module name) _ d rfl hd
      have hread : readLogging (.map sub) = .ok ⟨level, modules⟩ :=
        readLogging_of_parts hlevel hmodules
      refine ⟨⟨level, modules⟩, by rw [part, hread]; rfl, ?_, fun name => ?_⟩
      · rw [Option.bind_some, at?_singleton]
        exact hlevelValue
      · rw [Option.bind_some, hmodulesValue]
        exact (Option.or_none).symm
    | _ => cases hleads

/-- A datum of the right types is read as settings, each as it says or else by default. -/
theorem exists_ofEntries (hordered : Ordered (.map entries)) (h : WellTyped (.map entries)) :
    ∃ s, ofEntries entries = .ok s
      ∧ ∀ key : Key, s.valueAt? key = (key.said? (.map entries)).or (default.valueAt? key) := by
  have htyped : ∀ (key : Key) (name : Text) d, key.path = [name] →
      Keyed.get? name entries = some d → (key.read? d).isSome := by
    intro key name d hpath hd
    refine h.typed key d ?_
    rw [hpath, at?_singleton, hd]
  obtain ⟨commandFile, hcommand, hcommandValue⟩ := exists_part "command_file".toList
    (readText .path) default.commandFile (fun s => some (.text s)) Key.commandFile.read? (by
      intro d hd
      obtain ⟨s, rfl, hs⟩ := exists_text rfl (htyped .commandFile _ d rfl hd)
      exact ⟨s, .text s, rfl, hs, rfl⟩)
  obtain ⟨logging, hlogging, hlevelValue, hmoduleValue⟩ := exists_logging hordered h
  obtain ⟨sandboxRoot, hroot, hrootValue⟩ := exists_part "sandbox_root".toList
    (fun d => (readText .path d).map some) default.sandboxRoot (Option.map .text)
    Key.sandboxRoot.read? (by
      intro d hd
      obtain ⟨s, rfl, hs⟩ := exists_text rfl (htyped .sandboxRoot _ d rfl hd)
      exact ⟨some s, .text s, rfl, hs, rfl⟩)
  obtain ⟨version, hversion, hversionValue⟩ := exists_part "version".toList readWord32
    default.version (fun n => some (.number n.toNat)) Key.version.read?
    fun d hd => exists_word32 rfl (htyped .version _ d rfl hd)
  obtain ⟨watching, hwatching, hsettleValue, hcapacityValue⟩ := exists_watching h
  refine ⟨⟨version, commandFile, sandboxRoot, watching, logging⟩,
    ofEntries_of_parts hcommand hlogging hroot hversion hwatching, fun key => ?_⟩
  unfold Key.said?
  cases key with
  | version =>
    rw [Key.path, at?_singleton]
    exact hversionValue
  | commandFile =>
    rw [Key.path, at?_singleton]
    exact hcommandValue
  | sandboxRoot =>
    rw [Key.path, at?_singleton]
    exact hrootValue
  | settle => exact hsettleValue
  | capacity => exact hcapacityValue
  | level => exact hlevelValue
  | module name => exact hmoduleValue name

end Reading

end Settings

end FileClerk
