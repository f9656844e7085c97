import Mathlib.Data.List.Induction
import Mathlib.Tactic.SplitIfs
import FileClerk.CommandLine.Program
import FileClerk.Proofs.Law

/-!
# Watches that can be built

Of the choices for a watch the last one of each kind is what counts, whatever order they were made
in (`ofChoices_eq`). A watch is built by finding what it is to watch, opening a channel and
listening, and only the second of these can crash (`buildIn_eq_error_iff`). No choice makes a
channel without a place. One with too many is not prevented: the numbers of places that settings can
hold go beyond the limit of a channel, and a choice of such a number is taken as it is
(`built_of_choices`), also by the program that is to watch (`opening_of_startWatch`).
-/

namespace FileClerk

namespace Watch

variable {α : Type} {around : Surroundings} {setup : Setup} {choices : List Choice}

namespace Choice

def file? : Choice → Option Text
  | .commandFile path => some path
  | _ => none

def root? : Choice → Option Text
  | .root path => some path
  | _ => none

def time? : Choice → Option UInt64
  | .settle time => some time
  | _ => none

def places? : Choice → Option UInt64
  | .capacity places => some places
  | _ => none

/-- The last of the choices that `read` is about. -/
def last? (read : Choice → Option α) (choices : List Choice) : Option α :=
  (choices.filterMap read).getLast?

theorem last?_concat (read : Choice → Option α) (choices : List Choice) (choice : Choice) :
    last? read (choices ++ [choice]) = (read choice <|> last? read choices) := by
  rw [last?, List.filterMap_append, List.getLast?_append]
  cases h : read choice <;> simp [h, last?]

end Choice

open Choice

/-- The places of a channel, of the number that was chosen last. -/
def placesOf (chosen : Option UInt64) : Nat := chosen.elim 64 fun places => max places.toNat 1

theorem ofChoices_eq (choices : List Choice) :
    Setup.ofChoices choices = {
      commandFile := last? file? choices
      root := last? root? choices
      settle := (last? time? choices).elim 100 UInt64.toNat
      capacity := placesOf (last? places? choices) } := by
  induction choices using List.reverseRecOn with
  | nil => rfl
  | append_singleton choices choice ih =>
    rw [Setup.ofChoices] at ih ⊢
    rw [List.foldl_append, ih]
    simp only [last?_concat]
    cases choice <;> rfl

theorem openChannel_eq_ok_iff {places opened : Nat} :
    openChannel places = .ok opened ↔ opened = places ∧ 1 ≤ places ∧ places ≤ channelLimit := by
  unfold openChannel
  split_ifs with hnone hmany
  · simp [hnone]
  · simp [hmany]
  · rw [Except.ok.injEq, eq_comm]
    refine (and_iff_left ⟨?_, ?_⟩).symm <;> omega

theorem openChannel_eq_error_iff {places : Nat} {why : Crash} :
    openChannel places = .error why ↔
      (why = .channelEmpty ∧ places = 0) ∨ (why = .channelTooLarge ∧ channelLimit < places) := by
  unfold openChannel
  split_ifs with hnone hmany
  · simp [hnone, eq_comm]
  · simp [hnone, hmany, eq_comm]
  · simp [hnone, hmany]

/-- There is a command file to watch, at a place other than the top, and a sandbox. -/
def Located (around : Surroundings) (file root : Option Text) : Prop :=
  ∃ path place, file = some path ∧ path ≠ [] ∧ around.locate path = .ok place ∧ place ≠ .top
    ∧ ∃ box, around.sandbox root = .ok box

theorem exists_target_iff :
    (∃ target, setup.target around = .ok target) ↔ Located around setup.commandFile setup.root := by
  unfold Setup.target
  constructor
  · rintro ⟨target, h⟩
    split at h
    · cases h
    rename_i path hpath
    split at h
    · cases h
    rename_i box hbox
    split_ifs at h with hempty
    split at h
    · cases h
    rename_i place hplace
    split_ifs at h with htop
    exact ⟨path, place, hpath, hempty, hplace, htop, box, hbox⟩
  · rintro ⟨path, place, hpath, hempty, hplace, htop, box, hbox⟩
    simp [hpath, hbox, hempty, hplace, htop]

theorem buildIn_eq_error_iff {why : Crash} :
    setup.buildIn around = .error why ↔
      Located around setup.commandFile setup.root ∧ openChannel setup.capacity = .error why := by
  rw [← exists_target_iff, Setup.buildIn]
  rcases setup.target around with error | ⟨file, box⟩
  · simp
  rcases openChannel setup.capacity with crash | places
  · simp
  rcases around.listening <;> simp

theorem buildIn_eq_ok_iff {watcher : Watcher} :
    setup.buildIn around = .ok (.ok watcher) ↔
      setup.target around = .ok (watcher.commandFile, watcher.box)
        ∧ openChannel setup.capacity = .ok watcher.capacity
        ∧ around.listening = .ok () ∧ setup.settle = watcher.settle := by
  obtain ⟨file, box, settle, capacity⟩ := watcher
  rw [Setup.buildIn]
  rcases setup.target around with error | ⟨file', box'⟩
  · simp
  rcases openChannel setup.capacity with crash | places
  · simp
  rcases around.listening with reason | _
  · simp
  · simp only [Except.ok.injEq, Watcher.mk.injEq, Prod.mk.injEq, true_and, and_assoc]
    exact and_congr_right' (and_congr_right' and_comm)

theorem placesOf_pos (chosen : Option UInt64) : 1 ≤ placesOf chosen := by
  cases chosen with
  | none => decide
  | some places => exact Nat.le_max_right _ _

theorem placesOf_le_channelLimit_iff {chosen : Option UInt64} :
    placesOf chosen ≤ channelLimit ↔ ∀ places ∈ chosen, places.toNat ≤ channelLimit := by
  have hone : 1 ≤ channelLimit := by decide
  cases chosen with
  | none => simp [placesOf, channelLimit]
  | some places =>
    have hmax : placesOf (some places) ≤ channelLimit ↔ places.toNat ≤ channelLimit :=
      Nat.max_le.trans (and_iff_left hone)
    simpa using hmax

theorem openChannel_placesOf_eq_error_iff {chosen : Option UInt64} {why : Crash} :
    openChannel (placesOf chosen) = .error why ↔
      why = .channelTooLarge ∧ ∃ places ∈ chosen, channelLimit < places.toNat := by
  have hpos : ¬ placesOf chosen = 0 := Nat.one_le_iff_ne_zero.1 (placesOf_pos chosen)
  have hlarge : channelLimit < placesOf chosen ↔
      ∃ places ∈ chosen, channelLimit < places.toNat := by
    rw [← not_iff_not]
    simpa using placesOf_le_channelLimit_iff
  rw [openChannel_eq_error_iff, ← hlarge]
  simp [hpos]

/-- Building ends in a watch or in the error of a watch, unless everything is in place and more
places were chosen last than a channel may have: then it crashes. A watch that was built has a place
and no more of them than a channel may have. -/
theorem built_of_choices (choices : List Choice) (around : Surroundings) :
    let built := (Setup.ofChoices choices).buildIn around
    let located := Located around (last? file? choices) (last? root? choices)
    (∀ why, built = .error why ↔ why = .channelTooLarge
        ∧ located ∧ ∃ places ∈ last? places? choices, channelLimit < places.toNat)
      ∧ ((∃ watcher, built = .ok (.ok watcher)) ↔
        located ∧ around.listening = .ok ()
          ∧ ∀ places ∈ last? places? choices, places.toNat ≤ channelLimit)
      ∧ ∀ watcher, built = .ok (.ok watcher) →
        watcher.capacity = placesOf (last? places? choices)
          ∧ 1 ≤ watcher.capacity ∧ watcher.capacity ≤ channelLimit := by
  have hsetup := ofChoices_eq choices
  refine ⟨fun why => ?_, ⟨?_, ?_⟩, fun watcher h => ?_⟩
  · rw [buildIn_eq_error_iff, hsetup, openChannel_placesOf_eq_error_iff, and_left_comm]
  · rintro ⟨watcher, h⟩
    obtain ⟨htarget, hopen, hlistens, -⟩ := buildIn_eq_ok_iff.1 h
    have hlocated := exists_target_iff.1 ⟨_, htarget⟩
    rw [hsetup] at hopen hlocated
    obtain ⟨-, -, hlimit⟩ := openChannel_eq_ok_iff.1 hopen
    exact ⟨hlocated, hlistens, placesOf_le_channelLimit_iff.1 hlimit⟩
  · rintro ⟨hlocated, hlistens, hplaces⟩
    have hopen : openChannel (Setup.ofChoices choices).capacity
        = .ok (placesOf (last? places? choices)) := by
      rw [hsetup]
      exact openChannel_eq_ok_iff.2
        ⟨rfl, placesOf_pos _, placesOf_le_channelLimit_iff.2 hplaces⟩
    have hfound : ∃ target, (Setup.ofChoices choices).target around = .ok target := by
      rw [exists_target_iff, hsetup]
      exact hlocated
    obtain ⟨⟨file, box⟩, htarget⟩ := hfound
    exact ⟨⟨file, box, _, _⟩, buildIn_eq_ok_iff.2 ⟨htarget, hopen, hlistens, rfl⟩⟩
  · obtain ⟨-, hopen, -⟩ := buildIn_eq_ok_iff.1 h
    rw [hsetup] at hopen
    obtain ⟨hcapacity, hpos, hlimit⟩ := openChannel_eq_ok_iff.1 hopen
    exact ⟨hcapacity, hcapacity ▸ hpos, hcapacity ▸ hlimit⟩

/-- One place more than a channel may have, chosen for a watch that could be built otherwise. -/
theorem crash_of_many_places :
    ¬ ∃ result, (Setup.ofChoices [.commandFile "x".toList, .capacity 2305843009213693952]).buildIn
      ⟨.ok ⟨["work".toList]⟩, .ok ()⟩ = .ok result := by
  have hcrash : (Setup.ofChoices [.commandFile "x".toList, .capacity 2305843009213693952]).buildIn
      ⟨.ok ⟨["work".toList]⟩, .ok ()⟩ = .error .channelTooLarge := by decide
  rintro ⟨result, h⟩
  rw [hcrash] at h
  cases h

end Watch

namespace CommandLine

open FileClerk.Action Watch

variable {workingDirectory : Location} {settings : Settings} {file root : Option Text}
  {settle : Option UInt64}

theorem obeys_ensureCommandFile {law : Law (Except Text Unit)}
    (hasks : ∀ past call, law.asks past call) (hends : ∀ past made, law.ends past (.ok made))
    (path : Text) (past : List Event) : (ensureCommandFile path).Obeys law past := by
  unfold ensureCommandFile
  refine ⟨hasks _ _, fun answer => ?_⟩
  show Obeys law (if _ then _ else _) _
  split_ifs
  · exact hends _ _
  cases (Path.parent? path).filter (· ≠ []) with
  | none =>
    refine ⟨hasks _ _, ?_⟩
    rintro (error | -)
    · exact hends _ _
    · exact hends _ _
  | some parent =>
    refine ⟨hasks _ _, ?_⟩
    rintro (error | -)
    · exact hends _ _
    · refine ⟨hasks _ _, ?_⟩
      rintro (error | -)
      · exact hends _ _
      · exact hends _ _

/-- Asks anything and crashes only where too many places are wanted; a watch has those wanted. -/
def opening (places : Nat) : Law (Except Text Watcher) where
  asks _ _ := True
  ends _ result := match result with
    | .error why => why = .channelTooLarge ∧ channelLimit < places
    | .ok (.ok watcher) => watcher.capacity = max places 1 ∧ places ≤ channelLimit
    | .ok (.error _) => True

theorem obeys_startWatch (past : List Event) :
    (startWatch workingDirectory settings file root settle).Obeys
      (opening settings.watching.capacity.toNat) past := by
  unfold startWatch
  refine (obeys_bind _).2 (obeys_ensureCommandFile (fun _ _ => trivial) ?_ _ _)
  rintro past (reason | _)
  · exact trivial
  dsimp only
  split
  · rename_i why hbuild
    have hopen : openChannel (placesOf settings.watching.capacity) = .error why :=
      (buildIn_eq_error_iff.1 hbuild).2
    simpa [opening, Obeys] using openChannel_placesOf_eq_error_iff.1 hopen
  · exact trivial
  · rename_i watcher hbuild
    have hopen : openChannel (placesOf settings.watching.capacity) = .ok watcher.capacity :=
      (buildIn_eq_ok_iff.1 hbuild).2.1
    obtain ⟨hcapacity, -, hlimit⟩ := openChannel_eq_ok_iff.1 hopen
    refine ⟨trivial, ?_⟩
    rintro (error | -)
    · exact trivial
    · exact ⟨hcapacity, placesOf_le_channelLimit_iff.1 hlimit _ rfl⟩

/-- The program that is to watch crashes only if its settings want more places than a channel may
have, and no such settings make it watch. -/
theorem opening_of_startWatch {events : List Event} {result : Except Crash (Except Text Watcher)}
    (run : Runs (startWatch workingDirectory settings file root settle) events result) :
    (opening settings.watching.capacity.toNat).ends events result :=
  (run.obeys_nil (obeys_startWatch [])).1

end CommandLine

end FileClerk
