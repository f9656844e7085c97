import FileClerk.Proofs.Law
import FileClerk.Proofs.Resolution

/-!
# Operations stay in the sandbox

Every path of every call that an operation makes is at or below the root, and a call that makes or
fills a file comes right after the one that makes the directory above it, unless the file is the
root itself (`confined_of_runs`). The directory above a place is no place that was resolved: it is
below the root because the place is, and the place is not the root.
-/

namespace FileClerk

namespace Path

/-- A path that is absolute, has a name in every segment, and begins with the segments of `top`. -/
def IsBelow (top : List Text) (path : Text) : Prop :=
  ∃ names, path = '/' :: ['/'].intercalate names ∧ (∀ n ∈ names, IsName n) ∧ top <+: names

end Path

/-- The file that a call makes or fills. -/
def Call.target? : Call → Option Text
  | .createEmpty p | .append p _ | .rename _ p | .copy _ p => some p
  | .isPresent _ | .createDirectories _ | .removeFile _ | .read _ | .list _ | .status _
  | .write _ _ => none

/-- The last step made the directory in which a path names an entry. -/
def DirectoryMade (past : List Event) (path : Text) : Prop :=
  ∃ names name, path = '/' :: ['/'].intercalate (names ++ [name])
    ∧ past.getLast? = some (.called (.createDirectories ('/' :: ['/'].intercalate names)) (.ok ()))

theorem Location.parent?_eq_some {place parent : Location} (h : place.parent? = some parent) :
    ∃ name, place.segments = parent.segments ++ [name] := by
  unfold parent? at h
  split_ifs at h with hne
  obtain rfl := Option.some.inj h
  exact ⟨_, (List.dropLast_append_getLast hne).symm⟩

namespace Sandbox

open FileClerk.Path

variable {α : Type} (box : Sandbox)

/-- What a call may name, and what comes before it. -/
def Allows (past : List Event) (call : Call) : Prop :=
  (∀ path ∈ call.paths, IsBelow box.root.segments path)
    ∧ ∀ target ∈ call.target?, target ≠ box.root.text → DirectoryMade past target

def confinement : Law α := ⟨box.Allows, fun _ _ => True⟩

/-- Every call of a run is one that the sandbox allows where it stands. -/
def Confines (events : List Event) : Prop :=
  ∀ before call answer after, events = before ++ .called call answer :: after →
    box.Allows before call

/-- A place at or below the root. -/
def Holds (place : Location) : Prop :=
  (∀ n ∈ place.segments, IsName n) ∧ box.root.segments <+: place.segments

/-- The action keeps to the sandbox, whatever came before it. -/
def Confined (action : Action α) : Prop := ∀ past, action.Obeys box.confinement past

variable {box}

theorem Holds.isBelow {place : Location} (h : box.Holds place) :
    IsBelow box.root.segments place.text :=
  ⟨place.segments, place.text_eq, h.1, h.2⟩

theorem Holds.isBelow_paths {place : Location} {call : Call} (h : box.Holds place)
    (hcall : call.paths = [place.text]) :
    ∀ path ∈ call.paths, IsBelow box.root.segments path := by
  intro path hpath
  rw [hcall, List.mem_singleton] at hpath
  exact hpath ▸ h.isBelow

theorem Holds.eq_root_or_parent {place parent : Location} (h : box.Holds place)
    (hparent : place.parent? = some parent) : place = box.root ∨ box.Holds parent := by
  obtain ⟨name, hname⟩ := Location.parent?_eq_some hparent
  obtain ⟨hnames, hpre⟩ := h
  rw [hname] at hnames hpre
  rcases List.prefix_concat_iff.1 hpre with heq | hpre
  · left
    cases place
    cases hroot : box.root
    simp_all
  · exact .inr ⟨fun n hn => hnames n (List.mem_append_left _ hn), hpre⟩

theorem Holds.eq_root {place : Location} (h : box.Holds place) (hparent : place.parent? = none) :
    place = box.root := by
  have hnil : place.segments = [] := by
    unfold Location.parent? at hparent
    split_ifs at hparent with hnil
    exact hnil
  have hroot : box.root.segments = [] := List.prefix_nil.1 (hnil ▸ h.2)
  cases place
  cases hb : box.root
  simp_all

theorem directoryMade_append {place parent : Location} (h : place.parent? = some parent)
    (past : List Event) :
    DirectoryMade (past ++ [.called (.createDirectories parent.text) (.ok ())]) place.text := by
  obtain ⟨name, hname⟩ := Location.parent?_eq_some h
  exact ⟨parent.segments, name, by rw [place.text_eq, hname], by simp [parent.text_eq]⟩

end Sandbox

namespace Execution

open FileClerk.Action Sandbox FileClerk.Path

variable {box : Sandbox} {raw : Text} {place : Location} {call : Call}

theorem confined_done (outcome : Outcome) : box.Confined (.done outcome) := fun _ => trivial

theorem confined_resolving {next : Location → Action Outcome} (hbox : box.IsRooted)
    (h : ∀ place, box.Holds place → box.Confined (next place)) :
    box.Confined (resolving box raw next) := fun past =>
  obeys_resolving.2
    ⟨fun place hplace => h place (of_resolve_eq_ok hbox hplace) past, fun _ _ => trivial⟩

theorem confined_attempting {attempt : Attempt} {next : call.Reply → Action Outcome}
    (hpaths : ∀ path ∈ call.paths, IsBelow box.root.segments path) (htarget : call.target? = none)
    (h : ∀ reply, box.Confined (next reply)) :
    box.Confined (attempting attempt place call next) := fun past =>
  obeys_attempting.2
    ⟨⟨hpaths, by simp [htarget]⟩, fun reply => h reply _, fun _ => trivial⟩

theorem confined_ifPresent {next : Bool → Action Outcome} (hplace : box.Holds place)
    (h : ∀ there, box.Confined (next there)) : box.Confined (ifPresent place next) :=
  confined_attempting (hplace.isBelow_paths rfl) rfl h

/-- A call onto a place may be made once the directory above the place is seen to. -/
theorem confined_underParent {next : call.Answer → Action Outcome} (hplace : box.Holds place)
    (hpaths : ∀ path ∈ call.paths, IsBelow box.root.segments path)
    (htarget : call.target? = some place.text) (h : ∀ answer, box.Confined (next answer)) :
    box.Confined (underParent box place (.ask call next)) := by
  have hroot : place = box.root → ∀ past, (Action.ask call next).Obeys box.confinement past := by
    rintro rfl past
    exact ⟨⟨hpaths, by simp [htarget]⟩, fun answer => h answer _⟩
  intro past
  unfold underParent
  split
  · rename_i hnone
    exact hroot (hplace.eq_root hnone) past
  · rename_i parent hparent
    split_ifs with hin
    · have hdir : box.Holds parent := by
        refine ⟨fun n hn => hplace.1 n ?_, by simpa [Location.isWithin] using hin⟩
        obtain ⟨name, hname⟩ := Location.parent?_eq_some hparent
        exact hname ▸ List.mem_append_left _ hn
      refine obeys_attempting.2 ⟨⟨?_, by simp [Call.target?]⟩, fun _ => ⟨⟨hpaths, ?_⟩, ?_⟩,
        fun _ => trivial⟩
      · exact hdir.isBelow_paths rfl
      · rintro target htext -
        obtain rfl : place.text = target := by simpa [htarget] using htext
        exact directoryMade_append hparent past
      · exact fun answer => h answer _
    · refine hroot ((hplace.eq_root_or_parent hparent).resolve_right fun hdir => hin ?_) past
      simpa [Location.isWithin] using hdir.2

theorem confined_create (hbox : box.IsRooted) (raw : Text) : box.Confined (create box raw) := by
  refine confined_resolving hbox fun place hplace => confined_ifPresent hplace fun there => ?_
  split_ifs
  · exact confined_done _
  · refine confined_underParent hplace (hplace.isBelow_paths rfl) rfl ?_
    rintro (error | -)
    · show box.Confined (if error.kind = .alreadyExists then _ else _)
      split_ifs <;> exact confined_done _
    · exact confined_done _

theorem confined_delete (hbox : box.IsRooted) (raw : Text) : box.Confined (delete box raw) := by
  refine confined_resolving hbox fun place hplace => confined_ifPresent hplace fun there => ?_
  split_ifs
  · exact confined_attempting (hplace.isBelow_paths rfl) rfl
      fun _ => confined_done _
  · exact confined_done _

theorem confined_rename (hbox : box.IsRooted) (old new : Text) :
    box.Confined (rename box old new) := by
  refine confined_resolving hbox fun source hsource => confined_resolving hbox fun target htarget =>
    confined_ifPresent hsource fun there => ?_
  split_ifs
  · refine confined_ifPresent htarget fun taken => ?_
    split_ifs
    · exact confined_done _
    · refine confined_underParent htarget ?_ rfl ?_
      · simpa [Call.paths] using ⟨hsource.isBelow, htarget.isBelow⟩
      · rintro (_ | _) <;> exact confined_done _
  · exact confined_done _

theorem confined_append (hbox : box.IsRooted) (raw content : Text) :
    box.Confined (append box raw content) := by
  refine confined_resolving hbox fun place hplace =>
    confined_underParent hplace (hplace.isBelow_paths rfl) rfl ?_
  rintro (_ | _) <;> exact confined_done _

theorem confined_read (hbox : box.IsRooted) (raw : Text) : box.Confined (read box raw) := by
  refine confined_resolving hbox fun place hplace => confined_ifPresent hplace fun there => ?_
  split_ifs
  · exact confined_attempting (hplace.isBelow_paths rfl) rfl
      fun _ => confined_done _
  · exact confined_done _

theorem confined_copy (hbox : box.IsRooted) (source target : Text) :
    box.Confined (copy box source target) := by
  refine confined_resolving hbox fun old hold => confined_resolving hbox fun new hnew => ?_
  split_ifs
  · exact confined_done _
  · refine confined_ifPresent hold fun there => ?_
    split_ifs
    · refine confined_underParent hnew ?_ rfl ?_
      · simpa [Call.paths] using ⟨hold.isBelow, hnew.isBelow⟩
      · rintro (_ | _) <;> exact confined_done _
    · exact confined_done _

theorem confined_list (hbox : box.IsRooted) (raw : Text) : box.Confined (list box raw) := by
  refine confined_resolving hbox fun place hplace past =>
    ⟨⟨hplace.isBelow_paths rfl, by simp [Call.target?]⟩, ?_⟩
  rintro (_ | status)
  · trivial
  · show Obeys _ (if status.kind = .directory then _ else _) _
    split_ifs
    · exact confined_attempting (hplace.isBelow_paths rfl) rfl
        (fun _ => confined_done _) _
    · trivial

theorem confined_info (hbox : box.IsRooted) (raw : Text) : box.Confined (info box raw) := by
  refine confined_resolving hbox fun place hplace => confined_ifPresent hplace fun there => ?_
  split_ifs
  · refine confined_attempting (hplace.isBelow_paths rfl) rfl fun status => ?_
    cases infoReport? raw status <;> exact fun _ => trivial
  · exact confined_done _

theorem confined_execute (hbox : box.IsRooted) (operation : Operation) :
    box.Confined (operation.execute box) := by
  cases operation with
  | create path => exact confined_create hbox path
  | delete path => exact confined_delete hbox path
  | rename old new => exact confined_rename hbox old new
  | append path content => exact confined_append hbox path content
  | read path => exact confined_read hbox path
  | copy source target => exact confined_copy hbox source target
  | list path => exact confined_list hbox path
  | info path => exact confined_info hbox path

end Execution

namespace Sandbox

open FileClerk.Action

variable {box : Sandbox}

theorem confined_interpret (hbox : box.IsRooted) (raw : Text) :
    box.Confined (box.interpret raw) := by
  intro past
  unfold interpret
  split
  · exact (obeys_report _).2 trivial
  · rename_i operation _
    refine (obeys_bind _).2 (Obeys.mono ?_ ?_ (Execution.confined_execute hbox operation _))
    · exact fun _ _ hasks => hasks
    · intro past result _
      cases result with
      | error why => trivial
      | ok outcome => exact (obeys_report _).2 trivial

theorem Confined.confines {α : Type} {action : Action α} (h : box.Confined action)
    {events : List Event} {result : Except Crash α} (run : Runs action events result) :
    box.Confines events :=
  (run.obeys_nil (h [])).2

/-- Whatever a disk answers, no operation and no command makes a call outside the sandbox. -/
theorem confined_of_runs (workingDirectory root : Text)
    (habs : Path.isAbsolute root ∨ Path.isAbsolute workingDirectory) :
    let box := ofRoot workingDirectory root
    (∀ (operation : Operation) (events : List Event) (result : Except Crash Outcome),
      Runs (operation.execute box) events result → box.Confines events)
    ∧ ∀ (raw : Text) (events : List Event) (result : Except Crash Interpretation),
      Runs (box.interpret raw) events result → box.Confines events :=
  ⟨fun operation _ _ run =>
      (Execution.confined_execute (isRooted_ofRoot habs) operation).confines run,
    fun raw _ _ run => (confined_interpret (isRooted_ofRoot habs) raw).confines run⟩

theorem confined_of_runs_srv_work :
    let box := ofRoot "/srv".toList "work".toList
    let events : List Event :=
      [.called (.createDirectories "/srv/work/a".toList) (.ok ()),
        .called (.append "/srv/work/a/b".toList []) (.ok ())]
    (Path.isAbsolute "work".toList ∨ Path.isAbsolute "/srv".toList)
      ∧ (∃ outcome, Runs ((Operation.append "a/b".toList []).execute box) events (.ok outcome))
      ∧ box.Confines events := by
  intro box events
  have habs : Path.isAbsolute "work".toList ∨ Path.isAbsolute "/srv".toList := by decide
  have hrun : Runs ((Operation.append "a/b".toList []).execute box) events
      (.ok (.success "appended 0 bytes to a/b".toList)) := by
    refine @Runs.ask _ (.createDirectories "/srv/work/a".toList) _ (.ok ()) _ _ ?_
    refine @Runs.ask _ (.append "/srv/work/a/b".toList []) _ (.ok ()) _ _ ?_
    exact .done _
  exact ⟨habs, ⟨_, hrun⟩, (confined_of_runs "/srv".toList "work".toList habs).1 _ _ _ hrun⟩

end Sandbox

end FileClerk
