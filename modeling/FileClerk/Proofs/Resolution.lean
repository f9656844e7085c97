import FileClerk.Path.Sandbox
import FileClerk.Proofs.Walk

/-!
# What a sandbox resolves

`resolve` goes by the text it joins and normalizes; where a path leads is said apart, by a walk from
the root (`destination`). The two agree (`resolve_eq`), so a path is refused exactly when its walk
ends outside the root, wherever it went on the way.
-/

namespace FileClerk

namespace Path

/-- `..` never takes a walk back over its start: each comes after a name of its own, or after one of
the `extra` names the walk is already past its start. -/
theorem prefix_foldl_step : ∀ (pieces : List Text) {top extra : List Text},
    (∀ p ∈ pieces, '/' ∉ p) →
    (∀ first, first <+: pieces → first.count above ≤ extra.length + first.countP (IsName ·)) →
    top <+: pieces.foldl step (top ++ extra)
  | [], top, extra, _, _ => List.prefix_append top extra
  | p :: pieces, top, extra, hp, hle => by
    rw [List.forall_mem_cons] at hp
    have hrest : ∀ first, first <+: pieces →
        (p :: first).count above ≤ extra.length + (p :: first).countP (IsName ·) :=
      fun first hf => hle _ (List.cons_prefix_cons.2 ⟨rfl, hf⟩)
    rw [List.foldl_cons]
    rcases piece_cases hp.1 with hskip | rfl | hname
    · rw [step, if_pos hskip]
      refine prefix_foldl_step pieces hp.2 fun first hf => ?_
      have hne : p ≠ above := by rcases hskip with rfl | rfl <;> decide
      have hno : ¬ IsName p := by rcases hskip with rfl | rfl <;> decide
      simpa [hne, hno] using hrest first hf
    · have hno : ¬ IsName above := by decide
      have hpos : 1 ≤ extra.length := by simpa [hno] using hrest [] List.nil_prefix
      have hstep : step (top ++ extra) above = top ++ extra.dropLast := by
        rw [step, if_neg (by decide), if_pos rfl,
          List.dropLast_append_of_ne_nil (List.ne_nil_of_length_pos hpos)]
      rw [hstep]
      refine prefix_foldl_step pieces hp.2 fun first hf => ?_
      have h := hrest first hf
      simp only [List.count_cons_self, List.countP_cons, hno, decide_false] at h
      simp only [List.length_dropLast]
      simp at h
      omega
    · rw [step_name hname, List.append_assoc]
      refine prefix_foldl_step pieces hp.2 fun first hf => ?_
      have h := hrest first hf
      have hne : p ≠ above := hname.2.2.1
      simp only [List.count_cons_of_ne hne, List.countP_cons, hname, decide_true, if_true] at h
      simp only [List.length_append, List.length_singleton]
      omega

end Path

namespace Sandbox

open FileClerk.Path

/-- All segments of the root are names. -/
def IsRooted (box : Sandbox) : Prop := ∀ n ∈ box.root.segments, IsName n

/-- Where the walk of a path begins: at the root, or at the top if the path is absolute. -/
def start (box : Sandbox) (path : Text) : List Text :=
  if isAbsolute path then [] else box.root.segments

/-- The segments of the place a path leads to. -/
def destination (box : Sandbox) (path : Text) : List Text := walk (box.start path) path

theorem isRooted_ofRoot {workingDirectory root : Text}
    (h : isAbsolute root ∨ isAbsolute workingDirectory) :
    (ofRoot workingDirectory root).IsRooted := by
  have habs : isAbsolute (join workingDirectory root) := by
    simpa [isAbsolute_join] using h
  intro n hn
  have hn : n ∈ segments (join workingDirectory root) := hn
  rw [segments_eq_walk habs] at hn
  exact isName_of_mem_walk _ (by simp) n hn

variable {box : Sandbox}

theorem isName_of_mem_destination (hbox : box.IsRooted) (path : Text) :
    ∀ n ∈ box.destination path, IsName n := by
  refine isName_of_mem_walk _ ?_
  unfold start
  split_ifs
  · simp
  · exact hbox

theorem ofText_join_root (hbox : box.IsRooted) (path : Text) :
    Location.ofText (join box.root.text path) = ⟨box.destination path⟩ := by
  rw [Location.ofText, segments_join box.root.isAbsolute_text,
    segments_eq_walk box.root.isAbsolute_text, Location.walk_text hbox]
  rfl

theorem resolve_eq (hbox : box.IsRooted) (raw : Text) :
    box.resolve raw =
      if raw.trim = [] then .error .empty
      else if box.root.segments <+: box.destination raw.trim then
        .ok ⟨box.destination raw.trim⟩
      else .error (.escapes ⟨box.destination raw.trim⟩ box.root) := by
  simp only [resolve, ofText_join_root hbox, Location.isWithin, List.isPrefixOf_iff_prefix]

/-- A resolved place is at or below the root, and its segments are names. -/
theorem of_resolve_eq_ok (hbox : box.IsRooted) {raw : Text} {place : Location}
    (h : box.resolve raw = .ok place) :
    (∀ n ∈ place.segments, IsName n) ∧ box.root.segments <+: place.segments := by
  rw [resolve_eq hbox] at h
  split_ifs at h with h1 h2
  obtain rfl := Except.ok.inj h
  exact ⟨isName_of_mem_destination hbox _, h2⟩

/-- A name that merely begins like the root's own leads nowhere below the root. -/
theorem not_prefix_sibling {parent below : List Text} {name extra : Text} (hne : extra ≠ []) :
    ¬ parent ++ [name] <+: parent ++ (name ++ extra) :: below := by
  rw [List.prefix_append_right_inj, List.cons_prefix_cons]
  rintro ⟨h, -⟩
  exact hne (List.append_right_eq_self.1 h.symm)

/-- A path that is not blank is accepted exactly when its walk ends at or below the root, and
refused with the place it leads to otherwise. -/
theorem resolve_decides (workingDirectory root raw : Text)
    (habs : isAbsolute root ∨ isAbsolute workingDirectory) :
    let box := ofRoot workingDirectory root
    let path := raw.trim
    let place : Location := ⟨box.destination path⟩
    (box.resolve raw = .error .empty ↔ path = [])
      ∧ place.text = '/' :: ['/'].intercalate (box.destination path)
      ∧ (path ≠ [] →
        (box.resolve raw = .ok place ↔ box.root.segments <+: box.destination path)
        ∧ (¬ box.root.segments <+: box.destination path →
          box.resolve raw = .error (.escapes place box.root))
        ∧ (∀ parent name extra below, box.root.segments = parent ++ [name] → extra ≠ [] →
          box.destination path = parent ++ (name ++ extra) :: below →
          box.resolve raw = .error (.escapes place box.root))
        ∧ (∀ away back, path.splitOn '/' = away ++ back →
          ¬ box.root.segments <+: away.foldl step (box.start path) →
          box.root.segments <+: back.foldl step (away.foldl step (box.start path)) →
          box.resolve raw = .ok place)
        ∧ (isAbsolute path = false →
          (∀ first, first <+: path.splitOn '/' →
            first.count above ≤ first.countP (IsName ·)) →
          box.resolve raw = .ok place)) := by
  intro box path place
  have hres := resolve_eq (isRooted_ofRoot habs) raw
  refine ⟨?_, place.text_eq, fun hne => ?_⟩
  · rw [hres]
    split_ifs with h1 h2 <;> simp [path, h1]
  rw [if_neg hne] at hres
  have hout : ¬ box.root.segments <+: box.destination path →
      box.resolve raw = .error (.escapes place box.root) := fun h => hres.trans (if_neg h)
  have hin : box.root.segments <+: box.destination path → box.resolve raw = .ok place :=
    fun h => hres.trans (if_pos h)
  refine ⟨⟨fun hok => ?_, hin⟩, hout, ?_, ?_, ?_⟩
  · by_contra h
    rw [hout h] at hok
    cases hok
  · intro parent name extra below hroot hextra hdest
    refine hout ?_
    rw [hroot, hdest]
    exact not_prefix_sibling hextra
  · intro away back hsplit _ hback
    refine hin ?_
    rwa [destination, walk, hsplit, List.foldl_append]
  · intro hrel hle
    refine hin ?_
    have h : box.root.segments <+: (path.splitOn '/').foldl step (box.root.segments ++ []) :=
      prefix_foldl_step _ (Text.not_mem_of_mem_splitOn path) (by simpa using hle)
    simpa [destination, start, hrel, walk] using h

theorem resolve_decides_srv_work :
    let box := ofRoot [] "/srv/work".toList
    (isAbsolute "/srv/work".toList ∨ isAbsolute [])
      ∧ box.resolve " ../work/./a ".toList = .ok ⟨["srv".toList, "work".toList, "a".toList]⟩
      ∧ box.resolve "../work-evil".toList
        = .error (.escapes ⟨["srv".toList, "work-evil".toList]⟩ box.root) := by
  have habs : isAbsolute "/srv/work".toList ∨ isAbsolute [] := by decide
  obtain ⟨-, -, hback⟩ := resolve_decides [] "/srv/work".toList " ../work/./a ".toList habs
  obtain ⟨-, -, hout⟩ := resolve_decides [] "/srv/work".toList "../work-evil".toList habs
  exact ⟨habs, (hback (by decide)).1.2 (by decide), (hout (by decide)).2.1 (by decide)⟩

end Sandbox

end FileClerk
