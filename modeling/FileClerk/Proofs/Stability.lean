import FileClerk.Proofs.Guarding
import FileClerk.Proofs.Rendering

/-!
# Names that last

A resolved place has a text, and the text may be resolved again. It leads to the same place unless
it ends in a blank (`resolve_text_iff`). What a user writes is trimmed, yet such places come up: a
dot segment after a name shields the blank at its end, and the root may end in one itself. Trimming
the text then shortens the last segment, and a path with another last segment leads elsewhere
(`walk_append_ne`).
-/

namespace FileClerk

namespace Path

theorem walk_concat {piece : Text} (h : '/' ∉ piece) (start : List Text) (path : Text) :
    walk start (path ++ '/' :: piece) = step (walk start path) piece := by
  rw [walk, List.splitOn_append_cons_self, List.splitOn_eq_singleton h, List.foldl_append]
  rfl

/-- Two last pieces lead to the same place only if they are the same name. -/
theorem step_eq_step_name_iff {piece name : Text} (h : IsName name) (segments : List Text) :
    step segments piece = step segments name ↔ piece = name := by
  refine ⟨fun heq => ?_, fun heq => heq ▸ rfl⟩
  rw [step_name h] at heq
  unfold step at heq
  have hlength := congrArg List.length heq
  split_ifs at heq hlength with hskip habove
  · simp at hlength
  · simp only [List.length_dropLast, List.length_append, List.length_singleton] at hlength
    omega
  · simpa using heq

/-- A path leads elsewhere once more is written at its end, without a slash and not up to a dot. -/
theorem walk_append_ne {path tail : Text} (hpath : '/' ∈ path) (hslash : '/' ∉ tail)
    (hne : tail ≠ []) (hdot : tail.getLast? ≠ some '.') (start : List Text) :
    walk start (path ++ tail) ≠ walk start path := by
  obtain ⟨last, front, hcut, hlast⟩ := List.eq_append_cons_of_mem (List.mem_reverse.2 hpath)
  obtain rfl : path = front.reverse ++ '/' :: last.reverse := by
    rw [← List.reverse_reverse path, hcut]
    simp
  have hname : IsName (last.reverse ++ tail) := by
    refine ⟨by simp [hne], fun heq => hdot ?_, fun heq => hdot ?_, by simp [hlast, hslash]⟩ <;>
      rw [← List.getLast?_append_of_ne_nil last.reverse hne, heq] <;> rfl
  rw [List.append_assoc, List.cons_append, walk_concat hname.2.2.2,
    walk_concat (by simpa using hlast)]
  intro heq
  have hpiece := (step_eq_step_name_iff hname _).1 heq.symm
  exact hne (List.append_right_eq_self.1 hpiece.symm)

end Path

theorem Text.exists_blank_tail {s : Text} {c : Char} (hc : c ∈ s.getLast?) (hblank : isBlank c) :
    ∃ tail, s = s.rdropWhile isBlank ++ tail ∧ tail ≠ [] ∧ ∀ d ∈ tail, isBlank d := by
  refine ⟨s.rtakeWhile isBlank, List.rdropWhile_append_rtakeWhile.symm, ?_,
    fun d => List.mem_rtakeWhile_imp⟩
  obtain ⟨front, rfl⟩ := List.getLast?_eq_some_iff.1 hc
  simp [List.rtakeWhile_concat_pos _ _ _ hblank]

theorem Location.trim_text (place : Location) :
    place.text.trim = place.text.rdropWhile isBlank := by
  rw [Text.trim_eq, text_eq, List.dropWhile_cons_of_neg (by decide)]

namespace Sandbox

open FileClerk.Path

variable {box : Sandbox} {raw : Text} {place : Location}

/-- An absolute path is resolved without regard to the root, which only has to hold its place. -/
theorem resolve_eq_ok_iff_of_isAbsolute (habs : isAbsolute raw.trim) :
    box.resolve raw = .ok place ↔ place = ⟨walk [] raw.trim⟩ ∧ place.isWithin box.root := by
  have hne : raw.trim ≠ [] := by
    rintro hnil
    simp [hnil, isAbsolute] at habs
  have hplace : Location.ofText (join box.root.text raw.trim) = ⟨walk [] raw.trim⟩ := by
    rw [join, if_pos (.inl habs), Location.ofText, segments_eq_walk habs]
  simp only [resolve, if_neg hne, hplace]
  split_ifs with hwithin
  · rw [Except.ok.injEq, eq_comm]
    exact ⟨fun h => ⟨h, h ▸ hwithin⟩, And.left⟩
  · refine iff_of_false (by simp) ?_
    rintro ⟨rfl, h⟩
    exact hwithin h

theorem isWithin_of_resolve (h : box.resolve raw = .ok place) : place.isWithin box.root := by
  simp only [resolve] at h
  split_ifs at h with hblank hwithin
  obtain rfl := Except.ok.inj h
  exact hwithin

/-- The text of a resolved place is resolved to that place again exactly if it does not end in a
blank. -/
theorem resolve_text_iff (h : box.resolve raw = .ok place) :
    box.resolve place.text = .ok place ↔ ∀ c ∈ place.text.getLast?, ¬ isBlank c := by
  have htext : walk [] place.text = place.segments := Location.walk_text (isName_of_resolve h)
  obtain ⟨rest, hrest⟩ : ∃ rest, place.text.trim = '/' :: rest := by
    rw [place.trim_text, place.text_eq, ← List.singleton_append,
      Text.rdropWhile_append ⟨'/', rfl, by decide⟩]
    exact ⟨_, rfl⟩
  have habs : isAbsolute place.text.trim := by simp [hrest, isAbsolute]
  rw [resolve_eq_ok_iff_of_isAbsolute habs, and_iff_left (isWithin_of_resolve h)]
  constructor
  · intro hwalk c hc hblank
    -- without the blanks at the end the walk ends elsewhere
    obtain ⟨tail, hcut, hne, hall⟩ := Text.exists_blank_tail hc hblank
    rw [← place.trim_text] at hcut
    have hslash : '/' ∉ tail := fun hmem => absurd (hall _ hmem) (by decide)
    have hdot : tail.getLast? ≠ some '.' := fun hlast =>
      absurd (hall _ (List.mem_of_getLast? hlast)) (by decide)
    have haway := walk_append_ne (hrest ▸ List.mem_cons_self) hslash hne hdot []
    rw [← hcut, htext] at haway
    exact haway (congrArg Location.segments hwalk)
  · intro hlast
    have htrim : place.text.trim = place.text :=
      Text.trim_eq_self_iff.2 ⟨by simp [place.text_eq]; decide, hlast⟩
    rw [htrim, htext]

/-- A dot segment shields the blank at the end of a name, which is lost when the text of the place
is resolved. -/
theorem resolve_text_iff_trailing_blank :
    let box := ofRoot [] "/work".toList
    let place : Location := ⟨["work".toList, "a ".toList]⟩
    box.resolve "a /.".toList = .ok place ∧ box.resolve place.text ≠ .ok place := by
  intro box place
  have h : box.resolve "a /.".toList = .ok place := by decide
  refine ⟨h, fun htext => ?_⟩
  exact (resolve_text_iff h).1 htext ' ' (by decide) (by decide)

end Sandbox

end FileClerk
