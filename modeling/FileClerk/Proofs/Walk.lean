import Mathlib.Data.List.Infix
import FileClerk.Path.Location
import FileClerk.Proofs.Cutting

/-!
# Paths walked piece by piece

`walk` takes a path from a place one piece at a time, as a reader would. An absolute path leads
where the walk from the top leads (`segments_eq_walk`), a path read from a base where the walk from
the base's own place leads (`segments_join`), and the text of a place leads to that place
(`walk_text`). What a walk from the top passes through are names (`isName_of_mem_walk`).
-/

namespace FileClerk

namespace Path

/-- A segment that leads one level down: not empty, not a dot segment, and free of slashes. -/
def IsName (segment : Text) : Prop :=
  segment ≠ [] ∧ segment ≠ here ∧ segment ≠ above ∧ '/' ∉ segment

instance (segment : Text) : Decidable (IsName segment) :=
  inferInstanceAs (Decidable (_ ∧ _ ∧ _ ∧ _))

/-- One piece of a path, read at the place with some segments. At the top `..` stays there. -/
def step (segments : List Text) (piece : Text) : List Text :=
  if piece = [] ∨ piece = here then segments
  else if piece = above then segments.dropLast
  else segments ++ [piece]

/-- Where a path leads when its pieces are read from a place. -/
def walk (start : List Text) (path : Text) : List Text := (path.splitOn '/').foldl step start

theorem piece_cases {piece : Text} (h : '/' ∉ piece) :
    (piece = [] ∨ piece = here) ∨ piece = above ∨ IsName piece := by
  unfold IsName
  tauto

@[simp] theorem step_nil (segments : List Text) : step segments [] = segments := by simp [step]

theorem step_name {name : Text} (h : IsName name) (segments : List Text) :
    step segments name = segments ++ [name] := by
  obtain ⟨h1, h2, h3, -⟩ := h
  simp [step, h1, h2, h3]

theorem foldl_step_names : ∀ {names : List Text} (start : List Text), (∀ n ∈ names, IsName n) →
    names.foldl step start = start ++ names
  | [], start, _ => by simp
  | n :: names, start, h => by
    rw [List.forall_mem_cons] at h
    rw [List.foldl_cons, step_name h.1, foldl_step_names _ h.2]
    simp

theorem isName_of_mem_step {segments : List Text} {piece : Text} (hp : '/' ∉ piece)
    (hs : ∀ n ∈ segments, IsName n) : ∀ n ∈ step segments piece, IsName n := by
  unfold step
  split_ifs with h1 h2
  · exact hs
  · exact fun n hn => hs n (List.mem_of_mem_dropLast hn)
  · push Not at h1
    intro n hn
    rcases List.mem_append.1 hn with hn | hn
    · exact hs n hn
    · obtain rfl := List.mem_singleton.1 hn
      exact ⟨h1.1, h1.2, h2, hp⟩

theorem isName_of_mem_foldl_step : ∀ {pieces segments : List Text}, (∀ p ∈ pieces, '/' ∉ p) →
    (∀ n ∈ segments, IsName n) → ∀ n ∈ pieces.foldl step segments, IsName n
  | [], _, _, hs => hs
  | p :: pieces, segments, hp, hs => by
    rw [List.forall_mem_cons] at hp
    rw [List.foldl_cons]
    exact isName_of_mem_foldl_step hp.2 (isName_of_mem_step hp.1 hs)

theorem isName_of_mem_walk {start : List Text} (path : Text) (hs : ∀ n ∈ start, IsName n) :
    ∀ n ∈ walk start path, IsName n :=
  isName_of_mem_foldl_step (Text.not_mem_of_mem_splitOn path) hs

/-- Without a `..` among the segments, reading on from them is a step. -/
theorem reverse_descend {read : List Text} (h : above ∉ read) (piece : Text) :
    (descend true read piece).reverse = step read.reverse piece
      ∧ above ∉ descend true read piece := by
  unfold descend step
  by_cases h1 : piece = [] ∨ piece = here
  · rw [if_pos h1, if_pos h1]
    exact ⟨rfl, h⟩
  rw [if_neg h1, if_neg h1]
  by_cases h2 : piece = above
  · rw [if_pos h2, if_pos h2]
    cases read with
    | nil => simp
    | cons last before =>
      simp only [List.mem_cons, not_or] at h
      simp [Ne.symm h.1, h.2]
  · rw [if_neg h2, if_neg h2]
    simp [h, Ne.symm h2]

theorem reverse_foldl_descend : ∀ (pieces : List Text) {read : List Text}, above ∉ read →
    (pieces.foldl (descend true) read).reverse = pieces.foldl step read.reverse
  | [], _, _ => rfl
  | p :: pieces, read, h => by
    obtain ⟨hstep, hread⟩ := reverse_descend h p
    rw [List.foldl_cons, List.foldl_cons, reverse_foldl_descend pieces hread, hstep]

theorem segments_eq_walk {path : Text} (h : isAbsolute path) : segments path = walk [] path := by
  rw [segments, h, reverse_foldl_descend _ (by simp), Text.pieces_eq_splitOn]
  rfl

theorem isAbsolute_join (base path : Text) :
    isAbsolute (join base path) = (isAbsolute path || isAbsolute base) := by
  unfold join
  cases base with
  | nil => simp [isAbsolute]
  | cons c base => split_ifs <;> simp_all [isAbsolute]

/-- What reads a path piece by piece and passes over empty pieces reads a relative path after its
base. -/
theorem foldl_splitOn_join {β : Type*} {f : β → Text → β} (hf : ∀ b, f b [] = b) (init : β)
    (base : Text) {path : Text} (hrel : isAbsolute path = false) :
    ((join base path).splitOn '/').foldl f init
      = (path.splitOn '/').foldl f ((base.splitOn '/').foldl f init) := by
  unfold join
  split_ifs with h1 h2
  · obtain rfl : base = [] := by simpa [hrel] using h1
    simp [hf]
  · obtain ⟨base, rfl⟩ := List.getLast?_eq_some_iff.1 h2
    rw [List.append_assoc, List.singleton_append, List.splitOn_append_cons_self,
      List.splitOn_append_cons_self]
    simp [hf]
  · rw [List.splitOn_append_cons_self, List.foldl_append]

/-- On a path written from segments it reads those segments. -/
theorem foldl_splitOn_render {β : Type*} {f : β → Text → β} (hf : ∀ b, f b [] = b) (init : β)
    (absolute : Bool) {segments : List Text} (h : ∀ s ∈ segments, '/' ∉ s) :
    ((render absolute segments).splitOn '/').foldl f init = segments.foldl f init := by
  have hsegments : ((['/'].intercalate segments).splitOn '/').foldl f init
      = segments.foldl f init := by
    by_cases hnil : segments = []
    · simp [hnil, hf]
    · rw [List.splitOn_intercalate _ h hnil]
  rw [render, Text.joinWith_eq_intercalate]
  cases absolute with
  | false => simpa using hsegments
  | true =>
    rw [if_pos rfl, List.singleton_append, List.splitOn_cons_eq_if_modifyHead]
    simpa [hf] using hsegments

theorem segments_join {base : Text} (hb : isAbsolute base) (path : Text) :
    segments (join base path) = walk (if isAbsolute path then [] else segments base) path := by
  rw [segments_eq_walk (by simp [isAbsolute_join, hb])]
  split_ifs with hp
  · simp [join, hp]
  · rw [segments_eq_walk hb, walk, foldl_splitOn_join step_nil _ _ (by simpa using hp)]
    rfl

end Path

namespace Location

open FileClerk.Path

theorem text_eq (place : Location) : place.text = '/' :: ['/'].intercalate place.segments := by
  simp [text, render, Text.joinWith_eq_intercalate]

theorem isAbsolute_text (place : Location) : isAbsolute place.text := by
  simp [text_eq, isAbsolute]

theorem walk_text {place : Location} (h : ∀ n ∈ place.segments, IsName n) :
    walk [] place.text = place.segments := by
  rw [walk, text, foldl_splitOn_render step_nil _ _ fun n hn => (h n hn).2.2.2,
    foldl_step_names _ h, List.nil_append]

end Location

end FileClerk
