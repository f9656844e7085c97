import FileClerk.Proofs.Walk

/-!
# The normal form of a path

Whatever a path is read piece by piece, what is left of it is normal: `..` stands only in front, and
nowhere if the path is absolute (`isNormal_segments`). Normal segments are read back as they are
(`foldl_descend`), so normalizing a path changes nothing of what is read from it, nor of what is
read from it as a base. It still leads where it led, from any place (`walk_normalize`).
-/

namespace FileClerk

namespace Path

/-- Segments with nothing left to take back. -/
def IsNormal (absolute : Bool) (segments : List Text) : Prop :=
  ∃ ups names, segments = List.replicate ups above ++ names ∧ (∀ n ∈ names, IsName n)
    ∧ (absolute → ups = 0)

variable {absolute : Bool} {segments read : List Text} {piece : Text}

theorem IsNormal.eq_above_or_isName (h : IsNormal absolute segments) :
    ∀ s ∈ segments, s = above ∨ IsName s := by
  obtain ⟨ups, names, rfl, hnames, -⟩ := h
  intro s hs
  exact (List.mem_append.1 hs).imp List.eq_of_mem_replicate (hnames s)

theorem IsNormal.not_mem_slash (h : IsNormal absolute segments) : ∀ s ∈ segments, '/' ∉ s := by
  intro s hs
  obtain rfl | hname := h.eq_above_or_isName s hs
  · decide
  · exact hname.2.2.2

theorem IsNormal.ne_nil (h : IsNormal absolute segments) : ∀ s ∈ segments, s ≠ [] := by
  intro s hs
  obtain rfl | hname := h.eq_above_or_isName s hs
  · decide
  · exact hname.1

/-- Reading on after normal segments, a name goes after them and `..` takes the last one back,
unless that is a `..` itself. -/
theorem IsNormal.descend (h : IsNormal absolute read.reverse) (hp : '/' ∉ piece) :
    IsNormal absolute (descend absolute read piece).reverse := by
  obtain ⟨ups, names, hread, hnames, hups⟩ := h
  unfold Path.descend
  rcases piece_cases hp with hskip | rfl | hname
  · rw [if_pos hskip]
    exact ⟨ups, names, hread, hnames, hups⟩
  · rw [if_neg (by decide), if_pos rfl]
    rcases List.eq_nil_or_concat names with rfl | ⟨names, name, rfl⟩
    · obtain rfl : read = List.replicate ups above := by
        simpa using congrArg List.reverse hread
      cases ups with
      | zero =>
        cases absolute with
        | true => exact ⟨0, [], by simp⟩
        | false => exact ⟨1, [], by simp⟩
      | succ n =>
        refine ⟨n + 2, [], ?_, by simp, fun h => absurd (hups h) (by omega)⟩
        change (List.replicate (n + 2) above).reverse = _
        rw [List.reverse_replicate, List.append_nil]
    · rw [List.concat_eq_append, List.forall_mem_append, List.forall_mem_singleton] at hnames
      obtain rfl : read = name :: (List.replicate ups above ++ names).reverse := by
        rw [← List.reverse_reverse read, hread]
        simp
      dsimp only
      rw [if_neg hnames.2.2.2.1]
      exact ⟨ups, names, by simp, hnames.1, hups⟩
  · rw [if_neg (by simp [hname.1, hname.2.1]), if_neg hname.2.2.1]
    refine ⟨ups, names ++ [piece], by simp [hread], ?_, hups⟩
    rw [List.forall_mem_append, List.forall_mem_singleton]
    exact ⟨hnames, hname⟩

theorem IsNormal.foldl_descend : ∀ {pieces read : List Text}, (∀ p ∈ pieces, '/' ∉ p) →
    IsNormal absolute read.reverse →
    IsNormal absolute (pieces.foldl (Path.descend absolute) read).reverse
  | [], _, _, h => h
  | p :: pieces, read, hp, h => by
    rw [List.forall_mem_cons] at hp
    rw [List.foldl_cons]
    exact foldl_descend hp.2 (h.descend hp.1)

theorem isNormal_segments (path : Text) : IsNormal (isAbsolute path) (Path.segments path) := by
  rw [Path.segments, Text.pieces_eq_splitOn]
  exact .foldl_descend (Text.not_mem_of_mem_splitOn path) ⟨0, [], by simp⟩

/-- What is left after one piece more leads one step further, from any place. -/
theorem IsNormal.foldl_step_descend (h : IsNormal absolute read.reverse) {start : List Text}
    (hstart : absolute → start = []) (piece : Text) :
    (Path.descend absolute read piece).reverse.foldl step start
      = step (read.reverse.foldl step start) piece := by
  have habove : ∀ segments, step segments above = segments.dropLast := fun _ => rfl
  unfold Path.descend
  by_cases hskip : piece = [] ∨ piece = here
  · rw [if_pos hskip, step, if_pos hskip]
  by_cases hup : piece = above
  · rw [if_neg hskip, if_pos hup, hup]
    rcases read with _ | ⟨last, before⟩
    · cases absolute with
      | false => rfl
      | true =>
        rw [hstart rfl]
        rfl
    · dsimp only
      split_ifs with hlast
      · rw [List.reverse_cons, List.foldl_append]
        rfl
      · have hname : IsName last := (h.eq_above_or_isName last (by simp)).resolve_left hlast
        rw [List.reverse_cons, List.foldl_append, List.foldl_cons, List.foldl_nil, step_name hname,
          habove, List.dropLast_concat]
  · rw [if_neg hskip, if_neg hup, List.reverse_cons, List.foldl_append]
    rfl

theorem IsNormal.foldl_step_foldl {start : List Text} (hstart : absolute → start = []) :
    ∀ {pieces read : List Text}, (∀ p ∈ pieces, '/' ∉ p) → IsNormal absolute read.reverse →
      (pieces.foldl (Path.descend absolute) read).reverse.foldl step start
        = pieces.foldl step (read.reverse.foldl step start)
  | [], _, _, _ => rfl
  | p :: pieces, read, hp, h => by
    rw [List.forall_mem_cons] at hp
    rw [List.foldl_cons, List.foldl_cons, foldl_step_foldl hstart hp.2 (h.descend hp.1),
      h.foldl_step_descend hstart]

theorem foldl_descend_replicate (n : Nat) :
    ∀ m, (List.replicate n above).foldl (descend false) (List.replicate m above)
      = List.replicate (m + n) above := by
  induction n with
  | zero => exact fun m => rfl
  | succ n ih =>
    intro m
    have hstep : descend false (List.replicate m above) above = List.replicate (m + 1) above := by
      cases m <;> rfl
    rw [List.replicate_succ, List.foldl_cons, hstep, ih, Nat.add_right_comm, Nat.add_assoc]

theorem foldl_descend_names : ∀ {names read : List Text}, (∀ n ∈ names, IsName n) →
    names.foldl (descend absolute) read = names.reverse ++ read
  | [], _, _ => rfl
  | n :: names, read, h => by
    rw [List.forall_mem_cons] at h
    obtain ⟨hempty, hhere, habove, -⟩ := h.1
    have hstep : descend absolute read n = n :: read := by simp [descend, hempty, hhere, habove]
    rw [List.foldl_cons, hstep, foldl_descend_names h.2, List.reverse_cons, List.append_assoc,
      List.singleton_append]

theorem IsNormal.foldl_descend_eq (h : IsNormal absolute segments) :
    segments.foldl (Path.descend absolute) [] = segments.reverse := by
  obtain ⟨ups, names, rfl, hnames, hups⟩ := h
  rw [List.foldl_append, foldl_descend_names hnames, List.reverse_append, List.reverse_replicate]
  cases absolute with
  | true =>
    rw [hups rfl]
    rfl
  | false =>
    have hread : (List.replicate ups above).foldl (Path.descend false) []
        = List.replicate ups above := by
      simpa using foldl_descend_replicate ups 0
    rw [hread]

theorem descend_nil (absolute : Bool) (read : List Text) : descend absolute read [] = read := by
  simp [descend]

theorem isAbsolute_normalize (path : Text) : isAbsolute (normalize path) = isAbsolute path := by
  have hnormal := isNormal_segments path
  rw [normalize, render, Text.joinWith_eq_intercalate]
  rcases habs : isAbsolute path with - | -
  · rcases hsegments : Path.segments path with - | ⟨s, rest⟩
    · rfl
    · rw [hsegments] at hnormal
      have hne := hnormal.ne_nil s List.mem_cons_self
      have hslash := hnormal.not_mem_slash s List.mem_cons_self
      obtain ⟨c, s, rfl⟩ := List.exists_cons_of_ne_nil hne
      have hc : c ≠ '/' := fun h => hslash (h ▸ List.mem_cons_self)
      cases rest <;> simp [isAbsolute, hc]
  · simp [isAbsolute]

/-- The normal form is read as the path is, from its first piece to its last. -/
theorem foldl_descend_normalize (path : Text) :
    ((normalize path).splitOn '/').foldl (descend (isAbsolute path)) []
      = (path.splitOn '/').foldl (descend (isAbsolute path)) [] := by
  have hnormal := isNormal_segments path
  rw [normalize, foldl_splitOn_render (descend_nil _) _ _ hnormal.not_mem_slash,
    hnormal.foldl_descend_eq, Path.segments, List.reverse_reverse, Text.pieces_eq_splitOn]

theorem segments_normalize (path : Text) : Path.segments (normalize path) = Path.segments path := by
  rw [Path.segments, Path.segments, isAbsolute_normalize, Text.pieces_eq_splitOn,
    Text.pieces_eq_splitOn, foldl_descend_normalize]

/-- The normal form of a path leads where the path leads: from any place if it is relative, and from
the top if it is absolute. -/
theorem walk_normalize {path : Text} {start : List Text} (hstart : isAbsolute path → start = []) :
    walk start (normalize path) = walk start path := by
  rw [walk, normalize, foldl_splitOn_render step_nil _ _ (isNormal_segments path).not_mem_slash,
    Path.segments, Text.pieces_eq_splitOn,
    IsNormal.foldl_step_foldl hstart (Text.not_mem_of_mem_splitOn path) ⟨0, [], by simp⟩]
  rfl

theorem segments_join_normalize (base path : Text) :
    Path.segments (join (normalize base) path) = Path.segments (join base path) := by
  rcases hpath : isAbsolute path with - | -
  · simp only [Path.segments, isAbsolute_join, isAbsolute_normalize, hpath, Bool.false_or,
      Text.pieces_eq_splitOn]
    rw [foldl_splitOn_join (descend_nil _) _ _ hpath, foldl_splitOn_join (descend_nil _) _ _ hpath,
      foldl_descend_normalize]
  · rw [join, join, if_pos (.inl hpath), if_pos (.inl hpath)]

/-- The normal form of a path is as absolute as the path and has no empty segment, no `.`, and no
`..` but in front of a relative path. It has the segments of the path and leads where the path
leads. It is its own normal form, and a base may be normalized before a path is read from it. -/
theorem normalize_laws (path rest : Text) :
    (∃ ups names, normalize path
          = render (isAbsolute path) (List.replicate ups above ++ names)
        ∧ (∀ n ∈ names, IsName n) ∧ (isAbsolute path → ups = 0))
      ∧ isAbsolute (normalize path) = isAbsolute path
      ∧ Path.segments (normalize path) = Path.segments path
      ∧ (∀ start, (isAbsolute path → start = []) → walk start (normalize path) = walk start path)
      ∧ normalize (normalize path) = normalize path
      ∧ normalize (join path rest) = normalize (join (normalize path) rest) := by
  refine ⟨?_, isAbsolute_normalize path, segments_normalize path, fun _ => walk_normalize, ?_, ?_⟩
  · obtain ⟨ups, names, hsegments, hnames, hups⟩ := isNormal_segments path
    exact ⟨ups, names, by rw [normalize, hsegments], hnames, hups⟩
  · rw [normalize, isAbsolute_normalize, segments_normalize]
    rfl
  · simp only [normalize.eq_1 (join _ rest), isAbsolute_join, isAbsolute_normalize,
      segments_join_normalize]

/-- Nothing is left of a directory that is left again, and `..` before it stays. -/
example : normalize "../a/./b//../..".toList = "..".toList := by decide

end Path

end FileClerk
