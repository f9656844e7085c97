import FileClerk.Datum
import FileClerk.Proofs.Names

/-!
# One datum over another, path by path

What the upper datum holds at a path counts, and where it holds nothing the lower one does
(`at?_overlay`), as long as both have tables on the way there and the upper one has none at the end.
This rests on the names of every table being in order, which laying one over another keeps.
-/

namespace FileClerk

namespace Datum

/-- What a datum holds at a path of names. -/
def at? : List Text → Datum → Option Datum
  | [], d => some d
  | key :: path, map entries => (Keyed.get? key entries).bind (at? path)
  | _ :: _, _ => none

theorem at?_singleton (name : Text) (entries : List (Text × Datum)) :
    at? [name] (.map entries) = Keyed.get? name entries :=
  Option.bind_fun_some _

theorem at?_cons (name : Text) (path : List Text) (entries : List (Text × Datum)) :
    at? (name :: path) (.map entries) = (Keyed.get? name entries).bind (at? path) :=
  rfl

/-- On the way along a path there are tables as far as there is anything. -/
def Leads : List Text → Datum → Prop
  | [], _ => True
  | key :: path, map entries => ∀ d, Keyed.get? key entries = some d → Leads path d
  | _ :: _, _ => False

def IsMap : Datum → Prop
  | map _ => True
  | _ => False

/-- In each table of a datum the names come in their order. -/
inductive Ordered : Datum → Prop
  | bool (b : Bool) : Ordered (bool b)
  | signed (n : Int) : Ordered (signed n)
  | unsigned (n : Nat) : Ordered (unsigned n)
  | float (x : Binary64) : Ordered (float x)
  | text (s : Text) : Ordered (text s)
  | sequence {items : List Datum} : (∀ d ∈ items, Ordered d) → Ordered (sequence items)
  | map {entries : List (Text × Datum)} : Keyed.Ordered entries → (∀ e ∈ entries, Ordered e.2) →
      Ordered (map entries)

section Ordered

variable {entries below : List (Text × Datum)} {key : Text} {d : Datum}

theorem Ordered.names (h : Ordered (.map entries)) : Keyed.Ordered entries := by
  cases h with
  | map hnames _ => exact hnames

theorem Ordered.values (h : Ordered (.map entries)) : ∀ e ∈ entries, Ordered e.2 := by
  cases h with
  | map _ hvalues => exact hvalues

theorem Ordered.get? (h : Ordered (.map entries)) (hd : Keyed.get? key entries = some d) :
    Ordered d :=
  h.values _ (Keyed.mem_of_get? hd)

theorem Ordered.put (h : Ordered (.map entries)) (hd : Ordered d) :
    Ordered (.map (Keyed.put key d entries)) := by
  refine .map (Keyed.pairwise_put _ _ h.names) fun e he => ?_
  rcases Keyed.mem_put he with rfl | he
  · exact hd
  · exact h.values e he

theorem ordered_empty : Ordered (.map []) := .map List.Pairwise.nil (by simp)

mutual

theorem ordered_overlay : ∀ {upper lower : Datum}, Ordered lower → Ordered upper →
    Ordered (lower.overlay upper)
  | .bool _, _, _, h | .signed _, _, _, h | .unsigned _, _, _, h | .float _, _, _, h
  | .text _, _, _, h | .sequence _, _, _, h => by
    unfold overlay
    exact h
  | .map entries, lower, hlower, h => by
    unfold overlay
    cases lower with
    | map below => exact ordered_overlayEntries hlower h.values
    | _ => exact h

theorem ordered_overlayEntries : ∀ {entries below : List (Text × Datum)}, Ordered (.map below) →
    (∀ e ∈ entries, Ordered e.2) → Ordered (.map (overlayEntries below entries))
  | [], _, hbelow, _ => by
    unfold overlayEntries
    exact hbelow
  | (key, value) :: rest, below, hbelow, h => by
    rw [List.forall_mem_cons] at h
    unfold overlayEntries
    refine ordered_overlayEntries (hbelow.put ?_) h.2
    cases hlower : Keyed.get? key below with
    | none => exact h.1
    | some lower => exact ordered_overlay (hbelow.get? hlower) h.1

end

theorem ordered_nest (h : Ordered d) : ∀ path : List Text, Ordered (nest path d)
  | [] => h
  | key :: path => by
    refine .map (List.pairwise_singleton _ _) fun e he => ?_
    obtain rfl := List.mem_singleton.1 he
    exact ordered_nest h path

end Ordered

section Overlay

variable {entries below : List (Text × Datum)}

/-- What an upper entry comes to over the lower one of its name. -/
def atop (lower : Option Datum) (upper : Datum) : Datum :=
  match lower with
  | some lower => lower.overlay upper
  | none => upper

theorem overlay_of_not_isMap {upper : Datum} (lower : Datum) (h : ¬ upper.IsMap) :
    lower.overlay upper = upper := by
  cases upper with
  | map entries => exact absurd trivial h
  | _ => simp [overlay]

theorem overlay_map (below entries : List (Text × Datum)) :
    (map below).overlay (map entries) = map (overlayEntries below entries) := by
  simp [overlay]

theorem get?_overlayEntries (key : Text) : ∀ {entries below : List (Text × Datum)},
    Keyed.Ordered entries → Keyed.get? key (overlayEntries below entries)
      = match Keyed.get? key entries with
        | none => Keyed.get? key below
        | some upper => some (atop (Keyed.get? key below) upper)
  | [], _, _ => by
    simp [overlayEntries, Keyed.get?]
  | (k, value) :: rest, below, h => by
    obtain ⟨hk, hrest⟩ := List.pairwise_cons.1 h
    have hentries : overlayEntries below ((k, value) :: rest)
        = overlayEntries (Keyed.put k (atop (Keyed.get? k below) value) below) rest := by
      rw [overlayEntries]
      cases Keyed.get? k below <;> rfl
    rw [hentries, get?_overlayEntries key hrest, Keyed.get?_put, Keyed.get?]
    by_cases hkey : k = key
    · subst hkey
      have hnone : Keyed.get? k rest = none := Keyed.get?_eq_none_iff.2 fun e he heq =>
        List.lt_irrefl _ (heq ▸ hk e he)
      simp [hnone]
    · simp [hkey]

/-- Where the upper datum holds something it counts, and elsewhere the lower one does. -/
theorem at?_overlay : ∀ {path : List Text} {lower upper : Datum}, Ordered upper →
    Leads path lower → Leads path upper → (∀ d, upper.at? path = some d → ¬ d.IsMap) →
      (lower.overlay upper).at? path = (upper.at? path).or (lower.at? path)
  | [], lower, upper, _, _, _, hend => by
    rw [overlay_of_not_isMap lower (hend upper rfl)]
    rfl
  | key :: path, .map below, .map entries, hordered, hlower, hupper, hend => by
    rw [overlay_map, at?, get?_overlayEntries key hordered.names, at?, at?]
    cases hentry : Keyed.get? key entries with
    | none => rfl
    | some value =>
      cases hunder : Keyed.get? key below with
      | none => simp [atop]
      | some under =>
        simp only [atop, Option.bind_some]
        refine at?_overlay (hordered.get? hentry) (hlower _ hunder) (hupper _ hentry) fun d hd => ?_
        exact hend d (by rw [at?, hentry]; exact hd)

/-- Tables on the way in both data are tables on the way in what they come to. -/
theorem leads_overlay : ∀ {path : List Text} {lower upper : Datum}, Ordered upper →
    Leads path lower → Leads path upper → Leads path (lower.overlay upper)
  | [], _, _, _, _, _ => trivial
  | key :: path, .map below, .map entries, hordered, hlower, hupper => by
    rw [overlay_map]
    intro d hd
    rw [get?_overlayEntries key hordered.names] at hd
    cases hentry : Keyed.get? key entries with
    | none =>
      rw [hentry] at hd
      exact hlower d hd
    | some value =>
      rw [hentry] at hd
      obtain rfl := Option.some.inj hd
      cases hunder : Keyed.get? key below with
      | none => exact hupper _ hentry
      | some under =>
        exact leads_overlay (hordered.get? hentry) (hlower _ hunder) (hupper _ hentry)

theorem leads_nest (d : Datum) : ∀ {other path : List Text}, (path <+: other → path = other) →
    Leads other (nest path d)
  | [], _, _ => trivial
  | k :: other, [], h => nomatch h List.nil_prefix
  | k :: other, key :: path, h => by
    intro found hfound
    have hkey : key = k ∧ nest path d = found := by
      simpa [Keyed.get?] using hfound
    obtain ⟨rfl, rfl⟩ := hkey
    exact leads_nest d fun hprefix => (List.cons.inj (h (by simpa using hprefix))).2

end Overlay

end Datum

end FileClerk
