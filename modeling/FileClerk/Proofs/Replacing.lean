import FileClerk.Proofs.Layering

/-!
# One place of a datum replaced

A datum that differs from another at one path only still does when both have a third one under them
or over them, as long as the upper one of the two does not reach that path
(`Replaces.overlay_nest`, `Replaces.atop`).
-/

namespace FileClerk

namespace Datum

/-- Neither of two paths leads on to the other. -/
def Apart (path other : List Text) : Prop := ¬ path <+: other ∧ ¬ other <+: path

/-- What a datum holds at a path has a property, and beside the path it holds what another one does,
if there is one. -/
def Replaces (P : Datum → Prop) : List Text → Option Datum → Datum → Prop
  | [], _, d => P d
  | key :: path, old, d => d.IsMap ∧
      (∃ next, d.at? [key] = some next ∧ Replaces P path (old.bind (at? [key])) next) ∧
      ∀ name, name ≠ key → d.at? [name] = old.bind (at? [name])

variable {P : Datum → Prop} {lower : Option Datum} {upper d : Datum}

theorem isMap_map (entries : List (Text × Datum)) : (map entries).IsMap := trivial

theorem isMap_atop (lower : Option Datum) (h : upper.IsMap) : (atop lower upper).IsMap := by
  cases upper with
  | map entries =>
    rcases lower with _ | lower
    · trivial
    · cases lower <;> simp [atop, overlay, IsMap]
  | _ => cases h

/-- Under a name of a table laid over something both values meet, or what there is of them. -/
theorem at?_atop (lower : Option Datum) (hmap : upper.IsMap) (hordered : Ordered upper)
    (name : Text) : (atop lower upper).at? [name]
      = (upper.at? [name]).elim (lower.bind (at? [name])) fun value =>
          some (atop (lower.bind (at? [name])) value) := by
  cases upper with
  | map entries =>
    rw [at?_singleton]
    rcases lower with _ | lower
    · rw [atop, at?_singleton]
      cases Keyed.get? name entries <;> rfl
    · cases lower with
      | map below =>
        rw [atop, overlay_map, at?_singleton, get?_overlayEntries name hordered.names,
          Option.bind_some, at?_singleton]
        cases Keyed.get? name entries <;> rfl
      | _ =>
        rw [atop, overlay, at?_singleton]
        · cases Keyed.get? name entries <;> rfl
        · simp
  | _ => cases hmap

theorem at?_atop_singleton (lower : Option Datum) (key : Text) (hordered : Ordered d)
    (name : Text) : (atop lower (.map [(key, d)])).at? [name]
      = if key = name then some (atop (lower.bind (at? [name])) d)
        else lower.bind (at? [name]) := by
  have hsingle : Ordered (.map [(key, d)]) := ordered_nest hordered [key]
  rw [at?_atop lower (isMap_map _) hsingle, at?_singleton, Keyed.get?]
  by_cases h : key = name
  · rw [if_pos h, if_pos h]
    rfl
  · rw [if_neg h, if_neg h]
    rfl

/-- A datum laid under a path over something replaces what is there. -/
theorem replaces_atop_nest (hordered : Ordered d) (hd : ∀ lower, P (atop lower d)) :
    ∀ (path : List Text) (lower : Option Datum), Replaces P path lower (atop lower (nest path d))
  | [], lower => hd lower
  | key :: path, lower => by
    have hat := at?_atop_singleton lower key (ordered_nest hordered path)
    refine ⟨isMap_atop lower (isMap_map _), ⟨_, ?_, replaces_atop_nest hordered hd path _⟩,
      fun name h => ?_⟩
    · rw [nest, hat, if_pos rfl]
    · rw [nest, hat, if_neg h.symm]

/-- What is laid over both data apart from the path does not change what is replaced. -/
theorem Replaces.overlay_nest (hordered : Ordered d) :
    ∀ {path other : List Text} {old : Option Datum} {new : Datum}, Replaces P path old new →
      Apart path other →
      Replaces P path (some (atop old (nest other d))) (new.overlay (nest other d))
  | [], other, _, _, _, hapart => absurd List.nil_prefix hapart.1
  | _ :: _, [], _, _, _, hapart => absurd List.nil_prefix hapart.2
  | key :: path, first :: other, old, new, ⟨hmap, ⟨next, hnext, hrest⟩, hbeside⟩, hapart => by
    have hold := at?_atop_singleton old first (ordered_nest hordered other)
    have hnew := at?_atop_singleton (some new) first (ordered_nest hordered other)
    refine ⟨isMap_atop (some new) (isMap_map _), ?_, fun name hname => ?_⟩
    · by_cases hfirst : first = key
      · subst hfirst
        have hrestApart : Apart path other := by
          simpa [Apart, List.cons_prefix_cons] using hapart
        refine ⟨next.overlay (nest other d), ?_, ?_⟩
        · rw [nest]
          refine (hnew first).trans ?_
          rw [if_pos rfl, Option.bind_some, hnext]
          rfl
        · rw [nest, Option.bind_some, hold, if_pos rfl]
          exact hrest.overlay_nest hordered hrestApart
      · refine ⟨next, ?_, ?_⟩
        · rw [nest]
          refine (hnew key).trans ?_
          rw [if_neg hfirst, Option.bind_some, hnext]
        · rw [nest, Option.bind_some, hold, if_neg hfirst]
          exact hrest
    · rw [nest, Option.bind_some, hold, ← hbeside name hname]
      exact hnew name

/-- What is laid under both data does not change what is replaced. -/
theorem Replaces.atop (hP : ∀ lower d, P d → P (atop lower d)) :
    ∀ {path : List Text} {old : Option Datum} {new : Datum}, Replaces P path old new →
      (∀ d ∈ old, Ordered d ∧ Leads path d) → Ordered new → ∀ under : Option Datum,
        Replaces P path (old.elim under fun d => some (Datum.atop under d)) (Datum.atop under new)
  | [], _, new, h, _, _, under => hP under new h
  | key :: path, old, new, ⟨hmap, ⟨next, hnext, hrest⟩, hbeside⟩, hold, hnew, under => by
    have hcombined : ∀ name, (old.elim under fun d => some (Datum.atop under d)).bind (at? [name])
        = (old.bind (at? [name])).elim (under.bind (at? [name])) fun d =>
            some (Datum.atop (under.bind (at? [name])) d) := by
      intro name
      rcases old with _ | old
      · rfl
      · obtain ⟨hordered, hleads⟩ := hold old rfl
        cases old with
        | map entries => exact at?_atop under (isMap_map _) hordered name
        | _ => cases hleads
    have hat := at?_atop under hmap hnew
    refine ⟨isMap_atop under hmap, ⟨Datum.atop (under.bind (at? [key])) next, ?_, ?_⟩,
      fun name hname => ?_⟩
    · rw [hat, hnext]
      rfl
    · rw [hcombined]
      refine hrest.atop hP ?_ ?_ _
      · intro d hd
        obtain ⟨found, rfl, hfound⟩ := Option.bind_eq_some_iff.1 hd
        obtain ⟨hordered, hleads⟩ := hold found rfl
        cases found with
        | map entries =>
          rw [at?_singleton] at hfound
          exact ⟨hordered.get? hfound, hleads d hfound⟩
        | _ => cases hleads
      · cases new with
        | map entries =>
          rw [at?_singleton] at hnext
          exact hnew.get? hnext
        | _ => cases hmap
    · rw [hat, hcombined, hbeside name hname]

end Datum

end FileClerk
