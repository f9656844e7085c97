import FileClerk.Text.Basic

/-!
# Values by name

A list of names with their values, in the order of the names. `Keyed.get?_put` says that putting a
value under a name changes what is found there and nothing else, and `Keyed.pairwise_put` that it
keeps the order.
-/

namespace FileClerk

abbrev Keyed (α : Type) : Type := List (Text × α)

namespace Keyed

variable {α : Type}

def get? (key : Text) : Keyed α → Option α
  | [] => none
  | (k, a) :: rest => if k = key then some a else get? key rest

/-- Puts a value under a name, in place of the value that was there. -/
def put (key : Text) (a : α) : Keyed α → Keyed α
  | [] => [(key, a)]
  | (k, b) :: rest =>
    if key = k then (key, a) :: rest
    else if key < k then (key, a) :: (k, b) :: rest
    else (k, b) :: put key a rest

theorem get?_put (key other : Text) (a : α) :
    ∀ entries : Keyed α, get? other (put key a entries) =
      if key = other then some a else get? other entries
  | [] => by simp [put, get?]
  | (k, b) :: rest => by
    have ih := get?_put key other a rest
    unfold put
    split
    · rename_i h
      subst h
      by_cases h : key = other <;> simp [get?, h]
    · rename_i h
      split
      · simp [get?]
      · by_cases hk : k = other
        · subst hk
          simp [get?, h]
        · simp [get?, hk, ih]

theorem mem_put {key : Text} {a : α} {e : Text × α} :
    ∀ {entries : Keyed α}, e ∈ put key a entries → e = (key, a) ∨ e ∈ entries
  | [], h => by simpa [put] using h
  | (k, b) :: rest, h => by
    unfold put at h
    split at h
    · simp only [List.mem_cons] at h ⊢
      exact h.imp_right .inr
    · split at h
      · simpa using h
      · simp only [List.mem_cons] at h ⊢
        rcases h with h | h
        · exact .inr (.inl h)
        · exact (mem_put h).imp_right .inr

/-- Putting a value keeps the order of names. -/
theorem pairwise_put (key : Text) (a : α) :
    ∀ {entries : Keyed α}, entries.Pairwise (fun a b => a.1 < b.1) →
      (put key a entries).Pairwise fun a b => a.1 < b.1
  | [], _ => by simp [put]
  | (k, b) :: rest, h => by
    obtain ⟨hk, hrest⟩ := List.pairwise_cons.1 h
    unfold put
    split
    · rename_i heq
      subst heq
      exact List.pairwise_cons.2 ⟨hk, hrest⟩
    · rename_i hne
      split
      · rename_i hlt
        refine List.pairwise_cons.2 ⟨fun e he => ?_, h⟩
        rcases List.mem_cons.1 he with rfl | he
        · exact hlt
        · exact List.lt_trans hlt (hk e he)
      · rename_i hge
        refine List.pairwise_cons.2 ⟨fun e he => ?_, pairwise_put key a hrest⟩
        rcases mem_put he with rfl | he
        · exact (List.le_iff_lt_or_eq.1 (List.not_lt.1 hge)).resolve_right fun h => hne h.symm
        · exact hk e he

end Keyed

end FileClerk
