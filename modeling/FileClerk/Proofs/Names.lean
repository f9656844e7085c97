import FileClerk.Keyed

/-!
# Values in the order of their names

In a list that keeps the order of names a name occurs once, so what is found under it is what stands
beside it (`get?_eq_some_iff`). Values put one after the other in that order stand as they came.
-/

namespace FileClerk

namespace Keyed

variable {α : Type}

/-- The names come in their order, each once. -/
def Ordered (entries : Keyed α) : Prop := entries.Pairwise fun a b => a.1 < b.1

theorem get?_eq_none_iff {key : Text} :
    ∀ {entries : Keyed α}, get? key entries = none ↔ ∀ e ∈ entries, e.1 ≠ key
  | [] => by simp [get?]
  | (k, a) :: rest => by
    rw [get?, List.forall_mem_cons, ← get?_eq_none_iff]
    by_cases h : k = key <;> simp [h]

theorem mem_of_get? {key : Text} {a : α} :
    ∀ {entries : Keyed α}, get? key entries = some a → (key, a) ∈ entries
  | (k, b) :: rest, h => by
    rw [get?] at h
    split at h
    · rename_i hk
      obtain rfl := Option.some.inj h
      exact hk ▸ List.mem_cons_self
    · exact List.mem_cons_of_mem _ (mem_of_get? h)

theorem get?_eq_some_iff {key : Text} {a : α} :
    ∀ {entries : Keyed α}, Ordered entries → (get? key entries = some a ↔ (key, a) ∈ entries)
  | [], _ => by simp [get?]
  | (k, b) :: rest, h => by
    obtain ⟨hk, hrest⟩ := List.pairwise_cons.1 h
    refine ⟨mem_of_get?, fun hmem => ?_⟩
    rw [get?]
    rcases List.mem_cons.1 hmem with heq | hmem
    · obtain ⟨rfl, rfl⟩ := Prod.mk.inj heq
      exact if_pos rfl
    · have hlt : k < key := hk _ hmem
      have hne : k ≠ key := by
        rintro rfl
        exact List.lt_irrefl _ hlt
      rw [if_neg hne]
      exact (get?_eq_some_iff hrest).2 hmem

/-- A name behind all others is put at the end. -/
theorem put_of_forall_lt {key : Text} (a : α) :
    ∀ {entries : Keyed α}, (∀ e ∈ entries, e.1 < key) → put key a entries = entries ++ [(key, a)]
  | [], _ => rfl
  | (k, b) :: rest, h => by
    obtain ⟨hk, hrest⟩ := List.forall_mem_cons.1 h
    have hne : key ≠ k := by
      rintro rfl
      exact List.lt_irrefl _ hk
    rw [put, if_neg hne, if_neg (List.lt_asymm hk), put_of_forall_lt a hrest, List.cons_append]

theorem foldl_put_of_ordered :
    ∀ {front entries : Keyed α}, Ordered (front ++ entries) →
      entries.foldl (fun (m : Keyed α) e => m.put e.1 e.2) front = front ++ entries
  | front, [], _ => (List.append_nil front).symm
  | front, (key, a) :: rest, h => by
    have hfront := (List.pairwise_append.1 h).2.2
    have hput : put key a front = front ++ [(key, a)] :=
      put_of_forall_lt a fun e he => hfront e he _ List.mem_cons_self
    rw [List.foldl_cons, hput, foldl_put_of_ordered (by rwa [List.append_assoc]),
      List.append_assoc]
    rfl

end Keyed

end FileClerk
