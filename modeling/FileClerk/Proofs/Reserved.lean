import FileClerk.Proofs.Names
import FileClerk.Settings.Layers

/-!
# Tables that stand for themselves

Two names make a table stand for something else than what is in it. A datum in whose tables neither
of them occurs is what it says (`carried?_of_clear`).
-/

namespace FileClerk

namespace Settings

/-- A name that no table may use for a value of its own. -/
def Reserved (name : Text) : Prop := name = carriedKey ∨ name = identityKey

instance (name : Text) : Decidable (Reserved name) := inferInstanceAs (Decidable (_ ∨ _))

/-- No table of a datum uses a reserved name. -/
inductive Clear : Datum → Prop
  | bool (b : Bool) : Clear (.bool b)
  | signed (n : Int) : Clear (.signed n)
  | unsigned (n : Nat) : Clear (.unsigned n)
  | float (x : Binary64) : Clear (.float x)
  | text (s : Text) : Clear (.text s)
  | sequence {items : List Datum} : (∀ d ∈ items, Clear d) → Clear (.sequence items)
  | map {entries : List (Text × Datum)} : (∀ e ∈ entries, ¬ Reserved e.1) →
      (∀ e ∈ entries, Clear e.2) → Clear (.map entries)

mutual

theorem carried?_of_clear : ∀ {d : Datum}, Clear d → carried? d = some d
  | .bool _, _ | .signed _, _ | .unsigned _, _ | .float _, _ | .text _, _ => by
    unfold carried?
    rfl
  | .sequence items, h => by
    cases h with
    | sequence h =>
      unfold carried?
      rw [carriedItems?_of_clear h]
      rfl
  | .map entries, h => by
    cases h with
    | map hnames hvalues =>
      have hcarried : Keyed.get? carriedKey entries = none :=
        Keyed.get?_eq_none_iff.2 fun e he heq => hnames e he (.inl heq)
      have hidentity : Keyed.get? identityKey entries = none :=
        Keyed.get?_eq_none_iff.2 fun e he heq => hnames e he (.inr heq)
      unfold carried?
      rw [carriedEntries?_of_clear hvalues]
      simp [hcarried, hidentity]

theorem carriedEntries?_of_clear : ∀ {entries : List (Text × Datum)}, (∀ e ∈ entries, Clear e.2) →
    carriedEntries? entries = some entries
  | [], _ => by
    unfold carriedEntries?
    rfl
  | e :: entries, h => by
    rw [List.forall_mem_cons] at h
    unfold carriedEntries?
    rw [carried?_of_clear h.1, carriedEntries?_of_clear h.2]
    rfl

theorem carriedItems?_of_clear : ∀ {items : List Datum}, (∀ d ∈ items, Clear d) →
    carriedItems? items = some items
  | [], _ => by
    unfold carriedItems?
    rfl
  | d :: items, h => by
    rw [List.forall_mem_cons] at h
    unfold carriedItems?
    rw [carried?_of_clear h.1, carriedItems?_of_clear h.2]
    rfl

end

theorem ofDocument?_of_clear {entries : List (Text × Datum)} (h : ∀ e ∈ entries, Clear e.2) :
    ofDocument? (.map entries) = some (.map entries) := by
  rw [ofDocument?, carriedEntries?_of_clear h]
  rfl

end Settings

end FileClerk
