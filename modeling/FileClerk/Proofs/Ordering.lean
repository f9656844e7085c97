import FileClerk.Proofs.Layering
import FileClerk.Settings.Variable
import FileClerk.Toml.Document

/-!
# What is read is in order

Names are put into a table one after the other, each in its place, so every table that a variable or
a document is read as has its names in order.
-/

namespace FileClerk

open Datum

namespace Settings

theorem bind_eq_ok {ε α β : Type} {x : Except ε α} {next : α → Except ε β} {b : β} :
    x >>= next = .ok b ↔ ∃ a, x = .ok a ∧ next a = .ok b := by
  cases x with
  | error e =>
    refine iff_of_false (fun h => ?_) ?_
    · cases h
    · rintro ⟨a, h, -⟩
      cases h
  | ok a => exact ⟨fun h => ⟨a, rfl, h⟩, fun ⟨_, ha, h⟩ => by cases ha; exact h⟩

theorem map_eq_ok {ε α β : Type} {x : Except ε α} {f : α → β} {b : β} :
    x.map f = .ok b ↔ ∃ a, x = .ok a ∧ f a = b := by
  cases x with
  | error e =>
    refine iff_of_false (fun h => ?_) ?_
    · cases h
    · rintro ⟨a, h, -⟩
      cases h
  | ok a => simp [Except.map]

section Variables

variable {value : Text → Except Unread (Datum × Text)}
  (hvalue : ∀ {s d rest}, value s = .ok (d, rest) → Ordered d)

include hvalue in
theorem ordered_of_itemsUpTo (n : Nat) (s : Text) : ∀ {items : List Datum} {rest : Text},
    itemsUpTo value n s = .ok (items, rest) → ∀ d ∈ items, Ordered d := by
  induction n, s using itemsUpTo.induct with
  | case1 s =>
    intro items rest h
    cases h
  | case2 n s =>
    intro items rest h
    cases h
    simp
  | case3 n s hs ih =>
    intro items rest h
    rw [itemsUpTo] at h
    · obtain ⟨⟨item, after⟩, hitem, h⟩ := bind_eq_ok.1 h
      dsimp only at h
      split at h
      · obtain ⟨⟨more, last⟩, hmore, h⟩ := bind_eq_ok.1 h
        cases h
        exact List.forall_mem_cons.2 ⟨hvalue hitem, ih _ hmore⟩
      · cases h
        simpa using hvalue hitem
      · cases h
    · exact hs

include hvalue in
theorem ordered_of_entry {s rest : Text} {e : Text × Datum} (h : entry value s = .ok (e, rest)) :
    Ordered e.2 := by
  obtain ⟨⟨name, after⟩, -, h⟩ := bind_eq_ok.1 h
  dsimp only at h
  split at h
  · obtain ⟨⟨d, last⟩, hd, h⟩ := bind_eq_ok.1 h
    cases h
    exact hvalue hd
  · cases h

include hvalue in
theorem ordered_of_entriesUpTo (n : Nat) (s : Text) :
    ∀ {entries : List (Text × Datum)} {rest : Text},
      entriesUpTo value n s = .ok (entries, rest) → ∀ e ∈ entries, Ordered e.2 := by
  induction n, s using entriesUpTo.induct with
  | case1 s =>
    intro entries rest h
    cases h
  | case2 n s =>
    intro entries rest h
    cases h
    simp
  | case3 n s hs ih =>
    intro entries rest h
    rw [entriesUpTo] at h
    · obtain ⟨⟨first, after⟩, hfirst, h⟩ := bind_eq_ok.1 h
      dsimp only at h
      split at h
      · obtain ⟨⟨more, last⟩, hmore, h⟩ := bind_eq_ok.1 h
        cases h
        exact List.forall_mem_cons.2 ⟨ordered_of_entry hvalue hfirst, ih _ hmore⟩
      · cases h
        simpa using ordered_of_entry hvalue hfirst
      · cases h
    · exact hs

theorem ordered_mapOf {entries : List (Text × Datum)} (h : ∀ e ∈ entries, Ordered e.2) :
    Ordered (mapOf entries) := by
  have hfold : ∀ (entries : List (Text × Datum)) (front : Keyed Datum), Ordered (.map front) →
      (∀ e ∈ entries, Ordered e.2) →
        Ordered (.map (entries.foldl (fun (m : Keyed Datum) e => m.put e.1 e.2) front)) := by
    intro entries
    induction entries with
    | nil => exact fun _ hfront _ => hfront
    | cons e entries ih =>
      intro front hfront h
      rw [List.forall_mem_cons] at h
      exact ih _ (hfront.put h.1) h.2
  exact hfold entries [] ordered_empty h

theorem ordered_ofWord (word : Text) : Ordered (ofWord word) := by
  unfold ofWord
  dsimp only
  repeat' split
  all_goals constructor

theorem ordered_of_valueUpTo : ∀ {depth : Nat} {s rest : Text} {d : Datum},
    valueUpTo depth s = .ok (d, rest) → Ordered d := by
  intro depth
  induction depth with
  | zero =>
    intro s rest d h
    cases h
  | succ depth ih =>
    intro s rest d h
    unfold valueUpTo at h
    dsimp only at h
    split at h
    · cases h
      exact .bool true
    · cases h
      exact .bool false
    · obtain ⟨found, hread, h⟩ := bind_eq_ok.1 h
      obtain ⟨⟨entries, last⟩, hentries, rfl⟩ := map_eq_ok.1 hread
      cases h
      exact ordered_mapOf (ordered_of_entriesUpTo ih _ _ hentries)
    · obtain ⟨found, hread, h⟩ := bind_eq_ok.1 h
      obtain ⟨⟨items, last⟩, hitems, rfl⟩ := map_eq_ok.1 hread
      cases h
      exact .sequence (ordered_of_itemsUpTo ih _ _ hitems)
    · obtain ⟨found, hread, h⟩ := bind_eq_ok.1 h
      obtain ⟨⟨text, last⟩, -, rfl⟩ := map_eq_ok.1 hread
      cases h
      exact .text text
    · split at h
      · cases h
        exact .text _
      · cases h
    · cases h
      exact ordered_ofWord _

theorem ordered_of_ofVariable {s : Text} {d : Datum} (h : ofVariable s = .ok d) : Ordered d := by
  unfold ofVariable at h
  split at h
  · rename_i hread
    cases h
    exact ordered_of_valueUpTo hread
  · cases h
  · cases h
    exact .text s

end Variables

end Settings

namespace Toml

section Tables

variable {t t' : Table}

theorem entriesData_put (key : Text) (node : Node) : ∀ entries : List (Text × Node),
    Node.entriesData (Keyed.put key node entries)
      = Keyed.put key node.datum (Node.entriesData entries)
  | [] => rfl
  | (k, other) :: rest => by
    rw [Keyed.put, Node.entriesData, Keyed.put, ← entriesData_put key node rest]
    split
    · rfl
    · split <;> rfl

theorem get?_entriesData (key : Text) : ∀ entries : List (Text × Node),
    Keyed.get? key (Node.entriesData entries) = (Keyed.get? key entries).map Node.datum
  | [] => rfl
  | (k, node) :: rest => by
    rw [Node.entriesData, Keyed.get?, Keyed.get?, get?_entriesData key rest]
    split <;> rfl

theorem ordered_put (h : Ordered t.datum) (key : Text) (node : Node) (hnode : Ordered node.datum) :
    Ordered (t.put key node).datum := by
  change Ordered (.map (Node.entriesData (Keyed.put key node t.entries)))
  rw [entriesData_put]
  exact Ordered.put h hnode

theorem ordered_table (h : Ordered t.datum) {child : Table} (hchild : Ordered child.datum)
    (key : Text) {origin : Origin} : Ordered (t.put key (.table origin child.entries)).datum :=
  ordered_put h key (.table origin child.entries) hchild

theorem ordered_tables (h : Ordered t.datum) {earlier : List Datum} {last : Table}
    (hearlier : ∀ d ∈ earlier, Ordered d) (hlast : Ordered last.datum) (key : Text) :
    Ordered (t.put key (.tables earlier last.entries)).datum := by
  refine ordered_put h key (.tables earlier last.entries) (.sequence ?_)
  rw [List.forall_mem_append, List.forall_mem_singleton]
  exact ⟨hearlier, hlast⟩

theorem ordered_get? (h : Ordered t.datum) {key : Text} {node : Node}
    (hnode : t.entries.get? key = some node) : Ordered node.datum := by
  have hdatum : Keyed.get? key (Node.entriesData t.entries) = some node.datum := by
    rw [get?_entriesData, hnode]
    rfl
  exact Ordered.get? h hdatum

theorem ordered_items {items : List Datum} (h : Ordered (.sequence items)) :
    ∀ d ∈ items, Ordered d := by
  cases h with
  | sequence h => exact h

/-- A change of tables that keeps names in order. -/
def KeepsOrder (change : Table → Option Table) : Prop :=
  ∀ t t', Ordered t.datum → change t = some t' → Ordered t'.datum

theorem ordered_empty (origin : Origin) : Ordered (Table.empty origin).datum :=
  Datum.ordered_empty

theorem keepsOrder_onChild {change : Table → Option Table} (h : KeepsOrder change) (fresh : Origin)
    (mayEnter : Origin → Bool) (key : Text) :
    KeepsOrder fun t => t.onChild fresh mayEnter key change := by
  intro t t' ht heq
  dsimp only [Table.onChild] at heq
  split at heq
  · obtain ⟨child, hchild, heq⟩ := Option.bind_eq_some_iff.1 heq
    cases heq
    exact ordered_table ht (h _ _ (ordered_empty fresh) hchild) key
  · cases heq
  · rename_i origin entries hfound
    split at heq
    · obtain ⟨child, hchild, heq⟩ := Option.bind_eq_some_iff.1 heq
      cases heq
      exact ordered_table ht (h ⟨origin, entries⟩ _ (ordered_get? ht hfound) hchild) key
    · cases heq
  · rename_i earlier last hfound
    obtain ⟨child, hchild, heq⟩ := Option.bind_eq_some_iff.1 heq
    cases heq
    have hitems := ordered_items (ordered_get? ht hfound)
    rw [List.forall_mem_append, List.forall_mem_singleton] at hitems
    exact ordered_tables ht hitems.1 (h ⟨.spelled, last⟩ _ hitems.2 hchild) key

theorem keepsOrder_assign {d : Datum} (hd : Ordered d) : ∀ path : List Text,
    KeepsOrder fun t => t.assign path d := by
  intro path
  induction path with
  | nil =>
    intro t t' _ heq
    cases heq
  | cons key path ih =>
    rcases path with _ | ⟨second, path⟩
    · intro t t' ht heq
      dsimp only [Table.assign, Table.add] at heq
      split at heq
      · cases heq
        exact ordered_put ht key (.value d) hd
      · cases heq
    · refine keepsOrder_onChild (fun child child' hchild heq => ?_) _ _ key
      split at heq
      · cases heq
      · exact ih _ _ hchild heq

theorem keepsOrder_within {change : Table → Option Table} (h : KeepsOrder change) :
    ∀ path : List Text, KeepsOrder fun t => t.within path change
  | [] => h
  | key :: path => keepsOrder_onChild (keepsOrder_within h path) _ _ key

theorem keepsOrder_openTable {fill : Table → Option Table} (h : KeepsOrder fill) (key : Text) :
    KeepsOrder fun t => t.openTable key fill := by
  intro t t' ht heq
  simp only [Table.openTable, Option.bind_eq_bind, Option.bind_some] at heq
  split at heq
  · obtain ⟨filled, hfilled, heq⟩ := Option.bind_eq_some_iff.1 heq
    cases heq
    exact ordered_table ht (h _ _ (ordered_empty .spelled) hfilled) key
  · rename_i entries hfound
    obtain ⟨filled, hfilled, heq⟩ := Option.bind_eq_some_iff.1 heq
    cases heq
    exact ordered_table ht (h ⟨.spelled, entries⟩ _ (ordered_get? ht hfound) hfilled) key
  · cases heq

theorem keepsOrder_openElement {fill : Table → Option Table} (h : KeepsOrder fill) (key : Text) :
    KeepsOrder fun t => t.openElement key fill := by
  intro t t' ht heq
  simp only [Table.openElement, Option.bind_eq_bind, Option.bind_some] at heq
  split at heq
  · obtain ⟨filled, hfilled, heq⟩ := Option.bind_eq_some_iff.1 heq
    cases heq
    exact ordered_tables ht (List.forall_mem_nil _) (h _ _ (ordered_empty .spelled) hfilled) key
  · rename_i hfound
    obtain ⟨filled, hfilled, heq⟩ := Option.bind_eq_some_iff.1 heq
    cases heq
    exact ordered_tables ht (ordered_items (ordered_get? ht hfound))
      (h _ _ (ordered_empty .spelled) hfilled) key
  · cases heq

theorem keepsOrder_foldlM {entries : List (List Text × Datum)} (h : ∀ e ∈ entries, Ordered e.2) :
    KeepsOrder fun t => entries.foldlM (fun (t : Table) e => t.assign e.1 e.2) t := by
  induction entries with
  | nil =>
    intro t t' ht heq
    cases heq
    exact ht
  | cons e entries ih =>
    rw [List.forall_mem_cons] at h
    intro t t' ht heq
    obtain ⟨next, hnext, heq⟩ := Option.bind_eq_some_iff.1 heq
    exact ih h.2 _ _ (keepsOrder_assign h.1 _ _ _ ht hnext) heq

end Tables

section Values

variable {value? : Text → Option (Datum × Text)}
  (hvalue : ∀ {s d rest}, value? s = some (d, rest) → Ordered d)

include hvalue in
theorem ordered_of_itemsUpTo (n : Nat) (s : Text) : ∀ {items : List Datum} {rest : Text},
    itemsUpTo value? n s = some (items, rest) → ∀ d ∈ items, Ordered d := by
  induction n, s using itemsUpTo.induct with
  | case1 s =>
    intro items rest h
    cases h
  | case2 n s ih =>
    intro items rest h
    obtain ⟨begin_, -, h⟩ := Option.bind_eq_some_iff.1 h
    split at h
    · cases h
      simp
    · obtain ⟨⟨item, after⟩, hitem, h⟩ := Option.bind_eq_some_iff.1 h
      obtain ⟨next, -, h⟩ := Option.bind_eq_some_iff.1 h
      split at h
      · obtain ⟨⟨more, last⟩, hmore, h⟩ := Option.bind_eq_some_iff.1 h
        cases h
        exact List.forall_mem_cons.2 ⟨hvalue hitem, ih _ hmore⟩
      · cases h
        simpa using hvalue hitem
      · cases h

include hvalue in
theorem ordered_of_assignment {s rest : Text} {e : List Text × Datum}
    (h : assignment? value? s = some (e, rest)) : Ordered e.2 := by
  obtain ⟨⟨key, after⟩, -, h⟩ := Option.bind_eq_some_iff.1 h
  obtain ⟨mark, -, h⟩ := Option.bind_eq_some_iff.1 h
  obtain ⟨⟨d, last⟩, hd, h⟩ := Option.bind_eq_some_iff.1 h
  cases h
  exact hvalue hd

include hvalue in
theorem ordered_of_entriesUpTo (n : Nat) (s : Text) :
    ∀ {entries : List (List Text × Datum)} {rest : Text},
      entriesUpTo value? n s = some (entries, rest) → ∀ e ∈ entries, Ordered e.2 := by
  induction n, s using entriesUpTo.induct with
  | case1 s =>
    intro entries rest h
    cases h
  | case2 n s ih =>
    intro entries rest h
    obtain ⟨⟨first, after⟩, hfirst, h⟩ := Option.bind_eq_some_iff.1 h
    dsimp only at h
    split at h
    · obtain ⟨⟨more, last⟩, hmore, h⟩ := Option.bind_eq_some_iff.1 h
      cases h
      exact List.forall_mem_cons.2 ⟨ordered_of_assignment hvalue hfirst, ih _ hmore⟩
    · cases h
      simpa using ordered_of_assignment hvalue hfirst
    · cases h

include hvalue in
theorem ordered_of_inlineTable {s rest : Text} {d : Datum}
    (h : inlineTable? value? s = some (d, rest)) : Ordered d := by
  unfold inlineTable? at h
  split at h
  · cases h
    exact ordered_empty .spelled
  · obtain ⟨⟨entries, after⟩, hentries, h⟩ := Option.bind_eq_some_iff.1 h
    obtain ⟨t, ht, h⟩ := Option.bind_eq_some_iff.1 h
    cases h
    exact keepsOrder_foldlM (ordered_of_entriesUpTo hvalue _ _ hentries) _ _
      (ordered_empty .spelled) ht

theorem ordered_of_integer? {negative : Bool} {n : Nat} {d : Datum}
    (h : integer? negative n = some d) : Ordered d := by
  rw [integer?, Option.ite_none_right_eq_some] at h
  cases h.2
  exact .signed _

theorem ordered_of_float? {negative : Bool} {whole fraction : Text} {exponent : Int} {d : Datum}
    (h : float? negative whole fraction exponent = some d) : Ordered d := by
  dsimp only [float?] at h
  split at h
  · cases h
  · cases h
    exact .float _

theorem ordered_of_based? {base : Nat} {s rest : Text} {d : Datum}
    (h : based? base s = some (d, rest)) : Ordered d := by
  obtain ⟨⟨digits, after⟩, -, h⟩ := Option.bind_eq_some_iff.1 h
  obtain ⟨found, hfound, h⟩ := Option.bind_eq_some_iff.1 h
  cases h
  exact ordered_of_integer? hfound

theorem ordered_of_decimal? {negative : Bool} {s rest : Text} {d : Datum}
    (h : decimal? negative s = some (d, rest)) : Ordered d := by
  obtain ⟨⟨whole, after⟩, -, h⟩ := Option.bind_eq_some_iff.1 h
  obtain ⟨⟨fraction, after⟩, -, h⟩ := Option.bind_eq_some_iff.1 h
  obtain ⟨⟨exponent, after⟩, -, h⟩ := Option.bind_eq_some_iff.1 h
  dsimp only at h
  split at h
  · obtain ⟨found, hfound, h⟩ := Option.bind_eq_some_iff.1 h
    cases h
    exact ordered_of_integer? hfound
  · obtain ⟨found, hfound, h⟩ := Option.bind_eq_some_iff.1 h
    cases h
    exact ordered_of_float? hfound

theorem ordered_of_number? {s rest : Text} {d : Datum} (h : number? s = some (d, rest)) :
    Ordered d := by
  unfold number? at h
  split at h
  · exact ordered_of_based? h
  · exact ordered_of_based? h
  · exact ordered_of_based? h
  · dsimp only at h
    split at h
    · cases h
      exact .float _
    · cases h
      exact .float _
    · exact ordered_of_decimal? h

theorem ordered_moment (s : Text) : Ordered (moment s) :=
  .map (List.pairwise_singleton _ _) (List.forall_mem_singleton.2 (.text s))

theorem ordered_of_moment? {s rest : Text} {d : Datum} (h : moment? s = some (d, rest)) :
    Ordered d := by
  unfold moment? at h
  split at h
  · obtain ⟨⟨time, after⟩, -, h⟩ := Option.map_eq_some_iff.1 h
    cases h
    exact ordered_moment _
  · obtain ⟨⟨time, after⟩, -, h⟩ := Option.map_eq_some_iff.1 h
    cases h
    exact ordered_moment _

theorem ordered_of_scalar? {s rest : Text} {d : Datum} (h : scalar? s = some (d, rest)) :
    Ordered d := by
  unfold scalar? at h
  split at h
  · rename_i hmoment
    cases h
    exact ordered_of_moment? hmoment
  · exact ordered_of_number? h

theorem ordered_of_valueUpTo (depth : Nat) : ∀ {s rest : Text} {d : Datum},
    valueUpTo depth s = some (d, rest) → Ordered d := by
  induction depth using Nat.strongRecOn with
  | ind depth ih =>
    intro s rest d h
    unfold valueUpTo at h
    split at h
    · cases h
    rename_i c tail
    by_cases hquote : c = '"' ∨ c = '\''
    · rw [if_pos hquote] at h
      obtain ⟨⟨text, after⟩, -, h⟩ := Option.map_eq_some_iff.1 h
      cases h
      exact .text _
    rw [if_neg hquote] at h
    by_cases hbracket : c = '['
    · rw [if_pos hbracket] at h
      rcases depth with _ | depth
      · cases h
      · obtain ⟨⟨items, after⟩, hitems, h⟩ := Option.map_eq_some_iff.1 h
        cases h
        exact .sequence (ordered_of_itemsUpTo (ih depth (Nat.lt_succ_self _)) _ _ hitems)
    rw [if_neg hbracket] at h
    by_cases hbrace : c = '\x7b'
    · rw [if_pos hbrace] at h
      rcases depth with _ | depth
      · cases h
      · exact ordered_of_inlineTable (ih depth (Nat.lt_succ_self _)) h
    rw [if_neg hbrace] at h
    split at h
    · cases h
      exact .bool true
    · cases h
      exact .bool false
    · exact ordered_of_scalar? h

end Values

section Lines

/-- Every entry of some lines has its names in order. -/
def OrderedLines (lines : List Line) : Prop := ∀ key d, .entry key d ∈ lines → Ordered d

theorem ordered_of_line? {s rest : Text} {line : Line} (h : line? s = some (line, rest)) :
    OrderedLines [line] := by
  have hheader : ∀ {build : List Text → Line} {closing s : Text},
      header? build closing s = some (line, rest) → ∃ path, line = build path := by
    intro build closing s h
    obtain ⟨⟨path, after⟩, -, h⟩ := Option.bind_eq_some_iff.1 h
    obtain ⟨last, -, h⟩ := Option.bind_eq_some_iff.1 h
    cases h
    exact ⟨path, rfl⟩
  intro key d hentry
  rw [List.mem_singleton] at hentry
  unfold line? at h
  split at h
  · obtain ⟨path, rfl⟩ := hheader h
    cases hentry
  · obtain ⟨path, rfl⟩ := hheader h
    cases hentry
  · obtain ⟨⟨e, after⟩, he, h⟩ := Option.map_eq_some_iff.1 h
    cases h
    cases hentry
    exact ordered_of_assignment (ordered_of_valueUpTo depthLimit) he

theorem ordered_of_linesUpTo (n : Nat) (s : Text) : ∀ {lines : List Line},
    linesUpTo n s = some lines → OrderedLines lines := by
  induction n, s using linesUpTo.induct with
  | case1 s =>
    intro lines h
    cases h
  | case2 n s hend =>
    intro lines h
    unfold linesUpTo at h
    rw [hend] at h
    cases h
    rintro key d ⟨⟩
  | case3 n s rest hs hfinish ih =>
    intro lines h
    rw [linesUpTo] at h
    split at h
    · cases h
      rintro key d ⟨⟩
    · rw [hfinish] at h
      exact ih h
  | case4 n s hs hfinish ih =>
    intro lines h
    rw [linesUpTo] at h
    split at h
    · cases h
      rintro key d ⟨⟩
    · rw [hfinish] at h
      obtain ⟨⟨line, after⟩, hline, h⟩ := Option.bind_eq_some_iff.1 h
      obtain ⟨rest, -, h⟩ := Option.bind_eq_some_iff.1 h
      obtain ⟨more, hmore, h⟩ := Option.bind_eq_some_iff.1 h
      cases h
      intro key d hentry
      rcases List.mem_cons.1 hentry with hentry | hentry
      · exact ordered_of_line? hline key d (List.mem_singleton.2 hentry)
      · exact ih rest hmore key d hentry

theorem entry_mem_of_mem_leadingEntries {lines : List Line} :
    ∀ e ∈ (leadingEntries lines).1, Line.entry e.1 e.2 ∈ lines := by
  induction lines using leadingEntries.induct with
  | case1 key d lines entries rest hrest ih =>
    intro e he
    rw [leadingEntries] at he
    rcases List.mem_cons.1 he with rfl | he
    · exact List.mem_cons_self
    · exact List.mem_cons_of_mem _ (ih e he)
  | case2 lines hlines =>
    intro e he
    rw [leadingEntries] at he
    · cases he
    · exact hlines

theorem keepsOrder_fill {lines : List Line} (h : OrderedLines lines) : KeepsOrder (fill lines) :=
  keepsOrder_foldlM fun e he => h e.1 e.2 (entry_mem_of_mem_leadingEntries e he)

theorem keepsOrder_addSections {lines : List Line} (h : OrderedLines lines) :
    KeepsOrder (addSections lines) := by
  induction lines with
  | nil =>
    intro t t' ht heq
    cases heq
    exact ht
  | cons line lines ih =>
    have hlines : OrderedLines lines := fun key d hd => h key d (List.mem_cons_of_mem _ hd)
    intro t t' ht heq
    cases line with
    | entry key d => exact ih hlines t t' ht heq
    | table path =>
      obtain ⟨name, -, heq⟩ := Option.bind_eq_some_iff.1 heq
      obtain ⟨next, hnext, heq⟩ := Option.bind_eq_some_iff.1 heq
      refine ih hlines next t' (keepsOrder_within ?_ _ _ _ ht hnext) heq
      exact keepsOrder_openTable (keepsOrder_fill hlines) name
    | element path =>
      obtain ⟨name, -, heq⟩ := Option.bind_eq_some_iff.1 heq
      obtain ⟨next, hnext, heq⟩ := Option.bind_eq_some_iff.1 heq
      refine ih hlines next t' (keepsOrder_within ?_ _ _ _ ht hnext) heq
      exact keepsOrder_openElement (keepsOrder_fill hlines) name

theorem ordered_of_document? {s : Text} {d : Datum} (h : document? s = some d) : Ordered d := by
  obtain ⟨lines, hlines, h⟩ := Option.bind_eq_some_iff.1 h
  obtain ⟨top, htop, h⟩ := Option.bind_eq_some_iff.1 h
  obtain ⟨t, ht, h⟩ := Option.bind_eq_some_iff.1 h
  cases h
  have hordered := ordered_of_linesUpTo _ _ hlines
  exact keepsOrder_addSections hordered _ _
    (keepsOrder_fill hordered _ _ (ordered_empty .spelled) htop) ht

end Lines

end Toml

end FileClerk
