import FileClerk.Proofs.Numerals
import FileClerk.Proofs.Quotation
import FileClerk.Toml.Document

/-!
# Lines read back

What stands on a line of a settings document is read from the line alone, whatever comes below it:
`Spells w lines` says that `w` is so many lines, and a document is read by putting what its parts
spell together (`Spells.append`). A number too great for a sign and 64 bits is no value, and a
document with such a line in it is no document.
-/

namespace FileClerk

namespace Toml

section Numerals

variable {digits rest : Text} {end_ : Char}

theorem field?_digits (hend : isDigit end_ = false) {count low high n : Nat} {s : Text}
    (h : field? count low high (digits ++ end_ :: rest) = some (n, s)) :
    s = digits.drop count ++ end_ :: rest := by
  unfold field? at h
  simp only [Option.ite_none_right_eq_some, Option.some.injEq, Prod.mk.injEq] at h
  obtain ⟨⟨hlength, hall, -⟩, -, rfl⟩ := h
  have hle : count ≤ digits.length := by
    by_contra hlt
    rw [List.take_append, List.take_of_length_le (by omega)] at hall
    obtain ⟨k, hk⟩ : ∃ k, count - digits.length = k + 1 := ⟨count - digits.length - 1, by omega⟩
    simp [hk, hend] at hall
  exact List.drop_append_of_le_length hle

theorem mark?_digits (hdigits : ∀ c ∈ digits, isDigit c = true) {m : Char} (hm : isDigit m = false)
    (hend : m ≠ end_) : mark? m (digits ++ end_ :: rest) = none := by
  rcases digits with _ | ⟨c, digits⟩
  · exact if_neg hend
  · refine if_neg ?_
    rintro rfl
    simp [hdigits m List.mem_cons_self] at hm

/-- Digits up to the end of a line are no time. -/
theorem moment?_digits (hdigits : ∀ c ∈ digits, isDigit c = true) :
    moment? (digits ++ '\n' :: rest) = none := by
  have hfield : ∀ {count low high n : Nat} {s : Text} (m : Char), isDigit m = false → m ≠ '\n' →
      field? count low high (digits ++ '\n' :: rest) = some (n, s) → mark? m s = none := by
    intro count low high n s m hm hline h
    obtain rfl := field?_digits (by decide) h
    exact mark?_digits (fun c hc => hdigits c (List.mem_of_mem_drop hc)) hm hline
  have hdate : date? (digits ++ '\n' :: rest) = none := by
    rw [date?, Option.bind_eq_bind, Option.bind_eq_none_iff]
    rintro ⟨year, s⟩ h
    simp [hfield '-' (by decide) (by decide) h]
  have htime : time? (digits ++ '\n' :: rest) = none := by
    rw [time?, Option.bind_eq_bind, Option.bind_eq_none_iff]
    rintro ⟨hour, s⟩ h
    simp [hfield ':' (by decide) (by decide) h]
  rw [moment?, hdate, htime]
  rfl

theorem moreDigits?_digits (hend : isDigit end_ = false) (hunder : end_ ≠ '_') :
    ∀ digits : Text, (∀ c ∈ digits, isDigit c = true) →
      moreDigits? 10 (digits ++ end_ :: rest) = some (digits, end_ :: rest)
  | [], _ => by
    have hend : Numeral.isDigitIn 10 end_ = false := hend
    unfold moreDigits?
    simp [hunder, hend]
  | c :: digits, h => by
    have hc : Numeral.isDigitIn 10 c = true := h c List.mem_cons_self
    have hne : c ≠ '_' := by
      rintro rfl
      exact absurd hc (by decide)
    have ih := moreDigits?_digits hend hunder digits fun d hd => h d (List.mem_cons_of_mem _ hd)
    unfold moreDigits?
    simp [hne, hc, ih]

end Numerals

section Whole

variable {rest : Text}

theorem isDigit_of_mem_ofNat {n : Nat} : ∀ c ∈ Text.ofNat n, isDigit c = true :=
  fun _ => Numeral.isDigitIn_of_mem_ofNat

theorem exists_head_numeral (n : Nat) : ∃ c s, Text.ofNat n = c :: s ∧ isDigit c = true
    ∧ (∀ d, isDigit d = false → c ≠ d) ∧ (n ≠ 0 → c ≠ '0') := by
  obtain ⟨c, s, hs, hc⟩ : ∃ c s, Text.ofNat n = c :: s ∧ (n ≠ 0 → c ≠ '0') := by
    rcases eq_or_ne n 0 with rfl | hn
    · exact ⟨'0', [], rfl, fun h => absurd rfl h⟩
    · obtain ⟨c, s, hs, hc⟩ := Text.exists_head_ofNat hn
      exact ⟨c, s, hs, fun _ => hc⟩
  have hdigit : isDigit c = true := isDigit_of_mem_ofNat c (by rw [hs]; exact List.mem_cons_self)
  refine ⟨c, s, hs, hdigit, ?_, hc⟩
  rintro d hd rfl
  rw [hdigit] at hd
  cases hd

theorem whole?_ofNat (n : Nat) :
    whole? (Text.ofNat n ++ '\n' :: rest) = some (Text.ofNat n, '\n' :: rest) := by
  rcases eq_or_ne n 0 with rfl | hn
  · rfl
  · obtain ⟨c, s, hs, hdigit, -, hc⟩ := exists_head_numeral n
    have hdigits := isDigit_of_mem_ofNat (n := n)
    rw [hs, List.forall_mem_cons] at hdigits
    change Numeral.isDigitIn 10 c = true at hdigit
    rw [hs, List.cons_append, whole?, digits?, if_pos hdigit,
      moreDigits?_digits (by decide) (by decide) s hdigits.2]
    · rfl
    · rintro t h
      exact hc hn (List.cons.inj h).1

theorem decimal?_ofNat (n : Nat) : decimal? false (Text.ofNat n ++ '\n' :: rest)
    = if n ≤ Numeral.greatestSigned64 then some (.signed n, '\n' :: rest) else none := by
  have hfraction : fraction? ('\n' :: rest) = some (none, '\n' :: rest) := rfl
  have hexponent : exponent? ('\n' :: rest) = some (none, '\n' :: rest) := rfl
  unfold decimal?
  simp only [whole?_ofNat, hfraction, hexponent, Option.bind_eq_bind, Option.bind_some]
  simp only [Option.isNone_none, and_self, if_true, integer?, Numeral.valueIn_ofNat, if_false,
    Bool.false_eq_true, Nat.add_zero]
  split_ifs <;> rfl

/-- A numeral is read in base ten, and has neither a sign nor a name. -/
theorem number?_ofNat (n : Nat) :
    number? (Text.ofNat n ++ '\n' :: rest) = decimal? false (Text.ofNat n ++ '\n' :: rest) := by
  rcases eq_or_ne n 0 with rfl | hn
  · rfl
  obtain ⟨c, s, hs, -, hne, hc⟩ := exists_head_numeral n
  have hsign : Numeral.sign (c :: (s ++ '\n' :: rest)) = (none, c :: (s ++ '\n' :: rest)) := by
    unfold Numeral.sign
    split
    · rename_i h
      exact absurd (List.cons.inj h).1 (hne _ (by decide))
    · rename_i h
      exact absurd (List.cons.inj h).1 (hne _ (by decide))
    · rfl
  rw [hs, List.cons_append, number?, hsign]
  · dsimp only
    split
    · rename_i h
      exact absurd (List.cons.inj h).1 (hne _ (by decide))
    · rename_i h
      exact absurd (List.cons.inj h).1 (hne _ (by decide))
    · rfl
  all_goals
    rintro t h
    exact hc hn (List.cons.inj h).1

theorem value?_ofNat (n : Nat) : value? (Text.ofNat n ++ '\n' :: rest)
    = if n ≤ Numeral.greatestSigned64 then some (.signed n, '\n' :: rest) else none := by
  have hscalar : scalar? (Text.ofNat n ++ '\n' :: rest)
      = if n ≤ Numeral.greatestSigned64 then some (.signed n, '\n' :: rest) else none := by
    rw [scalar?, moment?_digits isDigit_of_mem_ofNat]
    exact (number?_ofNat n).trans (decimal?_ofNat n)
  obtain ⟨c, s, hs, -, hne, -⟩ := exists_head_numeral n
  rw [← hscalar, hs, List.cons_append]
  unfold value? Toml.valueUpTo
  simp only [hne '"' (by decide), hne '\'' (by decide), hne '[' (by decide), hne '\x7b' (by decide),
    or_self, if_false]
  split
  · rename_i h
    exact absurd (List.cons.inj h).1 (hne _ (by decide))
  · rename_i h
    exact absurd (List.cons.inj h).1 (hne _ (by decide))
  · rfl

end Whole

section Lines

variable {w v : Text} {lines more : Option (List Line)}

/-- What a text says, line by line, whatever stands below it. -/
def Spells (w : Text) (lines : Option (List Line)) : Prop :=
  ∃ steps ≤ w.length, ∀ n rest,
    linesUpTo (n + steps) (w ++ rest) = lines.bind fun ls => (linesUpTo n rest).map (ls ++ ·)

theorem Spells.nil : Spells [] (some []) :=
  ⟨0, le_rfl, fun n rest => by simp⟩

theorem Spells.append (h : Spells w lines) (h' : Spells v more) :
    Spells (w ++ v) (lines.bind fun ls => more.map (ls ++ ·)) := by
  obtain ⟨k, hk, hread⟩ := h
  obtain ⟨k', hk', hread'⟩ := h'
  refine ⟨k' + k, by rw [List.length_append]; omega, fun n rest => ?_⟩
  rw [← Nat.add_assoc, List.append_assoc, hread, Option.bind_assoc]
  refine congrArg _ (funext fun ls => ?_)
  rw [hread']
  cases more <;> cases linesUpTo n rest <;> simp

theorem Spells.linesUpTo (h : Spells w lines) : linesUpTo (w.length + 1) w = lines := by
  obtain ⟨k, hk, hread⟩ := h
  have hall := hread (w.length - k + 1) []
  rw [List.append_nil, show w.length - k + 1 + k = w.length + 1 by omega] at hall
  rw [hall]
  cases lines <;> simp [Toml.linesUpTo, skipSpaces]

/-- A document is what its lines make of the table at the top. -/
theorem document?_of_spells (hmark : w.dropMark = w) (h : Spells w lines) :
    document? w = lines.bind fun ls => (fill ls (.empty .spelled)).bind fun top =>
      (addSections ls top).map Table.datum := by
  rw [document?, hmark, h.linesUpTo]
  simp only [Option.bind_eq_bind, Option.map_eq_bind]
  rfl

/-- The characters that a line can begin with and say something. -/
def beginsLine (c : Char) : Bool := isBareKey c || c == '"' || c == '\'' || c == '['

theorem ne_of_beginsLine {c : Char} (hc : beginsLine c = true) :
    ∀ d, beginsLine d = false → c ≠ d := by
  rintro d hd rfl
  rw [hc] at hd
  cases hd

theorem skipSpaces_of_beginsLine {c : Char} (hc : beginsLine c = true) (s : Text) :
    skipSpaces (c :: s) = c :: s := by
  have hne := ne_of_beginsLine hc
  exact List.dropWhile_cons_of_neg (by simp [isSpace, hne ' ' (by decide), hne '\t' (by decide)])

theorem linesUpTo_cons {c : Char} (hc : beginsLine c = true) (n : Nat) (s : Text) :
    Toml.linesUpTo (n + 1) (c :: s) = (line? (c :: s)).bind fun r =>
      (finishLine? r.2).bind fun rest => (Toml.linesUpTo n rest).map (r.1 :: ·) := by
  have hne := ne_of_beginsLine hc
  have hskip := skipSpaces_of_beginsLine hc s
  have hcomment : skipComment (c :: s) = c :: s := by
    unfold skipComment
    split
    · rename_i h
      exact absurd (List.cons.inj h).1 (hne _ (by decide))
    · rfl
  have hfinish : finishLine? (c :: s) = none := by
    rw [finishLine?, hskip, hcomment]
    exact Settings.lineEnd?_cons_of_ne (hne _ (by decide)) (hne _ (by decide))
  conv_lhs => unfold Toml.linesUpTo
  simp only [hskip, hfinish, Option.bind_eq_bind, Option.map_eq_bind]
  rfl

theorem spells_of_line {c : Char} (hc : beginsLine c = true) {s : Text} (line : Option Line)
    (h : ∀ rest, line? (c :: s ++ rest) = line.map (·, '\n' :: rest)) :
    Spells (c :: s) (line.map ([·])) := by
  refine ⟨1, by simp, fun n rest => ?_⟩
  rw [List.cons_append, linesUpTo_cons hc, ← List.cons_append, h]
  cases line with
  | none => rfl
  | some line =>
    have hfinish : finishLine? ('\n' :: rest) = some rest := rfl
    simp [hfinish]

theorem Spells.blank (h : Spells w lines) : Spells ('\n' :: w) lines := by
  obtain ⟨k, hk, hread⟩ := h
  refine ⟨k + 1, by simpa using hk, fun n rest => ?_⟩
  rw [← hread, ← Nat.add_assoc]
  rfl

theorem key?_of_part {s rest : Text} {part : Text} {c : Char} (hs : skipSpaces s = s)
    (hpart : keyPart? s = some (part, rest)) {after : Text} (hrest : skipSpaces rest = c :: after)
    (hc : c ≠ '.') : key? s = some ([part], c :: after) := by
  unfold key? depthLimit keyUpTo
  rw [hs, hpart]
  simp only [Option.bind_eq_bind, Option.bind_some, hrest]
  split
  · rename_i h
    exact absurd (List.cons.inj h).1 hc
  · rfl

end Lines

end Toml

namespace Settings

open Toml

theorem exists_head_quotedName (name : Text) :
    ∃ c s, quotedName name = c :: s ∧ beginsLine c = true ∧ c ≠ '[' := by
  unfold quotedName
  dsimp only
  split_ifs with hbare
  · obtain ⟨c, s, rfl⟩ := List.exists_cons_of_ne_nil hbare.1
    have hc : isBareKey c = true := List.all_eq_true.1 hbare.2 c List.mem_cons_self
    refine ⟨c, s, rfl, by simp [beginsLine, hc], ?_⟩
    rintro rfl
    exact absurd hc (by decide)
  · exact ⟨'"', _, rfl, by decide, by decide⟩
  · exact ⟨'\'', _, rfl, by decide, by decide⟩
  · exact ⟨'"', _, rfl, by decide, by decide⟩

theorem exists_head_quotedValue (s : Text) :
    ∃ c t, quotedValue s = c :: t ∧ (c = '"' ∨ c = '\'') := by
  unfold quotedValue
  dsimp only
  split_ifs
  · exact ⟨'"', _, rfl, .inl rfl⟩
  · exact ⟨'\'', _, rfl, .inr rfl⟩
  · exact ⟨'"', _, rfl, .inl rfl⟩
  · exact ⟨'\'', _, rfl, .inr rfl⟩
  · exact ⟨'"', _, rfl, .inl rfl⟩
  · exact ⟨'"', _, rfl, .inl rfl⟩

/-- A written value is read, up to the end of its line, as a datum or not at all. -/
structure ReadsAs (value : Text) (d : Option Datum) : Prop where
  begins : ∃ c s, value = c :: s ∧ isSpace c = false
  read : ∀ rest, value? (value ++ '\n' :: rest) = d.map (·, '\n' :: rest)

theorem readsAs_ofNat (n : Nat) : ReadsAs (Text.ofNat n)
    (if n ≤ Numeral.greatestSigned64 then some (.signed n) else none) where
  begins := by
    obtain ⟨c, s, hs, -, hne, -⟩ := exists_head_numeral n
    exact ⟨c, s, hs, by simp [isSpace, hne ' ' (by decide), hne '\t' (by decide)]⟩
  read rest := by
    rw [value?_ofNat]
    split_ifs <;> rfl

theorem readsAs_string {value s : Text} (hhead : ∃ c t, value = c :: t ∧ (c = '"' ∨ c = '\''))
    (h : ∀ rest, string? (value ++ '\n' :: rest) = some (s, '\n' :: rest)) :
    ReadsAs value (some (.text s)) where
  begins := by
    obtain ⟨c, t, ht, rfl | rfl⟩ := hhead
    · exact ⟨_, t, ht, by decide⟩
    · exact ⟨_, t, ht, by decide⟩
  read rest := by
    obtain ⟨c, t, ht, hc⟩ := hhead
    have hread := h rest
    rw [ht, List.cons_append] at hread ⊢
    unfold value? Toml.valueUpTo
    simp only [if_pos hc, hread]
    rfl

theorem readsAs_quotedValue (s : Text) : ReadsAs (quotedValue s) (some (.text s)) :=
  readsAs_string (exists_head_quotedValue s) fun _ => string?_quotedValue s (by simp) (by simp)

theorem readsAs_literal {s : Text} (h : s.all isLiteral = true) (hne : s ≠ []) :
    ReadsAs (literal s) (some (.text s)) :=
  readsAs_string ⟨_, _, rfl, .inr rfl⟩ fun _ => string?_literal (List.all_eq_true.1 h) hne

theorem line?_of_assignment {c : Char} (hc : c ≠ '[') (s : Text) : line? (c :: s)
    = (assignment? value? (c :: s)).map fun r => (.entry r.1.1 r.1.2, r.2) := by
  unfold line?
  split
  · rename_i h
    exact absurd (List.cons.inj h).1 hc
  · rename_i h
    exact absurd (List.cons.inj h).1 hc
  · rfl

theorem spells_entryLine (name : Text) {value : Text} {d : Option Datum} (h : ReadsAs value d) :
    Spells (entryLine (quotedName name) value) (d.map fun d => [.entry [name] d]) := by
  obtain ⟨c, s, hs, hc, hbracket⟩ := exists_head_quotedName name
  obtain ⟨v, t, ht, hv⟩ := h.begins
  have hform : ∀ rest, entryLine (quotedName name) value ++ rest
      = quotedName name ++ (' ' :: '=' :: ' ' :: (value ++ '\n' :: rest)) := by
    simp [entryLine]
  have hassign : ∀ rest, assignment? value?
      (quotedName name ++ (' ' :: '=' :: ' ' :: (value ++ '\n' :: rest)))
        = d.map fun d => (([name], d), '\n' :: rest) := by
    intro rest
    have hvalue := h.read rest
    have hbare : ∀ c ∈ (' ' :: '=' :: ' ' :: (value ++ '\n' :: rest)).head?,
        isBareKey c = false := by
      rintro _ ⟨⟩
      rfl
    have hkey := key?_of_part (by rw [hs]; exact skipSpaces_of_beginsLine hc _)
      (keyPart?_quotedName name hbare) (c := '=') rfl (by decide)
    have hskip : skipSpaces (' ' :: (value ++ '\n' :: rest)) = value ++ '\n' :: rest := by
      change skipSpaces (value ++ '\n' :: rest) = _
      rw [ht]
      exact List.dropWhile_cons_of_neg (by simp [hv])
    unfold assignment?
    rw [hkey]
    simp only [Option.bind_eq_bind, Option.bind_some, mark?, if_true, hskip, hvalue]
    cases d <;> rfl
  have hline : Spells (entryLine (quotedName name) value)
      ((d.map (Line.entry [name])).map ([·])) := by
    have hhead : entryLine (quotedName name) value
        = c :: (s ++ " = ".toList ++ value ++ ['\n']) := by
      simp [entryLine, hs]
    rw [hhead]
    refine spells_of_line hc _ fun rest => ?_
    rw [← hhead, hform, hs, List.cons_append, line?_of_assignment hbracket, ← List.cons_append,
      ← hs, hassign]
    cases d <;> rfl
  rwa [Option.map_map] at hline

theorem spells_headerLine {name : String} {path : List Text}
    (h : ∀ rest, line? ('[' :: name.toList ++ [']', '\n'] ++ rest)
      = some (.table path, '\n' :: rest)) :
    Spells (headerLine name) (some [.table path]) :=
  (spells_of_line (by decide) (some (.table path)) h).blank

theorem spells_numberLine (name : String) (hname : quotedName name.toList = name.toList) (n : Nat) :
    Spells (numberLine name n)
      (if n ≤ Numeral.greatestSigned64 then some [.entry [name.toList] (.signed n)] else none) := by
  have h := spells_entryLine name.toList (readsAs_ofNat n)
  rw [hname] at h
  split_ifs at h ⊢ <;> exact h

theorem spells_textLine (name : String) (hname : quotedName name.toList = name.toList) (s : Text) :
    Spells (textLine name s) (some [.entry [name.toList] (.text s)]) := by
  have h := spells_entryLine name.toList (readsAs_quotedValue s)
  rwa [hname] at h

theorem spells_flatMap {α : Type} {write : α → Text} (line : α → Line)
    (h : ∀ a, Spells (write a) (some [line a])) :
    ∀ items : List α, Spells (items.flatMap write) (some (items.map line))
  | [] => .nil
  | a :: items => by simpa using (h a).append (spells_flatMap line h items)

/-- The lines that settings are written in. -/
def lines (s : Settings) : List Line :=
  [.entry ["version".toList] (.signed s.version.toNat),
    .entry ["command_file".toList] (.text s.commandFile)] ++
  (s.sandboxRoot.map fun root => Line.entry ["sandbox_root".toList] (.text root)).toList ++
  [.table ["watch".toList],
    .entry ["settle_ms".toList] (.signed s.watching.settle.toNat),
    .entry ["channel_capacity".toList] (.signed s.watching.capacity.toNat),
    .table ["logging".toList],
    .entry ["default".toList] (.text s.logging.level),
    .table ["logging".toList, "modules".toList]] ++
  s.logging.modules.entries.map fun e => .entry [e.1] (.text e.2)

/-- The numbers of settings fit in 64 bits with a sign. -/
def Fits (s : Settings) : Prop :=
  s.watching.settle.toNat ≤ Numeral.greatestSigned64
    ∧ s.watching.capacity.toNat ≤ Numeral.greatestSigned64

instance (s : Settings) : Decidable s.Fits := inferInstanceAs (Decidable (_ ∧ _))

/-- Settings are read as the lines they were written in, unless a number does not fit. -/
theorem spells_document (s : Settings) :
    Spells s.document (if s.Fits then some s.lines else none) := by
  have hversion := spells_numberLine "version" (by decide) s.version.toNat
  have hcommand := spells_textLine "command_file" (by decide) s.commandFile
  have hroot : Spells ((s.sandboxRoot.map (textLine "sandbox_root")).getD [])
      (some (s.sandboxRoot.map fun root =>
        Line.entry ["sandbox_root".toList] (.text root)).toList) := by
    cases s.sandboxRoot with
    | none => exact .nil
    | some root => exact spells_textLine "sandbox_root" (by decide) root
  have hsettle := spells_numberLine "settle_ms" (by decide) s.watching.settle.toNat
  have hcapacity :=
    spells_numberLine "channel_capacity" (by decide) s.watching.capacity.toNat
  have hlevel := spells_textLine "default" (by decide) s.logging.level
  have hmodules := spells_flatMap (fun e : Text × Text => Line.entry [e.1] (.text e.2))
    (fun e => spells_entryLine e.1 (readsAs_quotedValue e.2)) s.logging.modules.entries
  have hword : s.version.toNat ≤ Numeral.greatestSigned64 := by
    have hlt := s.version.toNat_lt
    unfold Numeral.greatestSigned64
    omega
  rw [if_pos hword] at hversion
  have hwatch : Spells (headerLine "watch") (some [.table ["watch".toList]]) :=
    spells_headerLine fun _ => rfl
  have hlogging : Spells (headerLine "logging") (some [.table ["logging".toList]]) :=
    spells_headerLine fun _ => rfl
  have hnested : Spells (headerLine "logging.modules")
      (some [.table ["logging".toList, "modules".toList]]) := spells_headerLine fun _ => rfl
  have hall := ((((((((hversion.append hcommand).append hroot).append hwatch).append
    hsettle).append hcapacity).append hlogging).append hlevel).append hnested).append hmodules
  refine (congrArg (Spells s.document) ?_).mp hall
  unfold lines Fits
  by_cases hfirst : s.watching.settle.toNat ≤ Numeral.greatestSigned64
  · by_cases hsecond : s.watching.capacity.toNat ≤ Numeral.greatestSigned64
    · simp only [hfirst, hsecond, and_self, if_true, Option.bind_some, Option.map_some,
        List.append_assoc, List.cons_append, List.nil_append]
    · simp only [hfirst, hsecond, and_false, if_true, if_false, Option.bind_some, Option.bind_none,
        Option.map_some, Option.map_none]
  · simp only [hfirst, false_and, if_false, Option.bind_some, Option.bind_none, Option.map_some,
      Option.map_none]

end Settings

end FileClerk
