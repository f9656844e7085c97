import FileClerk.Number.Numeral
import FileClerk.Proofs.Cutting

/-!
# Numerals read back

A whole number is written in digits, at least one, and its digits are worth the number
(`valueIn_ofNat`). So where something else than a digit follows, a numeral ends where it was written
to end (`ofNat_append_inj`).
-/

namespace FileClerk

namespace Numeral

theorem digitValue_of_isDigit {c : Char} (h : c.isDigit = true) :
    digitValue c = c.toNat - '0'.toNat ∧ digitValue c < 10 := by
  have hrange : 0x30 ≤ c.toNat ∧ c.toNat ≤ 0x39 := by
    simpa [Char.isDigit, UInt32.le_iff_toNat_le] using h
  have hzero : '0'.toNat = 0x30 := by decide
  simp only [digitValue, if_pos hrange]
  omega

theorem isDigitIn_of_mem_ofNat {n : Nat} {c : Char} (h : c ∈ Text.ofNat n) :
    isDigitIn 10 c = true :=
  decide_eq_true (digitValue_of_isDigit (Nat.isDigit_of_mem_toDigits (by decide) (by decide) h)).2

theorem valueIn_ofNat (n : Nat) : valueIn 10 (Text.ofNat n) = n := by
  have hfold : ∀ (digits : Text) (init : Nat), (∀ c ∈ digits, c.isDigit = true) →
      digits.foldl (fun n c => n * 10 + digitValue c) init = Nat.ofDigitChars 10 digits init := by
    intro digits
    induction digits with
    | nil => exact fun _ _ => rfl
    | cons c digits ih =>
      intro init h
      rw [List.forall_mem_cons] at h
      simp only [Nat.ofDigitChars, List.foldl_cons] at ih ⊢
      rw [ih _ h.2, (digitValue_of_isDigit h.1).1, Nat.mul_comm]
  unfold valueIn Text.ofNat
  rw [hfold _ _ fun c hc => Nat.isDigit_of_mem_toDigits (by decide) (by decide) hc]
  exact Nat.ofDigitChars_toDigits (by decide) (by decide)

end Numeral

namespace Text

theorem ofNat_injective : Function.Injective ofNat :=
  Function.LeftInverse.injective Numeral.valueIn_ofNat

/-- Only the numeral of zero begins with a zero. -/
theorem exists_head_ofNat {n : Nat} (hn : n ≠ 0) : ∃ c s, ofNat n = c :: s ∧ c ≠ '0' := by
  induction n using Nat.strong_induction_on with
  | _ n ih =>
    rw [ofNat, Nat.toDigits_eq_if (by decide)]
    split_ifs with hlt
    · have hdigit : ∀ d < 10, d ≠ 0 → Nat.digitChar d ≠ '0' := by decide
      exact ⟨Nat.digitChar n, [], rfl, hdigit n hlt hn⟩
    · obtain ⟨c, s, hs, hc⟩ := ih (n / 10) (by omega) (by omega)
      exact ⟨c, s ++ [Nat.digitChar (n % 10)], by rw [← List.cons_append, ← hs]; rfl, hc⟩

theorem ofNat_append_inj {m n : Nat} {c : Char} {s t : Text} (hc : Numeral.isDigitIn 10 c = false)
    (h : ofNat m ++ c :: s = ofNat n ++ c :: t) : m = n ∧ s = t := by
  have hnot : ∀ k, c ∉ ofNat k := by
    intro k hmem
    simp [Numeral.isDigitIn_of_mem_ofNat hmem] at hc
  obtain ⟨hdigits, hrest⟩ := append_cons_inj (hnot m) (hnot n) h
  exact ⟨ofNat_injective hdigits, hrest⟩

end Text

end FileClerk
