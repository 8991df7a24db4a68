import Mathlib.Algebra.Group.Nat.Defs
import Mathlib.Data.List.Induction
import ScenarioDesk.Text.Decimal

/-! Decimal numerals consist of digits and denote the number they were written for. How long a numeral is
and how large its number go together. -/
namespace ScenarioDesk.Text

theorem digitValue_digitChar : ∀ d < 10, digitValue (.char (digitChar d)) = d := by decide

theorem isDigit_digitChar : ∀ d < 10, CodePoint.isDigit (.char (digitChar d)) = true := by decide

theorem toNat_append_singleton (digits : Text) (c : CodePoint) :
    toNat (digits ++ [c]) = toNat digits * 10 + digitValue c := by
  rw [toNat, List.foldl_append]
  rfl

/-- Reading a written number gives the number. -/
theorem toNat_ofNat (n : Nat) : toNat (ofNat n) = n := by
  induction n using Nat.strongRecOn with
  | ind n ih =>
      rw [ofNat]
      by_cases hDigit : n < 10
      · rw [if_pos hDigit]
        show 0 * 10 + digitValue (.char (digitChar n)) = n
        rw [digitValue_digitChar n hDigit]
        omega
      · rw [if_neg hDigit, toNat_append_singleton, ih (n / 10) (by omega),
          digitValue_digitChar (n % 10) (by omega)]
        omega

theorem isDigit_of_mem_ofNat {n : Nat} {c : CodePoint} (h : c ∈ ofNat n) : c.isDigit = true := by
  induction n using Nat.strongRecOn with
  | ind n ih =>
      rw [ofNat] at h
      by_cases hDigit : n < 10
      · rw [if_pos hDigit] at h
        rw [List.mem_singleton.mp h]
        exact isDigit_digitChar n hDigit
      · rw [if_neg hDigit] at h
        rcases List.mem_append.mp h with hFront | hLast
        · exact ih (n / 10) (by omega) hFront
        · rw [List.mem_singleton.mp hLast]
          exact isDigit_digitChar (n % 10) (by omega)

theorem digitValue_lt {c : CodePoint} (h : c.isDigit = true) : digitValue c < 10 := by
  simp only [CodePoint.isDigit, Bool.and_eq_true, decide_eq_true_eq] at h
  have hZero : '0'.toNat = 0x30 := rfl
  rw [digitValue]
  omega

/-- A row of digits denotes less than the power of ten with so many zeros. -/
theorem toNat_lt_pow {digits : Text} (h : ∀ c ∈ digits, c.isDigit = true) :
    toNat digits < 10 ^ digits.length := by
  induction digits using List.reverseRecOn with
  | nil => decide
  | append_singleton digits c ih =>
      obtain ⟨hDigits, hLast⟩ := List.forall_mem_append.mp h
      have hValue := digitValue_lt (hLast c (List.mem_singleton.mpr rfl))
      have hFront := ih hDigits
      rw [toNat_append_singleton, List.length_append, List.length_singleton, Nat.pow_succ]
      omega

/-- The numeral of a number below a power of ten has at most so many digits. -/
theorem length_ofNat_le {n width : Nat} (hWidth : 0 < width) (h : n < 10 ^ width) :
    (ofNat n).length ≤ width := by
  induction width generalizing n with
  | zero => omega
  | succ width ih =>
      rw [ofNat]
      split
      · simp
      · next hLong =>
          rw [Nat.pow_succ] at h
          have hPositive : 0 < width := by
            apply Nat.pos_of_ne_zero
            rintro rfl
            omega
          have hFront := ih (n := n / 10) hPositive (by omega)
          rw [List.length_append, List.length_singleton]
          omega

theorem ofNat_zero : ofNat 0 = [CodePoint.char '0'] := by
  rw [ofNat]
  rfl

/-- A numeral begins with a digit, and that is no zero unless the number is. -/
theorem exists_ofNat_eq_cons (n : Nat) :
    ∃ c rest, ofNat n = c :: rest ∧ c.isDigit = true ∧ (n ≠ 0 → c ≠ '0') := by
  induction n using Nat.strongRecOn with
  | ind n ih =>
      rw [ofNat]
      split
      · next hShort =>
          have hNotZero : ∀ d < 10, d ≠ 0 → CodePoint.char (digitChar d) ≠ '0' := by decide
          exact ⟨_, [], rfl, isDigit_digitChar n hShort, hNotZero n hShort⟩
      · next hLong =>
          obtain ⟨c, rest, hFront, hDigit, hZero⟩ := ih (n / 10) (by omega)
          rw [hFront]
          exact ⟨c, _, rfl, hDigit, fun _ => hZero (by omega)⟩

theorem afterLast_append_cons {c : CodePoint} {back : Text} (h : c ∉ back) (front : Text) :
    afterLast c (front ++ c :: back) = back := by
  have hBack : ∀ d ∈ back.reverse, (d != c) = true := by
    intro d hMem
    refine bne_iff_ne.mpr ?_
    rintro rfl
    exact h (List.mem_reverse.mp hMem)
  rw [afterLast, List.reverse_append, List.reverse_cons, List.append_assoc,
    List.takeWhile_append_of_pos hBack, List.singleton_append,
    List.takeWhile_cons_of_neg (by simp), List.append_nil, List.reverse_reverse]

end ScenarioDesk.Text
