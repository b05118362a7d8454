import FailureReplay.Numeral
import FailureReplay.Proofs.Text.Words

/-!
# Numerals read back

Reading the numeral of a 32-bit value gives the value. Digits are read left to
right into an accumulator that only grows in size, so a numeral whose value fits
never overflows on the way. Conversely, what is read is a run of digits behind a
sign or none, and its value fits.
-/

namespace FailureReplay.Numeral

theorem le_ofDigitChars (digits : Text) (n : Nat) : n ≤ Nat.ofDigitChars 10 digits n := by
  rw [Nat.ofDigitChars_eq_ofDigitChars_zero]
  have hpow : 0 < 10 ^ digits.length := Nat.pow_pos (by decide)
  have hmul := Nat.le_mul_of_pos_left n hpow
  omega

theorem ofDigitChars_cons_digitValue (c : Char) (digits : Text) (n : Nat) :
    ∃ m : Nat, (m : Int) = n * 10 + digitValue c ∧
      Nat.ofDigitChars 10 (c :: digits) n = Nat.ofDigitChars 10 digits m := by
  refine ⟨10 * n + (c.toNat - 48), ?_, Nat.ofDigitChars_cons⟩
  simp only [digitValue, Int.ofNat_eq_natCast]
  omega

/-- Digits up to the greatest value are read without overflow on the way. -/
theorem readUp_digits {digits : Text} (hd : ∀ c ∈ digits, c.isDigit = true) (n : Nat)
    (hle : (Nat.ofDigitChars 10 digits n : Int) ≤ greatest) :
    readUp n digits = .ok (Nat.ofDigitChars 10 digits n : Int) := by
  induction digits generalizing n with
  | nil => rfl
  | cons c digits ih =>
    obtain ⟨m, hm, hcons⟩ := ofDigitChars_cons_digitValue c digits n
    rw [hcons] at hle ⊢
    have hdigit : c.isDigit = true := hd c (by simp)
    have hgrow := le_ofDigitChars digits m
    have hfits : ¬ greatest < (m : Int) := by omega
    simp only [readUp, hdigit, ← hm, hfits, if_false, Bool.true_eq_false]
    exact ih (fun d hd' => hd d (List.mem_cons_of_mem _ hd')) m hle

/-- Digits behind a minus sign are counted downwards, so that the least value is reached. -/
theorem readDown_digits {digits : Text} (hd : ∀ c ∈ digits, c.isDigit = true) (n : Nat)
    (hle : least ≤ -(Nat.ofDigitChars 10 digits n : Int)) :
    readDown (-n) digits = .ok (-(Nat.ofDigitChars 10 digits n : Int)) := by
  induction digits generalizing n with
  | nil => rfl
  | cons c digits ih =>
    obtain ⟨m, hm, hcons⟩ := ofDigitChars_cons_digitValue c digits n
    rw [hcons] at hle ⊢
    have hdigit : c.isDigit = true := hd c (by simp)
    have hgrow := le_ofDigitChars digits m
    have hvalue : -(n : Int) * 10 - digitValue c = -(m : Int) := by omega
    have hfits : ¬ -(m : Int) < least := by omega
    simp only [readDown, hdigit, hvalue, hfits, if_false, Bool.true_eq_false]
    exact ih (fun d hd' => hd d (List.mem_cons_of_mem _ hd')) m hle

/-! ## What was read -/

theorem digits_of_readUp {digits : Text} {n : Nat} {value : Int}
    (h : readUp n digits = .ok value) (hn : (n : Int) ≤ greatest) :
    (∀ c ∈ digits, c.isDigit = true) ∧ value = Nat.ofDigitChars 10 digits n ∧
      value ≤ greatest := by
  induction digits generalizing n with
  | nil =>
    obtain rfl : (n : Int) = value := Except.ok.inj h
    exact ⟨by simp, rfl, hn⟩
  | cons c digits ih =>
    obtain ⟨m, hm, hcons⟩ := ofDigitChars_cons_digitValue c digits n
    rw [readUp, ← hm] at h
    split at h
    · cases h
    · next hdigit =>
      split at h
      · cases h
      · obtain ⟨hdigits, hvalue, hle⟩ := ih h (by omega)
        refine ⟨?_, by rw [hcons]; exact hvalue, hle⟩
        intro d hd
        rcases List.mem_cons.mp hd with rfl | hd
        · simpa using hdigit
        · exact hdigits d hd

theorem digits_of_readDown {digits : Text} {n : Nat} {value : Int}
    (h : readDown (-n) digits = .ok value) (hn : least ≤ -(n : Int)) :
    (∀ c ∈ digits, c.isDigit = true) ∧ value = -(Nat.ofDigitChars 10 digits n : Int) ∧
      least ≤ value := by
  induction digits generalizing n with
  | nil =>
    obtain rfl : -(n : Int) = value := Except.ok.inj h
    exact ⟨by simp, rfl, hn⟩
  | cons c digits ih =>
    obtain ⟨m, hm, hcons⟩ := ofDigitChars_cons_digitValue c digits n
    have hstep : -(n : Int) * 10 - digitValue c = -(m : Int) := by omega
    rw [readDown, hstep] at h
    split at h
    · cases h
    · next hdigit =>
      split at h
      · cases h
      · obtain ⟨hdigits, hvalue, hle⟩ := ih h (by omega)
        refine ⟨?_, by rw [hcons]; exact hvalue, hle⟩
        intro d hd
        rcases List.mem_cons.mp hd with rfl | hd
        · simpa using hdigit
        · exact hdigits d hd

/-- The shape of a numeral: digits behind a sign or none, and a value that fits. -/
theorem shape_of_readInt {t : Text} {value : Int} (h : readInt t = .ok value) :
    ∃ digits : Text, digits ≠ [] ∧ (∀ c ∈ digits, c.isDigit = true) ∧
      ((t = digits ∨ t = '+' :: digits) ∧ value = Nat.ofDigitChars 10 digits 0 ∧
          value ≤ greatest ∨
        t = '-' :: digits ∧ value = -(Nat.ofDigitChars 10 digits 0 : Int) ∧ least ≤ value) := by
  have hzero : ((0 : Nat) : Int) ≤ greatest ∧ least ≤ -((0 : Nat) : Int) := by decide
  unfold readInt at h
  split at h
  · cases h
  · cases h
  · cases h
  · next _ digits hne =>
    obtain ⟨hdigits, hvalue, hle⟩ := digits_of_readUp (n := 0) h hzero.1
    exact ⟨digits, hne, hdigits, .inl ⟨.inr rfl, hvalue, hle⟩⟩
  · next _ digits hne =>
    obtain ⟨hdigits, hvalue, hle⟩ := digits_of_readDown (n := 0) h hzero.2
    exact ⟨digits, hne, hdigits, .inr ⟨rfl, hvalue, hle⟩⟩
  · next hne _ _ _ _ =>
    obtain ⟨hdigits, hvalue, hle⟩ := digits_of_readUp (n := 0) h hzero.1
    exact ⟨t, hne, hdigits, .inl ⟨.inl rfl, hvalue, hle⟩⟩

theorem readInt_of_read {t : Text} {value : Int32} (h : read t = .ok value) :
    ∃ n, readInt t = .ok n ∧ Int32.ofInt n = value := by
  rw [read] at h
  cases hread : readInt t with
  | error fault => rw [hread] at h; cases h
  | ok n =>
    rw [hread] at h
    exact ⟨n, rfl, Except.ok.inj h⟩

theorem mem_of_read {t : Text} {value : Int32} (h : read t = .ok value) :
    ∀ c ∈ t, c.isDigit = true ∨ c = '+' ∨ c = '-' := by
  obtain ⟨n, hread, -⟩ := readInt_of_read h
  obtain ⟨digits, -, hdigits, ⟨rfl | rfl, -⟩ | ⟨rfl, -⟩⟩ := shape_of_readInt hread
  · exact fun c hc => .inl (hdigits c hc)
  · intro c hc
    rcases List.mem_cons.mp hc with rfl | hc
    · exact .inr (.inl rfl)
    · exact .inl (hdigits c hc)
  · intro c hc
    rcases List.mem_cons.mp hc with rfl | hc
    · exact .inr (.inr rfl)
    · exact .inl (hdigits c hc)

/-! ## Numerals and their values -/

/-- Decimal digits behind a sign or none, and the 32-bit value that they stand for. -/
def Denotes (t : Text) (value : Int32) : Prop :=
  ∃ digits : Text, digits ≠ [] ∧ (∀ c ∈ digits, c.isDigit = true) ∧
    ((t = digits ∨ t = '+' :: digits) ∧ value.toInt = Nat.ofDigitChars 10 digits 0 ∨
      t = '-' :: digits ∧ value.toInt = -(Nat.ofDigitChars 10 digits 0 : Int))

theorem readInt_digits {digits : Text} (hne : digits ≠ [])
    (hd : ∀ c ∈ digits, c.isDigit = true) :
    readInt digits = readUp 0 digits ∧ readInt ('+' :: digits) = readUp 0 digits ∧
      readInt ('-' :: digits) = readDown 0 digits := by
  obtain ⟨c, digits, rfl⟩ := List.exists_cons_of_ne_nil hne
  have hdigit : c.isDigit = true := hd c (by simp)
  have hplus : c ≠ '+' := by
    intro heq
    rw [heq] at hdigit
    cases hdigit
  have hminus : c ≠ '-' := by
    intro heq
    rw [heq] at hdigit
    cases hdigit
  exact ⟨by simp [readInt, hplus, hminus], rfl, rfl⟩

/-- Leading zeros and a plus sign make no difference. -/
theorem readInt_of_denotes {t : Text} {value : Int32} (h : Denotes t value) :
    readInt t = .ok value.toInt := by
  have hlow := value.le_toInt
  have hhigh := value.toInt_lt
  obtain ⟨digits, hne, hdigits, hvalue⟩ := h
  obtain ⟨hbare, hplus, hminus⟩ := readInt_digits hne hdigits
  obtain ⟨hform, hvalue⟩ | ⟨rfl, hvalue⟩ := hvalue
  · have hup := readUp_digits hdigits 0 (by rw [← hvalue, greatest]; omega)
    rw [← hvalue] at hup
    obtain rfl | rfl := hform
    · exact hbare.trans hup
    · exact hplus.trans hup
  · have hdown := readDown_digits hdigits 0 (by rw [← hvalue, least]; omega)
    rw [← hvalue] at hdown
    exact hminus.trans hdown

theorem toInt_ofInt {n : Int} (hlow : least ≤ n) (hhigh : n ≤ greatest) :
    (Int32.ofInt n).toInt = n := by
  rw [least] at hlow
  rw [greatest] at hhigh
  exact Int32.toInt_ofInt_of_le (by omega) (by omega)

/-- A text is read as a value exactly if it is a numeral of that value. -/
theorem read_eq_ok_iff {t : Text} {value : Int32} : read t = .ok value ↔ Denotes t value := by
  constructor
  · intro h
    obtain ⟨n, hread, rfl⟩ := readInt_of_read h
    obtain ⟨digits, hne, hdigits, hshape⟩ := shape_of_readInt hread
    refine ⟨digits, hne, hdigits, ?_⟩
    obtain ⟨hform, hvalue, hle⟩ | ⟨hform, hvalue, hle⟩ := hshape
    · have hlow : least ≤ n := by rw [hvalue, least]; omega
      exact .inl ⟨hform, (toInt_ofInt hlow hle).trans hvalue⟩
    · have hhigh : n ≤ greatest := by rw [hvalue, greatest]; omega
      exact .inr ⟨hform, (toInt_ofInt hle hhigh).trans hvalue⟩
  · intro h
    rw [read, readInt_of_denotes h]
    simp [Except.map]

instance (t : Text) (value : Int32) : Decidable (Denotes t value) :=
  decidable_of_iff (read t = .ok value) read_eq_ok_iff

/-! ## What is written -/

theorem isDigit_of_mem_decimal {n : Nat} {c : Char} (h : c ∈ Text.decimal n) :
    c.isDigit = true :=
  Nat.isDigit_of_mem_toDigits (by decide) (by decide) h

theorem decimal_ne_nil (n : Nat) : Text.decimal n ≠ [] := Nat.toDigits_ne_nil

/-- A value is written as a numeral that stands for it. -/
theorem denotes_write (value : Int32) : Denotes (write value) value := by
  have hdecimal : Nat.ofDigitChars 10 (Text.decimal value.toInt.natAbs) 0 = value.toInt.natAbs :=
    Nat.ofDigitChars_ten_toDigits
  refine ⟨Text.decimal value.toInt.natAbs, decimal_ne_nil _,
    fun c hc => isDigit_of_mem_decimal hc, ?_⟩
  rw [hdecimal]
  unfold write
  split
  · exact .inr ⟨rfl, by omega⟩
  · exact .inl ⟨.inl rfl, by omega⟩

/-- The numeral of a value is read back as that value. -/
theorem read_write (value : Int32) : read (write value) = .ok value :=
  read_eq_ok_iff.mpr (denotes_write value)

theorem not_blank_of_isDigit {c : Char} (h : c.isDigit = true) : Text.isBlank c = false := by
  have htable : ∀ n < 58, 48 ≤ n → Text.blankRanges.contains n = false := by decide
  simp only [Char.isDigit, Bool.and_eq_true, decide_eq_true_eq, ge_iff_le,
    UInt32.le_iff_toNat_le] at h
  exact htable c.toNat (Nat.lt_succ_of_le h.2) h.1

theorem not_mem_write {c : Char} (hdigit : c.isDigit = false) (hminus : c ≠ '-')
    (value : Int32) : c ∉ write value := by
  have hdecimal : c ∉ Text.decimal value.toInt.natAbs := by
    intro h
    rw [isDigit_of_mem_decimal h] at hdigit
    cases hdigit
  unfold write
  split
  · rw [List.mem_cons, not_or]
    exact ⟨hminus, hdecimal⟩
  · exact hdecimal

theorem isToken_write (value : Int32) : Text.IsToken (write value) := by
  have hvisible : ∀ c ∈ Text.decimal value.toInt.natAbs, Text.isBlank c = false :=
    fun c hc => not_blank_of_isDigit (isDigit_of_mem_decimal hc)
  unfold write
  split
  · refine ⟨by simp, ?_⟩
    intro c hc
    rcases List.mem_cons.mp hc with rfl | hc
    · decide
    · exact hvisible c hc
  · exact ⟨decimal_ne_nil _, hvisible⟩

end FailureReplay.Numeral
