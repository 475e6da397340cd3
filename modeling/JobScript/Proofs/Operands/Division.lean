import JobScript.Proofs.Operands.Calls

/-!
# Division and Remainder

Quotient and remainder of two integers are those of division with truncation toward zero. Both fail
for a zero divisor, and for no other. The least integer by minus one has a quotient that is no
integer of the script; it wraps round to the least integer, and with a remainder of zero the two
still make up the dividend.

## Architecture

- `IsDivision`: what quotient and remainder have to do with dividend and divisor
- `isDivision_div_mod`: the operators of the machine divide so
- `quotient_and_remainder_fit`: the two operations, in both forms
-/

namespace JobScript

variable {a b : Int32}

/-- Quotient and remainder of a division that truncates toward zero, with 32 bits. -/
structure IsDivision (a b quotient remainder : Int32) : Prop where
  /-- Together they make up the dividend, in arithmetic that wraps -/
  dividend : quotient * b + remainder = a
  /-- The remainder is less than the divisor, signs aside -/
  small : remainder.toInt.natAbs < b.toInt.natAbs
  /-- A remainder has the sign of the dividend -/
  sign : remainder = 0 ∨ remainder.toInt.sign = a.toInt.sign
  /-- The quotient is truncated toward zero -/
  truncated : ¬ (a = Int32.minValue ∧ b = -1) → quotient.toInt = a.toInt.tdiv b.toInt
  /-- The one quotient that is out of range wraps round -/
  wrapped : a = Int32.minValue ∧ b = -1 → quotient = Int32.minValue ∧ remainder = 0

/-! ## Section 1: The operators of the machine -/

theorem div_mul_add_mod (a b : Int32) : a / b * b + a % b = a := by
  -- As integers both sides agree before anything wraps, so they agree when all of it has wrapped
  apply Int32.toInt_inj.mp
  rw [Int32.toInt_add, Int32.toInt_mul, Int32.toInt_div, Int32.toInt_mod, Int.bmod_mul_bmod,
    Int.bmod_add_bmod, Int.add_comm, Int.tmod_add_tdiv_mul]
  exact a.toInt_bmod

theorem toInt_ne_zero (hb : b ≠ 0) : b.toInt ≠ 0 := by
  intro h
  exact hb (Int32.toInt_inj.mp h)

theorem isDivision_div_mod (a : Int32) (hb : b ≠ 0) : IsDivision a b (a / b) (a % b) where
  dividend := div_mul_add_mod a b
  small := by
    have := toInt_ne_zero hb
    rw [Int32.toInt_mod, Int.natAbs_tmod]
    exact Nat.mod_lt _ (by omega)
  sign := by
    rw [Int32.toInt_mod, Int.sign_tmod]
    split
    · rename_i hdvd
      left
      apply Int32.toInt_inj.mp
      rw [Int32.toInt_mod, Int.tmod_eq_zero_of_dvd hdvd]
      rfl
    · exact .inr rfl
  truncated h := by
    rcases not_and_or.mp h with ha | hb
    · exact Int32.toInt_div_of_ne_left a b ha
    · exact Int32.toInt_div_of_ne_right a b hb
  wrapped h := by
    obtain ⟨rfl, rfl⟩ := h
    decide

/-! ## Section 2: The operations -/

/-- **Division and remainder fit together**, in either form of either: they fail exactly for a zero
divisor, each with its own cause, and leave their target and the shared state as they are. Else
their results are quotient and remainder of a division that truncates toward zero. -/
theorem quotient_and_remainder_fit (job : Job) (w : World) (form form' : OperandForm)
    (aside aside' a b : Int32) :
    ∃ quotient remainder : Except Cause Result,
      callNamed job w (.int (form.target aside a)) "divide" (form.supplied a b) =
        some ⟨.int (form.target aside a), w, quotient⟩ ∧
      callNamed job w (.int (form'.target aside' a)) "remainder" (form'.supplied a b) =
        some ⟨.int (form'.target aside' a), w, remainder⟩ ∧
      ((∃ cause, quotient = .error cause) ↔ b = 0) ∧
      ((∃ cause, remainder = .error cause) ↔ b = 0) ∧
      (b = 0 → quotient = .error .divisionByZero ∧ remainder = .error .remainderByZero) ∧
      (b ≠ 0 → ∃ q r : Int32, quotient = .ok (.int q) ∧ remainder = .ok (.int r) ∧
        IsDivision a b q r) := by
  refine ⟨_, _, callNamed_binary job w .divide form aside a b,
    callNamed_binary job w .remainder form' aside' a b, ?_⟩
  by_cases hb : b = 0
  · simp [IntOperator.combine, hb]
  · have hquotient : IntOperator.divide.combine a b = .ok (.int (a / b)) := if_neg hb
    have hremainder : IntOperator.remainder.combine a b = .ok (.int (a % b)) := if_neg hb
    rw [hquotient, hremainder]
    exact ⟨by simp [hb], by simp [hb], fun hzero => absurd hzero hb,
      fun _ => ⟨_, _, rfl, rfl, isDivision_div_mod a hb⟩⟩

/-- Half of minus seven is minus three; minus one remains, whichever form asks for it. -/
theorem half_of_minus_seven :
    (2 : Int32) ≠ 0 ∧ ∃ q r : Int32,
      callNamed {} {} (.int (-7)) "divide" [.int 2] = some ⟨.int (-7), {}, .ok (.int q)⟩ ∧
      callNamed {} {} (.int 5) "remainder" [.int (-7), .int 2] =
        some ⟨.int 5, {}, .ok (.int r)⟩ ∧
      IsDivision (-7) 2 q r ∧ q = -3 := by
  have htwo : (2 : Int32) ≠ 0 := by decide
  obtain ⟨quotient, remainder, hquotient, hremainder, -, -, -, hresults⟩ :=
    quotient_and_remainder_fit {} {} .receiver .arguments 5 5 (-7) 2
  obtain ⟨q, r, rfl, rfl, hdivision⟩ := hresults htwo
  refine ⟨htwo, q, r, hquotient, hremainder, hdivision, ?_⟩
  exact Int32.toInt_inj.mp (hdivision.truncated (by decide))

end JobScript
