import JobScript.Execution.Outcome

/-!
# Calls That Keep to Their Signature

A call is sound when it gives what its signature promises, or fails over what it met: never over
the way it was written. Operations are chains of readings and computations, so soundness is stated
for computations and composed along binds.

## Architecture

- `Cause.isMiscall`: causes that lie in the call itself
- `Sound`: a computation that gives a value with a property, or fails without a miscall
- `Arguments.*_of_type`: an argument of the right type is read
-/

namespace JobScript

/-! ## Section 1: Soundness of a computation -/

/-- What gives something in the end gave something on the way. -/
theorem exists_of_bind_ok {ε α β : Type} {x : Except ε α} {f : α → Except ε β} {b : β}
    (h : (x >>= f) = .ok b) : ∃ a, x = .ok a ∧ f a = .ok b := by
  cases x with
  | ok a => exact ⟨a, rfl, h⟩
  | error e => cases h

/-- The cause lies in the call itself: there is no such operation, an argument does not fit, or a
variable was never declared. -/
def Cause.isMiscall : Cause → Bool
  | .undefinedOperation .. | .argumentType .. | .undeclaredVariable .. => true
  | _ => false

/-- A cause that is no miscall is neither a defect nor an undeclared variable. -/
theorem Cause.isMiscall_eq_false_iff (cause : Cause) :
    cause.isMiscall = false ↔
      cause.isDefect = false ∧ ∀ name, cause ≠ .undeclaredVariable name := by
  cases cause <;> simp [isMiscall, isDefect]

/-- The computation gives a value with the property, or fails over something else than the call. -/
def Sound {α : Type} (P : α → Prop) : Except Cause α → Prop
  | .ok a => P a
  | .error cause => cause.isMiscall = false

namespace Sound

variable {α β : Type} {P : α → Prop} {Q : β → Prop}

theorem pure {a : α} (h : P a) : Sound P (pure a) :=
  h

/-- What follows a sound computation may rely on its property. -/
theorem bind {x : Except Cause α} {f : α → Except Cause β} (hx : Sound P x)
    (hf : ∀ a, P a → Sound Q (f a)) : Sound Q (x >>= f) := by
  cases x with
  | ok a => exact hf a hx
  | error cause => exact hx

/-- A computation that is known to succeed goes on with its value. -/
theorem bind_ok {x : Except Cause α} {f : α → Except Cause β} (hx : ∃ a, x = .ok a)
    (hf : ∀ a, Sound Q (f a)) : Sound Q (x >>= f) := by
  obtain ⟨a, rfl⟩ := hx
  exact hf a

/-- Two computations that succeed do so one after the other. -/
theorem exists_ok_bind {x : Except Cause α} {f : α → Except Cause β} (hx : ∃ a, x = .ok a)
    (hf : ∀ a, ∃ b, f a = .ok b) : ∃ b, (x >>= f) = .ok b := by
  obtain ⟨a, rfl⟩ := hx
  exact hf a

theorem map {x : Except Cause α} {f : α → β} (hx : Sound (fun a => Q (f a)) x) :
    Sound Q (x.map f) := by
  cases x with
  | ok a => exact hx
  | error cause => exact hx

end Sound

/-! ## Section 2: Arguments of the right type -/

namespace Arguments

variable {arguments : List Value} {i : Nat} (operation : String)

/-- A position that has a type has a value of that type. -/
theorem exists_of_type {t : ValueType} (h : (arguments.map Value.type)[i]? = some t) :
    ∃ v, arguments[i]? = some v ∧ v.type = t := by
  rw [List.getElem?_map] at h
  exact Option.map_eq_some_iff.mp h

theorem boolean_of_type (h : (arguments.map Value.type)[i]? = some .boolean) :
    ∃ b, boolean operation arguments i = .ok b := by
  obtain ⟨v, hv, ht⟩ := exists_of_type h
  cases v with
  | boolean b => exact ⟨b, by simp only [boolean, hv]⟩
  | _ => cases ht

theorem int_of_type (h : (arguments.map Value.type)[i]? = some .int) :
    ∃ n, int operation arguments i = .ok n := by
  obtain ⟨v, hv, ht⟩ := exists_of_type h
  cases v with
  | int n => exact ⟨n, by simp only [int, hv]⟩
  | _ => cases ht

theorem text_of_type (h : (arguments.map Value.type)[i]? = some .text) :
    ∃ t, text operation arguments i = .ok t := by
  obtain ⟨v, hv, ht⟩ := exists_of_type h
  cases v with
  | text t => exact ⟨t, by simp only [text, hv]⟩
  | _ => cases ht

theorem string_of_type (h : (arguments.map Value.type)[i]? = some .text) :
    ∃ s, string operation arguments i = .ok s := by
  obtain ⟨t, ht⟩ := text_of_type operation h
  exact ⟨t.getD "", by rw [string, ht]; rfl⟩

theorem textList_of_type (h : (arguments.map Value.type)[i]? = some .textList) :
    ∃ l, textList operation arguments i = .ok l := by
  obtain ⟨v, hv, ht⟩ := exists_of_type h
  cases v with
  | textList l => exact ⟨l, by simp only [textList, hv]⟩
  | _ => cases ht

theorem mailMessage_of_type (h : (arguments.map Value.type)[i]? = some .mailMessage) :
    ∃ m, mailMessage operation arguments i = .ok m := by
  obtain ⟨v, hv, ht⟩ := exists_of_type h
  cases v with
  | mailMessage m => exact ⟨m, by simp only [mailMessage, hv]⟩
  | _ => cases ht

end Arguments

end JobScript
