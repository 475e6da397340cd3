import JobScript.Diagnostic.Resolution
import JobScript.Proofs.Diagnostic.Suggestions
import Mathlib.Data.List.Nodup

/-!
# Calls Resolve Exactly

A catalog answers five questions about a call: which signature accepts it, what that one gives back,
whether the name is known at all, which signatures have the name, and which names there are. The
answers agree, since no two signatures of a type have the same name and parameters and all names are
written in small letters. So a call either has its one index, or a diagnostic that tells which of
name and arguments is wrong.

## Architecture

- `Catalog.asciiLower_name`, `Catalog.nodup_signatures`: what all catalogs have in common
- `Catalog.Fits`, `Catalog.accepts_iff`: what it means that a signature accepts a call
- `Catalog.resolve?_eq_some_iff`, `Catalog.resultType?_eq`, `Catalog.hasOperation_iff`,
  `Catalog.overloads_eq`, `Catalog.mem_operationNames_iff`: one lemma for each question
- `Resolution.resolveCall_cases`: all that can become of a call
- `Resolution.Exact`, `Resolution.calls_resolve_exactly`: all answers about a call
-/

namespace JobScript

namespace Catalog

variable {t : ValueType} {name : String} {types : List ValueType} {s s' : Signature} {i j : Nat}

/-! ## Section 1: Catalogs -/

/-- Names of operations are written in small letters. -/
theorem asciiLower_name (h : s ∈ signatures t) : Text.asciiLower s.name = s.name := by
  have hall : ∀ t ∈ ValueType.all, ∀ s ∈ signatures t, Text.asciiLower s.name = s.name := by
    decide +kernel
  exact hall t (ValueType.mem_all t) s h

/-- No two signatures of a type have the same name and parameters. -/
theorem nodup_signatures (t : ValueType) :
    ((signatures t).map fun s => (s.name, s.parameters)).Nodup := by
  have hall : ∀ t ∈ ValueType.all,
      ((signatures t).map fun s => (s.name, s.parameters)).Nodup := by
    decide +kernel
  exact hall t (ValueType.mem_all t)

theorem mem_of_signature? (h : signature? t i = some s) : s ∈ signatures t :=
  List.mem_of_getElem? h

/-- Name and parameters determine the index. -/
theorem index_unique (h : signature? t i = some s) (h' : signature? t j = some s')
    (hname : s.name = s'.name) (hparameters : s.parameters = s'.parameters) : i = j := by
  have hi : i < ((signatures t).map fun s => (s.name, s.parameters)).length := by
    rw [List.length_map]
    exact (List.getElem?_eq_some_iff.mp h).1
  rw [← List.getElem?_inj hi (nodup_signatures t), List.getElem?_map, List.getElem?_map]
  change (signature? t i).map _ = (signature? t j).map _
  rw [h, h', Option.map_some, Option.map_some, hname, hparameters]

/-! ## Section 2: Signatures that fit a call -/

/-- The signature is the one that a call asks for: it has the name of the call, written in small
letters, and exactly the types of its arguments as parameters. -/
def Fits (name : String) (types : List ValueType) (s : Signature) : Prop :=
  s.name = Text.asciiLower name ∧ s.parameters = types

theorem isNamed_iff (h : s ∈ signatures t) :
    s.isNamed name = true ↔ s.name = Text.asciiLower name := by
  rw [Signature.isNamed, Text.equalIgnoringAsciiCase_iff, asciiLower_name h]

theorem accepts_iff (h : s ∈ signatures t) : s.accepts name types = true ↔ Fits name types s := by
  rw [Signature.accepts, Bool.and_eq_true, isNamed_iff h, beq_iff_eq, Fits]

theorem Fits.unique (hfits : Fits name types s) (hfits' : Fits name types s')
    (h : signature? t i = some s) (h' : signature? t j = some s') : i = j :=
  index_unique h h' (hfits.1.trans hfits'.1.symm) (hfits.2.trans hfits'.2.symm)

/-! ## Section 3: Questions about a call -/

theorem resolve?_eq_none_iff :
    resolve? t name types = none ↔ ∀ s ∈ signatures t, ¬ Fits name types s := by
  rw [resolve?, List.findIdx?_eq_none_iff]
  refine forall₂_congr fun s hs => ?_
  rw [← accepts_iff hs, Bool.not_eq_true]

theorem resolve?_eq_some_iff :
    resolve? t name types = some i ↔ ∃ s, signature? t i = some s ∧ Fits name types s := by
  have hforward {i : Nat} (h : resolve? t name types = some i) :
      ∃ s, signature? t i = some s ∧ Fits name types s := by
    obtain ⟨hlt, haccepts, -⟩ := List.findIdx?_eq_some_iff_getElem.mp h
    exact ⟨_, List.getElem?_eq_getElem hlt, (accepts_iff (List.getElem_mem hlt)).mp haccepts⟩
  constructor
  · exact hforward
  · rintro ⟨s, hs, hfits⟩
    -- Something is found, and there is only one index that it can be
    cases hfound : resolve? t name types with
    | none => exact absurd hfits (resolve?_eq_none_iff.mp hfound s (mem_of_signature? hs))
    | some j =>
      obtain ⟨s', hs', hfits'⟩ := hforward hfound
      rw [hfits'.unique hfits hs' hs]

/-- The result type is that of the signature at the index. -/
theorem resultType?_eq :
    resultType? t name types =
      (resolve? t name types).bind fun i => (signature? t i).bind Signature.result := by
  rw [resultType?, List.find?_eq_bind_findIdx?_getElem?, Option.bind_assoc]
  rfl

theorem hasOperation_iff :
    hasOperation t name = true ↔ ∃ s ∈ signatures t, s.name = Text.asciiLower name := by
  rw [hasOperation, List.any_eq_true]
  exact exists_congr fun s => and_congr_right isNamed_iff

theorem overloads_eq :
    overloads t name = (signatures t).filter fun s => s.name = Text.asciiLower name := by
  apply List.filter_congr
  intro s hs
  rw [Bool.eq_iff_iff, isNamed_iff hs, decide_eq_true_iff]

theorem mem_operationNames_iff : name ∈ operationNames t ↔ ∃ s ∈ signatures t, s.name = name := by
  rw [operationNames, List.mem_eraseDups, List.mem_map]

end Catalog

namespace Resolution

open Catalog

variable (line : Line) (t : ValueType) (name : String) (types : List ValueType)

/-! ## Section 4: Calls -/

/-- Everything that can become of a call: its index, or one of two diagnostics. -/
theorem resolveCall_cases :
    (∃ i, resolve? t name types = some i ∧ resolveCall line t name types = .ok i) ∨
      (resolve? t name types = none ∧ (∃ s ∈ signatures t, s.name = Text.asciiLower name) ∧
        resolveCall line t name types = .error (noMatchingOverload line t name types)) ∨
      (resolve? t name types = none ∧ (∀ s ∈ signatures t, s.name ≠ Text.asciiLower name) ∧
        resolveCall line t name types = .error (unknownOperation line t name)) := by
  unfold resolveCall
  cases resolve? t name types with
  | some i => exact .inl ⟨i, rfl, rfl⟩
  | none =>
    cases hhas : hasOperation t name with
    | true => exact .inr (.inl ⟨rfl, hasOperation_iff.mp hhas, rfl⟩)
    | false =>
      have hnot : ¬ ∃ s ∈ signatures t, s.name = Text.asciiLower name := by
        rw [← hasOperation_iff, hhas]
        exact Bool.false_ne_true
      exact .inr (.inr ⟨rfl, fun s hs hname => hnot ⟨s, hs, hname⟩, rfl⟩)

theorem resolveCall_eq_ok_iff (i : Nat) :
    resolveCall line t name types = .ok i ↔ resolve? t name types = some i := by
  obtain ⟨j, hj, hcall⟩ | ⟨hnone, -, hcall⟩ | ⟨hnone, -, hcall⟩ :=
    resolveCall_cases line t name types
  · simp [hj, hcall]
  · simp [hnone, hcall]
  · simp [hnone, hcall]

/-- When the arguments are reported. -/
theorem resolveCall_eq_mismatch_iff (d : Diagnostic) :
    resolveCall line t name types = .error d ∧ d.code = .E1002 ↔
      d = noMatchingOverload line t name types ∧
        (∃ s ∈ signatures t, s.name = Text.asciiLower name) ∧
        ∀ s ∈ signatures t, ¬ Fits name types s := by
  rw [← resolve?_eq_none_iff]
  obtain ⟨i, hi, hcall⟩ | ⟨hnone, hnamed, hcall⟩ | ⟨hnone, hnot, hcall⟩ :=
    resolveCall_cases line t name types
  · simp [hi, hcall]
  · rw [hcall, Except.error.injEq]
    constructor
    · rintro ⟨rfl, -⟩
      exact ⟨rfl, hnamed, hnone⟩
    · rintro ⟨rfl, -⟩
      exact ⟨rfl, rfl⟩
  · rw [hcall, Except.error.injEq]
    constructor
    · rintro ⟨rfl, hcode⟩
      cases hcode
    · rintro ⟨-, ⟨s, hs, hname⟩, -⟩
      exact absurd hname (hnot s hs)

/-- When the name is reported. -/
theorem resolveCall_eq_unknown_iff (d : Diagnostic) :
    resolveCall line t name types = .error d ∧ d.code = .E1001 ↔
      d = unknownOperation line t name ∧ ∀ s ∈ signatures t, s.name ≠ Text.asciiLower name := by
  obtain ⟨i, hi, hcall⟩ | ⟨hnone, ⟨s, hs, hname⟩, hcall⟩ | ⟨hnone, hnot, hcall⟩ :=
    resolveCall_cases line t name types
  · obtain ⟨s, hs, hfits⟩ := resolve?_eq_some_iff.mp hi
    rw [hcall]
    constructor
    · rintro ⟨hok, -⟩
      cases hok
    · rintro ⟨-, hnot⟩
      exact absurd hfits.1 (hnot s (mem_of_signature? hs))
  · rw [hcall, Except.error.injEq]
    constructor
    · rintro ⟨rfl, hcode⟩
      cases hcode
    · rintro ⟨-, hnot⟩
      exact absurd hname (hnot s hs)
  · rw [hcall, Except.error.injEq]
    constructor
    · rintro ⟨rfl, -⟩
      exact ⟨rfl, hnot⟩
    · rintro ⟨rfl, -⟩
      exact ⟨rfl, rfl⟩

/-- A name that is suggested is one of the operations of the type. -/
theorem suggestions_unknownOperation {suggestion : String}
    (h : suggestion ∈ (unknownOperation line t name).suggestions) :
    ∃ s ∈ signatures t, suggestion = "did you mean `" ++ s.name ++ "`?" := by
  obtain ⟨similar, hsimilar, rfl⟩ := List.mem_map.mp h
  have hmem := Suggestion.mem_of_similar? (Option.mem_toList.mp hsimilar)
  obtain ⟨s, hs, rfl⟩ := mem_operationNames_iff.mp hmem
  exact ⟨s, hs, rfl⟩

/-- All answers about a call agree. -/
structure Exact : Prop where
  /-- A signature accepts the call exactly if it has its name, in small letters, and its types -/
  accepts (s : Signature) : s ∈ signatures t → (s.accepts name types = true ↔ Fits name types s)
  /-- At most one does -/
  unique (i j : Nat) (s s' : Signature) : signature? t i = some s → signature? t j = some s' →
    Fits name types s → Fits name types s' → i = j
  /-- The call has an index exactly if one does -/
  resolves (i : Nat) : resolve? t name types = some i ↔
    ∃ s, signature? t i = some s ∧ Fits name types s
  /-- The result type is that of the signature at the index -/
  result (i : Nat) (s : Signature) : resolve? t name types = some i → signature? t i = some s →
    resultType? t name types = s.result
  /-- The call resolves exactly if it has an index, and to this one -/
  ok (i : Nat) : resolveCall line t name types = .ok i ↔ resolve? t name types = some i
  /-- The arguments are wrong exactly if a signature has the name, and none accepts the call -/
  mismatch : (∃ d, resolveCall line t name types = .error d ∧ d.code = .E1002) ↔
    (∃ s ∈ signatures t, s.name = Text.asciiLower name) ∧ ∀ s ∈ signatures t, ¬ Fits name types s
  /-- The notes then show all signatures of the name, in index order, and the call -/
  notes (d : Diagnostic) : resolveCall line t name types = .error d → d.code = .E1002 →
    d.notes = (((signatures t).filter fun s => s.name = Text.asciiLower name).map fun s =>
      "expected `" ++ s.shape ++ "`") ++ ["supplied `" ++ callShape name types ++ "`"]
  /-- The name is wrong exactly if no signature has it -/
  unknown : (∃ d, resolveCall line t name types = .error d ∧ d.code = .E1001) ↔
    ∀ s ∈ signatures t, s.name ≠ Text.asciiLower name
  /-- A name that is then suggested is an operation of the type -/
  suggestions (d : Diagnostic) : resolveCall line t name types = .error d → d.code = .E1001 →
    ∀ suggestion ∈ d.suggestions,
      ∃ s ∈ signatures t, suggestion = "did you mean `" ++ s.name ++ "`?"

/-- **Calls resolve exactly.** Whatever the type, the name, in any ASCII case, and the arguments: at
most one signature fits the call, the call resolves exactly if one does, and else the diagnostic
tells whether the name or the arguments are wrong. -/
theorem calls_resolve_exactly : Exact line t name types where
  accepts s hs := accepts_iff hs
  unique i j s s' hs hs' hfits hfits' := hfits.unique hfits' hs hs'
  resolves i := resolve?_eq_some_iff
  result i s hi hs := by rw [resultType?_eq, hi, Option.bind_some, hs, Option.bind_some]
  ok := resolveCall_eq_ok_iff line t name types
  mismatch := by
    simp only [resolveCall_eq_mismatch_iff, exists_eq_left]
  notes d hd hcode := by
    obtain ⟨rfl, -⟩ := (resolveCall_eq_mismatch_iff line t name types d).mp ⟨hd, hcode⟩
    rw [noMatchingOverload, overloads_eq]
  unknown := by
    simp only [resolveCall_eq_unknown_iff, exists_eq_left]
  suggestions d hd hcode suggestion hsuggestion := by
    obtain ⟨rfl, -⟩ := (resolveCall_eq_unknown_iff line t name types d).mp ⟨hd, hcode⟩
    exact suggestions_unknownOperation line t name hsuggestion

end Resolution

end JobScript
