import Mathlib.Data.List.Nodup
import JobScript.Catalog
import JobScript.Proofs.Trackers.Request
import JobScript.Proofs.Typing.Operations

/-!
# Dispatch Keeps to the Catalogs

The index of a signature leads to the operation with that signature, so a call by index with
fitting arguments is sound. An index stands for a name and a number of arguments and for nothing
else, so that the order of a catalog does not matter. Whatever a call does, its target keeps its
type.

## Architecture

- `execute_sound`: a call that fits the signature at its index
- `Signature.key`, `execute_eq_of_key_eq`: name and arity decide what an index does
- `type_target_execute`: the type of the target, after any call at all
- `Result.type_settle`: a result has its type once it is turned into a value
-/

namespace JobScript

/-! ## Section 1: Outcomes -/

namespace Outcome

variable {σ : Type}

theorem sound_ofExcept {P : Result → Prop} (target : σ) (w : World)
    {done : Except Cause (σ × World × Result)} (h : Sound (fun done => P done.2.2) done) :
    Sound P (ofExcept target w done).result := by
  cases done with
  | ok done => exact h
  | error cause => exact h

theorem sound_ofTarget {P : Result → Prop} (target : σ) (w : World)
    {done : Except Cause (σ × Result)} (h : Sound (fun done => P done.2) done) :
    Sound P (ofTarget target w done).result :=
  sound_ofExcept target w (Sound.map h)

end Outcome

/-! ## Section 2: Dispatch -/

/-- The operation at an index is the one with the signature at that index. -/
theorem dispatch_sound {σ τ ω : Type} {t : ValueType} {catalog : List ω} {signature : ω → Signature}
    {index : Nat} {s : Signature} {target : σ} {w : World} {run : ω → Outcome σ}
    {f : σ → τ} {P : Result → Prop} (hs : (catalog.map signature)[index]? = some s)
    (hrun : ∀ op, signature op = s → Sound P (run op).result) :
    Sound P ((dispatch t catalog index target w run).map f).result := by
  rw [List.getElem?_map] at hs
  obtain ⟨op, hop, hsignature⟩ := Option.map_eq_some_iff.mp hs
  simp only [dispatch, hop, Outcome.map]
  exact hrun op hsignature

/-- **A call that fits is sound**: arguments of the parameter types of the signature at the index
lead to a result of the signature's type, or to a failure that is no miscall. -/
theorem execute_sound (job : Job) (w : World) (target : Value) {index : Nat}
    {arguments : List Value} {s : Signature}
    (hs : Catalog.signature? target.type index = some s)
    (h : arguments.map Value.type = s.parameters) :
    Sound (fun result => result.type = s.result)
      (execute job w target index arguments).result := by
  -- Each type has its own catalog, with one run of its own
  cases target with
  | boolean b =>
    apply dispatch_sound hs
    rintro op rfl
    exact Outcome.sound_ofTarget b w (op.run_sound b h)
  | int n =>
    apply dispatch_sound hs
    rintro op rfl
    exact Outcome.sound_ofTarget n w (op.run_sound n h)
  | text t =>
    apply dispatch_sound hs
    rintro op rfl
    exact Outcome.sound_ofTarget t w (op.run_sound t h)
  | textList l =>
    apply dispatch_sound hs
    rintro op rfl
    exact Outcome.sound_ofTarget l w (op.run_sound l h)
  | tracker handle =>
    apply dispatch_sound hs
    rintro op rfl
    exact Outcome.sound_ofExcept handle w (op.run_sound handle job w h)
  | popConnection session =>
    apply dispatch_sound hs
    rintro op rfl
    exact op.run_sound session w h
  | mailMessage m =>
    apply dispatch_sound hs
    rintro op rfl
    exact Outcome.sound_ofTarget m w (op.run_sound m h)
  | script source =>
    apply dispatch_sound hs
    rintro op rfl
    exact Outcome.sound_ofExcept source w (op.run_sound source job w h)
  | rateLimiter limiter =>
    apply dispatch_sound hs
    rintro op rfl
    exact Outcome.sound_ofExcept limiter w (op.run_sound limiter w h)

/-! ## Section 3: Names and arities -/

/-- What an operation is known by: its name and its arity. -/
def Signature.key (s : Signature) : String × Nat :=
  (s.name, s.arity)

/-- Indices of operations that are known by the same do the same, if such operations do. -/
theorem dispatch_eq_of_key_eq {σ τ ω : Type} {t : ValueType} {catalog : List ω}
    {signature : ω → Signature} {i j : Nat} {s s' : Signature} {target : σ} {w : World}
    {run : ω → Outcome σ} {f : σ → τ} (hi : (catalog.map signature)[i]? = some s)
    (hj : (catalog.map signature)[j]? = some s') (hkey : s.key = s'.key)
    (hrun : ∀ a ∈ catalog, ∀ b ∈ catalog, (signature a).key = (signature b).key → run a = run b) :
    (dispatch t catalog i target w run).map f = (dispatch t catalog j target w run).map f := by
  rw [List.getElem?_map] at hi hj
  obtain ⟨a, ha, rfl⟩ := Option.map_eq_some_iff.mp hi
  obtain ⟨b, hb, rfl⟩ := Option.map_eq_some_iff.mp hj
  simp only [dispatch, ha, hb]
  rw [hrun a (List.mem_of_getElem? ha) b (List.mem_of_getElem? hb) hkey]

/-- Operations that differ are known by something else, so any two of one key do the same. -/
theorem run_eq_of_nodup_key {ω ρ : Type} {catalog : List ω} {signature : ω → Signature}
    (run : ω → ρ) (hnodup : (catalog.map fun op => (signature op).key).Nodup) :
    ∀ a ∈ catalog, ∀ b ∈ catalog, (signature a).key = (signature b).key → run a = run b :=
  fun _ ha _ hb hkey => congrArg run (List.inj_on_of_nodup_map hnodup ha hb hkey)

/-- Only the two assignments to a text are known by the same, and they do the same. -/
theorem TextOperation.run_eq_of_key_eq {a b : TextOperation} (ha : a ∈ catalog) (hb : b ∈ catalog)
    (hkey : a.signature.key = b.signature.key) : a.run = b.run := by
  have hassignments : ∀ a ∈ catalog, ∀ b ∈ catalog, a.signature.key = b.signature.key →
      a = b ∨ a = .assign ∧ b = .assignInt ∨ a = .assignInt ∧ b = .assign := by
    decide +kernel
  rcases hassignments a ha b hb hkey with rfl | ⟨rfl, rfl⟩ | ⟨rfl, rfl⟩
  all_goals rfl

/-- **An index means a name and an arity**: two indices of a type whose signatures agree in both do
the same, wherever in the catalog they stand. -/
theorem execute_eq_of_key_eq (job : Job) (w : World) (target : Value) {i j : Nat}
    {s s' : Signature} (arguments : List Value)
    (hi : Catalog.signature? target.type i = some s)
    (hj : Catalog.signature? target.type j = some s') (hkey : s.key = s'.key) :
    execute job w target i arguments = execute job w target j arguments := by
  cases target with
  | text t =>
    apply dispatch_eq_of_key_eq hi hj hkey
    intro a ha b hb hab
    rw [TextOperation.run_eq_of_key_eq ha hb hab]
  | tracker handle =>
    apply dispatch_eq_of_key_eq hi hj hkey
    apply run_eq_of_nodup_key
    cases handle.kind <;> decide
  | boolean | int | textList | popConnection | mailMessage | script | rateLimiter =>
    apply dispatch_eq_of_key_eq hi hj hkey
    apply run_eq_of_nodup_key
    decide +kernel

/-! ## Section 4: Targets keep their type -/

/-- A call leaves its target with the type it had, whether it fits or not. -/
theorem type_target_execute (job : Job) (w : World) (target : Value) (index : Nat)
    (arguments : List Value) :
    (execute job w target index arguments).target.type = target.type := by
  cases target with
  | tracker handle =>
    rw [execute_tracker]
    cases handle.request index arguments with
    | ok request => exact congrArg ValueType.tracker (request.kind_perform handle job w)
    | error cause => rfl
  | _ => rfl

/-! ## Section 5: Results as values -/

/-- A result has its type when it is turned into a value. -/
theorem Result.type_settle (result : Result) (job : Job) (w : World) :
    (result.settle job w).1.map Value.type = result.type := by
  cases result with
  | nothing => rfl
  | value v => rfl
  | list lines => rfl

end JobScript
