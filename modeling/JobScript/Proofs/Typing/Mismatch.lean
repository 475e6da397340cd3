import JobScript.Proofs.Typing.Demands
import JobScript.Proofs.Typing.Execution

/-!
# When a Mismatch Is Noticed

A call by index may be given any arguments. Whatever its signature says, the first argument that is
read and does not fit is reported, by operation, position and types, and nothing has changed by
then. If every argument that is read fits, the call is carried out, and what was not read goes
unnoticed.

## Architecture

- `Outcome.Notices`: an outcome that comes from reading arguments
- `PopOperation.run_notices`: the operations that change their target even when they fail
- `Value.demands`, `execute_notices`: what a call by index reads
- `mismatch_noticed_where_read`: mismatches that are noticed, and all others
-/

namespace JobScript

open Demand Arguments

variable {operation : String} {arguments : List Value} {ds : List Demand}

/-! ## Section 1: Outcomes -/

/-- The operation reads its demands in order: over the first one that is not met it fails and leaves
everything as it was, and if all are met it fails over nothing that lies in the call. -/
structure Outcome.Notices {σ : Type} (target : σ) (w : World) (operation : String)
    (arguments : List Value) (demands : List Demand) (outcome : Outcome σ) : Prop where
  unmet : ∀ d, firstUnmet? arguments demands = some d →
    outcome = ⟨target, w, .error (d.cause operation arguments)⟩
  met : firstUnmet? arguments demands = none →
    ∀ cause, outcome.result = .error cause → cause.isDefect = false

namespace Outcome

variable {σ τ : Type} {target : σ} {w : World}

theorem notices_ofExcept {done : Except Cause (σ × World × Result)}
    (h : Reads operation arguments ds NoDefect done) :
    (ofExcept target w done).Notices target w operation arguments ds where
  unmet := fun d hd => by rw [h.unmet d hd]; rfl
  met := by
    intro hd cause hcause
    cases done with
    | ok done => cases hcause
    | error cause' =>
      cases hcause
      exact h.met hd cause rfl

theorem notices_ofTarget {done : Except Cause (σ × Result)}
    (h : Reads operation arguments ds NoDefect done) :
    (ofTarget target w done).Notices target w operation arguments ds :=
  notices_ofExcept (h.map fun hdone => hdone.map _)

theorem notices_nothing {outcome : Outcome σ} (h : NoDefect outcome.result) :
    outcome.Notices target w operation arguments [] where
  unmet := fun _ hd => by cases hd
  met := fun _ => h

end Outcome

/-! ## Section 2: Mail sessions -/

/-- The number of arguments decides whether a third one is read, whatever the signature says. -/
def PopOperation.demands (op : PopOperation) (arguments : List Value) : List Demand :=
  match op with
  | .connect | .connectSecurely =>
    ⟨0, .text⟩ :: ⟨1, .int⟩ :: if arguments.length = 3 then [⟨2, .boolean⟩] else []
  | .authenticate => [⟨0, .text⟩, ⟨1, .text⟩]
  | .delete | .retrieve => [⟨0, .int⟩]
  | .top => [⟨0, .int⟩, ⟨1, .int⟩]
  | .disconnect | .failureReason | .list | .noop | .stat => []

namespace PopSession

variable (s : PopSession) (w : World)

/-- All arguments are read before the exchange begins. -/
theorem withArguments_notices {α : Type} {read : Except Cause α} {go : α → Outcome PopSession}
    (hread : Reads operation arguments ds Gives read)
    (hgo : ∀ a, NoDefect (go a).result) :
    (s.withArguments w read go).Notices s w operation arguments ds where
  unmet := fun d hd => by rw [hread.unmet d hd]; rfl
  met := by
    intro hd
    obtain ⟨a, rfl⟩ := hread.met hd
    exact hgo a

/-- An exchange fails over its connection only. -/
theorem converseOutcome_noDefect {α : Type} (unconnected : α) (exchange : Pop.Exchange α)
    (result : α → Result) :
    NoDefect (s.converseOutcome w unconnected exchange result).result := by
  intro cause hcause
  simp only [converseOutcome] at hcause
  split at hcause
  · cases hcause
  · cases hcause
    rfl

end PopSession

theorem PopOperation.run_notices (op : PopOperation) (s : PopSession) (w : World)
    (arguments : List Value) :
    (op.run s arguments w).Notices s w op.signature.name arguments (op.demands arguments) := by
  cases op with
  | authenticate =>
    refine s.withArguments_notices w ?_ fun _ => s.converseOutcome_noDefect w _ _ _
    exact Reads.read (string_reads 0) fun _ => Reads.read (string_reads 1) fun _ => Reads.gives _
  | connect | connectSecurely =>
    refine s.withArguments_notices w ?_ fun _ _ h => by cases h
    refine Reads.read (string_reads 0) fun host => Reads.read (int_reads 1) fun port => ?_
    refine Reads.last ?_ fun secure => Reads.gives _
    split
    · exact boolean_reads 2
    · exact Reads.gives false
  | delete | retrieve =>
    exact s.withArguments_notices w (int_reads 0) fun _ => s.converseOutcome_noDefect w _ _ _
  | top =>
    refine s.withArguments_notices w ?_ fun _ => s.converseOutcome_noDefect w _ _ _
    exact Reads.read (int_reads 0) fun _ => Reads.read (int_reads 1) fun _ => Reads.gives _
  | disconnect | failureReason => exact Outcome.notices_nothing fun _ h => by cases h
  | list | noop | stat => exact Outcome.notices_nothing (s.converseOutcome_noDefect w _ _ _)

/-! ## Section 3: Dispatch -/

/-- What a call by index reads, in order. -/
def Value.demands (target : Value) (job : Job) (index : Nat) (arguments : List Value) :
    List Demand :=
  match target with
  | .boolean b => (BooleanOperation.catalog[index]?).elim [] fun op => op.demands b arguments
  | .int _ => (IntOperation.catalog[index]?).elim [] fun op => op.demands arguments
  | .text _ => (TextOperation.catalog[index]?).elim [] fun op => op.demands arguments
  | .textList _ => (TextListOperation.catalog[index]?).elim [] fun op => op.demands arguments
  | .tracker h => ((TrackerOperation.catalog h.kind)[index]?).elim [] fun op => op.demands
  | .popConnection _ => (PopOperation.catalog[index]?).elim [] fun op => op.demands arguments
  | .mailMessage _ => (MailOperation.catalog[index]?).elim [] fun op => op.demands
  | .script _ => (ScriptOperation.catalog[index]?).elim [] fun op => op.demands arguments job
  | .rateLimiter _ => (RateLimiterOperation.catalog[index]?).elim [] fun op => op.demands

/-- The operation at an index reads what it reads, under the name of its signature. -/
theorem dispatch_notices {σ τ ω : Type} {t : ValueType} {catalog : List ω}
    {signature : ω → Signature} {demands : ω → List Demand} {index : Nat} {s : Signature}
    {target : σ} {w : World} {run : ω → Outcome σ} {f : σ → τ}
    (hs : (catalog.map signature)[index]? = some s)
    (hrun : ∀ op, (run op).Notices target w (signature op).name arguments (demands op)) :
    ((dispatch t catalog index target w run).map f).Notices (f target) w s.name arguments
      ((catalog[index]?).elim [] demands) := by
  rw [List.getElem?_map] at hs
  obtain ⟨op, hop, rfl⟩ := Option.map_eq_some_iff.mp hs
  simp only [dispatch, hop, Option.elim]
  constructor
  · intro d hd
    rw [(hrun op).unmet d hd]
    rfl
  · exact (hrun op).met

/-- A call by index reads the arguments it demands. -/
theorem execute_notices (job : Job) (w : World) (target : Value) {index : Nat} {s : Signature}
    (hs : Catalog.signature? target.type index = some s) (arguments : List Value) :
    (execute job w target index arguments).Notices target w s.name arguments
      (target.demands job index arguments) := by
  cases target with
  | boolean b =>
    exact dispatch_notices hs fun op => Outcome.notices_ofTarget (op.run_reads b arguments)
  | int n =>
    exact dispatch_notices hs fun op => Outcome.notices_ofTarget (op.run_reads n arguments)
  | text t =>
    exact dispatch_notices hs fun op => Outcome.notices_ofTarget (op.run_reads t arguments)
  | textList l =>
    exact dispatch_notices hs fun op => Outcome.notices_ofTarget (op.run_reads l arguments)
  | tracker h =>
    exact dispatch_notices hs fun op => Outcome.notices_ofExcept (op.run_reads h arguments job w)
  | popConnection session =>
    exact dispatch_notices hs fun op => op.run_notices session w arguments
  | mailMessage m =>
    exact dispatch_notices hs fun op => Outcome.notices_ofTarget (op.run_reads m arguments)
  | script source =>
    exact dispatch_notices hs fun op =>
      Outcome.notices_ofExcept (op.run_reads source arguments job w)
  | rateLimiter limiter =>
    exact dispatch_notices hs fun op =>
      Outcome.notices_ofExcept (op.run_reads limiter arguments w)

/-! ## Section 4: Mismatches -/

/-- **A mismatch is noticed where it is read.** Of a call by index, the first argument that is read
and missing or of another type is reported as a defect, with the operation, the position and both
types; target and shared state are as they were. If what is read fits, the call fails over no
defect, even if other arguments do not fit the signature. Arguments that fit the signature are
never reported. -/
theorem mismatch_noticed_where_read (job : Job) (w : World) (target : Value) (index : Nat)
    (arguments : List Value) {s : Signature}
    (hs : Catalog.signature? target.type index = some s) :
    (∀ d, firstUnmet? arguments (target.demands job index arguments) = some d →
      execute job w target index arguments =
        ⟨target, w, .error (.argumentType s.name d.position d.type
          ((arguments[d.position]?).map Value.type))⟩) ∧
      (firstUnmet? arguments (target.demands job index arguments) = none →
        ∀ cause, (execute job w target index arguments).result = .error cause →
          cause.isDefect = false) ∧
      (arguments.map Value.type = s.parameters →
        firstUnmet? arguments (target.demands job index arguments) = none) := by
  have hnotices := execute_notices job w target hs arguments
  refine ⟨hnotices.unmet, hnotices.met, ?_⟩
  intro hfits
  cases hunmet : firstUnmet? arguments (target.demands job index arguments) with
  | none => rfl
  | some d =>
    -- A call that fits fails over no argument type
    have hsound := execute_sound job w target hs hfits
    rw [hnotices.unmet d hunmet] at hsound
    cases hsound

/-- A second integer is read although the signature has one parameter: it is text, and that is
noticed. -/
theorem surplus_operand_noticed :
    Catalog.signature? (Value.int 1).type 0 = some ⟨"add", [.int], some .int⟩ ∧
      execute {} {} (.int 1) 0 [.int 2, .text none] =
        ⟨.int 1, {}, .error (.argumentType "add" 1 .int (some .text))⟩ := by
  have hs : Catalog.signature? (Value.int 1).type 0 = some ⟨"add", [.int], some .int⟩ := rfl
  exact ⟨hs, (mismatch_noticed_where_read {} {} (.int 1) 0 [.int 2, .text none] hs).1
    ⟨1, .int⟩ rfl⟩

/-- An operand that cannot change the result is not read: text in its place goes unnoticed. -/
theorem unread_mismatch_unnoticed :
    Catalog.signature? (Value.boolean false).type 0 = some ⟨"and", [.boolean], some .boolean⟩ ∧
      [Value.text (some "x")].map Value.type ≠ [.boolean] ∧
      (execute {} {} (.boolean false) 0 [.text (some "x")]).result = .ok (.boolean false) :=
  ⟨rfl, by decide, rfl⟩

end JobScript
