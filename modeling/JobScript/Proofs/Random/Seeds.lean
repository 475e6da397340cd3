import JobScript.Proofs.Random.Accounting
import Mathlib.Data.List.Nodup
import Mathlib.Data.List.Range

/-!
# Seeds of the Sources of a Run

The sources of a run are numbered, and the seed of a source is made of the seed of the run and of its
number. The number is multiplied by an odd constant, which can be undone modulo `2 ^ 64`, so seeds
are the same for numbers that differ by a multiple of `2 ^ 64` and for no others. A variable that
draws keeps the number that it was declared with.

## Architecture

- `Random.seedOf_injective`, `Random.seedOf_ofNat_eq_iff`: when two numbers have the same seed
- `Run.seedsTaken`, `Run.seedsTaken_eq`: the seeds that the steps of a script take
- `Run.Numbered`, `Run.numbered_performAll`: the numbers of the variables that draw
- `Run.sources_have_seeds_of_their_own`: no two sources of a run share a seed
-/

namespace JobScript

namespace Random

/-! ## Section 1: Seeds by numbers -/

/-- Multiplication by this number takes back the multiplication by `seedStep`. -/
def seedStepInverse : UInt64 := 0xF1DE83E19937733D

theorem seedStep_mul_inverse : seedStep * seedStepInverse = 1 := by
  decide

theorem seedOf_injective (runSeed : UInt64) : Function.Injective (seedOf runSeed) := by
  intro m n h
  have hproduct : m * seedStep = n * seedStep := (UInt64.xor_right_inj runSeed).mp h
  calc m = m * seedStep * seedStepInverse := by
        rw [UInt64.mul_assoc, seedStep_mul_inverse, UInt64.mul_one]
    _ = n * seedStep * seedStepInverse := by rw [hproduct]
    _ = n := by rw [UInt64.mul_assoc, seedStep_mul_inverse, UInt64.mul_one]

/-- Seeds come round again after `2 ^ 64` sources, and no earlier. -/
theorem seedOf_ofNat_eq_iff {runSeed : UInt64} {m n : Nat} :
    seedOf runSeed (.ofNat m) = seedOf runSeed (.ofNat n) ↔ m % 2 ^ 64 = n % 2 ^ 64 := by
  rw [(seedOf_injective runSeed).eq_iff, ← UInt64.toNat_inj, UInt64.toNat_ofNat',
    UInt64.toNat_ofNat']

theorem seedOf_ofNat_ne (runSeed : UInt64) {m n : Nat} (hmn : m < n) (hn : n < 2 ^ 64) :
    seedOf runSeed (.ofNat m) ≠ seedOf runSeed (.ofNat n) := by
  rw [ne_eq, seedOf_ofNat_eq_iff]
  omega

end Random

theorem Value.source?_declared {t : ValueType} {name : String} {source : Random.Source}
    (h : t.drawsRandomly = true) : (Value.declared t name source).source? = some source := by
  cases t with
  | textList | script => rfl
  | _ => cases h

namespace Run

variable {run run' : Run} {x y name : String} {number : String → Nat}

/-! ## Section 2: Seeds that are taken -/

/-- The seed of the source that is handed out next. -/
def nextSeed (run : Run) : UInt64 :=
  Random.seedOf run.job.settings.runSeed (.ofNat run.world.issued)

/-- The seeds of the random sources that the steps of a script take, one after the other. -/
def seedsTaken (run : Run) : List Step → List UInt64
  | [] => []
  | step :: steps =>
    let rest := (run.perform step).1.seedsTaken steps
    if run.takesSource step then run.nextSeed :: rest else rest

/-- Steps take the sources in the order of their numbers. -/
theorem seedsTaken_eq (run : Run) (steps : List Step) :
    run.seedsTaken steps = (List.range' run.world.issued (run.sourcesTaken steps)).map
      fun n => Random.seedOf run.job.settings.runSeed (.ofNat n) := by
  induction steps generalizing run with
  | nil => rfl
  | cons step steps ih =>
    have hissued := run.issued_perform step
    have hjob : (run.perform step).1.job = run.job := run.job_performAll [step]
    rw [seedsTaken, ih, sourcesTaken, hjob, hissued]
    cases run.takesSource step with
    | false => rw [if_neg Bool.false_ne_true, Bool.toNat_false, Nat.add_zero, Nat.zero_add]
    | true =>
      rw [if_pos rfl, Bool.toNat_true, Nat.add_comm 1, List.range'_succ, List.map_cons]
      rfl

/-- Seeds repeat exactly if more than `2 ^ 64` sources are taken. -/
theorem nodup_seedsTaken_iff (run : Run) (steps : List Step) :
    (run.seedsTaken steps).Nodup ↔ run.sourcesTaken steps ≤ 2 ^ 64 := by
  rw [seedsTaken_eq]
  constructor
  · intro hnodup
    by_contra hmany
    -- Then the number that comes `2 ^ 64` after the first one is taken too
    have hboth := List.inj_on_of_nodup_map hnodup (x := run.world.issued)
      (y := run.world.issued + 2 ^ 64) (by rw [List.mem_range'_1]; omega)
      (by rw [List.mem_range'_1]; omega)
      (Random.seedOf_ofNat_eq_iff.mpr (Nat.add_mod_right _ _).symm)
    omega
  · intro hfew
    refine List.Nodup.map_on ?_ List.nodup_range'
    intro m hm n hn hsame
    rw [List.mem_range'_1] at hm hn
    rw [Random.seedOf_ofNat_eq_iff] at hsame
    omega

/-! ## Section 3: Numbers of variables -/

/-- The variables that draw have numbers of sources that were handed out, each its own one, and
draw from the streams of these sources. -/
structure Numbered (run : Run) (number : String → Nat) : Prop where
  issued (name : String) : (run.source? name).isSome → number name < run.world.issued
  key (name : String) (s : Random.Source) : run.source? name = some s →
    s.key = Random.keyOfSeed (Random.seedOf run.job.settings.runSeed (.ofNat (number name)))
  apart (x y : String) : (run.source? x).isSome → (run.source? y).isSome →
    number x = number y → x = y

theorem isSome_source? (run : Run) (name : String) :
    (run.source? name).isSome = (run.typeOf? name).any ValueType.drawsRandomly := by
  rw [source?, typeOf?]
  cases run.get? name with
  | none => rfl
  | some value => exact Value.isSome_source?

/-- Variables get their types from declarations and from nothing else. -/
theorem typeOf?_eq_or_declared (hbecomes : run.Becomes run') :
    (∀ name, run'.typeOf? name = run.typeOf? name) ∨
      ∃ line name t, run.declare line name t = .ok run' := by
  cases hbecomes with
  | declared hdeclare => exact .inr ⟨_, _, _, hdeclare⟩
  | invoked line target index arguments =>
    exact .inl fun name => typeOf?_invoke line target index arguments
  | assigned hassign => exact .inl fun name => typeOf?_assign hassign
  | trackersStopped => exact .inl fun name => typeOf?_stopTrackers
  | sessionsReleased => exact .inl fun name => typeOf?_releaseSessions
  | unchanged | waited | stopRequested => exact .inl fun name => rfl

namespace Numbered

/-- A declaration gives its variable the next number. -/
theorem declare (h : run.Numbered number) {line : Line} {t : ValueType}
    (hdeclare : run.declare line name t = .ok run') :
    run'.Numbered (Function.update number name run.world.issued) := by
  obtain ⟨hget, hissued⟩ := declare_of_ok hdeclare
  obtain ⟨-, source, issued, hrun⟩ := declare_ok hdeclare
  have hjob : run'.job = run.job := by rw [hrun]
  have hother (y : String) (hy : y ≠ name) : run'.source? y = run.source? y := by
    have hlookup : run'.get? y = run.get? y := by
      rw [hrun, get?, get?, List.lookup_append, List.lookup_cons, beq_eq_false_iff_ne.mpr hy,
        List.lookup_nil, Option.or_none]
    rw [source?, source?, hlookup]
  have hdraws (hname : (run'.source? name).isSome) : t.drawsRandomly = true := by
    rwa [isSome_source?, typeOf?, hget, Option.map_some, Option.any_some,
      Value.type_declared] at hname
  refine ⟨?issued, ?key, ?apart⟩
  case issued =>
    intro y hy
    by_cases hyname : y = name
    · subst hyname
      rw [Function.update_self, hissued, hdraws hy, Bool.toNat_true]
      exact Nat.lt_succ_self _
    · rw [hother y hyname] at hy
      rw [Function.update_of_ne hyname, hissued]
      exact Nat.lt_add_right _ (h.issued y hy)
  case key =>
    intro y s hs
    by_cases hyname : y = name
    · subst hyname
      have hown : run'.source? y = some run.nextSource := by
        rw [source?, hget, Option.bind_some]
        exact Value.source?_declared (hdraws (by rw [hs, Option.isSome_some]))
      obtain rfl := Option.some.inj (hs.symm.trans hown)
      rw [Function.update_self, hjob]
      rfl
    · rw [hother y hyname] at hs
      rw [Function.update_of_ne hyname, hjob]
      exact h.key y s hs
  case apart =>
    -- The numbers given before are all below the next one
    have hbelow (y : String) (hyname : y ≠ name) (hy : (run'.source? y).isSome) :
        number y < run.world.issued := by
      rw [hother y hyname] at hy
      exact h.issued y hy
    intro x y hx hy hsame
    by_cases hxname : x = name <;> by_cases hyname : y = name
    · exact hxname.trans hyname.symm
    · rw [hxname, Function.update_self, Function.update_of_ne hyname] at hsame
      exact absurd hsame.symm (Nat.ne_of_lt (hbelow y hyname hy))
    · rw [hyname, Function.update_self, Function.update_of_ne hxname] at hsame
      exact absurd hsame (Nat.ne_of_lt (hbelow x hxname hx))
    · rw [hother x hxname] at hx
      rw [hother y hyname] at hy
      rw [Function.update_of_ne hxname, Function.update_of_ne hyname] at hsame
      exact h.apart x y hx hy hsame

/-- A step that declares nothing leaves the variables that draw their numbers. -/
theorem perform_of_types (h : run.Numbered number) {step : Step}
    (htypes : ∀ name, (run.perform step).1.typeOf? name = run.typeOf? name) :
    (run.perform step).1.Numbered number := by
  have hissued := run.issued_perform step
  have hjob : (run.perform step).1.job = run.job := run.job_performAll [step]
  have hsome (name : String) :
      ((run.perform step).1.source? name).isSome = (run.source? name).isSome := by
    rw [isSome_source?, isSome_source?, htypes]
  refine ⟨?issued, ?key, ?apart⟩
  case issued =>
    intro name hname
    rw [hsome] at hname
    have := h.issued name hname
    omega
  case key =>
    intro name s hs
    have hbefore : (run.source? name).isSome := by
      rw [← hsome, hs]
      rfl
    -- Draws move along the stream of a source; its key stays
    obtain ⟨own, hown⟩ := Option.isSome_iff_exists.mp hbefore
    obtain ⟨s', hs', hkey, -⟩ := run.source?_perform step hown
    obtain rfl := Option.some.inj (hs.symm.trans hs')
    rw [hjob, hkey, h.key name own hown]
  case apart =>
    intro x y hx hy
    rw [hsome] at hx hy
    exact h.apart x y hx hy

theorem perform (h : run.Numbered number) (step : Step) :
    ∃ number', (run.perform step).1.Numbered number' := by
  rcases typeOf?_eq_or_declared (becomes_perform run step) with
    htypes | ⟨line, name, t, hdeclare⟩
  · exact ⟨number, h.perform_of_types htypes⟩
  · exact ⟨_, h.declare hdeclare⟩

theorem performAll (h : run.Numbered number) (steps : List Step) :
    ∃ number', (run.performAll steps).Numbered number' := by
  induction steps generalizing run number with
  | nil => exact ⟨number, h⟩
  | cons step steps ih =>
    obtain ⟨number', h'⟩ := h.perform step
    exact ih h'

/-- Two variables that draw have numbers with different seeds, unless numbers came round again. -/
theorem seeds_ne (h : run.Numbered number) (hfew : run.world.issued ≤ 2 ^ 64) (hxy : x ≠ y)
    (hx : (run.source? x).isSome) (hy : (run.source? y).isSome) :
    Random.seedOf run.job.settings.runSeed (.ofNat (number x)) ≠
      Random.seedOf run.job.settings.runSeed (.ofNat (number y)) := by
  have hxissued := h.issued x hx
  have hyissued := h.issued y hy
  rw [ne_eq, Random.seedOf_ofNat_eq_iff]
  intro hsame
  exact hxy (h.apart x y hx hy (by omega))

end Numbered

theorem numbered_initial (job : Job) (network : Pop.Network) (number : String → Nat) :
    (initial job network).Numbered number where
  issued name hname := by cases hname
  key name s hs := by cases hs
  apart x y hx := by cases hx

/-- **No two sources of a run share a seed**: numbers below `2 ^ 64` have different seeds, whatever the
seed of the run. The steps of a script take the sources by their numbers, from zero on, so the seeds
that they take are all different as long as there are no more than `2 ^ 64`; and any two variables
draw from streams of different seeds. -/
theorem sources_have_seeds_of_their_own (job : Job) (network : Pop.Network) {seed : UInt64}
    (hseed : job.settings.seed = some seed) :
    (∀ m n : Nat, m < n → n < 2 ^ 64 →
      Random.seedOf seed (.ofNat m) ≠ Random.seedOf seed (.ofNat n)) ∧
    ∀ steps, let start := initial job network
      let run := start.performAll steps
      start.seedsTaken steps =
        (List.range (start.sourcesTaken steps)).map (fun n => Random.seedOf seed (.ofNat n)) ∧
      ((start.seedsTaken steps).Nodup ↔ start.sourcesTaken steps ≤ 2 ^ 64) ∧
      (start.sourcesTaken steps ≤ 2 ^ 64 → ∀ x y s s', x ≠ y →
        run.source? x = some s → run.source? y = some s' →
        ∃ a b, a ≠ b ∧ a ∈ start.seedsTaken steps ∧ b ∈ start.seedsTaken steps ∧
          s.key = Random.keyOfSeed a ∧ s'.key = Random.keyOfSeed b) := by
  refine ⟨fun m n => Random.seedOf_ofNat_ne seed, ?_⟩
  intro steps start run
  have hrunSeed : job.settings.runSeed = seed := by
    rw [Settings.runSeed, hseed, Option.getD_some]
  have htaken : start.seedsTaken steps =
      (List.range (start.sourcesTaken steps)).map fun n => Random.seedOf seed (.ofNat n) := by
    rw [seedsTaken_eq, List.range_eq_range', ← hrunSeed]
    rfl
  refine ⟨htaken, nodup_seedsTaken_iff start steps, ?_⟩
  intro hfew x y s s' hxy hs hs'
  obtain ⟨number, hnumber⟩ := (numbered_initial job network fun _ => 0).performAll steps
  have hissued : run.world.issued = start.sourcesTaken steps :=
    (issued_performAll start steps).trans (Nat.zero_add _)
  have hseeds : run.job.settings.runSeed = seed := by
    rw [show run.job = job from job_performAll start steps, hrunSeed]
  have hx : (run.source? x).isSome := by rw [hs, Option.isSome_some]
  have hy : (run.source? y).isSome := by rw [hs', Option.isSome_some]
  have hmem {name : String} (hname : (run.source? name).isSome) :
      Random.seedOf run.job.settings.runSeed (.ofNat (number name)) ∈ start.seedsTaken steps := by
    rw [htaken, hseeds]
    exact List.mem_map_of_mem (List.mem_range.mpr (hissued ▸ hnumber.issued name hname))
  exact ⟨_, _, hnumber.seeds_ne (hissued ▸ hfew) hxy hx hy, hmem hx, hmem hy, hnumber.key x s hs,
    hnumber.key y s' hs'⟩

/-- A script and a list draw from streams of different seeds, the first two of the run. -/
theorem script_and_list_seeds_differ :
    let job : Job := { settings := { seed := some 42 } }
    let start := initial job {}
    let steps : List Step := [.declare ⟨1⟩ "dice" "script", .declare ⟨2⟩ "names" "stringarray"]
    let run := start.performAll steps
    job.settings.seed = some 42 ∧
      Random.seedOf 42 (.ofNat 0) ≠ Random.seedOf 42 (.ofNat 1) ∧
      start.seedsTaken steps = [42, 42 ^^^ 0x9E3779B97F4A7C15] ∧
      ∃ s s' a b, run.source? "dice" = some s ∧ run.source? "names" = some s' ∧ a ≠ b ∧
        s.key = Random.keyOfSeed a ∧ s'.key = Random.keyOfSeed b := by
  intro job start steps run
  have hseed : job.settings.seed = some 42 := rfl
  obtain ⟨hdiffer, hruns⟩ := sources_have_seeds_of_their_own job {} hseed
  obtain ⟨htaken, -, hvariables⟩ := hruns steps
  have hcount : start.sourcesTaken steps = 2 := by decide +kernel
  have hdice : (run.source? "dice").isSome := by decide +kernel
  have hnames : (run.source? "names").isSome := by decide +kernel
  obtain ⟨s, hs⟩ := Option.isSome_iff_exists.mp hdice
  obtain ⟨s', hs'⟩ := Option.isSome_iff_exists.mp hnames
  obtain ⟨a, b, hab, -, -, ha, hb⟩ :=
    hvariables (hcount ▸ by decide) "dice" "names" s s' (by decide) hs hs'
  refine ⟨hseed, hdiffer 0 1 (by decide) (by decide), ?_, s, s', a, b, hs, hs', hab, ha, hb⟩
  rw [htaken, hcount]
  decide +kernel

end Run

end JobScript
