import JobScript.Proofs.Statistics.Timing
import Mathlib.Algebra.BigOperators.Group.List.Lemmas
import Mathlib.Data.List.TakeWhile

/-!
# Counts by Category

A tracker of categories keeps two things that have to agree: a list of counts, with a slot for each
category, and an index that leads from a name to its slot. Both are what the occurrences say that
were counted while the tracker ran, whatever else happened to it.

## Architecture

- `TrackerPhase.ofEvents`, `Statistics.phase_after`: how far a tracker has come, by its events
- `counted`: the categories of the occurrences that are counted, in order
- `CategoricalTracker.Tallies`: counts and index are those of a list of categories
- `CategoricalTracker.Tallies.increment`: one more occurrence
- `Statistics.categories_counted`: what a tracker of categories tells
-/

namespace JobScript

open Timing

/-! ## Section 1: Phases of events -/

/-- How far a tracker has come to which these events happened. -/
def TrackerPhase.ofEvents (events : List TrackerEvent) : TrackerPhase :=
  if (sinceStart events).isEmpty then .notStarted
  else if (sinceStart events).any TrackerEvent.isStop then .stopped
  else .running

namespace TrackerPhase

variable (events : List TrackerEvent) (event : TrackerEvent)

theorem runs_iff : runs events = true ↔ ofEvents events = .running := by
  unfold runs ofEvents
  cases (sinceStart events).isEmpty <;>
    cases (sinceStart events).any TrackerEvent.isStop <;> simp

theorem ofEvents_concat : ofEvents (events ++ [event]) = (ofEvents events).next event := by
  unfold ofEvents
  rw [sinceStart_concat]
  cases hempty : (sinceStart events).isEmpty with
  | true => cases event <;> rfl
  | false =>
    cases hstop : (sinceStart events).any TrackerEvent.isStop <;>
      cases event <;> simp [hstop, next, TrackerEvent.isStop]

end TrackerPhase

/-- Trackers of all kinds come as far as their events say. -/
theorem Statistics.phase_after (kind : TrackerKind) (name : String) (context : CollectionContext)
    (events : List TrackerEvent) :
    ((ofContext kind name context).after events).core.phase = .ofEvents events := by
  induction events using List.reverseRecOn with
  | nil => rw [after, List.foldl_nil, core_ofContext]; rfl
  | append_singleton events event ih =>
    rw [after_append, TrackerPhase.ofEvents_concat, ← ih]
    exact phase_take _ event

/-! ## Section 2: Counted occurrences -/

/-- The category of an occurrence. -/
def TrackerEvent.category? : TrackerEvent → Option String
  | .observe (.inCategory name) _ => some name
  | _ => none

/-- The categories of the occurrences that are counted, in order: those after the first start and
before the first stop that follows it. -/
def counted (events : List TrackerEvent) : List String :=
  ((sinceStart events).takeWhile fun event => !event.isStop).filterMap TrackerEvent.category?

/-- An occurrence is counted exactly if the tracker runs. -/
theorem counted_concat (events : List TrackerEvent) (event : TrackerEvent) :
    counted (events ++ [event]) =
      counted events ++ if runs events then event.category?.toList else [] := by
  unfold counted runs
  rw [sinceStart_concat]
  cases hempty : (sinceStart events).isEmpty with
  | true =>
    rw [List.isEmpty_iff.mp hempty]
    cases event <;> rfl
  | false =>
    cases hstop : (sinceStart events).any TrackerEvent.isStop with
    | false =>
      have hall : ∀ e ∈ sinceStart events, (!e.isStop) = true := by simpa using hstop
      rw [if_neg Bool.false_ne_true, List.takeWhile_append_of_pos hall, List.filterMap_append,
        List.takeWhile_eq_self_iff.mpr hall]
      congr 1
      cases event with
      | observe o now => cases o <;> rfl
      | _ => rfl
    | true =>
      -- The stop ends what is counted, before the event is reached
      have hlength : ¬ ((sinceStart events).takeWhile fun e => !e.isStop).length =
          (sinceStart events).length := by
        intro hsame
        have hself := (List.takeWhile_prefix _).eq_of_length hsame
        obtain ⟨e, he, hestop⟩ := List.any_eq_true.mp hstop
        simpa [hestop] using List.takeWhile_eq_self_iff.mp hself e he
      rw [if_neg Bool.false_ne_true, List.takeWhile_append, if_neg hlength]
      exact (List.append_nil _).symm

theorem counted_concat_of_category?_eq_none {events : List TrackerEvent} {event : TrackerEvent}
    (h : event.category? = none) : counted (events ++ [event]) = counted events := by
  rw [counted_concat, h]
  simp

/-- One more name is a new one at the end, or has come before. -/
theorem eraseDups_concat (names : List String) (name : String) :
    (names ++ [name]).eraseDups =
      if name ∈ names then names.eraseDups else names.eraseDups ++ [name] := by
  rw [List.eraseDups_append]
  split <;> simp [List.removeAll, List.eraseDups_cons, *]

theorem getElem?_concat_eq_some_iff {names : List String} {c d : String} {i : Nat} :
    (names ++ [c])[i]? = some d ↔ names[i]? = some d ∨ i = names.length ∧ c = d := by
  rcases Nat.lt_trichotomy i names.length with hlt | rfl | hgt
  · simp [List.getElem?_append_left hlt, Nat.ne_of_lt hlt]
  · simp
  · have hnone : (names ++ [c])[i]? = none := by
      rw [List.getElem?_eq_none_iff, List.length_append]
      exact hgt
    simp [hnone, Nat.le_of_lt hgt, Nat.ne_of_gt hgt]

/-! ## Section 3: Counts and index -/

namespace CategoricalTracker

/-- Counts and index of a tracker are those of a list of categories: a slot for each category, in
the order in which they first come, with the number of times it comes. -/
structure Tallies (t : CategoricalTracker) (names : List String) : Prop where
  counts : t.counts = names.eraseDups.map fun c => (c, names.count c)
  index : ∀ c i, t.slot? c = some i ↔ names.eraseDups[i]? = some c

namespace Tallies

variable {t : CategoricalTracker} {names : List String} {c : String}

/-- The index leads to one slot, so that no category has two. -/
theorem nodup (h : t.Tallies names) : names.eraseDups.Nodup := by
  rw [List.nodup_iff_getElem?_ne_getElem?]
  intro i j hij hj hsame
  have hslotj := List.getElem?_eq_getElem hj
  have hindexi := (h.index _ i).mpr (hsame.trans hslotj)
  have hindexj := (h.index _ j).mpr hslotj
  exact Nat.ne_of_lt hij (Option.some.inj (hindexi.symm.trans hindexj))

theorem slot?_eq_none_iff (h : t.Tallies names) : t.slot? c = none ↔ c ∉ names := by
  rw [← List.mem_eraseDups, List.mem_iff_getElem?, Option.eq_none_iff_forall_ne_some, not_exists]
  exact forall_congr' fun i => not_congr (h.index c i)

theorem countFor_eq (h : t.Tallies names) (c : String) : t.countFor c = names.count c := by
  unfold countFor
  split
  · rename_i i hslot
    rw [h.counts, List.getElem?_map, (h.index c i).mp hslot]
    rfl
  · rename_i hslot
    exact (List.count_eq_zero.mpr (h.slot?_eq_none_iff.mp hslot)).symm

theorem totalCount_eq (h : t.Tallies names) : t.totalCount = names.length := by
  have hperm : names.eraseDups.Perm names.dedup :=
    (List.perm_ext_iff_of_nodup h.nodup (List.nodup_dedup names)).mpr (by simp)
  calc t.totalCount
      _ = (names.eraseDups.map fun c => names.count c).sum := by
        rw [totalCount_eq_sum, h.counts, List.map_map]
        rfl
      _ = (names.dedup.map fun c => names.count c).sum := (hperm.map _).sum_eq
      _ = names.length := List.sum_map_count_dedup_eq_length names

/-- The index leads to a slot exactly if the slot is that of the category. -/
theorem slot?_eq_some_iff (h : t.Tallies names) (c : String) (i : Nat) :
    t.slot? c = some i ↔ ∃ n, t.counts[i]? = some (c, n) := by
  rw [h.index, h.counts, List.getElem?_map]
  constructor
  · intro hslot
    exact ⟨names.count c, by rw [hslot]; rfl⟩
  · rintro ⟨n, hn⟩
    obtain ⟨d, hd, heq⟩ := Option.map_eq_some_iff.mp hn
    rw [hd, (Prod.mk.inj heq).1]

/-- A category that has a slot counts there. -/
theorem increment_known (h : t.Tallies names) {slot : Nat} (hslot : t.slot? c = some slot) :
    Tallies { t with counts := t.counts.modify slot fun entry => (entry.1, entry.2 + 1) }
      (names ++ [c]) := by
  have hname := (h.index c slot).mp hslot
  have hmem : c ∈ names := List.mem_eraseDups.mp (List.mem_of_getElem? hname)
  have hnames : (names ++ [c]).eraseDups = names.eraseDups := by
    rw [eraseDups_concat, if_pos hmem]
  constructor
  · apply List.ext_getElem?
    intro i
    rw [hnames, List.getElem?_modify, h.counts, List.getElem?_map, List.getElem?_map]
    cases hi : names.eraseDups[i]? with
    | none => rfl
    | some d =>
      -- The slot of the category is no other category's
      have hsame : slot = i ↔ c = d := by
        constructor
        · rintro rfl
          exact Option.some.inj (hname.symm.trans hi)
        · rintro rfl
          exact Option.some.inj (hslot.symm.trans ((h.index c i).mpr hi))
      by_cases hcd : c = d <;> simp [hsame, hcd, List.count_append]
  · rw [hnames]
    exact h.index

/-- A category that has none takes the next slot. -/
theorem increment_new (h : t.Tallies names) (hslot : t.slot? c = none) :
    Tallies { t with
      counts := t.counts ++ [(c, 1)], slots := (c, t.counts.length) :: t.slots }
      (names ++ [c]) := by
  have hnew : c ∉ names := h.slot?_eq_none_iff.mp hslot
  have hnames : (names ++ [c]).eraseDups = names.eraseDups ++ [c] := by
    rw [eraseDups_concat, if_neg hnew]
  have hlength : t.counts.length = names.eraseDups.length := by rw [h.counts, List.length_map]
  constructor
  · have hold : ∀ d ∈ names.eraseDups,
        (d, names.count d) = (d, (names ++ [c]).count d) := by
      intro d hd
      have hne : c ≠ d := fun hcd => hnew (hcd ▸ List.mem_eraseDups.mp hd)
      simp [List.count_append, hne]
    rw [hnames, List.map_append, ← List.map_congr_left hold, ← h.counts]
    simp [List.count_append, List.count_eq_zero.mpr hnew]
  · intro d i
    have hlookup : List.lookup d ((c, t.counts.length) :: t.slots) =
        if d = c then some t.counts.length else t.slot? d := by
      rw [List.lookup_cons]
      by_cases hdc : d = c
      · simp [hdc]
      · rw [beq_false_of_ne hdc, if_neg hdc]
        rfl
    rw [hnames, getElem?_concat_eq_some_iff, ← h.index, ← hlength, slot?, hlookup]
    by_cases hdc : d = c
    · simp [hdc, hslot, eq_comm]
    · simp [hdc, Ne.symm hdc]

theorem increment (h : t.Tallies names) (hrunning : t.core.isRunning = true) (c : String) :
    (t.increment c).Tallies (names ++ [c]) := by
  unfold CategoricalTracker.increment
  rw [if_pos hrunning]
  split
  · exact h.increment_known ‹_›
  · exact h.increment_new ‹_›

end Tallies

/-- No category has a slot before the first occurrence. -/
theorem tallies_ofContext (name : String) (context : CollectionContext) :
    (ofContext name context).Tallies [] :=
  ⟨rfl, fun _ _ => by simp [slot?, ofContext]⟩

/-- Counts and index are all that matters. -/
theorem Tallies.of_core {t : CategoricalTracker} {names : List String} (h : t.Tallies names)
    (core : TrackerCore) : Tallies { t with core } names :=
  ⟨h.counts, h.index⟩

end CategoricalTracker

/-! ## Section 4: Trackers tell the categories -/

namespace Statistics

/-- One more event adds an occurrence if it is one and the tracker runs. -/
theorem exists_tallies_take {t : CategoricalTracker} {events : List TrackerEvent}
    (h : t.Tallies (counted events)) (hruns : t.core.isRunning = runs events)
    (event : TrackerEvent) :
    ∃ t', (take (.categorical t) event).1 = .categorical t' ∧
      t'.Tallies (counted (events ++ [event])) := by
  cases event with
  | start now =>
    rw [counted_concat_of_category?_eq_none rfl]
    exact ⟨t.start now, rfl, h.of_core _⟩
  | stop now =>
    rw [counted_concat_of_category?_eq_none rfl]
    exact ⟨t.stop now, rfl, h.of_core _⟩
  | rename name =>
    rw [counted_concat_of_category?_eq_none rfl]
    exact ⟨_, rfl, h.of_core _⟩
  | listen job =>
    rw [counted_concat_of_category?_eq_none rfl]
    exact ⟨_, rfl, h.of_core _⟩
  | observe o now =>
    cases o with
    | inCategory c =>
      rw [counted_concat]
      refine ⟨t.increment c, rfl, ?_⟩
      cases hrunning : runs events with
      | true => exact h.increment (hruns.trans hrunning) c
      | false =>
        have hsame : t.increment c = t := if_neg (by simp [hruns, hrunning])
        rw [hsame]
        simpa using h
    | _ =>
      rw [counted_concat_of_category?_eq_none rfl]
      exact ⟨t, rfl, h⟩

theorem exists_tallies_after (name : String) (context : CollectionContext)
    (events : List TrackerEvent) :
    ∃ t, (ofContext .categorical name context).after events = .categorical t ∧
      t.core.isRunning = runs events ∧ t.Tallies (counted events) := by
  -- Whether it runs is read off its phase; the induction only carries the tallies
  have hruns {events : List TrackerEvent} {t : CategoricalTracker}
      (hafter : (ofContext .categorical name context).after events = .categorical t) :
      t.core.isRunning = runs events := by
    have hphase := phase_after .categorical name context events
    rw [hafter] at hphase
    rw [Bool.eq_iff_iff, TrackerCore.isRunning_iff, TrackerPhase.runs_iff, ← hphase]
    rfl
  induction events using List.reverseRecOn with
  | nil => exact ⟨_, rfl, rfl, CategoricalTracker.tallies_ofContext name context⟩
  | append_singleton events event ih =>
    obtain ⟨t, hafter, hrunning, htallies⟩ := ih
    obtain ⟨t', htake, htallies'⟩ := exists_tallies_take htallies hrunning event
    have hafter' : (ofContext .categorical name context).after (events ++ [event]) =
        .categorical t' := by
      rw [after_append, hafter]
      exact htake
    exact ⟨t', hafter', hruns hafter', htallies'⟩

/-- **Counts by category and their index stay in step.** Whatever happens to a tracker of
categories, it runs exactly if its events say so; its index leads a name to a slot exactly if the
slot is that of this name, and no name has two slots. The slots are in the order in which their
categories were first counted, each with the number of occurrences counted in it; other categories
have none, and the total is the number of all occurrences that were counted. -/
theorem categories_counted (name : String) (context : CollectionContext)
    (events : List TrackerEvent) :
    let names := counted events
    ∃ t : CategoricalTracker,
      (ofContext .categorical name context).after events = .categorical t ∧
      t.core.isRunning = runs events ∧
      (∀ c i, t.slot? c = some i ↔ ∃ n, t.counts[i]? = some (c, n)) ∧
      (t.counts.map Prod.fst).Nodup ∧
      t.counts = names.eraseDups.map (fun c => (c, names.count c)) ∧
      (∀ c, t.countFor c = names.count c) ∧
      t.totalCount = names.length := by
  intro names
  obtain ⟨t, hafter, hruns, htallies⟩ := exists_tallies_after name context events
  refine ⟨t, hafter, hruns, htallies.slot?_eq_some_iff, ?_, htallies.counts, htallies.countFor_eq,
    htallies.totalCount_eq⟩
  rw [htallies.counts, List.map_map]
  exact (List.map_id names.eraseDups).symm ▸ htallies.nodup

end Statistics

end JobScript
