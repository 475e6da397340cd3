import JobScript.Proofs.Statistics.Chronicle

/-!
# Events in Order of Time

When points arrive in order of time, effective times are the times themselves, and a chronicle
holds the times of all observations between the start and the first stop.

## Architecture

- `pointTimes`: the observations before the first stop
- `Chronicle.foldl_of_open`: the chronicle of events in order
- `Chronicle.length_amountsIn`: the points of an interval, by their times
-/

namespace JobScript

/-- Times of the observations before the first stop. -/
def pointTimes : List TrackerEvent → List Instant
  | [] => []
  | .stop _ :: _ => []
  | .observe _ now :: events => now :: pointTimes events
  | .start _ :: events | .rename _ :: events | .listen _ :: events => pointTimes events

namespace Chronicle

variable {kind : TrackerKind} {c : Chronicle}

theorem start_of_open (hopen : c.isOpen = true) (now : Instant) : c.start now = c := by
  obtain ⟨start, hstart, -⟩ := c.isOpen_iff.mp hopen
  simp only [Chronicle.start, hstart]

/-- After a stop, nothing is taken in any more. -/
theorem take_of_stopped {start stop : Instant} (hstart : c.startedAt = some start)
    (hstop : c.stoppedAt = some stop) (event : TrackerEvent) : c.take kind event = c := by
  have hclosed : c.isOpen ≠ true := by simp [isOpen, hstop]
  cases event with
  | start now => simp only [take, Chronicle.start, hstart]
  | stop now => exact if_neg hclosed
  | observe o now => exact if_neg hclosed
  | rename name => rfl
  | listen job => rfl

theorem foldl_of_stopped {start stop : Instant} (hstart : c.startedAt = some start)
    (hstop : c.stoppedAt = some stop) (events : List TrackerEvent) :
    events.foldl (fun c event => c.take kind event) c = c := by
  induction events with
  | nil => rfl
  | cons event events ih =>
    rw [List.foldl_cons, take_of_stopped hstart hstop]
    exact ih

/-- A point that does not come before the latest one is accepted at its own time. -/
theorem observe_in_order (hopen : c.isOpen = true) {o : Observation} {now : Instant}
    (hpoint : (kind.amount? c.timer o now).isSome = true) (hle : c.latest ≤ now) :
    (c.observe kind o now).isOpen = true ∧ (c.observe kind o now).latest = now ∧
      (c.observe kind o now).startedAt = c.startedAt ∧
      (c.observe kind o now).points.map Prod.fst = c.points.map Prod.fst ++ [now] := by
  obtain ⟨amount, hamount⟩ := Option.isSome_iff_exists.mp hpoint
  have hmax : max c.latest now = now := Nat.max_eq_right hle
  simp only [observe, hopen, if_true, hamount, accept, hmax, List.map_append, List.map_cons,
    List.map_nil, and_true]
  exact hopen

/-- **Events in order**: the points of an open chronicle are continued by the observations before
the first stop, at their times. -/
theorem foldl_of_open {events : List TrackerEvent} (hopen : c.isOpen = true)
    (hpoints : ∀ o now, .observe o now ∈ events →
      ∀ timer later, (kind.amount? timer o later).isSome = true)
    (hsorted : (c.latest :: pointTimes events).Pairwise (· ≤ ·)) :
    (events.foldl (fun c event => c.take kind event) c).startedAt = c.startedAt ∧
      (events.foldl (fun c event => c.take kind event) c).points.map Prod.fst =
        c.points.map Prod.fst ++ pointTimes events := by
  induction events generalizing c with
  | nil => simp [pointTimes]
  | cons event events ih =>
    have hrest : ∀ o now, .observe o now ∈ events →
        ∀ timer later, (kind.amount? timer o later).isSome = true :=
      fun o now hmem => hpoints o now (List.mem_cons_of_mem _ hmem)
    rw [List.foldl_cons]
    cases event with
    | start now =>
      rw [take, start_of_open hopen]
      exact ih hopen hrest hsorted
    | stop now =>
      -- From here on nothing is accepted, and nothing is expected
      obtain ⟨start, hstart, -⟩ := c.isOpen_iff.mp hopen
      have htake : c.take kind (.stop now) =
          { c with stoppedAt := some (max c.latest now), timer := none } := if_pos hopen
      have hstarted : (c.take kind (.stop now)).startedAt = some start := by
        rw [htake]
        exact hstart
      have hstopped : (c.take kind (.stop now)).stoppedAt = some (max c.latest now) := by
        rw [htake]
      rw [foldl_of_stopped hstarted hstopped, htake]
      simp [pointTimes]
    | observe o now =>
      simp only [pointTimes, List.pairwise_cons, List.mem_cons, forall_eq_or_imp] at hsorted
      obtain ⟨⟨hle, -⟩, hsorted⟩ := hsorted
      have hpoint := hpoints o now List.mem_cons_self c.timer now
      -- The point becomes the latest one, and the rest is in order after it
      obtain ⟨hopen', hlatest, hstarted, htimes⟩ := observe_in_order hopen hpoint hle
      have hih := ih hopen' hrest (by rw [hlatest]; exact List.pairwise_cons.mpr hsorted)
      rw [hstarted, htimes, List.append_assoc] at hih
      exact hih
    | rename name => exact ih hopen hrest hsorted
    | listen job => exact ih hopen hrest hsorted

/-- The number of points of an interval, by their times. -/
theorem length_amountsIn {start : Instant} (hstart : c.startedAt = some start) (length : Span)
    (i : Nat) :
    (c.amountsIn length i).length = ((c.points.map Prod.fst).filter fun t =>
      decide (i * length ≤ t - start ∧ t - start < (i + 1) * length)).length := by
  rw [amountsIn, hstart, List.length_map, List.filter_map, List.length_map]
  rfl

end Chronicle

end JobScript
