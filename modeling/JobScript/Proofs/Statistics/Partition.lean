import JobScript.Proofs.Statistics.Extremes

/-!
# Intervals in Order

Effective times never run backwards, so the intervals, one after the other, give the points back in
the order in which they were accepted.

## Architecture

- `Chronicle.Ordered`: the points in order of effective time, after any sequence of events
- `filter_lt_append`: a list in order of a key, cut at the entries with one key
- `Chronicle.flatMap_amountsIn`: the points of all intervals are all points
-/

namespace JobScript

/-! ## Section 1: Effective times -/

namespace Chronicle

variable {kind : TrackerKind} {c : Chronicle}

/-- The points are in order of effective time. -/
def Ordered (c : Chronicle) : Prop :=
  c.points.Pairwise fun p q => p.1 ≤ q.1

theorem Ordered.accept (h : c.Ordered) (wf : c.WellFormed kind) (amount : Int) (now : Instant) :
    (c.accept amount now).Ordered := by
  refine List.pairwise_append.mpr ⟨h, List.pairwise_singleton _ _, ?_⟩
  intro p hp q hq
  obtain rfl := List.mem_singleton.mp hq
  exact Nat.le_trans (wf.le_latest p hp) (Nat.le_max_left _ _)

theorem Ordered.take (h : c.Ordered) (wf : c.WellFormed kind) (event : TrackerEvent) :
    (c.take kind event).Ordered := by
  cases event with
  | start now => simpa only [Chronicle.take, Ordered, points_start] using h
  | stop now => simpa only [Chronicle.take, Ordered, points_stop] using h
  | observe o now =>
    simp only [Chronicle.take, observe]
    split
    · split
      · exact h.accept wf _ now
      · exact h
    · exact h
  | rename name => exact h
  | listen job => exact h

theorem ordered_ofEvents (kind : TrackerKind) (events : List TrackerEvent) :
    (ofEvents kind events).Ordered := by
  induction events using List.reverseRecOn with
  | nil => exact List.Pairwise.nil
  | append_singleton events event ih =>
    rw [ofEvents, List.foldl_append]
    exact ih.take (wellFormed_ofEvents kind events) event

end Chronicle

/-! ## Section 2: Cutting at a key -/

section Key

variable {α : Type} {key : α → Nat} {l : List α}

/-- What has a smaller key stands before what has this one. -/
theorem filter_lt_append (hl : l.Pairwise fun a b => key a ≤ key b) (n : Nat) :
    (l.filter fun a => decide (key a < n)) ++ (l.filter fun a => decide (key a = n)) =
      l.filter fun a => decide (key a < n + 1) := by
  induction l with
  | nil => rfl
  | cons a l ih =>
    obtain ⟨ha, hrest⟩ := List.pairwise_cons.mp hl
    by_cases hlt : key a < n
    · have hne : key a ≠ n := Nat.ne_of_lt hlt
      have hle : key a < n + 1 := Nat.lt_succ_of_lt hlt
      simp only [List.filter_cons, hlt, hne, hle, decide_true, decide_false, if_true,
        Bool.false_eq_true, if_false, List.cons_append]
      rw [ih hrest]
    · -- From here on no key is smaller
      have hnone : ∀ b ∈ a :: l, ¬ key b < n := by
        intro b hb
        rcases List.mem_cons.mp hb with rfl | hb
        · exact hlt
        · have := ha b hb
          omega
      have hnil : (a :: l).filter (fun a => decide (key a < n)) = [] := by
        rw [List.filter_eq_nil_iff]
        intro b hb
        simpa using hnone b hb
      rw [hnil, List.nil_append]
      apply List.filter_congr
      intro b hb
      have := hnone b hb
      rw [decide_eq_decide]
      omega

/-- The entries of all keys below a bound, key by key, are those entries in order. -/
theorem flatMap_filter_eq (hl : l.Pairwise fun a b => key a ≤ key b) (bound : Nat) :
    ((List.range bound).flatMap fun i => l.filter fun a => decide (key a = i)) =
      l.filter fun a => decide (key a < bound) := by
  induction bound with
  | zero => simp
  | succ bound ih =>
    rw [List.range_succ, List.flatMap_append, ih, List.flatMap_singleton, filter_lt_append hl]

end Key

/-! ## Section 3: All intervals -/

namespace Chronicle

variable {c : Chronicle} {length : Span} {bound : Nat}

/-- **The intervals give the points back**, in the order in which they were accepted. -/
theorem flatMap_amountsIn (h : c.Ordered) (length_pos : 0 < length)
    (hbound : ∀ p ∈ c.points,
      IntervalClock.passed length (c.startedAt.getD 0) p.1 < bound) :
    (List.range bound).flatMap (c.amountsIn length) = c.amounts := by
  have hkey : c.points.Pairwise fun p q =>
      IntervalClock.passed length (c.startedAt.getD 0) p.1 ≤
        IntervalClock.passed length (c.startedAt.getD 0) q.1 :=
    h.imp fun hle => IntervalClock.passed_mono length _ hle
  have hall : (c.points.filter fun p =>
      decide (IntervalClock.passed length (c.startedAt.getD 0) p.1 < bound)) = c.points :=
    List.filter_eq_self.mpr fun p hp => decide_eq_true (hbound p hp)
  have hpoints := flatMap_filter_eq hkey bound
  rw [hall] at hpoints
  rw [amounts]
  conv_rhs => rw [← hpoints, List.map_flatMap]
  congr 1
  funext i
  exact amountsIn_eq length_pos i

end Chronicle

end JobScript
