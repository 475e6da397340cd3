import JobScript.Statistics.Core

/-!
# Counting by Category

A categorical tracker counts occurrences per named category over the whole run. Categories keep
the order in which they were first seen; an index leads from a name to its slot. Nothing is
divided into intervals, so nothing is reported while the tracker runs.
-/

namespace JobScript

structure CategoricalTracker where
  core : TrackerCore
  /-- Categories with their counts, in order of first occurrence -/
  counts : List (String × Nat) := []
  /-- The slot of every recorded name -/
  slots : List (String × Nat) := []
  deriving DecidableEq, Repr

namespace CategoricalTracker

def ofContext (name : String) (context : CollectionContext) : CategoricalTracker where
  core := TrackerCore.ofContext name context

/-- Start counting, unless started before. -/
def start (t : CategoricalTracker) (now : Instant) : CategoricalTracker :=
  { t with core := t.core.start now }

def stop (t : CategoricalTracker) (now : Instant) : CategoricalTracker :=
  { t with core := t.core.finish now }

/-- The slot of a category, if it was seen. -/
def slot? (t : CategoricalTracker) (category : String) : Option Nat :=
  t.slots.lookup category

/-- Count one occurrence in a category, while the tracker is running. A category seen for the
first time takes the next slot. -/
def increment (t : CategoricalTracker) (category : String) : CategoricalTracker :=
  if t.core.isRunning then
    match t.slot? category with
    | some slot =>
      { t with counts := t.counts.modify slot fun entry => (entry.1, entry.2 + 1) }
    | none =>
      -- The next slot is the number of slots taken
      { t with
        counts := t.counts ++ [(category, 1)]
        slots := (category, t.counts.length) :: t.slots }
  else t

def countFor (t : CategoricalTracker) (category : String) : Nat :=
  match t.slot? category with
  | some slot => (t.counts[slot]?).elim 0 Prod.snd
  | none => 0

def totalCount (t : CategoricalTracker) : Nat :=
  (t.counts.map Prod.snd).foldr (· + ·) 0

def summary (t : CategoricalTracker) : String :=
  s!"Total Count: {t.totalCount}; " ++
    ", ".intercalate (t.counts.map fun (name, count) => s!"{name}={count}")

end CategoricalTracker

end JobScript
