import JobScript.Run

/-!
# The Variables of a Run

Variables are declared once and stay. What changes a run changes the values behind the names: one
of them, or all of them in order, and never the type of any.

## Architecture

- `Run.get?_set`, `Run.set_eq_self`, `Run.names_replace`: another value for one variable
- `Run.map_lookup_sweep`, `Run.bind_lookup_sweep`, `Run.names_sweep`: a change that runs through all
  variables
- `Value.type_assign`, `Run.type_stopVariable`, `Run.type_releaseVariable`: changes of a value
-/

namespace JobScript

/-! ## Section 1: One variable -/

namespace Run

variable {name other : String} {value : Value} {entries : List (String × Value)}

theorem lookup_replace :
    (replace name value entries).lookup other =
      if other = name then (entries.lookup name).map fun _ => value
      else entries.lookup other := by
  induction entries with
  | nil =>
    split <;> rfl
  | cons entry rest ih =>
    obtain ⟨key, old⟩ := entry
    simp only [replace, List.map_cons] at ih ⊢
    -- The entry is the one that is replaced, or it stays and the rest is looked up
    by_cases hkey : key = name
    · subst hkey
      rw [if_pos rfl]
      by_cases hother : other = key
      · subst hother
        simp
      · rw [if_neg hother] at ih ⊢
        simp only [List.lookup_cons, beq_eq_false_iff_ne.mpr hother]
        exact ih
    · rw [if_neg hkey]
      by_cases hother : other = name
      · subst hother
        rw [if_pos rfl] at ih ⊢
        simp only [List.lookup_cons, beq_eq_false_iff_ne.mpr (Ne.symm hkey)]
        exact ih
      · rw [if_neg hother] at ih ⊢
        simp only [List.lookup_cons]
        split
        · rfl
        · exact ih

/-- The variable has the new value, if it was declared; every other one has the value it had. -/
theorem get?_set (run : Run) :
    (run.set name value).get? other =
      if other = name then (run.get? name).map fun _ => value else run.get? other :=
  lookup_replace

/-- The same for what can be seen of values. -/
theorem bind_get?_set {γ : Type} {run : Run} {before : Value} (f : Value → Option γ)
    (hget : run.get? name = some before) :
    ((run.set name value).get? other).bind f =
      if other = name then f value else (run.get? other).bind f := by
  rw [get?_set, hget]
  split <;> rfl

/-- A variable is one of the variables. -/
theorem mem_of_lookup (h : entries.lookup name = some value) : (name, value) ∈ entries := by
  obtain ⟨before, after, rfl, -⟩ := List.lookup_eq_some_iff.mp h
  exact List.mem_append_right before List.mem_cons_self

/-- With names that differ, a variable is what its name leads to. -/
theorem mem_iff_lookup (hnames : (entries.map Prod.fst).Nodup) :
    (name, value) ∈ entries ↔ entries.lookup name = some value := by
  induction entries generalizing value with
  | nil => simp
  | cons entry rest ih =>
    obtain ⟨key, v⟩ := entry
    rw [List.map_cons, List.nodup_cons] at hnames
    obtain ⟨hkey, hrest⟩ := hnames
    rw [List.mem_cons, List.lookup_cons]
    by_cases hname : name = key
    · subst hname
      have hnone : (name, value) ∉ rest := by
        intro hmem
        exact hkey (List.mem_map.mpr ⟨(name, value), hmem, rfl⟩)
      simp [hnone, eq_comm]
    · rw [beq_eq_false_iff_ne.mpr hname, ih hrest]
      simp [hname]

/-- Giving a variable the value it has changes nothing. -/
theorem set_eq_self {run : Run} (hnames : (run.variables.map Prod.fst).Nodup)
    (hget : run.get? name = some value) : run.set name value = run := by
  have hsame : replace name value run.variables = run.variables := by
    rw [replace, List.map_congr_left (g := id), List.map_id]
    intro entry hentry
    obtain ⟨key, old⟩ := entry
    have hold := (mem_iff_lookup hnames).mp hentry
    simp only [id_eq]
    split
    · rename_i hkey
      subst hkey
      rw [Option.some.inj (hget.symm.trans hold)]
    · rfl
  rw [set, hsame]

/-- A new value behind a name leaves the names. -/
theorem names_replace (name : String) (value : Value) (entries : List (String × Value)) :
    (replace name value entries).map Prod.fst = entries.map Prod.fst := by
  rw [replace, List.map_map]
  apply List.map_congr_left
  intro entry hentry
  simp only [Function.comp_apply]
  split <;> rfl

/-! ## Section 2: All variables -/

/-- A change of all values leaves the names. -/
theorem names_sweep (change : Value → World → Value × World) (entries : List (String × Value))
    (w : World) : (sweep change entries w).1.map Prod.fst = entries.map Prod.fst := by
  induction entries generalizing w with
  | nil => rfl
  | cons entry rest ih => exact congrArg (entry.1 :: ·) (ih _)

/-- What can be seen of the values after a change is what the change makes visible of each. -/
theorem map_lookup_sweep {γ : Type} {change : Value → World → Value × World} {f g : Value → γ}
    (hchange : ∀ v w, f (change v w).1 = g v) (entries : List (String × Value)) (w : World) :
    ((sweep change entries w).1.lookup name).map f = (entries.lookup name).map g := by
  induction entries generalizing w with
  | nil => rfl
  | cons entry rest ih =>
    obtain ⟨key, v⟩ := entry
    simp only [sweep, List.lookup_cons]
    split
    · exact congrArg some (hchange v w)
    · exact ih _

/-- A change of all values, seen on what some of them have. -/
theorem bind_lookup_sweep {γ : Type} {change : Value → World → Value × World}
    {f : Value → Option γ} {g : γ → γ} (hchange : ∀ v w, f (change v w).1 = (f v).map g)
    (entries : List (String × Value)) (w : World) :
    ((sweep change entries w).1.lookup name).bind f =
      ((entries.lookup name).bind f).map g := by
  have hlookup : ((sweep change entries w).1.lookup name).map f =
      (entries.lookup name).map fun v => (f v).map g :=
    map_lookup_sweep hchange entries w
  calc ((sweep change entries w).1.lookup name).bind f
      _ = (((sweep change entries w).1.lookup name).map f).bind id := by
        rw [Option.bind_map]
        rfl
      _ = ((entries.lookup name).bind f).map g := by
        rw [hlookup, Option.bind_map, Option.map_bind]
        rfl

theorem bind_lookup_sweep_self {γ : Type} {change : Value → World → Value × World}
    {f : Value → Option γ} (hchange : ∀ v w, f (change v w).1 = f v)
    (entries : List (String × Value)) (w : World) :
    ((sweep change entries w).1.lookup name).bind f = (entries.lookup name).bind f := by
  have hsame (v : Value) (w : World) : f (change v w).1 = (f v).map id := by
    rw [hchange, Option.map_id_fun, id]
  rw [bind_lookup_sweep hsame, Option.map_id_fun, id]

end Run

/-! ## Section 3: Changes of a value -/

/-- An assigned variable keeps its type. -/
theorem Value.type_assign {target source after : Value} (h : target.assign source = .ok after) :
    after.type = target.type := by
  unfold assign at h
  split at h
  case h_6 handle other =>
    -- Trackers are the only values whose assignment may be refused for their kind
    split at h
    · cases h
      rfl
    · cases h
  all_goals
    cases h
    try rfl

theorem Run.type_stopVariable (value : Value) (w : World) :
    (stopVariable value w).1.type = value.type := by
  unfold stopVariable
  split
  · split <;> rfl
  · rfl

theorem Run.type_releaseVariable (value : Value) (w : World) :
    (releaseVariable value w).1.type = value.type := by
  unfold releaseVariable
  split <;> rfl

/-! ## Section 4: Tracker variables -/

/-- The handle of a tracker value. -/
def Value.handle? : Value → Option TrackerHandle
  | .tracker h => some h
  | _ => none

/-- A value of the type of a value without a handle has none either. -/
theorem Value.handle?_eq_none_of_type {a b : Value} (htype : a.type = b.type)
    (hb : b.handle? = none) : a.handle? = none := by
  cases a with
  | tracker h => cases b <;> simp [type, handle?] at htype hb
  | _ => rfl

namespace Run

variable {run : Run} {name other : String}

/-- The handle of a tracker variable. -/
def handle? (run : Run) (name : String) : Option TrackerHandle :=
  (run.get? name).bind Value.handle?

theorem fedBy_eq (value : Value) : fedBy value = value.handle?.bind TrackerHandle.statistics := by
  cases value <;> rfl

theorem handle?_eq_some_iff {h : TrackerHandle} :
    run.handle? name = some h ↔ run.get? name = some (.tracker h) := by
  rw [handle?, Option.bind_eq_some_iff]
  constructor
  · rintro ⟨value, hvalue, hhandle⟩
    cases value with
    | tracker h' =>
      obtain rfl := Option.some.inj hhandle
      exact hvalue
    | _ => cases hhandle
  · intro hget
    exact ⟨.tracker h, hget, rfl⟩

/-- A declared variable has the new handle, if any; every other one has the one it had. -/
theorem handle?_set {before after : Value} (hget : run.get? name = some before) :
    (run.set name after).handle? other =
      if other = name then after.handle? else run.handle? other :=
  bind_get?_set Value.handle? hget

/-- A tracker variable that is given a new handle has it; every other one has the one it had. -/
theorem handle?_set_tracker {before : TrackerHandle} (hhandle : run.handle? name = some before)
    (after : TrackerHandle) (other : String) :
    (run.set name (.tracker after)).handle? other =
      if other = name then some after else run.handle? other :=
  handle?_set (handle?_eq_some_iff.mp hhandle)

/-- After trackers are stopped, no handle collects. -/
theorem handle?_stopTrackers (run : Run) (name : String) :
    run.stopTrackers.handle? name =
      (run.handle? name).map fun h => { h with collecting := false } := by
  refine bind_lookup_sweep ?_ run.variables run.world
  intro v w
  cases v with
  | tracker h =>
    simp only [stopVariable]
    split
    · rfl
    · -- A handle that was not collecting stays as it is
      rename_i hidle
      rw [Bool.not_eq_true] at hidle
      simp only [Value.handle?, Option.map_some, ← hidle]
  | _ => rfl

/-- Closing connections has nothing to do with handles. -/
theorem handle?_releaseSessions (run : Run) (name : String) :
    run.releaseSessions.handle? name = run.handle? name := by
  refine bind_lookup_sweep_self ?_ run.variables run.world
  intro v w
  cases v <;> rfl

end Run

end JobScript
