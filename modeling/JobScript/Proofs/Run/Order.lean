import JobScript.Proofs.Pop.Sharing
import JobScript.Proofs.Trackers.Stopping

/-!
# The End of a Run in Any Order

The end of a run goes through the variables twice, to stop trackers and to close connections. The
variables are kept by name, so no order among them means anything. Variables that share statistics
or a connection leave it to the first one that is visited to stop or close it, and the others then
find nothing left to do. In the end the order shows in one thing alone: which reports come first.

## Architecture

- `World.Alike`, `Run.Alike`: the same but for the order of reports, and of variables
- `World.Alike.foldl_of_perm`: steps that can be exchanged, taken in two orders
- `Run.sweep_eq`: a visit of all variables, as changes of each and as steps of the shared state
- `Run.Alike.stopTrackers`, `Run.Alike.releaseSessions`: the two visits
- `Run.visiting`, `Run.end_in_any_order`: the variables put in any order before each visit
-/

namespace JobScript

/-! ## Section 1: States alike but for the order of reports -/

namespace World

/-- The same shared state, but for the order of what was reported. -/
structure Alike (w w' : World) : Prop where
  points : w.points.Perm w'.points
  rest : w' = { w with points := w'.points }

namespace Alike

variable {w w' w'' : World}

theorem refl (w : World) : w.Alike w :=
  ⟨.refl _, rfl⟩

theorem symm (h : w.Alike w') : w'.Alike w := by
  refine ⟨h.points.symm, ?_⟩
  rw [h.rest]

theorem trans (first : w.Alike w') (second : w'.Alike w'') : w.Alike w'' := by
  refine ⟨first.points.trans second.points, ?_⟩
  rw [second.rest, first.rest]

theorem statistics (h : w.Alike w') : w'.statistics = w.statistics := by
  rw [h.rest]

theorem now (h : w.Alike w') : w'.now = w.now := by
  rw [h.rest]

theorem network (h : w.Alike w') : w'.network = w.network := by
  rw [h.rest]

theorem putStatistics (h : w.Alike w') (id : TrackerId) (changed : Statistics × List DataPoint) :
    (w.putStatistics id changed).Alike (w'.putStatistics id changed) := by
  refine ⟨h.points.append_right changed.2, ?_⟩
  rw [World.putStatistics, World.putStatistics, h.rest]

theorem stopStatistics (h : w.Alike w') (id : TrackerId) :
    (w.stopStatistics id).Alike (w'.stopStatistics id) := by
  simp only [World.stopStatistics, h.statistics, h.now]
  split
  · exact h.putStatistics id _
  · exact h

end Alike

theorem alike_putStatistics_comm (w : World) {i j : TrackerId} (hij : i ≠ j)
    (first second : Statistics × List DataPoint) :
    ((w.putStatistics i first).putStatistics j second).Alike
      ((w.putStatistics j second).putStatistics i first) where
  points := by
    simp only [putStatistics, List.append_assoc]
    exact List.perm_append_comm.append_left w.points
  rest := by
    simp only [putStatistics, List.set_comm first.1 second.1 hij]

theorem stopStatistics_of_some {w : World} {id : TrackerId} {s : Statistics}
    (h : w.statistics[id]? = some s) :
    w.stopStatistics id = w.putStatistics id (s.stop w.now) := by
  simp only [stopStatistics, h]

theorem stopStatistics_of_none {w : World} {id : TrackerId} (h : w.statistics[id]? = none) :
    w.stopStatistics id = w := by
  simp only [stopStatistics, h]

/-- It does not matter which of two sets of statistics is stopped first. -/
theorem alike_stopStatistics_comm (w : World) (i j : TrackerId) :
    ((w.stopStatistics i).stopStatistics j).Alike ((w.stopStatistics j).stopStatistics i) := by
  rcases eq_or_ne i j with rfl | hij
  · exact .refl _
  · -- Neither stop touches the statistics of the other, or the clock
    have hi := (w.stops_stopStatistics j).kept i hij
    have hj := (w.stops_stopStatistics i).kept j hij.symm
    have hnow (id : TrackerId) := (w.stops_stopStatistics id).now
    cases hs : w.statistics[i]? with
    | none =>
      rw [stopStatistics_of_none hs, stopStatistics_of_none (hi.trans hs)]
      exact .refl _
    | some s =>
      cases ht : w.statistics[j]? with
      | none =>
        rw [stopStatistics_of_none ht, stopStatistics_of_none (hj.trans ht)]
        exact .refl _
      | some t =>
        rw [stopStatistics_of_some (hj.trans ht), stopStatistics_of_some (hi.trans hs), hnow, hnow,
          stopStatistics_of_some hs, stopStatistics_of_some ht]
        exact w.alike_putStatistics_comm hij _ _

/-- Statistics that are not running are stopped as well as they are left alone. -/
theorem stopRunning_eq (w : World) (id : TrackerId) : Run.stopRunning w id = w.stopStatistics id := by
  unfold Run.stopRunning
  split
  · rfl
  · rename_i hidle
    unfold stopStatistics
    split
    · rename_i s hs
      rw [hs, Option.any_some, Bool.not_eq_true] at hidle
      obtain ⟨hlt, hget⟩ := List.getElem?_eq_some_iff.mp hs
      rw [Statistics.stop_of_not_running w.now hidle, putStatistics, List.append_nil, ← hget,
        List.set_getElem_self]
    · rfl

/-- Close a connection of the run. -/
def closeConnection (w : World) (id : Pop.ConnectionId) : World :=
  { w with network := w.network.close id }

theorem Alike.closeConnection {w w' : World} (h : w.Alike w') (id : Pop.ConnectionId) :
    (w.closeConnection id).Alike (w'.closeConnection id) := by
  refine ⟨h.points, ?_⟩
  rw [World.closeConnection, World.closeConnection, h.rest]

theorem closeConnection_comm (w : World) (i j : Pop.ConnectionId) :
    (w.closeConnection i).closeConnection j = (w.closeConnection j).closeConnection i := by
  have hconnections : ((w.network.close i).close j).connections
      = ((w.network.close j).close i).connections := by
    apply List.ext_getElem?
    intro id
    simp only [Pop.Network.getElem?_close, Option.map_map]
    congr 1
    funext c
    simp only [Function.comp_apply]
    split <;> split <;> rfl
  have hnetwork : (w.network.close i).close j = (w.network.close j).close i :=
    congrArg (fun connections => { w.network with connections }) hconnections
  simp only [closeConnection, hnetwork]

section

variable {act : World → Nat → World} {w w' : World}

theorem Alike.foldl (hact : ∀ {w w'} id, w.Alike w' → (act w id).Alike (act w' id))
    (ids : List Nat) (h : w.Alike w') : (ids.foldl act w).Alike (ids.foldl act w') := by
  induction ids generalizing w w' with
  | nil => exact h
  | cons id ids ih => exact ih (hact id h)

/-- Steps that can be exchanged lead to the same state in any order, but for the order of
reports. -/
theorem Alike.foldl_of_perm (hact : ∀ {w w'} id, w.Alike w' → (act w id).Alike (act w' id))
    (hswap : ∀ w i j, (act (act w i) j).Alike (act (act w j) i)) {first second : List Nat}
    (hperm : first.Perm second) (h : w.Alike w') :
    (first.foldl act w).Alike (second.foldl act w') := by
  induction hperm generalizing w w' with
  | nil => exact h
  | cons id _ ih => exact ih (hact id h)
  | swap i j rest =>
    apply Alike.foldl hact rest
    exact (hswap w j i).trans (hact j (hact i h))
  | trans _ _ ih ih' => exact (ih (.refl w)).trans (ih' h)

end

end World

/-! ## Section 2: Runs alike but for the order of variables -/

namespace Run

/-- The same run, but for the order of its variables and of what was reported. -/
structure Alike (run run' : Run) : Prop where
  job : run'.job = run.job
  «variables» : run.variables.Perm run'.variables
  retired : run'.retired = run.retired
  world : run.world.Alike run'.world

namespace Alike

variable {run run' run'' : Run}

theorem refl (run : Run) : run.Alike run :=
  ⟨rfl, .refl _, rfl, .refl _⟩

theorem symm (h : run.Alike run') : run'.Alike run :=
  ⟨h.job.symm, h.variables.symm, h.retired.symm, h.world.symm⟩

theorem trans (first : run.Alike run') (second : run'.Alike run'') : run.Alike run'' :=
  ⟨second.job.trans first.job, first.variables.trans second.variables,
    second.retired.trans first.retired, first.world.trans second.world⟩

/-- Variables are found by name, so their order does not matter. -/
theorem get?_eq (h : run.Alike run') (hnames : (run.variables.map Prod.fst).Nodup)
    (name : String) : run'.get? name = run.get? name := by
  have hnames' : (run'.variables.map Prod.fst).Nodup :=
    (h.variables.map Prod.fst).nodup_iff.mp hnames
  ext value
  rw [get?, get?, ← mem_iff_lookup hnames', ← mem_iff_lookup hnames, h.variables.mem_iff]

end Alike

/-- A visit of all variables, if each is changed by itself and reaches one number in the shared
state at most. -/
theorem sweep_eq {change : Value → World → Value × World} {after : Value → Value}
    {reached : Value → Option Nat} {act : World → Nat → World}
    (hchange : ∀ v w, change v w = (after v, (reached v).elim w (act w)))
    (entries : List (String × Value)) (w : World) :
    sweep change entries w =
      (entries.map fun entry => (entry.1, after entry.2),
        (entries.filterMap fun entry => reached entry.2).foldl act w) := by
  induction entries generalizing w with
  | nil => rfl
  | cons entry rest ih =>
    obtain ⟨name, v⟩ := entry
    simp only [sweep, hchange, ih]
    cases hreached : reached v with
    | none => simp [hreached]
    | some id => simp [hreached]

/-- The statistics that stopping a variable stops. -/
def stoppedBy (value : Value) : Option TrackerId :=
  value.handle?.bind fun h => if h.collecting then h.statistics else none

/-- A variable after its tracker was stopped. -/
def stopped : Value → Value
  | .tracker h => .tracker { h with collecting := false }
  | value => value

theorem stopVariable_eq (value : Value) (w : World) :
    stopVariable value w = (stopped value, (stoppedBy value).elim w w.stopStatistics) := by
  cases value with
  | tracker h =>
    by_cases hcollecting : h.collecting = true
    · simp [stopVariable, stopped, stoppedBy, Value.handle?, hcollecting, TrackerHandle.stop]
    · -- A handle that is not collecting is left as it is
      have hidle : { h with collecting := false } = h := by
        rw [← Bool.eq_false_of_not_eq_true hcollecting]
      simp [stopVariable, stopped, stoppedBy, Value.handle?, hcollecting, hidle]
  | _ => rfl

/-- A session variable after its connection was closed. -/
def released : Value → Value
  | .popConnection s => .popConnection { s with failureReason := none }
  | value => value

theorem releaseVariable_eq (value : Value) (w : World) :
    releaseVariable value w = (released value, value.held?.elim w w.closeConnection) := by
  cases value with
  | popConnection s =>
    show _ = (released (.popConnection s), s.connection.elim w w.closeConnection)
    simp only [releaseVariable, PopSession.disconnect, released]
    cases s.connection <;> rfl
  | _ => rfl

variable {run run' : Run}

/-- A visit in two orders, of two runs that are alike. -/
theorem Alike.sweep {change : Value → World → Value × World} {after : Value → Value}
    {reached : Value → Option Nat} {act : World → Nat → World}
    (hchange : ∀ v w, change v w = (after v, (reached v).elim w (act w)))
    (hact : ∀ {w w' : World} id, w.Alike w' → (act w id).Alike (act w' id))
    (hswap : ∀ w i j, (act (act w i) j).Alike (act (act w j) i)) (h : run.Alike run') :
    (Run.sweep change run.variables run.world).1.Perm
        (Run.sweep change run'.variables run'.world).1 ∧
      (Run.sweep change run.variables run.world).2.Alike
        (Run.sweep change run'.variables run'.world).2 := by
  rw [sweep_eq hchange, sweep_eq hchange]
  constructor
  · exact h.variables.map _
  · exact World.Alike.foldl_of_perm hact hswap (h.variables.filterMap _) h.world

theorem Alike.stopTrackers (h : run.Alike run') : run.stopTrackers.Alike run'.stopTrackers := by
  obtain ⟨hvariables, hworld⟩ := h.sweep stopVariable_eq (fun id h => h.stopStatistics id)
    World.alike_stopStatistics_comm
  refine ⟨h.job, hvariables, h.retired, ?_⟩
  rw [Run.stopTrackers, Run.stopTrackers, h.retired]
  apply World.Alike.foldl _ run.retired hworld
  intro w w' id hw
  rw [World.stopRunning_eq, World.stopRunning_eq]
  exact hw.stopStatistics id

theorem Alike.releaseSessions (h : run.Alike run') :
    run.releaseSessions.Alike run'.releaseSessions := by
  have hswap (w : World) (i j : Pop.ConnectionId) :
      ((w.closeConnection i).closeConnection j).Alike
        ((w.closeConnection j).closeConnection i) := by
    rw [w.closeConnection_comm i j]
    exact .refl _
  obtain ⟨hvariables, hworld⟩ :=
    h.sweep releaseVariable_eq (fun id h => h.closeConnection id) hswap
  exact ⟨h.job, hvariables, h.retired, hworld⟩

/-! ## Section 3: The end of a run -/

/-- The run with its variables put in the order of some names. -/
def visiting (run : Run) (names : List String) : Run :=
  { run with
    «variables» := names.filterMap fun name => (run.get? name).map fun value => (name, value) }

theorem alike_visiting {names : List String} (hnames : (run.variables.map Prod.fst).Nodup)
    (horder : names.Perm (run.variables.map Prod.fst)) : run.Alike (run.visiting names) := by
  refine ⟨rfl, ?_, rfl, .refl _⟩
  -- In the order of declaration, the names find the variables as they are
  have hdeclared : (run.variables.map Prod.fst).filterMap
      (fun name => (run.get? name).map fun value => (name, value)) = run.variables := by
    rw [List.filterMap_map]
    calc run.variables.filterMap _
        _ = run.variables.filterMap some := by
          apply List.filterMap_congr
          rintro ⟨name, value⟩ hentry
          have hget : run.get? name = some value := (mem_iff_lookup hnames).mp hentry
          simp [hget]
        _ = run.variables := List.filterMap_some
  have hperm := horder.symm.filterMap fun name => (run.get? name).map fun value => (name, value)
  rwa [hdeclared] at hperm

/-- The end of a run that visits its variables in one order to stop trackers and in another to
close connections. -/
def endVisiting (run : Run) (stopping releasing : List String) : Run :=
  ((run.visiting stopping).stopTrackers.visiting releasing).releaseSessions

theorem names_stopTrackers (run : Run) :
    run.stopTrackers.variables.map Prod.fst = run.variables.map Prod.fst :=
  names_sweep stopVariable run.variables run.world

/-- Every order of visiting ends the run as the order of declaration does. -/
theorem alike_endVisiting {stopping releasing : List String}
    (hnames : (run.variables.map Prod.fst).Nodup)
    (hstopping : stopping.Perm (run.variables.map Prod.fst))
    (hreleasing : releasing.Perm (run.variables.map Prod.fst)) :
    run.finish.Alike (run.endVisiting stopping releasing) := by
  have hstopped := (alike_visiting hnames hstopping).stopTrackers
  have hperm := hstopped.variables.map Prod.fst
  rw [names_stopTrackers] at hperm
  have hreleased := alike_visiting (hperm.nodup_iff.mp hnames) (hreleasing.trans hperm)
  exact (hstopped.trans hreleased).releaseSessions

/-- **The end of a run does not depend on the order of visiting.** In every state that a run can
reach, stop all trackers and then close all connections, visiting the variables in any order each
time. Every variable is in the end what it is after any other two orders, and so are all statistics,
those that were let go of included, every connection with the commands sent on it, and the clock;
and the same data points have been reported, if in another order. -/
theorem end_in_any_order (job : Job) (network : Pop.Network) (steps : List Step)
    {stopping releasing stopping' releasing' : List String} :
    let run := (initial job network).performAll steps
    stopping.Perm (run.variables.map Prod.fst) → releasing.Perm (run.variables.map Prod.fst) →
    stopping'.Perm (run.variables.map Prod.fst) → releasing'.Perm (run.variables.map Prod.fst) →
      let ended := run.endVisiting stopping releasing
      let ended' := run.endVisiting stopping' releasing'
      (∀ name, ended.get? name = ended'.get? name) ∧ ended.Alike ended' := by
  intro run hstopping hreleasing hstopping' hreleasing' ended ended'
  have hnames := ((consistent_initial job network).performAll steps).names
  have hended := alike_endVisiting hnames hstopping hreleasing
  have hended' := alike_endVisiting hnames hstopping' hreleasing'
  have hfinish : (run.finish.variables.map Prod.fst).Nodup := by
    rw [finish, releaseSessions, names_sweep, names_stopTrackers]
    exact hnames
  constructor
  · intro name
    exact (hended.get?_eq hfinish name).trans (hended'.get?_eq hfinish name).symm
  · exact hended.symm.trans hended'

/-- Two variables share a tracker and two share a connection. Whichever of them is visited first
stops the one and closes the other, and the server hears one goodbye. -/
theorem shared_variables_end_in_any_order :
    let server : Pop.Server :=
      { port := 110, greeting := Text.Utf8.write "+OK\r\n", replies := [], ending := .close }
    let steps : List Step := [.declare ⟨1⟩ "a" "categoricaltracker",
      .declare ⟨2⟩ "b" "categoricaltracker", .invoke ⟨3⟩ "a" 2 [], .assign ⟨4⟩ "b" (.variable "a"),
      .declare ⟨5⟩ "s" "popconnection", .declare ⟨6⟩ "t" "popconnection",
      .invoke ⟨7⟩ "s" 1 [.literal (.text "127.0.0.1"), .literal (.int 110)],
      .assign ⟨8⟩ "t" (.variable "s")]
    let run := (initial {} { servers := [server] }).performAll steps
    let ended := run.endVisiting ["a", "b", "s", "t"] ["t", "b", "s", "a"]
    let ended' := run.endVisiting ["t", "s", "b", "a"] ["s", "a", "b", "t"]
    (∀ name, ended.get? name = ended'.get? name) ∧ ended.Alike ended' ∧
      ended.world.network.heardBy 0 = [Text.Utf8.write "quit"] := by
  intro server steps run ended ended'
  have hnames : run.variables.map Prod.fst = ["a", "b", "s", "t"] := by decide +kernel
  have hstopping : ["a", "b", "s", "t"].Perm (run.variables.map Prod.fst) := by rw [hnames]
  have hreleasing : ["t", "b", "s", "a"].Perm (run.variables.map Prod.fst) := by
    rw [hnames]
    decide
  have hstopping' : ["t", "s", "b", "a"].Perm (run.variables.map Prod.fst) := by
    rw [hnames]
    decide
  have hreleasing' : ["s", "a", "b", "t"].Perm (run.variables.map Prod.fst) := by
    rw [hnames]
    decide
  obtain ⟨hget, halike⟩ :=
    end_in_any_order {} { servers := [server] } steps hstopping hreleasing hstopping' hreleasing'
  exact ⟨hget, halike, by decide +kernel⟩

end Run

end JobScript
