import JobScript.Proofs.Pop.Connections
import JobScript.Proofs.Trackers.Consistency

/-!
# Sessions That Share a Connection

Session variables hold connections by number, and assignments make them share. Whoever disconnects
closes the connection for all holders, with one goodbye; whoever connects anew takes a new number
and leaves the others theirs. The end of a run says goodbye once on every connection that is held
and still open, however many variables hold it.

## Architecture

- `Run.session?`, `Run.held?`, `Run.isConnected`: session variables and what they hold
- `Run.evolves_of_becomes`: what a step makes of connections
- `Run.HoldsOpened`: variables hold connections that were opened
- `Run.partings`, `Run.partings_le_one`: the goodbyes of a run, on one connection
- `Run.isConnected_of_disconnect`, `Run.extends_of_connect`: two calls
- `Run.isConnected_finish`, `Run.getElem?_finish`: the end of a run
- `Run.connections_parted_once`: all of it together
-/

namespace JobScript

open Pop

/-! ## Section 1: Session variables -/

/-- The session of a session value. -/
def Value.session? : Value → Option PopSession
  | .popConnection s => some s
  | _ => none

/-- The connection that a value holds, open or closed. -/
def Value.held? (value : Value) : Option ConnectionId :=
  value.session?.bind PopSession.connection

/-- A new session holds nothing yet. -/
theorem Value.held?_declared (t : ValueType) (name : String) (source : Random.Source) :
    (Value.declared t name source).held? = none := by
  cases t <;> rfl

/-- A value of the type of one that is no session holds nothing. -/
theorem Value.held?_eq_none_of_type {a b : Value} (htype : a.type = b.type)
    (hb : ∀ s, b ≠ .popConnection s) : a.held? = none := by
  cases a with
  | popConnection s =>
    cases b with
    | popConnection s' => exact absurd rfl (hb s')
    | _ => cases htype
  | _ => rfl

/-- An assigned value holds what the source holds. -/
theorem Value.held?_assign {before source after : Value} {id : ConnectionId}
    (hassign : before.assign source = .ok after) (hid : after.held? = some id) :
    source.held? = some id := by
  by_cases hsession : ∃ s, before = .popConnection s
  · obtain ⟨s, rfl⟩ := hsession
    cases source with
    | popConnection s' =>
      obtain rfl := Except.ok.inj hassign
      exact hid
    | _ => cases hassign
  · rw [held?_eq_none_of_type (type_assign hassign) (not_exists.mp hsession)] at hid
    cases hid

/-- A connection is open. -/
def Pop.Network.isOpen (net : Network) (id : ConnectionId) : Bool :=
  (net.link? id).isSome

theorem Pop.Network.isOpen_iff {net : Network} {id : ConnectionId} :
    net.isOpen id = true ↔ ∃ c, net.connections[id]? = some c ∧ c.isOpen = true := by
  rw [isOpen, Option.isSome_iff_exists]
  simp only [link?_eq_some_iff]
  constructor
  · rintro ⟨link, c, hc, hopen, -⟩
    exact ⟨c, hc, hopen⟩
  · rintro ⟨c, hc, hopen⟩
    exact ⟨c.link, c, hc, hopen, rfl⟩

theorem Pop.Network.isOpen_eq_false_iff {net : Network} {id : ConnectionId} :
    net.isOpen id = false ↔ ∀ c, net.connections[id]? = some c → c.isOpen = false := by
  rw [Bool.eq_false_iff, ne_eq, isOpen_iff]
  simp only [not_exists, not_and, Bool.not_eq_true]

theorem Pop.Network.Extends.isOpen_eq {net net' : Network} {id : ConnectionId}
    (h : net.Extends net') (hlt : id < net.connections.length) : net'.isOpen id = net.isOpen id := by
  have hc := List.getElem?_eq_getElem hlt
  rw [isOpen, isOpen, link?, link?, h.getElem? hc, hc]

namespace Run

variable {run run' : Run} {name other : String}

/-- The session of a variable. -/
def session? (run : Run) (name : String) : Option PopSession :=
  (run.get? name).bind Value.session?

/-- The connection that a variable holds, open or closed. -/
def held? (run : Run) (name : String) : Option ConnectionId :=
  (run.get? name).bind Value.held?

/-- The variable is a session that is connected. -/
def isConnected (run : Run) (name : String) : Bool :=
  (run.session? name).any (·.isConnected run.world.network)

theorem session?_eq_some_iff {s : PopSession} :
    run.session? name = some s ↔ run.get? name = some (.popConnection s) := by
  rw [session?, Option.bind_eq_some_iff]
  constructor
  · rintro ⟨value, hvalue, hsession⟩
    cases value with
    | popConnection s' =>
      obtain rfl := Option.some.inj hsession
      exact hvalue
    | _ => cases hsession
  · intro hget
    exact ⟨.popConnection s, hget, rfl⟩

theorem held?_of_session? {s : PopSession} (h : run.session? name = some s) :
    run.held? name = s.connection := by
  rw [held?, session?_eq_some_iff.mp h]
  rfl

/-- A variable is connected if the connection it holds is open. -/
theorem isConnected_eq (run : Run) (name : String) :
    run.isConnected name = (run.held? name).any run.world.network.isOpen := by
  rw [isConnected, session?, held?]
  cases run.get? name with
  | none => rfl
  | some value =>
    cases value with
    | popConnection s =>
      show s.isConnected run.world.network = s.connection.any run.world.network.isOpen
      unfold PopSession.isConnected PopSession.link?
      cases s.connection <;> rfl
    | _ => rfl

theorem held?_stopTrackers (run : Run) (name : String) :
    run.stopTrackers.held? name = run.held? name := by
  refine bind_lookup_sweep_self ?_ run.variables run.world
  intro v w
  unfold stopVariable
  split
  · split <;> rfl
  · rfl

theorem held?_releaseSessions (run : Run) (name : String) :
    run.releaseSessions.held? name = run.held? name := by
  refine bind_lookup_sweep_self ?_ run.variables run.world
  intro v w
  cases v <;> rfl

/-! ## Section 2: Steps -/

theorem execute_evolves (job : Job) (w : World) (target : Value) (index : Nat)
    (arguments : List Value) :
    w.network.Evolves (execute job w target index arguments).world.network := by
  have hself : w.network.Evolves w.network := Network.evolves_of_eq rfl
  -- Sessions reach the network, trackers reach statistics, and nothing else reaches either
  by_cases hsession : ∃ s, target = .popConnection s
  · obtain ⟨s, rfl⟩ := hsession
    apply dispatch_world (P := (w.network.Evolves ·.network)) hself
    intro op
    exact op.run_evolves s arguments w
  by_cases htracker : ∃ h, target = .tracker h
  · obtain ⟨h, rfl⟩ := htracker
    rw [execute_tracker]
    split
    · rename_i request _
      exact Network.evolves_of_eq (congrArg _ (request.tracks_perform h job w).network)
    · exact hself
  · have hidles := execute_idles job w (not_exists.mp htracker) (not_exists.mp hsession) index
      arguments
    exact Network.evolves_of_eq (congrArg _ hidles.network)

theorem getElem?_releaseVariable (value : Value) (w : World) (id : ConnectionId) :
    (releaseVariable value w).2.network.connections[id]? =
      (w.network.connections[id]?).map fun c => if value.held? = some id then c.closed else c := by
  have hnone (hheld : value.held? = none) : w.network.connections[id]? =
      (w.network.connections[id]?).map fun c => if value.held? = some id then c.closed else c := by
    simp [hheld]
  cases value with
  | popConnection s =>
    have hheld : (Value.popConnection s).held? = s.connection := rfl
    show (s.connection.elim w.network w.network.close).connections[id]? = _
    cases hconnection : s.connection with
    | none => exact hnone (hheld.trans hconnection)
    | some j =>
      simp only [Option.elim_some, Network.getElem?_close, hheld, hconnection, Option.some.injEq,
        eq_comm (a := id)]
  | _ => exact hnone rfl

/-- Closing the connections of variables, one after the other, closes those that are held. One
that is held more than once is closed by the first holder. -/
theorem getElem?_sweep_releaseVariable (entries : List (String × Value)) (w : World)
    (id : ConnectionId) :
    (sweep releaseVariable entries w).2.network.connections[id]? =
      (w.network.connections[id]?).map fun c =>
        if ∃ entry ∈ entries, entry.2.held? = some id then c.closed else c := by
  induction entries generalizing w with
  | nil => simp [sweep]
  | cons entry rest ih =>
    have hrest := ih (releaseVariable entry.2 w).2
    rw [getElem?_releaseVariable, Option.map_map] at hrest
    refine hrest.trans ?_
    -- A connection that the first variable holds is closed when the rest come to it
    congr 1
    funext c
    simp only [Function.comp_apply, List.mem_cons, exists_eq_or_imp]
    by_cases hentry : entry.2.held? = some id
    · simp only [hentry, if_true, true_or, c.closed_closed, ite_self]
    · simp only [hentry, if_false, false_or]

/-- **What a step makes of connections**: they stay, are spoken on, or are closed with one
goodbye. -/
theorem evolves_of_becomes (hbecomes : run.Becomes run') :
    run.world.network.Evolves run'.world.network := by
  have hself : run.world.network.Evolves run.world.network := Network.evolves_of_eq rfl
  cases hbecomes with
  | unchanged => exact hself
  | declared hdeclare =>
    obtain ⟨-, source, issued, rfl⟩ := declare_ok hdeclare
    exact hself
  | invoked line target index arguments =>
    rcases run.invoke_cases line target index arguments with
      hsame | ⟨values, before, issued, messages, -, hinvoke⟩
    · rw [hsame]
      exact hself
    · rw [hinvoke]
      exact execute_evolves run.job run.world before index values
  | assigned hassign =>
    obtain ⟨value, before, after, -, -, -, rfl⟩ := assign_ok hassign
    exact hself
  | waited span => exact hself
  | stopRequested requested => exact hself
  | trackersStopped => exact Network.evolves_of_eq (congrArg _ (tracks_stopTrackers run).network)
  | sessionsReleased =>
    refine Network.evolves_of_map ?_ (getElem?_sweep_releaseVariable run.variables run.world)
    intro id c _
    split
    · exact c.becomes_closed
    · exact .untouched

theorem evolves_perform (run : Run) (step : Step) :
    run.world.network.Evolves (run.perform step).1.world.network :=
  evolves_of_becomes (becomes_perform run step)

/-- Every connection that a variable holds was opened. -/
def HoldsOpened (run : Run) : Prop :=
  ∀ name id, run.held? name = some id → id < run.world.network.connections.length

theorem execute_held (job : Job) (w : World) (target : Value) (index : Nat)
    (arguments : List Value) {id : ConnectionId}
    (hid : (execute job w target index arguments).target.held? = some id) :
    target.held? = some id ∨
      id < (execute job w target index arguments).world.network.connections.length := by
  by_cases hsession : ∃ s, target = .popConnection s
  · obtain ⟨s, rfl⟩ := hsession
    simp only [execute, dispatch] at hid ⊢
    cases hop : PopOperation.catalog[index]? with
    | none =>
      rw [hop] at hid
      exact .inl hid
    | some op =>
      rw [hop] at hid
      exact op.run_holdsKnown s arguments w id hid
  · -- Values of all other types hold nothing
    rw [Value.held?_eq_none_of_type (type_target_execute job w target index arguments)
      (not_exists.mp hsession)] at hid
    cases hid

/-- What an argument holds, some variable holds. -/
theorem exists_held_of_argument {line : Line} {argument : Argument} {value : Value}
    {id : ConnectionId} (hvalue : run.argument line argument = .ok value)
    (hid : value.held? = some id) : ∃ other, run.held? other = some id := by
  cases argument with
  | literal l =>
    obtain rfl := Except.ok.inj hvalue
    cases l <;> cases hid
  | «variable» other =>
    simp only [Run.argument] at hvalue
    split at hvalue
    · rename_i found hfound
      obtain rfl := Except.ok.inj hvalue
      exact ⟨other, Option.bind_eq_some_iff.mpr ⟨found, hfound, hid⟩⟩
    · cases hvalue

/-- Steps keep to connections that were opened. -/
theorem HoldsOpened.of_becomes (h : run.HoldsOpened) (hbecomes : run.Becomes run') :
    run'.HoldsOpened := by
  have hgrows := (evolves_of_becomes hbecomes).length_le
  -- It is enough to look at what variables hold that did not hold it before
  suffices hheld : ∀ name id, run'.held? name = some id →
      (∃ other, run.held? other = some id) ∨ id < run'.world.network.connections.length by
    intro name id hid
    rcases hheld name id hid with ⟨other, hother⟩ | hlt
    · exact Nat.lt_of_lt_of_le (h other id hother) hgrows
    · exact hlt
  intro name id hid
  cases hbecomes with
  | unchanged | waited | stopRequested => exact .inl ⟨name, hid⟩
  | declared hdeclare =>
    obtain ⟨-, source, issued, rfl⟩ := declare_ok hdeclare
    obtain ⟨value, hvalue, hvalueHeld⟩ := Option.bind_eq_some_iff.mp hid
    rw [get?, List.lookup_append, Option.or_eq_some_iff] at hvalue
    rcases hvalue with hold | ⟨-, hnew⟩
    · exact .inl ⟨name, Option.bind_eq_some_iff.mpr ⟨value, hold, hvalueHeld⟩⟩
    · obtain ⟨rfl, rfl⟩ := Prod.mk.inj (List.mem_singleton.mp (mem_of_lookup hnew))
      rw [Value.held?_declared] at hvalueHeld
      cases hvalueHeld
  | invoked line target index arguments =>
    rcases run.invoke_cases line target index arguments with
      hsame | ⟨values, before, issued, messages, hbefore, hinvoke⟩
    · rw [hsame] at hid
      exact .inl ⟨name, hid⟩
    · rw [hinvoke] at hid ⊢
      replace hid := (bind_get?_set Value.held? hbefore).symm.trans hid
      split at hid
      · rcases execute_held run.job run.world before index values hid with hheld | hlt
        · exact .inl ⟨target, Option.bind_eq_some_iff.mpr ⟨before, hbefore, hheld⟩⟩
        · exact .inr hlt
      · exact .inl ⟨name, hid⟩
  | assigned hassign =>
    obtain ⟨value, before, after, hvalue, hbefore, hafter, rfl⟩ := assign_ok hassign
    replace hid := (bind_get?_set Value.held? hbefore).symm.trans hid
    split at hid
    · exact .inl (exists_held_of_argument hvalue (Value.held?_assign hafter hid))
    · exact .inl ⟨name, hid⟩
  | trackersStopped => exact .inl ⟨name, (held?_stopTrackers run name).symm.trans hid⟩
  | sessionsReleased => exact .inl ⟨name, (held?_releaseSessions run name).symm.trans hid⟩

theorem holdsOpened_performAll (h : run.HoldsOpened) (steps : List Step) :
    (run.performAll steps).HoldsOpened := by
  induction steps generalizing run with
  | nil => exact h
  | cons step rest ih => exact ih (h.of_becomes (becomes_perform run step))

/-! ## Section 3: Goodbyes -/

/-- Number of the steps that say goodbye on a connection: it is open before, and closed after. -/
def partings (id : ConnectionId) (run : Run) : List Step → Nat
  | [] => 0
  | step :: rest =>
    let next := (run.perform step).1
    (if run.world.network.isOpen id && !next.world.network.isOpen id then 1 else 0) +
      partings id next rest

/-- No goodbye is said on a connection that was closed. -/
theorem partings_of_closed {id : ConnectionId} {c : Connection} (steps : List Step)
    (hc : run.world.network.connections[id]? = some c) (hclosed : c.isOpen = false) :
    run.partings id steps = 0 := by
  induction steps generalizing run with
  | nil => rfl
  | cons step rest ih =>
    have hnot : run.world.network.isOpen id = false := by
      rw [Network.isOpen_eq_false_iff]
      intro c' hc'
      obtain rfl := Option.some.inj (hc.symm.trans hc')
      exact hclosed
    obtain ⟨c', hc', hbecomes⟩ := (evolves_perform run step).becomes id c hc
    obtain rfl := hbecomes.eq_of_not_isOpen hclosed
    rw [partings, hnot, ih hc']
    rfl

/-- **At most one goodbye** is said on any connection, whatever the steps are. -/
theorem partings_le_one (id : ConnectionId) (run : Run) (steps : List Step) :
    run.partings id steps ≤ 1 := by
  induction steps generalizing run with
  | nil => exact Nat.zero_le 1
  | cons step rest ih =>
    rw [partings]
    split
    · -- The connection stays where it is, and is closed from now on
      rename_i hparted
      rw [Bool.and_eq_true, Bool.not_eq_true'] at hparted
      obtain ⟨hbefore, hafter⟩ := hparted
      obtain ⟨c, hc, -⟩ := Network.isOpen_iff.mp hbefore
      obtain ⟨c', hc', -⟩ := (evolves_perform run step).becomes id c hc
      rw [partings_of_closed rest hc' (Network.isOpen_eq_false_iff.mp hafter c' hc')]
    · rw [Nat.zero_add]
      exact ih _

theorem partings_append (id : ConnectionId) (run : Run) (steps further : List Step) :
    run.partings id (steps ++ further) =
      run.partings id steps + (run.performAll steps).partings id further := by
  induction steps generalizing run with
  | nil => exact (Nat.zero_add _).symm
  | cons step rest ih =>
    rw [List.cons_append, partings, partings, ih, Nat.add_assoc]
    rfl

/-! ## Section 4: Two calls -/

variable {line : Line} {target : String} {index : Nat} {arguments : List Argument}
  {values : List Value} {op : PopOperation} {s : PopSession}

/-- After a call on a session, its connection and the network are those of the operation. -/
theorem invoke_session (hop : PopOperation.catalog[index]? = some op)
    (hvalues : run.evaluate line arguments = .ok values) (hs : run.session? target = some s) :
    let outcome := op.run s values run.world
    let after := (run.invoke line target index arguments).1
    after.world.network = outcome.world.network ∧ ∀ name, after.held? name =
      if name = target then outcome.target.connection else run.held? name := by
  intro outcome after
  have hget := session?_eq_some_iff.mp hs
  obtain ⟨issued, messages, hinvoke⟩ := invoke_eq index hvalues hget
  have hexecute : execute run.job run.world (.popConnection s) index values =
      outcome.map .popConnection := by
    simp only [execute, dispatch, hop]
    rfl
  have hafter : after = _ := hinvoke
  rw [hexecute] at hafter
  rw [hafter]
  exact ⟨rfl, fun name => bind_get?_set Value.held? hget⟩

/-- A call changes no variable but its target. -/
theorem get?_invoke_of_ne (hne : other ≠ target) :
    (run.invoke line target index arguments).1.get? other = run.get? other := by
  rcases run.invoke_cases line target index arguments with
    hsame | ⟨values, before, issued, messages, -, hinvoke⟩
  · rw [hsame]
  · rw [hinvoke]
    exact (get?_set run).trans (if_neg hne)

/-- **Whoever disconnects** does so for all that share the connection. -/
theorem isConnected_of_disconnect (hop : PopOperation.catalog[index]? = some .disconnect)
    (hvalues : run.evaluate line arguments = .ok values) (hs : run.session? target = some s)
    (hshared : run.held? name = run.held? target) :
    (run.invoke line target index arguments).1.isConnected name = false := by
  obtain ⟨hnetwork, hheld⟩ := invoke_session hop hvalues hs
  have hsame : (run.invoke line target index arguments).1.held? name = s.connection := by
    rw [hheld, hshared, held?_of_session? hs]
    exact ite_self s.connection
  rw [isConnected_eq, hsame, hnetwork]
  show s.connection.any (s.connection.elim run.world.network run.world.network.close).isOpen = false
  cases s.connection with
  | none => rfl
  | some id =>
    rw [Option.any_some, Option.elim_some, Network.isOpen_eq_false_iff]
    intro c hc
    rw [Network.getElem?_close] at hc
    obtain ⟨before, -, rfl⟩ := Option.map_eq_some_iff.mp hc
    rw [if_pos rfl]
    exact before.isOpen_closed

/-- **Whoever connects** adds connections and leaves those that were there. -/
theorem extends_of_connect (hop : PopOperation.catalog[index]? = some op)
    (hconnects : op.connects = true) (hs : run.session? target = some s) :
    run.world.network.Extends (run.invoke line target index arguments).1.world.network := by
  cases hvalues : run.evaluate line arguments with
  | error failure =>
    rw [invoke_eq_self (.inl ⟨failure, hvalues⟩)]
    exact .of_eq rfl
  | ok values =>
    rw [(invoke_session hop hvalues hs).1]
    exact PopOperation.run_extends s values run.world hconnects

/-- Others that hold a connection keep it as it is. -/
theorem isConnected_of_connect (h : run.HoldsOpened)
    (hop : PopOperation.catalog[index]? = some op) (hconnects : op.connects = true)
    (hs : run.session? target = some s) (hne : name ≠ target) :
    (run.invoke line target index arguments).1.isConnected name = run.isConnected name := by
  have hheld : (run.invoke line target index arguments).1.held? name = run.held? name := by
    rw [held?, get?_invoke_of_ne hne]
    rfl
  rw [isConnected_eq, isConnected_eq, hheld]
  cases hid : run.held? name with
  | none => rfl
  | some id => exact (extends_of_connect hop hconnects hs).isOpen_eq (h name id hid)

/-! ## Section 5: The end of a run -/

/-- The steps that end a run. -/
def ending : List Step :=
  [.stopTrackers, .releaseSessions]

theorem performAll_append_ending (run : Run) (steps : List Step) :
    run.performAll (steps ++ ending) = (run.performAll steps).finish :=
  List.foldl_append

/-- What a variable holds is closed when sessions are released. -/
theorem getElem?_releaseSessions {id : ConnectionId} (hheld : run.held? name = some id) :
    run.releaseSessions.world.network.connections[id]? =
      (run.world.network.connections[id]?).map Connection.closed := by
  obtain ⟨value, hvalue, hid⟩ := Option.bind_eq_some_iff.mp hheld
  have hentry : ∃ entry ∈ run.variables, entry.2.held? = some id :=
    ⟨(name, value), mem_of_lookup hvalue, hid⟩
  refine (getElem?_sweep_releaseVariable run.variables run.world id).trans ?_
  simp only [if_pos hentry]

/-- After the end, no variable is connected. -/
theorem isConnected_finish (run : Run) (name : String) : run.finish.isConnected name = false := by
  rw [finish, isConnected_eq, held?_releaseSessions]
  cases hheld : run.stopTrackers.held? name with
  | none => rfl
  | some id =>
    rw [Option.any_some, Network.isOpen_eq_false_iff]
    intro c hc
    rw [getElem?_releaseSessions hheld] at hc
    obtain ⟨before, -, rfl⟩ := Option.map_eq_some_iff.mp hc
    exact before.isOpen_closed

/-- The end says one goodbye on every connection that is held and open. -/
theorem getElem?_finish {id : ConnectionId} {c : Connection} (hheld : run.held? name = some id)
    (hc : run.world.network.connections[id]? = some c) (hopen : c.isOpen = true) :
    run.finish.world.network.connections[id]? = some c.part ∧ run.partings id ending = 1 := by
  have hstopped : run.stopTrackers.world.network = run.world.network :=
    (tracks_stopTrackers run).network
  -- Stopping trackers leaves the network to the sessions
  have hfinish : run.finish.world.network.connections[id]? = some c.part := by
    rw [finish, getElem?_releaseSessions ((held?_stopTrackers run name).trans hheld), hstopped, hc,
      Option.map_some, Connection.closed, if_pos hopen]
  have hbefore : run.world.network.isOpen id = true := Network.isOpen_iff.mpr ⟨c, hc, hopen⟩
  have hafter : run.finish.world.network.isOpen id = false := by
    rw [Network.isOpen_eq_false_iff]
    intro c' hc'
    obtain rfl := Option.some.inj (hfinish.symm.trans hc')
    rfl
  refine ⟨hfinish, ?_⟩
  simp only [ending, partings, perform, hstopped, hbefore, Bool.not_true, Bool.and_false]
  rw [show run.stopTrackers.releaseSessions = run.finish from rfl, hafter]
  rfl

/-! ## Section 6: Runs -/

/-- **Sessions share connections, and part from each once.** In every state that a run can reach,
a step leaves connections as they were, speaks on them, or says one goodbye; over the whole run, its
end included, there is at most one goodbye on each. Whoever disconnects does so for all that hold
the connection. Whoever connects leaves all other variables and all connections as they were. After
the end no variable is connected, and every connection that was held and open has got exactly one
goodbye, however many variables held it. -/
theorem connections_parted_once (job : Job) (network : Network) (steps : List Step) :
    let start := initial job network
    let run := start.performAll steps
    (∀ step, run.world.network.Evolves (run.perform step).1.world.network) ∧
      (start.performAll (steps ++ ending) = run.finish ∧
        ∀ id, start.partings id (steps ++ ending) ≤ 1) ∧
      (∀ line target index arguments values, PopOperation.catalog[index]? = some .disconnect →
        run.evaluate line arguments = .ok values → (∃ s, run.session? target = some s) →
          ∀ name, run.held? name = run.held? target →
            (run.invoke line target index arguments).1.isConnected name = false) ∧
      (∀ line target index arguments op, PopOperation.catalog[index]? = some op →
        op.connects = true → (∃ s, run.session? target = some s) →
          let after := (run.invoke line target index arguments).1
          (∀ name, name ≠ target → after.get? name = run.get? name ∧
            after.isConnected name = run.isConnected name) ∧
          ∀ (id : ConnectionId) c, run.world.network.connections[id]? = some c →
            after.world.network.connections[id]? = some c) ∧
      (∀ name, run.finish.isConnected name = false) ∧
      ∀ name id c, run.held? name = some id → run.world.network.connections[id]? = some c →
        c.isOpen = true → run.finish.world.network.connections[id]? = some c.part ∧
          start.partings id (steps ++ ending) = 1 := by
  intro start run
  have hopened : run.HoldsOpened := by
    refine holdsOpened_performAll ?_ steps
    intro name id hid
    cases hid
  refine ⟨run.evolves_perform,
    ⟨start.performAll_append_ending steps, fun id => partings_le_one id start (steps ++ ending)⟩,
    ?disconnect, ?connect, run.isConnected_finish, ?finish⟩
  case disconnect =>
    rintro line target index arguments values hop hvalues ⟨s, hs⟩ name hshared
    exact isConnected_of_disconnect hop hvalues hs hshared
  case connect =>
    rintro line target index arguments op hop hconnects ⟨s, hs⟩
    exact ⟨fun name hne => ⟨get?_invoke_of_ne hne, isConnected_of_connect hopened hop hconnects hs hne⟩,
      fun id c hc => (extends_of_connect hop hconnects hs).getElem? hc⟩
  case finish =>
    intro name id c hheld hc hopen
    obtain ⟨hfinish, hlast⟩ := getElem?_finish hheld hc hopen
    refine ⟨hfinish, ?_⟩
    -- The end says one goodbye, and more than one there cannot be
    have hmost := partings_le_one id start (steps ++ ending)
    rw [partings_append, hlast] at hmost ⊢
    exact Nat.le_antisymm hmost (Nat.le_add_left 1 _)

/-- Two variables share a connection. One disconnects for both; one connects anew, to the same
server in vain and to another one with success, and either way the other stays connected; and at
the end the server hears one goodbye. -/
theorem shared_connection_parted_once :
    let server (port : Nat) : Pop.Server :=
      { port, greeting := Text.Utf8.write "+OK\r\n", replies := [], ending := .close }
    let network : Pop.Network := { servers := [server 110, server 111] }
    let start := initial {} network
    let place (port : Int32) : List Argument := [.literal (.text "127.0.0.1"), .literal (.int port)]
    let steps : List Step := [.declare ⟨1⟩ "first" "popconnection",
      .declare ⟨2⟩ "second" "popconnection", .invoke ⟨3⟩ "first" 1 (place 110),
      .assign ⟨4⟩ "second" (.variable "first")]
    let run := start.performAll steps
    let inVain := (run.invoke ⟨5⟩ "first" 1 (place 110)).1
    let anew := (run.invoke ⟨5⟩ "first" 1 (place 111)).1
    run.held? "first" = some 0 ∧ run.held? "second" = some 0 ∧ run.world.network.isOpen 0 = true ∧
      (run.invoke ⟨5⟩ "first" 4 []).1.isConnected "second" = false ∧
      (inVain.isConnected "first" = false ∧ inVain.isConnected "second" = true) ∧
      (anew.isConnected "first" = true ∧ anew.held? "first" = some 1 ∧
        anew.isConnected "second" = true) ∧
      run.finish.isConnected "second" = false ∧ start.partings 0 (steps ++ ending) = 1 ∧
      run.finish.world.network.heardBy 0 = [Text.Utf8.write "quit"] := by
  intro server network start place steps run inVain anew
  obtain ⟨-, -, hdisconnect, hconnect, hend, hparted⟩ := connections_parted_once {} network steps
  have hfirst : run.held? "first" = some 0 := by decide +kernel
  have hsecond : run.held? "second" = some 0 := by decide +kernel
  have hopen : run.world.network.isOpen 0 = true := by decide +kernel
  have hsession : ∃ s, run.session? "first" = some s :=
    Option.isSome_iff_exists.mp (by decide +kernel)
  obtain ⟨c, hc, hcopen⟩ := Network.isOpen_iff.mp hopen
  have hkept (port : Int32) :
      (run.invoke ⟨5⟩ "first" 1 (place port)).1.isConnected "second" = true := by
    have hleft :=
      ((hconnect ⟨5⟩ "first" 1 (place port) .connect rfl rfl hsession).1 "second" (by decide)).2
    rw [hleft, isConnected_eq, hsecond, Option.any_some, hopen]
  exact ⟨hfirst, hsecond, hopen,
    hdisconnect ⟨5⟩ "first" 4 [] [] rfl rfl hsession "second" (hsecond.trans hfirst.symm),
    ⟨by decide +kernel, hkept 110⟩, ⟨by decide +kernel, by decide +kernel, hkept 111⟩,
    hend "second", (hparted "first" 0 c hfirst hc hcopen).2, by decide +kernel⟩

end Run

end JobScript
