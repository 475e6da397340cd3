import JobScript.Proofs.Statistics.Stream
import JobScript.Proofs.Trackers.Timeline

/-!
# Names Shown and Names Reported

A tracker's name is kept twice: the variable shows the name chosen for it or its own, and its
statistics are reported under a copy, which is made when they are created and replaced when a name
is chosen. A variable that goes back to its own name shows it, but the copy stays. So the two names
differ only after that, until another name is chosen.

## Architecture

- `Naming`, `shownName`, `reportedName`: the names given to a variable, and what they come to
- `Statistics.name_take`: an event renames statistics or leaves their name
- `TrackerHandle.Shows`, `TrackerHandle.Shows.perform`: a handle, its statistics and its namings
- `Run.namings`: the names that the steps of a run give to a variable
- `Run.Named`, `Run.Named.performAll`: what runs keep
- `Run.names_agree_unless_reset`: when the two names agree
-/

namespace JobScript

/-! ## Section 1: Names given to a tracker -/

/-- A name given to a tracker variable, or taken back. -/
structure Naming where
  /-- The tracker has statistics already -/
  started : Bool
  name : Option String

/-- The name that a variable shows: the one given last, else its own. -/
def shownName (own : String) (namings : List Naming) : String :=
  (namings.getLast?.bind Naming.name).getD own

/-- The name that its statistics are reported under: the last one that was given since there are
any, else the one that the variable showed when they were created. -/
def reportedName (own : String) (namings : List Naming) : String :=
  ((namings.filter Naming.started).filterMap Naming.name).getLast?.getD
    (shownName own (namings.filter fun naming => !naming.started))

section Namings

variable {own : String} {namings : List Naming}

theorem shownName_concat (own : String) (namings : List Naming) (last : Naming) :
    shownName own (namings ++ [last]) = last.name.getD own := by
  rw [shownName, List.getLast?_concat, Option.bind_some]

theorem reportedName_of_unstarted (h : ∀ naming ∈ namings, naming.started = false) :
    reportedName own namings = shownName own namings := by
  have hnone : namings.filter Naming.started = [] := by
    rw [List.filter_eq_nil_iff]
    intro naming hmem
    rw [h naming hmem]
    exact Bool.false_ne_true
  have hall : (namings.filter fun naming => !naming.started) = namings := by
    rw [List.filter_eq_self]
    intro naming hmem
    rw [h naming hmem]
    rfl
  rw [reportedName, hnone, hall]
  rfl

/-- A name that is taken back is not taken from the statistics. -/
theorem reportedName_concat_started (own : String) (namings : List Naming) (name : Option String) :
    reportedName own (namings ++ [⟨true, name⟩]) = name.getD (reportedName own namings) := by
  simp only [reportedName, List.filter_append, List.filterMap_append]
  cases name with
  | none => simp
  | some name => simp

/-- The two names differ only if the last thing that happened to them is that a name was taken back
after the start. -/
theorem shownName_eq_reportedName_iff
    (h : ∀ last, namings.getLast? = some last → last.started = false →
      ∀ naming ∈ namings, naming.started = false) :
    shownName own namings = reportedName own namings ↔
      (namings.getLast? = some ⟨true, none⟩ → reportedName own namings = own) := by
  cases hlast : namings.getLast? with
  | none =>
    obtain rfl := List.getLast?_eq_none_iff.mp hlast
    simp [shownName, reportedName]
  | some last =>
    obtain ⟨earlier, rfl⟩ := List.getLast?_eq_some_iff.mp hlast
    obtain ⟨started, name⟩ := last
    rw [shownName_concat]
    cases started with
    | false =>
      -- Nothing was started yet, so there is only one name
      have hnone := h _ hlast rfl
      rw [reportedName_of_unstarted hnone, shownName_concat]
      simp
    | true =>
      rw [reportedName_concat_started]
      cases name with
      | none => simp [eq_comm]
      | some name => simp

end Namings

/-! ## Section 2: Names of statistics -/

namespace Statistics

/-- The name after an event. -/
def nameAfter (name : String) : TrackerEvent → String
  | .rename chosen => chosen
  | _ => name

theorem name_take {s : Statistics} (h : s.Numbered) (event : TrackerEvent) :
    (s.take event).1.core.name = nameAfter s.core.name event := by
  cases event with
  | start now => exact (start_tells h now).alike.name
  | stop now => exact (stop_tells h now).alike.name
  | observe o now => exact (observe_tells h o now).alike.name
  | rename name =>
    rw [take, rename, core_mapCore]
    rfl
  | listen job =>
    rw [take, listen, core_mapCore]
    rfl

end Statistics

namespace TrackerRequest

/-- The name that a request chooses. -/
def chosen? : TrackerRequest → Option String
  | .chooseName name => name
  | _ => none

/-- A request leaves statistics the name that they have, or the one that it chooses. -/
theorem name_after_passed {s : Statistics} (h : s.Numbered) (request : TrackerRequest)
    (collecting : Bool) (now : Instant) :
    (s.after (request.passed collecting now)).Numbered ∧
      (s.after (request.passed collecting now)).core.name = request.chosen?.getD s.core.name := by
  refine ⟨Statistics.numbered_after h _, ?_⟩
  cases request with
  | chooseName name =>
    cases name with
    | none => rfl
    | some name => exact Statistics.name_take h (.rename name)
  | start => exact Statistics.name_take h (.start now)
  | stop => exact Statistics.name_take h (.stop now)
  | observe o =>
    cases collecting with
    | false => rfl
    | true => exact Statistics.name_take h (.observe o now)

end TrackerRequest

namespace TrackerHandle

/-- New statistics have the name that the handle shows. -/
theorem name_newStatistics (h : TrackerHandle) (job : Job) :
    (h.newStatistics job).Numbered ∧
      (h.newStatistics job).core.name = h.displayName.getD unnamed := by
  have hcreated := Statistics.numbered_ofContext h.kind (h.displayName.getD unnamed)
    job.collectionContext
  have hname : (Statistics.ofContext h.kind (h.displayName.getD unnamed)
      job.collectionContext).core.name = h.displayName.getD unnamed := by
    rw [Statistics.core_ofContext]
    rfl
  rw [newStatistics]
  split
  · exact ⟨(Statistics.take_tells hcreated (.listen job.id)).1,
      (Statistics.name_take hcreated (.listen job.id)).trans hname⟩
  · exact ⟨hcreated, hname⟩

/-! ## Section 3: A handle and its statistics -/

/-- After some namings, the handle of a variable and the statistics that it feeds have the names
that were given. -/
structure Shows (h : TrackerHandle) (w : World) (own : String) (namings : List Naming) : Prop where
  variableName : h.variableName = some own
  chosenName : h.chosenName = namings.getLast?.bind Naming.name
  unstarted : h.statistics = none → ∀ naming ∈ namings, naming.started = false
  ordered : ∀ last, namings.getLast? = some last → last.started = false →
    ∀ naming ∈ namings, naming.started = false
  reported : ∀ id, h.statistics = some id → ∃ s, w.statistics[id]? = some s ∧ s.Numbered ∧
    s.core.name = reportedName own namings

namespace Shows

variable {h : TrackerHandle} {w w' : World} {own : String} {namings : List Naming}

theorem displayName (hshows : h.Shows w own namings) :
    h.displayName = some (shownName own namings) := by
  rw [TrackerHandle.displayName, hshows.chosenName, hshows.variableName, shownName]
  cases namings.getLast?.bind Naming.name <;> rfl

/-- Whatever leaves the fed statistics alone leaves their name. -/
theorem of_statistics (hshows : h.Shows w own namings)
    (hsame : ∀ id, h.statistics = some id → w'.statistics[id]? = w.statistics[id]?) :
    h.Shows w' own namings where
  variableName := hshows.variableName
  chosenName := hshows.chosenName
  unstarted := hshows.unstarted
  ordered := hshows.ordered
  reported := by
    intro id hid
    rw [hsame id hid]
    exact hshows.reported id hid

end Shows

end TrackerHandle

namespace TrackerRequest

/-- The naming that a request to a handle is, if it is one. -/
def naming (request : TrackerRequest) (h : TrackerHandle) : List Naming :=
  match request with
  | .chooseName name => [⟨h.statistics.isSome, name⟩]
  | _ => []

/-- A handle keeps the name of its variable, and has the name that was chosen last. -/
theorem names_perform (request : TrackerRequest) (h : TrackerHandle) (job : Job) (w : World) :
    (request.perform h job w).1.variableName = h.variableName ∧
      (request.perform h job w).1.chosenName
        = (request.naming h).getLast?.elim h.chosenName Naming.name := by
  cases request with
  | chooseName name => exact ⟨rfl, rfl⟩
  | start =>
    simp only [perform, TrackerHandle.start, TrackerHandle.withStatistics]
    cases h.statistics with
    | none => dsimp only; split <;> exact ⟨rfl, rfl⟩
    | some id => dsimp only; split <;> exact ⟨rfl, rfl⟩
  | stop => exact ⟨rfl, rfl⟩
  | observe o => exact ⟨rfl, rfl⟩

variable {request : TrackerRequest} {h : TrackerHandle} {own : String} {namings : List Naming}

theorem last_append_naming (request : TrackerRequest) (h : TrackerHandle) (namings : List Naming) :
    (namings ++ request.naming h).getLast?.bind Naming.name
      = (request.naming h).getLast?.elim (namings.getLast?.bind Naming.name) Naming.name := by
  cases request with
  | chooseName name =>
    rw [naming, List.getLast?_concat]
    rfl
  | start | stop | observe => exact congrArg (·.getLast?.bind Naming.name) (List.append_nil _)

theorem started_of_mem_naming {given : Naming} (hmem : given ∈ request.naming h) :
    given.started = h.statistics.isSome := by
  cases request with
  | chooseName name => rw [List.mem_singleton.mp hmem]
  | start | stop | observe => cases hmem

/-- A request to a handle with statistics gives them the name that it chooses. -/
theorem reportedName_append_naming (hsome : h.statistics.isSome = true) :
    reportedName own (namings ++ request.naming h)
      = request.chosen?.getD (reportedName own namings) := by
  cases request with
  | chooseName name =>
    rw [naming, hsome]
    exact reportedName_concat_started own namings name
  | start | stop | observe => exact congrArg (reportedName own) (List.append_nil _)

end TrackerRequest

namespace TrackerHandle.Shows

variable {h : TrackerHandle} {w : World} {own : String} {namings : List Naming}

/-- Namings before the first start are followed by namings after it, and not the other way. -/
theorem ordered_append (hshows : h.Shows w own namings) (request : TrackerRequest) :
    ∀ last, (namings ++ request.naming h).getLast? = some last → last.started = false →
      ∀ naming ∈ namings ++ request.naming h, naming.started = false := by
  intro last hlast hunstarted
  rcases List.eq_nil_or_concat (request.naming h) with hnone | ⟨earlier, given, hgiven⟩
  · rw [hnone, List.append_nil] at hlast ⊢
    exact hshows.ordered last hlast hunstarted
  · -- The last naming is the one just given, so there are no statistics
    have hmem : last ∈ request.naming h := by
      rw [hgiven, List.concat_eq_append, ← List.append_assoc, List.getLast?_concat] at hlast
      rw [hgiven, Option.some.inj hlast]
      simp
    have hstatistics := (TrackerRequest.started_of_mem_naming hmem).symm.trans hunstarted
    intro naming hnaming
    rcases List.mem_append.mp hnaming with hbefore | hnow
    · exact hshows.unstarted (Option.isSome_eq_false_iff.mp hstatistics |> Option.isNone_iff_eq_none.mp)
        naming hbefore
    · rw [TrackerRequest.started_of_mem_naming hnow, hstatistics]

/-- The first start creates statistics under the name that is shown. -/
theorem start_of_none (hshows : h.Shows w own namings) (job : Job) (hnone : h.statistics = none) :
    (h.start job w).1.Shows (h.start job w).2 own namings := by
  obtain ⟨hnumbered, hname⟩ := h.name_newStatistics job
  have hstart := Statistics.start_tells hnumbered w.now
  rw [TrackerHandle.start_of_none job hnone]
  refine ⟨hshows.variableName, hshows.chosenName, ?_, hshows.ordered, ?_⟩
  · rintro ⟨⟩
  · rintro id ⟨⟩
    refine ⟨_, List.getElem?_concat_length, hstart.numbered, ?_⟩
    calc ((h.newStatistics job).start w.now).core.name
        _ = (h.newStatistics job).core.name := hstart.alike.name
        _ = h.displayName.getD unnamed := hname
        _ = shownName own namings := by rw [hshows.displayName]; rfl
        _ = reportedName own namings := (reportedName_of_unstarted (hshows.unstarted hnone)).symm

/-- **A request keeps names as they were given**, with the name that it gives itself. -/
theorem perform (hshows : h.Shows w own namings) (request : TrackerRequest) (job : Job) :
    (request.perform h job w).1.Shows (request.perform h job w).2 own
      (namings ++ request.naming h) := by
  obtain ⟨hvariable, hchosen⟩ := request.names_perform h job w
  rw [hshows.chosenName, ← TrackerRequest.last_append_naming] at hchosen
  cases hid : h.statistics with
  | none =>
    by_cases hstart : request = .start
    · subst hstart
      exact (List.append_nil namings).symm ▸ hshows.start_of_none job hid
    · obtain ⟨hafter, -⟩ := TrackerRequest.perform_of_none job (w := w) hid hstart
      refine ⟨hvariable.trans hshows.variableName, hchosen, fun _ => ?_,
        hshows.ordered_append request, fun id hsome => ?_⟩
      · intro naming hnaming
        rcases List.mem_append.mp hnaming with hbefore | hnow
        · exact hshows.unstarted hid naming hbefore
        · rw [TrackerRequest.started_of_mem_naming hnow, hid]
          rfl
      · rw [hafter] at hsome
        cases hsome
  | some id =>
    obtain ⟨s, hs, hnumbered, hname⟩ := hshows.reported id hid
    obtain ⟨hafter, points, hworld⟩ := request.perform_of_some job hid hs
    obtain ⟨hnumbered', hname'⟩ := request.name_after_passed hnumbered h.collecting w.now
    refine ⟨hvariable.trans hshows.variableName, hchosen, fun hnone => ?_,
      hshows.ordered_append request, fun fed hfed => ?_⟩
    · rw [hafter] at hnone
      cases hnone
    · obtain rfl := Option.some.inj (hafter.symm.trans hfed)
      refine ⟨_, ?_, hnumbered', ?_⟩
      · rw [hworld]
        exact List.getElem?_set_self (List.getElem?_eq_some_iff.mp hs).1
      · have hsome : h.statistics.isSome = true := by
          rw [hid]
          rfl
        rw [hname', hname, TrackerRequest.reportedName_append_naming hsome]

end TrackerHandle.Shows

/-! ## Section 4: Steps -/

namespace Step

/-- The variable that a call goes to. -/
def target? : Step → Option String
  | .call _ target _ _ | .invoke _ target _ _ => some target
  | _ => none

/-- The step assigns to a variable, or from it. -/
def Assigns (step : Step) (name : String) : Prop :=
  ∃ line target source, step = .assign line target source ∧
    (target = name ∨ source = .variable name)

end Step

/-- A tracker variable that was just declared has its own name, and feeds nothing. -/
theorem Value.handle?_declared {t : ValueType} {name : String} {source : Random.Source}
    {h : TrackerHandle} (hdeclared : (Value.declared t name source).handle? = some h) :
    h.variableName = some name ∧ h.chosenName = none ∧ h.statistics = none := by
  cases t <;> cases hdeclared
  exact ⟨rfl, rfl, rfl⟩

/-- After a request, a handle feeds what it fed, or statistics that are new. -/
theorem TrackerRequest.feeds_perform {request : TrackerRequest} {h : TrackerHandle} {job : Job}
    {w : World} {id : TrackerId}
    (hheld : ∀ id, h.statistics = some id → ∃ s, w.statistics[id]? = some s)
    (hfeeds : (request.perform h job w).1.statistics = some id) :
    h.statistics = some id ∨ id = w.statistics.length := by
  cases hid : h.statistics with
  | some fed =>
    obtain ⟨s, hs⟩ := hheld fed hid
    exact .inl ((request.perform_of_some job hid hs).1.symm.trans hfeeds)
  | none =>
    by_cases hstart : request = .start
    · subst hstart
      rw [perform, TrackerHandle.start_of_none job hid] at hfeeds
      exact .inr (Option.some.inj hfeeds).symm
    · rw [(perform_of_none job hid hstart).1] at hfeeds
      cases hfeeds

namespace Run

/-- The naming of a variable that a step asks for, if it asks for one. -/
def naming (run : Run) (name : String) (step : Step) : List Naming :=
  if step.target? = some name then
    (run.requested step).elim [] fun asked => asked.2.naming asked.1
  else []

/-- The namings of a variable that steps ask for, in order. -/
def namings (run : Run) (name : String) : List Step → List Naming
  | [] => []
  | step :: steps => run.naming name step ++ (run.perform step).1.namings name steps

/-- A variable has the names that it was given, in itself and in statistics that no other variable
feeds. -/
structure Named (run : Run) (name : String) (namings : List Naming) : Prop where
  undeclared : run.handle? name = none → namings = []
  shows : ∀ h, run.handle? name = some h → h.Shows run.world name namings
  unshared : ∀ other h h' id, run.handle? name = some h → run.handle? other = some h' →
    h.statistics = some id → h'.statistics = some id → other = name

namespace Named

variable {run run' : Run} {name : String} {namings : List Naming}

theorem of_keepsTrackers (h : run.Named name namings) (hkeeps : run.KeepsTrackers run') :
    run'.Named name namings where
  undeclared := by
    rw [hkeeps.handles]
    exact h.undeclared
  shows := by
    intro handle hhandle
    rw [hkeeps.handles] at hhandle
    apply (h.shows handle hhandle).of_statistics
    intro id _
    rw [hkeeps.world.statistics]
  unshared := by
    simp only [hkeeps.handles]
    exact h.unshared

theorem declare (h : run.Named name namings) {line : Line} {other : String} {t : ValueType}
    (hdeclare : run.declare line other t = .ok run') : run'.Named name namings := by
  obtain ⟨hnone, source, issued, rfl⟩ := declare_ok hdeclare
  have hhandle := handle?_append hnone (Value.declared t other source) { run.world with issued }
  have hother : run.handle? other = none := by
    rw [handle?, hnone]
    rfl
  constructor
  · intro hundeclared
    rw [hhandle] at hundeclared
    split at hundeclared
    · rename_i hname
      exact h.undeclared (hname ▸ hother)
    · exact h.undeclared hundeclared
  · intro handle hdeclared
    rw [hhandle] at hdeclared
    split at hdeclared
    · -- A new variable was never named
      rename_i hname
      subst hname
      obtain ⟨hvariable, hchosen, hstatistics⟩ := Value.handle?_declared hdeclared
      rw [h.undeclared hother]
      refine ⟨hvariable, hchosen, by simp, by simp, fun id hid => ?_⟩
      rw [hstatistics] at hid
      cases hid
    · exact (h.shows handle hdeclared).of_statistics fun _ _ => rfl
  · -- It feeds nothing
    intro second handle handle' id hfirst hsecond hid hid'
    rw [hhandle] at hfirst hsecond
    split at hfirst
    · rw [(Value.handle?_declared hfirst).2.2] at hid
      cases hid
    · split at hsecond
      · rw [(Value.handle?_declared hsecond).2.2] at hid'
        cases hid'
      · exact h.unshared second handle handle' id hfirst hsecond hid hid'

/-- A request to the variable itself names it. -/
theorem request_self (h : run.Named name namings) (hrun : run.Consistent) {handle : TrackerHandle}
    (hhandle : run.handle? name = some handle) (request : TrackerRequest) (issued : Nat)
    (messages : List Message) :
    Named { run.set name (.tracker (request.perform handle run.job run.world).1) with
        world := { (request.perform handle run.job run.world).2 with issued, messages } }
      name (namings ++ request.naming handle) := by
  have hset := handle?_set_tracker hhandle (request.perform handle run.job run.world).1
  have hself := (hset name).trans (if_pos rfl)
  constructor
  · intro hundeclared
    cases hself.symm.trans hundeclared
  · intro after hafter
    obtain rfl := Option.some.inj (hself.symm.trans hafter)
    exact ((h.shows handle hhandle).perform request run.job).of_statistics fun _ _ => rfl
  · intro other after handle' id hafter hother hid hid'
    obtain rfl := Option.some.inj (hself.symm.trans hafter)
    by_contra hne
    have hother' := ((hset other).symm.trans hother)
    rw [if_neg hne] at hother'
    -- Another variable feeds neither what this one fed nor what is new
    rcases TrackerRequest.feeds_perform (hrun.exists_fed hhandle) hid with hfed | rfl
    · exact hne (h.unshared other handle handle' id hhandle hother' hfed hid')
    · exact absurd (hrun.lt_of_feeds ⟨other, handle', hother', hid'⟩) (Nat.lt_irrefl _)

/-- A request to another variable leaves the names alone. -/
theorem request_other (h : run.Named name namings) (hrun : run.Consistent) {target : String}
    (htarget : target ≠ name) {handle : TrackerHandle}
    (hhandle : run.handle? target = some handle) (request : TrackerRequest) (issued : Nat)
    (messages : List Message) :
    Named { run.set target (.tracker (request.perform handle run.job run.world).1) with
        world := { (request.perform handle run.job run.world).2 with issued, messages } }
      name namings := by
  have hset := handle?_set_tracker hhandle (request.perform handle run.job run.world).1
  have hsame := (hset name).trans (if_neg (Ne.symm htarget))
  constructor
  · intro hundeclared
    exact h.undeclared (hsame.symm.trans hundeclared)
  · intro own hown
    have hown' := hsame.symm.trans hown
    apply (h.shows own hown').of_statistics
    intro id hid
    obtain ⟨s, hs⟩ := hrun.exists_fed hown' id hid
    have hunfed : handle.statistics ≠ some id := by
      intro hfed
      exact htarget (h.unshared target own handle id hown' hhandle hid hfed)
    have hkept : (request.perform handle run.job run.world).2.statistics[id]? = some (if
        handle.statistics = some id then
          s.after (request.passed handle.collecting run.world.now) else s) :=
      TrackerRequest.getElem?_perform hs (hrun.exists_fed hhandle)
    rw [if_neg hunfed] at hkept
    exact hkept.trans hs.symm
  · intro other own handle' id hown hother hid hid'
    have hown' := hsame.symm.trans hown
    have hother' := (hset other).symm.trans hother
    split at hother'
    · rename_i hname
      subst hname
      obtain rfl := Option.some.inj hother'
      rcases TrackerRequest.feeds_perform (hrun.exists_fed hhandle) hid' with hfed | rfl
      · exact h.unshared other own handle id hown' hhandle hid hfed
      · exact absurd (hrun.lt_of_feeds ⟨name, own, hown', hid⟩) (Nat.lt_irrefl _)
    · exact h.unshared other own handle' id hown' hother' hid hid'

/-- A call names the variable if it goes to it and asks for that. -/
theorem invoke (h : run.Named name namings) (hrun : run.Consistent) (line : Line)
    (target : String) (index : Nat) (arguments : List Argument) :
    (run.perform (.invoke line target index arguments)).1.Named name
      (namings ++ run.naming name (.invoke line target index arguments)) := by
  simp only [naming, Step.target?, Option.some.injEq, requested]
  show (run.invoke line target index arguments).1.Named name _
  cases hasked : run.asked line target index arguments with
  | none =>
    rw [Option.elim_none, ite_self, List.append_nil]
    exact h.of_keepsTrackers (invoke_of_not_asked hasked)
  | some asked =>
    obtain ⟨handle, request⟩ := asked
    obtain ⟨hhandle, issued, messages, hinvoke⟩ := invoke_of_asked hasked
    rw [hinvoke]
    split
    · rename_i hname
      subst hname
      exact h.request_self hrun hhandle request issued messages
    · rename_i hname
      rw [List.append_nil]
      exact h.request_other hrun hname hhandle request issued messages

/-- Assignments between other variables leave the names alone. -/
theorem assign (h : run.Named name namings) {line : Line} {target : String} {source : Argument}
    (hassign : run.assign line target source = .ok run') (htarget : target ≠ name)
    (hsource : source ≠ .variable name) : run'.Named name namings := by
  rcases assign_cases hassign with
    hkeeps | ⟨giver, handle, other, rfl, hhandle, hother, -, rfl⟩
  · exact h.of_keepsTrackers hkeeps
  · have hset := handle?_set_tracker hhandle (handle.assign other)
    have hsame := (hset name).trans (if_neg (Ne.symm htarget))
    constructor
    · intro hundeclared
      exact h.undeclared (hsame.symm.trans hundeclared)
    · intro own hown
      exact (h.shows own (hsame.symm.trans hown)).of_statistics fun _ _ => rfl
    · intro second own handle' id hown hsecond hid hid'
      have hown' := hsame.symm.trans hown
      have hsecond' := (hset second).symm.trans hsecond
      split at hsecond'
      · -- What the target was handed is not what the variable feeds
        obtain rfl := Option.some.inj hsecond'
        have hgiver := h.unshared giver own other id hown' hother hid hid'
        exact absurd (congrArg Argument.variable hgiver) hsource
      · exact h.unshared second own handle' id hown' hsecond' hid hid'

/-- Stopping everything leaves the names alone. -/
theorem stopTrackers (h : run.Named name namings) (hrun : run.Consistent) :
    run.stopTrackers.Named name namings := by
  have hhandle (other : String) {after : TrackerHandle}
      (hafter : run.stopTrackers.handle? other = some after) :
      ∃ before, run.handle? other = some before ∧ { before with collecting := false } = after :=
    Option.map_eq_some_iff.mp ((handle?_stopTrackers run other).symm.trans hafter)
  constructor
  · intro hundeclared
    rw [handle?_stopTrackers, Option.map_eq_none_iff] at hundeclared
    exact h.undeclared hundeclared
  · intro after hafter
    obtain ⟨before, hbefore, rfl⟩ := hhandle name hafter
    have hshows := h.shows before hbefore
    refine ⟨hshows.variableName, hshows.chosenName, hshows.unstarted, hshows.ordered, ?_⟩
    intro id hid
    obtain ⟨s, hs, hnumbered, hname⟩ := hshows.reported id hid
    have hstop := Statistics.stop_tells hnumbered run.world.now
    refine ⟨(s.stop run.world.now).1, ?_, hstop.numbered, hstop.alike.name.trans hname⟩
    rw [hrun.statistics_stopTrackers, List.getElem?_map, hs]
    rfl
  · intro other after after' id hafter hafter' hid hid'
    obtain ⟨before, hbefore, rfl⟩ := hhandle name hafter
    obtain ⟨before', hbefore', rfl⟩ := hhandle other hafter'
    exact h.unshared other before before' id hbefore hbefore' hid hid'

/-! ## Section 5: Runs -/

/-- **A step keeps names as they were given**, if it assigns neither to the variable nor from
it. -/
theorem perform (h : run.Named name namings) (hrun : run.Consistent) {step : Step}
    (hassign : ¬step.Assigns name) :
    (run.perform step).1.Named name (namings ++ run.naming name step) := by
  have hunnamed (hnaming : run.naming name step = []) :
      namings ++ run.naming name step = namings := by
    rw [hnaming, List.append_nil]
  cases step with
  | call line target operation arguments =>
    cases hresolved : run.resolveWritten line target operation arguments with
    | error d =>
      rw [hunnamed (by simp [naming, requested, hresolved])]
      simp only [Run.perform, hresolved]
      exact h
    | ok index =>
      have hinvoke := h.invoke hrun line target index arguments
      simp only [naming, requested, Step.target?, Run.perform, hresolved] at hinvoke ⊢
      exact hinvoke
  | invoke line target index arguments => exact h.invoke hrun line target index arguments
  | declare line other keyword =>
    rw [hunnamed rfl]
    rcases run.perform_declare line other keyword with
      ⟨d, hrefused⟩ | ⟨t, run', -, hdeclare, hperformed⟩
    · rw [hrefused]
      exact h
    · rw [hperformed]
      exact h.declare hdeclare
  | assign line target source =>
    rw [hunnamed rfl]
    simp only [Run.perform]
    split
    · rename_i run' hassigned
      apply h.assign hassigned
      · exact fun hname => hassign ⟨line, target, source, rfl, .inl hname⟩
      · exact fun hname => hassign ⟨line, target, source, rfl, .inr hname⟩
    · exact h
  | stopTrackers =>
    rw [hunnamed rfl]
    exact h.stopTrackers hrun
  | releaseSessions =>
    rw [hunnamed rfl]
    exact h.of_keepsTrackers (keepsTrackers_releaseSessions run)
  | wait span =>
    rw [hunnamed rfl]
    exact h.of_keepsTrackers ⟨rfl, rfl, fun _ => rfl, rfl, World.KeepsTrackers.sleep _ span⟩
  | requestStop requested =>
    rw [hunnamed rfl]
    exact h.of_keepsTrackers ⟨rfl, rfl, fun _ => rfl, rfl, rfl, Nat.le_refl _⟩

theorem performAll (h : run.Named name namings) (hrun : run.Consistent) {steps : List Step}
    (hassign : ∀ step ∈ steps, ¬step.Assigns name) :
    (run.performAll steps).Named name (namings ++ run.namings name steps) := by
  induction steps generalizing run namings with
  | nil =>
    rw [Run.namings, List.append_nil]
    exact h
  | cons step steps ih =>
    rw [List.forall_mem_cons] at hassign
    rw [Run.namings, ← List.append_assoc]
    exact ih (h.perform hrun hassign.1) (hrun.perform step) hassign.2

end Named

theorem named_initial (job : Job) (network : Pop.Network) (name : String) :
    (initial job network).Named name [] where
  undeclared := fun _ => rfl
  shows := fun h hhandle => by cases hhandle
  unshared := fun _ _ _ _ hhandle => by cases hhandle

/-- **The name shown and the name reported**: at the end of a run that assigns neither to a variable
nor from it, the variable shows the name given last, or its own. Its statistics, once there are any,
are reported under the last name given since, or else the one that was shown when they were created.
So the two agree unless the last thing asked for was to take a name back from statistics that have
another name than the variable. -/
theorem names_agree_unless_reset (job : Job) (network : Pop.Network) {steps : List Step}
    {name : String} (hassign : ∀ step ∈ steps, ¬step.Assigns name) :
    let start := initial job network
    let given := start.namings name steps
    ∀ h, (start.performAll steps).handle? name = some h →
      h.displayName = some (shownName name given) ∧
        ∀ id, h.statistics = some id →
          ∃ s, (start.performAll steps).world.statistics[id]? = some s ∧
            s.core.name = reportedName name given ∧
            (h.displayName = some s.core.name ↔
              (given.getLast? = some ⟨true, none⟩ → s.core.name = name)) := by
  intro start given h hhandle
  have hnamed : (start.performAll steps).Named name given :=
    (named_initial job network name).performAll (consistent_initial job network) hassign
  have hshows := hnamed.shows h hhandle
  refine ⟨hshows.displayName, ?_⟩
  intro id hid
  obtain ⟨s, hs, -, hname⟩ := hshows.reported id hid
  refine ⟨s, hs, hname, ?_⟩
  rw [hshows.displayName, hname, Option.some.injEq]
  exact shownName_eq_reportedName_iff hshows.ordered

/-- A tracker that gets a name before it is started, and another one after it has stopped. -/
def renamedTracker : List Step :=
  [.declare ⟨0⟩ "t" "incrementaltracker", .invoke ⟨1⟩ "t" 1 [.literal (.text "Calls")],
    .invoke ⟨2⟩ "t" 2 [], .invoke ⟨3⟩ "t" 0 [], .invoke ⟨4⟩ "t" 3 [],
    .invoke ⟨5⟩ "t" 1 [.literal (.text "Requests")]]

theorem names_agree_for_renamed_tracker :
    (∀ step ∈ renamedTracker, ¬step.Assigns "t") ∧
      ∃ h s, ((initial {} {}).performAll renamedTracker).handle? "t" = some h ∧
        h.statistics = some 0 ∧
        ((initial {} {}).performAll renamedTracker).world.statistics[0]? = some s ∧
        h.displayName = some s.core.name := by
  have hassign : ∀ step ∈ renamedTracker, ¬step.Assigns "t" := by
    simp [renamedTracker, Step.Assigns]
  obtain ⟨h, hhandle⟩ : ∃ h, ((initial {} {}).performAll renamedTracker).handle? "t" = some h :=
    Option.isSome_iff_exists.mp (by decide)
  have hfeeds : (((initial {} {}).performAll renamedTracker).handle? "t").bind
      TrackerHandle.statistics = some 0 := by
    decide
  have hlast : ((initial {} {}).namings "t" renamedTracker).getLast?.bind Naming.name
      = some "Requests" := by
    decide
  rw [hhandle, Option.bind_some] at hfeeds
  obtain ⟨-, hreported⟩ := names_agree_unless_reset {} {} hassign h hhandle
  obtain ⟨s, hs, -, hagree⟩ := hreported 0 hfeeds
  refine ⟨hassign, h, s, hhandle, hfeeds, hs, hagree.mpr fun hreset => ?_⟩
  -- The name given last was not taken back
  rw [hreset] at hlast
  cases hlast

/-- A tracker that goes back to its own name shows it, and is reported under the other one. -/
theorem reset_name_differs :
    let ended := (initial {} {}).performAll [.declare ⟨0⟩ "t" "incrementaltracker",
      .declare ⟨1⟩ "s" "string", .invoke ⟨2⟩ "t" 1 [.literal (.text "Requests")],
      .invoke ⟨3⟩ "t" 2 [], .invoke ⟨4⟩ "t" 1 [.variable "s"]]
    (ended.handle? "t").bind TrackerHandle.displayName = some "t" ∧
      (ended.handle? "t").bind TrackerHandle.statistics = some 0 ∧
      ended.world.statistics[0]?.map (fun s => s.core.name) = some "Requests" := by
  decide

end Run

end JobScript
