import JobScript.Execution

/-!
# Operations That Change Their Target Only

Statistics belong to trackers and the network belongs to sessions. Operations on targets of all
other types leave the shared state as it is, but for time that passes and messages to the job.

## Architecture

- `World.Idles`: only the clock and the messages differ
- `World.Tracks`: only statistics and what they report differ
- `ScriptOperation.run_idles`, `RateLimiterOperation.run_idles`: the operations that reach the shared
  state
- `PopSession.converseOutcome_cases`: all that a call of a session can do
- `dispatch_world`, `execute_idles`: calls by index
-/

namespace JobScript

/-! ## Section 1: The shared state -/

namespace World

/-- Time passes and messages are sent, and nothing else changes. -/
structure Idles (w w' : World) : Prop where
  now_le : w.now ≤ w'.now
  rest : w' = { w with now := w'.now, messages := w'.messages }

theorem Idles.refl (w : World) : w.Idles w :=
  ⟨Nat.le_refl _, rfl⟩

theorem Idles.sleep (w : World) (span : Span) : w.Idles (w.sleep span) :=
  ⟨Nat.le_add_right _ _, rfl⟩

theorem Idles.network {w w' : World} (h : w.Idles w') : w'.network = w.network := by
  rw [h.rest]

/-- Statistics change and report, and nothing else does. -/
def Tracks (w w' : World) : Prop :=
  ∃ statistics points, w' = { w with statistics, points }

theorem Tracks.refl (w : World) : w.Tracks w :=
  ⟨w.statistics, w.points, rfl⟩

theorem Tracks.trans {w w' w'' : World} (first : w.Tracks w') (second : w'.Tracks w'') :
    w.Tracks w'' := by
  obtain ⟨statistics, points, rfl⟩ := first
  obtain ⟨statistics', points', rfl⟩ := second
  exact ⟨statistics', points', rfl⟩

theorem Tracks.network {w w' : World} (h : w.Tracks w') : w'.network = w.network := by
  obtain ⟨statistics, points, rfl⟩ := h
  rfl

theorem Tracks.now {w w' : World} (h : w.Tracks w') : w'.now = w.now := by
  obtain ⟨statistics, points, rfl⟩ := h
  rfl

theorem tracks_stopStatistics (w : World) (id : TrackerId) : w.Tracks (w.stopStatistics id) := by
  unfold stopStatistics
  split
  · exact ⟨_, _, rfl⟩
  · exact .refl w

end World

/-- If the computation gives something, it has the property. -/
def Yields {α : Type} (P : α → Prop) (x : Except Cause α) : Prop :=
  ∀ a, x = .ok a → P a

namespace Yields

variable {α β : Type} {P : α → Prop}

theorem ok {a : α} (h : P a) : Yields P (.ok a) := by
  rintro b hb
  obtain rfl := Except.ok.inj hb
  exact h

theorem error (cause : Cause) : Yields P (.error cause) := by
  rintro a ha
  cases ha

/-- What is computed first has a property that the rest goes on from. -/
theorem bind_of {Q : β → Prop} {x : Except Cause β} {f : β → Except Cause α} (hx : Yields Q x)
    (h : ∀ b, Q b → Yields P (f b)) : Yields P (x >>= f) := by
  cases x with
  | ok b => exact h b (hx b rfl)
  | error cause => exact error cause

/-- What is computed first does not matter. -/
theorem bind {x : Except Cause β} {f : β → Except Cause α} (h : ∀ b, Yields P (f b)) :
    Yields P (x >>= f) := by
  cases x with
  | ok b => exact h b
  | error cause => exact error cause

end Yields

/-! ## Section 2: Operations -/

/-- Operations of the script say things and let time pass. -/
theorem ScriptOperation.run_idles (op : ScriptOperation) (source : Random.Source)
    (arguments : List Value) (job : Job) (w : World) :
    Yields (fun done => w.Idles done.2.1) (op.run source arguments job w) := by
  have hkeep {done : Random.Source × World × Result} (h : done.2.1 = w) :
      Yields (fun done => w.Idles done.2.1) (.ok done) := by
    apply Yields.ok
    rw [h]
    exact World.Idles.refl w
  cases op with
  | debugMessage | logMessage =>
    apply Yields.bind
    intro text
    exact Yields.ok ⟨Nat.le_refl _, rfl⟩
  | exit | exitWithError => exact Yields.error _
  | sleep =>
    apply Yields.bind
    intro milliseconds
    exact Yields.ok (World.Idles.sleep w _)
  | clientNumber | threadNumber | shouldStop | shouldNotStop => exact hkeep rfl
  | argument | timestamp =>
    apply Yields.bind
    intro text
    exact hkeep rfl
  | argumentOr | booleanArgument | intArgument =>
    apply Yields.bind
    intro argument
    split
    · exact hkeep rfl
    · apply Yields.bind
      intro default
      exact hkeep rfl
  | randomInt | randomTextOf =>
    apply Yields.bind
    intro first
    apply Yields.bind
    intro second
    apply Yields.bind
    rintro ⟨drawn, rest⟩
    exact hkeep rfl
  | randomText =>
    apply Yields.bind
    intro length
    apply Yields.bind
    rintro ⟨drawn, rest⟩
    exact hkeep rfl
  | timestampAs =>
    apply Yields.bind
    intro pattern
    apply Yields.bind
    intro text
    exact hkeep rfl

/-- Rate limiters let time pass. -/
theorem RateLimiterOperation.run_idles (op : RateLimiterOperation) (limiter : RateLimiter)
    (arguments : List Value) (w : World) :
    Yields (fun done => w.Idles done.2.1) (op.run limiter arguments w) := by
  cases op with
  | duration | startTimer => exact Yields.ok (World.Idles.refl w)
  | setDuration =>
    apply Yields.bind
    intro duration
    exact Yields.ok (World.Idles.refl w)
  | sleepForRemainingTime => exact Yields.ok (World.Idles.sleep w _)

/-! ## Section 3: Calls by index -/

/-- What holds of the shared state before a call and after every operation holds after the call. -/
theorem dispatch_world {P : World → Prop} {σ τ ω : Type} {t : ValueType} {catalog : List ω}
    {index : Nat} {target : σ} {w : World} {run : ω → Outcome σ} {f : σ → τ} (hw : P w)
    (h : ∀ op, P (run op).world) : P ((dispatch t catalog index target w run).map f).world := by
  unfold dispatch
  split
  · exact h _
  · exact hw

/-- Arguments that cannot be read change nothing, and others lead to the operation. -/
theorem PopSession.withArguments_of {P : Outcome PopSession → Prop} {α : Type} {s : PopSession}
    {w : World} {read : Except Cause α} {go : α → Outcome PopSession}
    (hkeep : ∀ cause, P ⟨s, w, .error cause⟩) (hgo : ∀ a, P (go a)) :
    P (s.withArguments w read go) := by
  cases read with
  | ok a => exact hgo a
  | error cause => exact hkeep cause

namespace PopSession

open Pop

variable {α : Type} {s : PopSession} {w : World} {unconnected : α} {exchange : Exchange α}
  {result : α → Result} {id : ConnectionId} {link link' : Link}

/-- Without a connection, a call gives the value for that case, and its reason says so. -/
theorem converseOutcome_of_unconnected (hlink : s.link? w.network = none) :
    s.converseOutcome w unconnected exchange result =
      ⟨{ s with failureReason := some "Not connected" }, w, .ok (result unconnected)⟩ := by
  simp only [converseOutcome, converse]
  cases hconnection : s.connection with
  | none => rfl
  | some id =>
    rw [link?, hconnection] at hlink
    replace hlink : w.network.link? id = none := hlink
    simp only [hlink]

/-- An exchange over an open connection. -/
theorem converseOutcome_of_link {answer : Answer α} (hconnection : s.connection = some id)
    (hlink : w.network.link? id = some link) (hexchange : exchange link = (link', .ok answer)) :
    s.converseOutcome w unconnected exchange result =
      ⟨{ s with failureReason := answer.reason },
        { w with network := w.network.updateLink id link' }, .ok (result answer.value)⟩ := by
  simp only [converseOutcome, converse, hconnection, hlink, hexchange]

/-- An exchange that breaks an open connection. -/
theorem converseOutcome_of_broken {error : TransportError} (hconnection : s.connection = some id)
    (hlink : w.network.link? id = some link) (hexchange : exchange link = (link', .error error)) :
    s.converseOutcome w unconnected exchange result =
      ⟨{ s with failureReason := none },
        { w with network := w.network.updateLink id link' },
        .error (.transport error.message)⟩ := by
  simp only [converseOutcome, converse, hconnection, hlink, hexchange]

/-- All that a call of a session can do: it finds no connection, its exchange gives an answer, or
the exchange breaks the connection. -/
theorem converseOutcome_cases (s : PopSession) (w : World) (unconnected : α) (exchange : Exchange α)
    (result : α → Result) :
    let outcome := s.converseOutcome w unconnected exchange result
    (s.link? w.network = none ∧
        outcome = ⟨{ s with failureReason := some "Not connected" }, w,
          .ok (result unconnected)⟩) ∨
      ∃ id link link', s.connection = some id ∧ w.network.link? id = some link ∧
        ((∃ answer, exchange link = (link', .ok answer) ∧
            outcome = ⟨{ s with failureReason := answer.reason },
              { w with network := w.network.updateLink id link' }, .ok (result answer.value)⟩) ∨
          ∃ error, exchange link = (link', .error error) ∧
            outcome = ⟨{ s with failureReason := none },
              { w with network := w.network.updateLink id link' },
              .error (.transport error.message)⟩) := by
  cases hlink : s.link? w.network with
  | none => exact .inl ⟨rfl, converseOutcome_of_unconnected hlink⟩
  | some link =>
    obtain ⟨id, hconnection, hopen⟩ := Option.bind_eq_some_iff.mp hlink
    rcases hexchange : exchange link with ⟨link', error | answer⟩
    · exact .inr ⟨id, link, link', hconnection, hopen,
        .inr ⟨error, hexchange, converseOutcome_of_broken hconnection hopen hexchange⟩⟩
    · exact .inr ⟨id, link, link', hconnection, hopen,
        .inl ⟨answer, hexchange, converseOutcome_of_link hconnection hopen hexchange⟩⟩

end PopSession

theorem Outcome.ofExcept_idles {σ : Type} (target : σ) {w : World}
    {done : Except Cause (σ × World × Result)} (h : Yields (fun done => w.Idles done.2.1) done) :
    w.Idles (ofExcept target w done).world := by
  cases done with
  | ok done => exact h done rfl
  | error cause => exact World.Idles.refl w

theorem Outcome.ofTarget_idles {σ : Type} (target : σ) (w : World)
    (done : Except Cause (σ × Result)) : w.Idles (ofTarget target w done).world := by
  cases done <;> exact World.Idles.refl w

/-- A call on anything but a tracker or a session leaves statistics and network alone. -/
theorem execute_idles (job : Job) (w : World) {target : Value}
    (htracker : ∀ h, target ≠ .tracker h) (hsession : ∀ s, target ≠ .popConnection s)
    (index : Nat) (arguments : List Value) :
    w.Idles (execute job w target index arguments).world := by
  cases target with
  | tracker h => exact absurd rfl (htracker h)
  | popConnection s => exact absurd rfl (hsession s)
  | script source =>
    apply dispatch_world (World.Idles.refl w)
    intro op
    exact Outcome.ofExcept_idles source (op.run_idles source arguments job w)
  | rateLimiter limiter =>
    apply dispatch_world (World.Idles.refl w)
    intro op
    exact Outcome.ofExcept_idles limiter (op.run_idles limiter arguments w)
  | _ =>
    -- The other types are changed by themselves alone
    apply dispatch_world (World.Idles.refl w)
    intro op
    exact Outcome.ofTarget_idles _ w _

end JobScript
