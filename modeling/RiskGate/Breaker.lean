import RiskGate.Config.Settings

/-!
# The circuit breaker

A breaker stands before the scoring service.  While `closed` it admits every
call and counts the failures in a row; at the threshold it becomes `opened` and
rejects every call until the recovery time since the last failure has passed.
The next call is then admitted as a trial and makes it `halfOpen`, where only
so many trials are admitted: the first that succeeds closes the breaker, any
that fails opens it again.

Every admission carries the generation of the breaker at that moment, and every
change of circuit starts a new generation.  An outcome reported with an earlier
generation counts in the totals and moves nothing else.  A call that is given
up before it ends reports a failure.

Times are instants in nanoseconds.
-/

namespace RiskGate

/-- The three positions of a breaker. -/
inductive Circuit where
  | closed
  | opened
  | halfOpen
deriving DecidableEq, Repr, Inhabited

def Circuit.name : Circuit → String
  | closed => "closed"
  | opened => "open"
  | halfOpen => "half_open"

/-- A breaker: its three settings, its position, and its totals. -/
structure Breaker where
  /-- Failures in a row that open a closed breaker. -/
  threshold : Nat
  /-- Time after the last failure before a trial is admitted. -/
  recovery : Span
  /-- Trials admitted while half open. -/
  trialLimit : Nat
  circuit : Circuit := .closed
  /-- Failures since the last success that counted. -/
  failureRun : Nat := 0
  lastFailure : Option Nat := none
  /-- Trials admitted in this half-open period. -/
  trials : Nat := 0
  /-- Number of the current period. -/
  generation : Nat := 0
  calls : Nat := 0
  successes : Nat := 0
  failures : Nat := 0
  rejections : Nat := 0
  /-- The position last announced to the metrics, if any change was. -/
  announced : Option Circuit := none
deriving DecidableEq, Repr, Inhabited

namespace Breaker

/-- The longest run of failures that is told apart from longer ones. -/
def longestRun : Nat := UInt32.size - 1

/-- A closed breaker.  A threshold or a trial limit of zero counts as one. -/
def make (threshold : Nat) (recovery : Span) (trialLimit : Nat) : Breaker where
  threshold := max threshold 1
  recovery := recovery
  trialLimit := max trialLimit 1

/-- The breaker that settings ask for. -/
def ofSettings (settings : Config.Settings) : Breaker :=
  make settings.circuitBreaker.failureThreshold settings.recoveryTimeout
    settings.circuitBreaker.halfOpenMaxCalls

/-- Move to another position, which starts a new generation and is announced;
staying in the same position does nothing. -/
def moveTo (target : Circuit) (breaker : Breaker) : Breaker :=
  if breaker.circuit = target then breaker
  else
    { breaker with
      circuit := target
      trials := 0
      generation := breaker.generation + 1
      announced := some target }

/-- The recovery time has passed since the last failure. -/
def recovered (now : Nat) (breaker : Breaker) : Bool :=
  match breaker.lastFailure with
  | none => true
  | some failedAt => breaker.recovery.nanos ≤ now - failedAt

/-- Count an admitted call, whose generation is the answer. -/
def admitted (breaker : Breaker) : Breaker × Option Nat :=
  ({ breaker with calls := breaker.calls + 1 }, some breaker.generation)

/-- Count a rejected call. -/
def rejected (breaker : Breaker) : Breaker × Option Nat :=
  ({ breaker with rejections := breaker.rejections + 1 }, none)

/-- Ask for admission.  The answer is the generation of the admission, or
nothing when the call is rejected. -/
def acquire (now : Nat) (breaker : Breaker) : Breaker × Option Nat :=
  match breaker.circuit with
  | .closed => breaker.admitted
  | .opened =>
      if breaker.recovered now then
        { breaker.moveTo .halfOpen with trials := 1 }.admitted
      else
        breaker.rejected
  | .halfOpen =>
      if breaker.trials < breaker.trialLimit then
        { breaker with trials := breaker.trials + 1 }.admitted
      else
        breaker.rejected

/-- Report that a call of the given generation succeeded. -/
def succeed (generation : Nat) (breaker : Breaker) : Breaker :=
  let counted := { breaker with successes := breaker.successes + 1 }
  if generation ≠ counted.generation then counted
  else
    match counted.circuit with
    | .closed => { counted with failureRun := 0 }
    | .halfOpen => { counted with failureRun := 0 }.moveTo .closed
    | .opened => counted

/-- Report that a call of the given generation failed, or was given up. -/
def fail (generation now : Nat) (breaker : Breaker) : Breaker :=
  let counted := { breaker with failures := breaker.failures + 1 }
  if generation ≠ counted.generation then counted
  else
    let noted :=
      { counted with
        failureRun := min (counted.failureRun + 1) longestRun
        lastFailure := some now }
    match noted.circuit with
    | .closed =>
        if noted.threshold ≤ noted.failureRun then noted.moveTo .opened else noted
    | .halfOpen => noted.moveTo .opened
    | .opened => noted

/-- Close the breaker by hand and forget its failures.  Calls in flight no
longer count toward its position. -/
def reset (breaker : Breaker) : Breaker :=
  let closed := breaker.moveTo .closed
  { closed with
    failureRun := 0
    lastFailure := none
    trials := 0
    generation := closed.generation + 1 }

/-- Whole milliseconds since the last failure that counted. -/
def millisSinceFailure (now : Nat) (breaker : Breaker) : Option Nat :=
  breaker.lastFailure.map fun failedAt => (Span.mk (now - failedAt)).millis

end Breaker

end RiskGate
