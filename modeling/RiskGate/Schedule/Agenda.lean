import RiskGate.Span

/-!
# The agenda

Several actors share one clock and take turns.  An actor that has nothing to do
rests until something wakes it: another actor, an alarm it has set, or the
cancellation of a scope it watches.  The agenda knows the time, who is ready to
act and in which order, and what wakes whom.

Time is counted in whole milliseconds.  Alarms that fall due together wake
their actors in the order in which they were set.

A scope is a number.  It may be opened under another one, and is then cancelled
together with it; a scope that was cancelled stays so.
-/

namespace RiskGate.Schedule

/-- Those who take turns. -/
inductive Actor where
  /-- Hands queued jobs to idle workers. -/
  | dispatcher
  /-- Runs jobs. -/
  | worker (index : Nat)
  /-- Waits for an answer of the pool. -/
  | caller (number : Nat)
  /-- Waits for an answer outside the pool. -/
  | guest (number : Nat)
  /-- Watches over a deadline. -/
  | timer (number : Nat)
deriving DecidableEq, Repr, Inhabited

/-- An instant at which an actor is to be woken. -/
structure Alarm where
  due : Nat
  actor : Actor
deriving DecidableEq, Repr

/-- How long a wait is cut to that no calendar could hold: thirty years of 365
days. -/
def longestWait : Span := Span.ofSecs (30 * 365 * 24 * 60 * 60)

/-- The instant at which a wait is over that begins at `start`, on a whole
millisecond and never early. -/
def waitOver (start : Nat) (wait : Span) : Nat :=
  start + (if UInt64.size / 2 ≤ wait.secs then longestWait else wait).timerMillis

/-- The time, the actors that are ready, and what will wake the others. -/
structure Agenda where
  now : Nat := 0
  /-- Actors whose turn comes, the next one first. -/
  ready : List Actor := []
  /-- Alarms in the order in which they were set. -/
  alarms : List Alarm := []
  /-- Who is woken when a scope is cancelled, in the order of asking. -/
  watchers : List (Nat × Actor) := []
  /-- The scope above each scope, by number. -/
  parents : List (Option Nat) := []
  cancelled : List Nat := []
  /-- Cancellations to come, each with its instant and its scope. -/
  planned : List (Nat × Nat) := []
deriving Repr, Inhabited

namespace Agenda

/-! ## Waking -/

/-- Make an actor ready, behind all that are ready before it. -/
def wake (actor : Actor) (agenda : Agenda) : Agenda :=
  if actor ∈ agenda.ready then agenda
  else { agenda with ready := agenda.ready ++ [actor] }

/-- Make actors ready one after another. -/
def wakeAll (actors : List Actor) (agenda : Agenda) : Agenda :=
  actors.foldl (fun agenda actor => agenda.wake actor) agenda

/-- Forget what would wake an actor. -/
def release (actor : Actor) (agenda : Agenda) : Agenda :=
  { agenda with
    alarms := agenda.alarms.filter (·.actor != actor)
    watchers := agenda.watchers.filter (·.2 != actor) }

/-- Forget an actor altogether. -/
def dismiss (actor : Actor) (agenda : Agenda) : Agenda :=
  { agenda.release actor with ready := agenda.ready.filter (· != actor) }

/-! ## Alarms -/

/-- Wake an actor at an instant. -/
def setAlarm (due : Nat) (actor : Actor) (agenda : Agenda) : Agenda :=
  { agenda with alarms := agenda.alarms ++ [⟨due, actor⟩] }

/-- The instant at which a wait that begins now is over. -/
def dueAfter (wait : Span) (agenda : Agenda) : Nat :=
  waitOver agenda.now wait

/-- Wake the actors whose alarms are due, and drop those alarms. -/
def ring (agenda : Agenda) : Agenda :=
  let (due, later) := agenda.alarms.partition (·.due ≤ agenda.now)
  { agenda with alarms := later }.wakeAll (due.map Alarm.actor)

/-! ## Scopes -/

/-- Open a scope that depends on no other. -/
def openScope (agenda : Agenda) : Agenda × Nat :=
  ({ agenda with parents := agenda.parents ++ [none] }, agenda.parents.length)

/-- Open a scope under another one, born cancelled if that one is. -/
def openChild (parent : Nat) (agenda : Agenda) : Agenda × Nat :=
  let child := agenda.parents.length
  ({ agenda with
      parents := agenda.parents ++ [some parent]
      cancelled :=
        if parent ∈ agenda.cancelled then child :: agenda.cancelled else agenda.cancelled },
    child)

def isCancelled (scope : Nat) (agenda : Agenda) : Bool :=
  scope ∈ agenda.cancelled

/-- Wake an actor when a scope is cancelled. -/
def watch (scope : Nat) (actor : Actor) (agenda : Agenda) : Agenda :=
  { agenda with watchers := agenda.watchers ++ [(scope, actor)] }

/-- Add those scopes to a family that lie under one of its members.  Scopes come
in the order of their numbers, from `index` on, and a scope is opened after the
one above it. -/
def familyFrom (root : Nat) : Nat → List Nat → List (Option Nat) → List Nat
  | _, family, [] => family
  | index, family, parent :: rest =>
      let belongs := index = root || parent.any (· ∈ family)
      familyFrom root (index + 1) (if belongs then index :: family else family) rest

/-- A scope and all scopes under it, the last opened first. -/
def family (scope : Nat) (agenda : Agenda) : List Nat :=
  familyFrom scope 0 [] agenda.parents

/-- Those who watch a scope, in the order of asking. -/
def watchersOf (scope : Nat) (agenda : Agenda) : List Actor :=
  (agenda.watchers.filter (·.1 == scope)).map Prod.snd

/-- Cancel one scope and wake those who watch it. -/
def cancelOne (agenda : Agenda) (scope : Nat) : Agenda :=
  if agenda.isCancelled scope then agenda
  else
    { agenda with cancelled := scope :: agenda.cancelled }.wakeAll (agenda.watchersOf scope)

/-- Cancel a scope and all scopes under it. -/
def cancel (scope : Nat) (agenda : Agenda) : Agenda :=
  (agenda.family scope).foldl cancelOne agenda

/-- Cancel a scope at an instant to come. -/
def plan (due scope : Nat) (agenda : Agenda) : Agenda :=
  { agenda with planned := agenda.planned ++ [(due, scope)] }

/-- Carry out the cancellations that are due. -/
def carryOut (agenda : Agenda) : Agenda :=
  let (due, later) := agenda.planned.partition (fun entry => entry.1 ≤ agenda.now)
  (due.map Prod.snd).foldl (fun agenda scope => agenda.cancel scope)
    { agenda with planned := later }

/-! ## Time -/

/-- The earlier of an instant and the earliest one so far. -/
def earlier (found : Option Nat) (due : Nat) : Option Nat :=
  some (match found with
    | none => due
    | some other => min other due)

/-- The next instant at which something is due. -/
def next? (agenda : Agenda) : Option Nat :=
  (agenda.alarms.map Alarm.due ++ agenda.planned.map Prod.fst).foldl earlier none

/-- Move to an instant, unless it lies in the past, and do what is due there:
cancellations first, then alarms. -/
def moveTo (instant : Nat) (agenda : Agenda) : Agenda :=
  ({ agenda with now := max agenda.now instant }.carryOut).ring

end Agenda

end RiskGate.Schedule
