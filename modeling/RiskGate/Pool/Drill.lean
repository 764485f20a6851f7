import RiskGate.Pool.Calls

/-!
# Drills

A drill is a task made of waits: for a permit of a gate, and then for a while.
Permits are used up, and go to the drills that wait for them first come first
served.  The drills of a pool share their gates and one log, in which each
notes when it starts and when it finishes.
-/

namespace RiskGate.Pool

open Schedule (Actor)

/-- Where a drill is. -/
inductive DrillStage where
  | fresh
  | atGate (gate : String)
  /-- The drill works until an instant. -/
  | working (due : Nat)
deriving DecidableEq, Repr

/-- A task that waits and then yields an outcome. -/
structure Drill where
  label : String
  gate : Option String := none
  latency : Nat := 0
  outcome : Outcome Int
  stage : DrillStage := .fresh

/-- A gate: its unused permits, who waits for one, and who was given one and has
not used it yet. -/
structure Gate where
  name : String
  permits : Nat := 0
  waiting : List Actor := []
  granted : List Actor := []
deriving Repr

/-- What a drill notes in the log. -/
inductive DrillNote where
  | start
  | finish
deriving DecidableEq, Repr

def DrillNote.name : DrillNote → String
  | start => "start"
  | finish => "finish"

/-- The gates, and the log with its latest entry first. -/
structure DrillGround where
  gates : List Gate := []
  log : List (Nat × DrillNote × String) := []

namespace DrillGround

/-- The gate with a name, closed if it was never used. -/
def gate (name : String) (ground : DrillGround) : Gate :=
  (ground.gates.find? (·.name == name)).getD { name := name }

def setGate (gate : Gate) (ground : DrillGround) : DrillGround :=
  { ground with gates := gate :: ground.gates.filter (·.name != gate.name) }

def note (now : Nat) (entry : DrillNote) (label : String) (ground : DrillGround) : DrillGround :=
  { ground with log := (now, entry, label) :: ground.log }

/-- Give one permit to the drill that has waited longest, and say who runs it;
if none waits, the permit is kept. -/
def permit (name : String) (ground : DrillGround) : DrillGround × List Actor :=
  let gate := ground.gate name
  match gate.waiting with
  | [] => (ground.setGate { gate with permits := gate.permits + 1 }, [])
  | runner :: rest =>
      (ground.setGate { gate with waiting := rest, granted := gate.granted ++ [runner] }, [runner])

/-- Give a number of permits. -/
def permits (name : String) : Nat → DrillGround → DrillGround × List Actor
  | 0, ground => (ground, [])
  | count + 1, ground =>
      let (ground, woken) := ground.permit name
      let (ground, later) := ground.permits name count
      (ground, woken ++ later)

end DrillGround

namespace Drill

/-- Finish a drill. -/
def finish (now : Nat) (drill : Drill) (ground : DrillGround) :
    DrillGround × Progress Drill Int :=
  (ground.note now .finish drill.label, .finished drill.outcome)

/-- Work for as long as the drill takes. -/
def toWork (now : Nat) (drill : Drill) (ground : DrillGround) :
    DrillGround × Progress Drill Int :=
  if drill.latency = 0 then drill.finish now ground
  else
    let due := now + drill.latency
    (ground, .suspended { drill with stage := .working due } [due])

/-- Begin a drill, or go on with it. -/
def resume (runner : Actor) (now : Nat) (drill : Drill) (ground : DrillGround) :
    DrillGround × Progress Drill Int :=
  match drill.stage with
  | .fresh =>
      let ground := ground.note now .start drill.label
      match drill.gate with
      | none => drill.toWork now ground
      | some name =>
          let gate := ground.gate name
          if 0 < gate.permits then
            drill.toWork now (ground.setGate { gate with permits := gate.permits - 1 })
          else
            (ground.setGate { gate with waiting := gate.waiting ++ [runner] },
              .suspended { drill with stage := .atGate name } [])
  | .atGate name =>
      let gate := ground.gate name
      if runner ∈ gate.granted then
        drill.toWork now
          (ground.setGate { gate with granted := gate.granted.filter (· != runner) })
      else (ground, .suspended drill [])
  | .working due =>
      if due ≤ now then drill.finish now ground else (ground, .suspended drill [])

/-- Give a drill up.  A permit that it was given and has not used goes to the
next one. -/
def abandon (runner : Actor) (drill : Drill) (ground : DrillGround) :
    DrillGround × List Actor :=
  match drill.stage with
  | .atGate name =>
      let gate := ground.gate name
      let left :=
        ground.setGate
          { gate with
            waiting := gate.waiting.filter (· != runner)
            granted := gate.granted.filter (· != runner) }
      if runner ∈ gate.granted then left.permit name else (left, [])
  | _ => (ground, [])

end Drill

instance : Trade DrillGround Drill Int where
  resume := Drill.resume
  abandon runner _ := Drill.abandon runner
  elapse _ _ ground := ground

end RiskGate.Pool
