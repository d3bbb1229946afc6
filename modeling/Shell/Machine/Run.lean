import Shell.Machine.Serve

/-!
# Running processes

The machine lets one process act at a time: the one whose clock is earliest, and of several the one
that was started first. Acting takes time, so that no process can keep the others from acting.
-/

namespace Shell

/-- How long a request takes, in microseconds. -/
def Request.cost : Request → Nat
  | .exec _ _ _ => 500
  | _ => 10

namespace Machine

/-- How long it takes to start a copy of a process, in microseconds. -/
def forkCost : Nat := 200

/-- Let a process act at the time that its clock shows. -/
def act (programs : Programs) (m : Machine) (p : Process) : Machine :=
  let m := { m with clock := max m.clock p.clock }
  match p.todo with
  | .exit code => m.finish p (.exited code) p.clock
  | .fork child next =>
    let clock := p.clock + forkCost
    let id := m.nextId
    let copy := { p with id, parent := p.id, todo := child, clock, arrived := [], relays := [] }
    (m.put { p with todo := next id, clock }).add copy
  | .call request next =>
    match m.serve programs p request with
    | .blocked => m.put { p with blocked := true }
    | .replaced p m => m.put { p with clock := p.clock + request.cost }
    | .answered answer p m signal =>
      let p := { p with todo := next answer, clock := p.clock + request.cost }
      let m := m.put p
      match signal with
      | none => m
      | some (target, number) =>
        match m.process? target with
        | none => m
        | some q => m.deliver q number p.clock

/-- Of two processes the one that acts first. -/
def earlier (p q : Process) : Process :=
  if q.clock < p.clock then q else p

/-- The process that acts next. -/
def next? (m : Machine) : Option Process :=
  m.processes.foldl (fun best p =>
    if p.alive && !p.blocked then
      match best with
      | none => some p
      | some b => some (earlier b p)
    else best) none

/-- How often processes act at most until the shell goes on. -/
def patience : Nat := Nat.pow 2 40

/-- Let processes act until `done` holds or none can. -/
def runUntil (programs : Programs) (done : Machine → Bool) : Nat → Machine → Machine
  | 0, m => m
  | turns + 1, m =>
    if done m then m
    else match m.next? with
      | none => m
      | some p => runUntil programs done turns (m.act programs p)

/-- Every process that can act does so at or after this time. -/
def hasReached (time : Nat) (m : Machine) : Bool :=
  match m.next? with
  | none => true
  | some p => time ≤ p.clock

/-- Let time pass until the clock of the machine shows `time`. -/
def advance (programs : Programs) (time : Nat) (m : Machine) : Machine :=
  let time := max time m.clock
  { m.runUntil programs (hasReached time) patience with clock := time }

end Machine

end Shell
