import Remedy.Service.Call

/-!
# Calls side by side

Every call of a batch is a task. A task runs until it sleeps or is over; the next to run is the one
that wakes first, and of those that wake together the one that fell asleep first. Reports come back
in the order of the tickets.
-/

namespace Remedy

variable {Q : Type} {A : Q → Type} {σ : Type}

/-- Where a call stands. -/
inductive Phase (Q : Type) (A : Q → Type) where
  | executing (e : Execution Q A) (rest : Program Q A Report)
  | rollingBack (u : Undo Q A) (rest : Program Q A (Except Fault String))
  | ended (report : Report)

namespace Phase

def ofExecution : Next (Execution Q A) → Phase Q A
  | .ended report => ended report
  | .waiting e => executing e e.program

def ofUndo : Next (Undo Q A) → Phase Q A
  | .ended report => ended report
  | .waiting u => rollingBack u u.program

def report? : Phase Q A → Option Report
  | ended report => some report
  | _ => none

/-- A call that is given up while it waits; a permit that it holds ends in failure. -/
def abandon (p : Phase Q A) (b : Board) : Board :=
  match p with
  | executing e _ => b.drop e.permit
  | _ => b

/-- The phase after running at one moment, and when to go on. -/
structure Advanced (Q : Type) (A : Q → Type) (σ : Type) where
  phase : Phase Q A
  wake : Nat
  board : Board
  world : σ

def advanceUndo (w : Program.World Q A σ) (m : Moment) (u : Undo Q A)
    (rest : Program Q A (Except Fault String)) (b : Board) (world : σ) : Advanced Q A σ :=
  match Program.advance w m.ms rest world with
  | (.asleep wake rest, events, world) => ⟨rollingBack u rest, wake, b.emitAll events, world⟩
  | (.ended outcome, events, world) =>
    let (report, b) := u.settle m outcome (b.emitAll events)
    ⟨ended report, m.ms, b, world⟩

def advance (s : Service Q A) (w : Program.World Q A σ) (m : Moment) (b : Board) (world : σ) :
    Phase Q A → Advanced Q A σ
  | ended report => ⟨ended report, m.ms, b, world⟩
  | rollingBack u rest => advanceUndo w m u rest b world
  | executing e rest =>
    match Program.advance w m.ms rest world with
    | (.asleep wake rest, events, world) => ⟨executing e rest, wake, b.emitAll events, world⟩
    | (.ended outcome, events, world) =>
      match e.settle s m outcome (b.emitAll events) with
      | (.ended report, b) => ⟨ended report, m.ms, b, world⟩
      | (.waiting u, b) => advanceUndo w m u u.program b world

end Phase

/-- A call of a batch: when it wakes, and its place among those that wake together. -/
structure Task (Q : Type) (A : Q → Type) where
  phase : Phase Q A
  wake : Nat
  place : Nat

namespace Task

def isOver (t : Task Q A) : Bool := t.phase.report?.isSome

/-- Whether one task is to run before another. -/
def before (a b : Task Q A) : Bool :=
  a.wake < b.wake || (a.wake == b.wake && a.place < b.place)

/-- The next task to run, with its index. -/
def next? (tasks : List (Task Q A)) : Option (Nat × Task Q A) :=
  tasks.zipIdx.foldl (fun best (t, i) =>
    if t.isOver then best
    else match best with
      | none => some (i, t)
      | some (j, u) => if t.before u then some (i, t) else some (j, u)) none

end Task

/-- A batch on the way: its tasks, the time, and how many sleeps there have been. -/
structure Batch (Q : Type) (A : Q → Type) (σ : Type) where
  tasks : List (Task Q A)
  now : Nat
  sleeps : Nat
  board : Board
  world : σ

namespace Batch

/-- Start one more call at the present moment. -/
def start (s : Service Q A) (w : Program.World Q A σ) (date : Nat → Time.Instant)
    (x : Batch Q A σ) (t : Ticket) : Batch Q A σ :=
  let m : Moment := ⟨x.now, date x.now⟩
  let (next, b) := s.receive m t x.board
  let a := Phase.advance s w m b x.world (.ofExecution next)
  { x with
    tasks := x.tasks ++ [⟨a.phase, a.wake, x.sleeps⟩], sleeps := x.sleeps + 1, board := a.board
    world := a.world }

/-- Wake one task and run it until it sleeps again or is over. -/
def resume (s : Service Q A) (w : Program.World Q A σ) (date : Nat → Time.Instant)
    (x : Batch Q A σ) (i : Nat) (t : Task Q A) : Batch Q A σ :=
  let now := max x.now t.wake
  let a := Phase.advance s w ⟨now, date now⟩ x.board x.world t.phase
  { tasks := x.tasks.set i ⟨a.phase, a.wake, x.sleeps⟩, now, sleeps := x.sleeps + 1,
    board := a.board, world := a.world }

/-- Run until every task is over, for at most `fuel` wake-ups. -/
def drain (s : Service Q A) (w : Program.World Q A σ) (date : Nat → Time.Instant) :
    Nat → Batch Q A σ → Batch Q A σ
  | 0, x => x
  | fuel + 1, x =>
    match Task.next? x.tasks with
    | none => x
    | some (i, t) => drain s w date fuel (resume s w date x i t)

/-- The report of each task; one that is not over was stopped from outside. -/
def reports (x : Batch Q A σ) : List Report :=
  x.tasks.map fun t =>
    t.phase.report?.getD (.failure "Remediation task aborted" "the task was stopped" 0.0 false)

end Batch

namespace Service

/-- Run a call for each ticket, all at once. -/
def executeBatch (s : Service Q A) (w : Program.World Q A σ) (date : Nat → Time.Instant)
    (now fuel : Nat) (tickets : List Ticket) (b : Board) (world : σ) : Batch Q A σ :=
  (tickets.foldl (Batch.start s w date) ⟨[], now, 0, b, world⟩).drain s w date fuel

end Service

end Remedy
