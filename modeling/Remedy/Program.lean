import Remedy.Event

/-!
# Programs that ask and wait

A program is a tree of requests to the outside world, with a branch for every answer. It may also
read a clock, sleep, emit an event, and break off. What a request means is left to whoever runs the
program, so one program can be run against every provider. How long a sleep can be is left to the
timer.
-/

namespace Remedy

/-- What a program that breaks off leaves behind. -/
inductive Panic where
  | text (message : String)
  | silent
deriving DecidableEq

def Panic.message : Panic → String
  | .text m => m
  | .silent => "non-string panic payload"

/-- A timer that programs sleep by. What a timer is asked for it keeps, up to the longest pause that
it can hold; longer ones it cuts. Every timer holds two years. -/
class Timer where
  /-- The longest pause, in whole seconds. -/
  longest : Nat
  least : 68719476 ≤ longest
  most : longest ≤ Nat.pow 2 52

/-- How long a pause lasts of so many milliseconds. -/
def Timer.lasts [Timer] (ms : Nat) : Nat := min ms (longest * 1000)

/-- A timer that holds thirty years of 365 days. -/
abbrev Timer.thirtyYears : Timer := ⟨30 * 365 * 24 * 60 * 60, by decide, by decide⟩

/-- Requests `q : Q` are answered by values of `A q`; times are in milliseconds. -/
inductive Program (Q : Type) (A : Q → Type) (α : Type) : Type where
  | done (a : α)
  | abort (p : Panic)
  | ask (q : Q) (next : A q → Program Q A α)
  | clock (next : Nat → Program Q A α)
  | sleep (ms : Nat) (next : Program Q A α)
  | emit (e : Event) (next : Program Q A α)

namespace Program

variable {Q Q' : Type} {A : Q → Type} {A' : Q' → Type} {α β : Type}

def bind : Program Q A α → (α → Program Q A β) → Program Q A β
  | done a, f => f a
  | abort p, _ => abort p
  | ask q next, f => ask q fun a => bind (next a) f
  | clock next, f => clock fun now => bind (next now) f
  | sleep ms next, f => sleep ms (bind next f)
  | emit e next, f => emit e (bind next f)

instance : Monad (Program Q A) where
  pure := done
  bind := bind

/-- One request and its answer. -/
def request (q : Q) : Program Q A (A q) := ask q done

/-- The reading of the clock. -/
def now : Program Q A Nat := clock done

/-- A pause, as long as the timer holds it. -/
def pause [Timer] (ms : Nat) : Program Q A Unit := sleep (Timer.lasts ms) (done ())

def tell (e : Event) : Program Q A Unit := emit e (done ())

/-- Answer every request by a program over other requests. -/
def translate (f : (q : Q) → Program Q' A' (A q)) : Program Q A α → Program Q' A' α
  | done a => done a
  | abort p => abort p
  | ask q next => (f q).bind fun a => translate f (next a)
  | clock next => clock fun now => translate f (next now)
  | sleep ms next => sleep ms (translate f next)
  | emit e next => emit e (translate f next)

/-! ## Running -/

/-- How the world answers, and what becomes of it. -/
abbrev World (Q : Type) (A : Q → Type) (σ : Type) : Type := (q : Q) → σ → A q × σ

/-- Where a program stands when it can go no further without time passing. -/
inductive Standing (Q : Type) (A : Q → Type) (α : Type) : Type where
  | ended (outcome : Except Panic α)
  | asleep (until_ : Nat) (rest : Program Q A α)

/-- Run at one moment until the program sleeps or ends; the events are in order. -/
def advance {σ : Type} (w : World Q A σ) (now : Nat) :
    Program Q A α → σ → Standing Q A α × List Event × σ
  | done a, s => (.ended (.ok a), [], s)
  | abort p, s => (.ended (.error p), [], s)
  | ask q next, s =>
    let (a, s) := w q s
    advance w now (next a) s
  | clock next, s => advance w now (next now) s
  | sleep ms next, s => (.asleep (now + ms) next, [], s)
  | emit e next, s =>
    let (standing, es, s) := advance w now next s
    (standing, e :: es, s)

/-- How a run ended, when, what it emitted, and what became of the world. -/
structure Ended (σ α : Type) where
  outcome : Except Panic α
  time : Nat
  events : List Event
  world : σ

/-- Run alone, on a clock that moves by sleeping and by nothing else. -/
def run {σ : Type} (w : World Q A σ) (now : Nat) : Program Q A α → σ → Ended σ α
  | done a, s => ⟨.ok a, now, [], s⟩
  | abort p, s => ⟨.error p, now, [], s⟩
  | ask q next, s =>
    let (a, s) := w q s
    run w now (next a) s
  | clock next, s => run w now (next now) s
  | sleep ms next, s => run w (now + ms) next s
  | emit e next, s =>
    let r := run w now next s
    { r with events := e :: r.events }

end Program

end Remedy
