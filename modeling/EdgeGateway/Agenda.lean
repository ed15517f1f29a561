/-!
# Agendas

Tasks that take turns on one thread. Tasks that are ready run in the order in which they became
so; tasks asleep become ready when their time has come. `settle` lets tasks run until all wait,
`advanceTo` lets time pass.
-/

namespace EdgeGateway

structure Agenda (τ : Type) where
  now : Nat := 0
  ready : List τ := []
  /-- Tasks asleep and when each is to wake, in the order in which they went to sleep. -/
  asleep : List (Nat × τ) := []

namespace Agenda

variable {τ : Type}

instance : Inhabited (Agenda τ) := ⟨{}⟩

/-- Makes a task ready unless it already is. -/
def wake [DecidableEq τ] (a : Agenda τ) (task : τ) : Agenda τ :=
  if a.ready.contains task then a else { a with ready := a.ready ++ [task] }

def wakeAll [DecidableEq τ] (a : Agenda τ) (tasks : List τ) : Agenda τ := tasks.foldl wake a

def sleep (a : Agenda τ) (task : τ) (time : Nat) : Agenda τ :=
  { a with asleep := a.asleep ++ [(time, task)] }

def nextTime? (a : Agenda τ) : Option Nat := (a.asleep.map (·.1)).min?

/-- Lets it be a later time and wakes the tasks that are to wake by then. -/
def moveTo [DecidableEq τ] (a : Agenda τ) (time : Nat) : Agenda τ :=
  let due := a.asleep.filter (·.1 ≤ time)
  let later := a.asleep.filter (time < ·.1)
  wakeAll { a with now := time, asleep := later } (due.map Prod.snd)

end Agenda

structure Schedule (σ τ : Type) where
  agenda : σ → Agenda τ
  setAgenda : σ → Agenda τ → σ
  poll : σ → τ → σ

namespace Schedule

variable {σ τ : Type} [DecidableEq τ]

/-- Enough turns for everything that comes to rest at all. -/
def turns : Nat := 1000000000

def settleWithin (s : Schedule σ τ) : Nat → σ → σ
  | 0, w => w
  | fuel + 1, w =>
    let a := s.agenda w
    match a.ready with
    | [] => w
    | task :: rest => settleWithin s fuel (s.poll (s.setAgenda w { a with ready := rest }) task)

def settle (s : Schedule σ τ) (w : σ) : σ := s.settleWithin turns w

def moveTo (s : Schedule σ τ) (w : σ) (time : Nat) : σ :=
  s.settle (s.setAgenda w ((s.agenda w).moveTo time))

def advanceWithin (s : Schedule σ τ) (time : Nat) : Nat → σ → σ
  | 0, w => w
  | fuel + 1, w =>
    match (s.agenda w).nextTime? with
    | some next => if next ≤ time then advanceWithin s time fuel (s.moveTo w next) else w
    | none => w

def advanceTo (s : Schedule σ τ) (w : σ) (time : Nat) : σ :=
  s.moveTo (s.advanceWithin time turns w) time

def advance (s : Schedule σ τ) (w : σ) (millis : Nat) : σ :=
  s.advanceTo w ((s.agenda w).now + millis)

end Schedule
end EdgeGateway
