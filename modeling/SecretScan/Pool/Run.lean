import SecretScan.Pool.Step

/-!
# Running a pool

One run of a pool, to its end. The order of steps is free, so the simplest is taken: workers come
before the dispatcher, and among workers the one with the smallest index that can take a step.
-/

namespace SecretScan.Pool

variable {ι α ε : Type}

/-- The number of slots; there is always one. -/
def slots (concurrency : Nat) : Nat := max concurrency 1

/-- The first of some actors that can take a step takes it. -/
def firstStep? (items : List ι) (work : ι → Work α ε) (slots : Nat) (actors : List Actor)
    (s : State ι α ε) : Option (State ι α ε) :=
  actors.findSome? fun actor => step? items work slots actor s

/-- All actors, workers before the dispatcher. -/
def actors (s : State ι α ε) : List Actor :=
  (List.range s.workers.length).map Actor.worker ++ [.dispatcher]

/-- Takes steps until nobody can, at most `fuel` steps. -/
def runFrom (items : List ι) (work : ι → Work α ε) (slots : Nat) (fuel : Nat)
    (s : State ι α ε) : State ι α ε :=
  match fuel with
  | 0 => s
  | fuel + 1 => match firstStep? items work slots (actors s) s with
    | some t => runFrom items work slots fuel t
    | none => s

/-- The number of steps of the worker for an item and of the dispatcher for that item, at most. -/
def stepsFor (w : Work α ε) : Nat := w.records.length + 8

/-- The number of steps of a run, at most. -/
def bound (items : List ι) (work : ι → Work α ε) : Nat :=
  (items.map fun item => stepsFor (work item)).foldr (· + ·) 0 + 2

/-- Runs the work on all items, on at most `concurrency` of them at a time. -/
def run (items : List ι) (work : ι → Work α ε) (concurrency : Nat) : State ι α ε :=
  runFrom items work (slots concurrency) (bound items work) {}

/-- The items that were handed to workers. -/
def State.processed (items : List ι) (s : State ι α ε) : List ι := items.take s.workers.length

/-- The error of a run that is over, if it failed. -/
def State.result (s : State ι α ε) : Except ε Unit :=
  match s.error with
  | some e => .error e
  | none => .ok ()

end SecretScan.Pool
