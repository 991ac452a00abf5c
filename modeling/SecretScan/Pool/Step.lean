/-!
# A pool of workers

Items are dispatched in order by one dispatcher, and each is worked on by a worker of its own. A
slot is a token in a bounded channel: the dispatcher sends a token before it dispatches an item and
the worker takes one out when it is done, so that there are never more workers busy than the channel
holds. After a failure nothing more is dispatched.

The run is a system of atomic steps. `Pool.step?` is the step of one actor, and it is `none` while
the actor is blocked or has nothing left to do. Any order of steps is a run.
-/

namespace SecretScan.Pool

/-- What the work on an item amounts to: what it records on the way, one after the other, and the
error with which it ends, if it fails. -/
structure Work (α ε : Type) where
  records : List α
  failure : Option ε
  deriving Repr, DecidableEq

/-- The point that a worker has reached. -/
inductive WorkerPhase (α ε : Type) where
  /-- The rest of the work has to be done. -/
  | working (rest : Work α ε)
  /-- The error is stored next, unless there is an earlier one. -/
  | storing (e : ε)
  /-- The failure is made known next. -/
  | raising
  /-- A token is taken out of the channel next. -/
  | releasing
  | done
  deriving Repr, DecidableEq

/-- The point that the dispatcher has reached. -/
inductive DispatcherPhase where
  /-- If there is a next item, a token is sent next. -/
  | acquiring
  /-- The slot is held, and next is seen whether there was a failure. -/
  | checking
  /-- There was a failure, and the dispatcher takes its token back next. -/
  | returning
  /-- The next item is announced next. -/
  | announcing
  /-- The next item is handed to a worker next. -/
  | spawning
  /-- Nothing more is dispatched. -/
  | stopped
  deriving Repr, DecidableEq

/-- The state of a run over items of type `ι`. -/
structure State (ι α ε : Type) where
  dispatcher : DispatcherPhase := .acquiring
  /-- The number of tokens in the channel. -/
  tokens : Nat := 0
  /-- Whether a failure has been made known. -/
  failed : Bool := false
  /-- The stored error. -/
  error : Option ε := none
  /-- The workers; the worker at an index has the item at that index. -/
  workers : List (WorkerPhase α ε) := []
  /-- The announcements so far: an item, its index, and the number of all items. -/
  announced : List (ι × Nat × Nat) := []
  /-- What the workers have recorded so far, with the index of the worker. -/
  recorded : List (Nat × α) := []
  deriving Repr

/-- Who takes a step. -/
inductive Actor where
  | dispatcher
  | worker (index : Nat)
  deriving Repr, DecidableEq

variable {ι α ε : Type}

/-- The next step of the dispatcher. Tokens are sent while there are fewer than `slots`. -/
def dispatcherStep? (items : List ι) (work : ι → Work α ε) (slots : Nat) (s : State ι α ε) :
    Option (State ι α ε) :=
  match s.dispatcher with
  | .acquiring =>
    if s.workers.length < items.length then
      if s.tokens < slots then some { s with dispatcher := .checking, tokens := s.tokens + 1 }
      else none
    else some { s with dispatcher := .stopped }
  | .checking => some { s with dispatcher := if s.failed then .returning else .announcing }
  | .returning => some { s with dispatcher := .stopped, tokens := s.tokens - 1 }
  | .announcing => match items[s.workers.length]? with
    | some item => some { s with
        dispatcher := .spawning
        announced := s.announced ++ [(item, s.workers.length, items.length)] }
    | none => none
  | .spawning => match items[s.workers.length]? with
    | some item => some { s with
        dispatcher := .acquiring
        workers := s.workers ++ [.working (work item)] }
    | none => none
  | .stopped => none

/-- The next step of the worker at an index. -/
def workerStep? (index : Nat) (s : State ι α ε) : Option (State ι α ε) :=
  match s.workers[index]? with
  | some (.working ⟨a :: rest, failure⟩) => some { s with
      workers := s.workers.set index (.working ⟨rest, failure⟩)
      recorded := s.recorded ++ [(index, a)] }
  | some (.working ⟨[], some e⟩) => some { s with workers := s.workers.set index (.storing e) }
  | some (.working ⟨[], none⟩) => some { s with workers := s.workers.set index .releasing }
  | some (.storing e) => some { s with
      workers := s.workers.set index .raising
      error := some (s.error.getD e) }
  | some .raising => some { s with
      workers := s.workers.set index .releasing
      failed := true }
  | some .releasing =>
    if 0 < s.tokens then some { s with
      workers := s.workers.set index .done
      tokens := s.tokens - 1 }
    else none
  | some .done => none
  | none => none

/-- The next step of an actor. -/
def step? (items : List ι) (work : ι → Work α ε) (slots : Nat) (actor : Actor)
    (s : State ι α ε) : Option (State ι α ε) :=
  match actor with
  | .dispatcher => dispatcherStep? items work slots s
  | .worker index => workerStep? index s

/-- The states that some order of steps leads to. -/
inductive Reachable (items : List ι) (work : ι → Work α ε) (slots : Nat) : State ι α ε → Prop
  | start : Reachable items work slots {}
  | step {s t : State ι α ε} (actor : Actor) : Reachable items work slots s →
      step? items work slots actor s = some t → Reachable items work slots t

/-- Whether the run is over: the dispatcher has stopped and all workers are done. -/
def State.isOver (s : State ι α ε) : Bool :=
  s.dispatcher == .stopped && s.workers.all fun
    | .done => true
    | _ => false

end SecretScan.Pool
