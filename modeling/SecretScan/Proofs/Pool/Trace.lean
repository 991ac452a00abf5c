import SecretScan.Proofs.Pool.Invariant

/-!
# What happens on the way to a state of a pool

A trace is an order of steps together with the events on the way: an item is handed to a worker, its
work is completed, and its error is stored.  Whatever the order, every item is handed to a worker at
most once and its work is completed at most once, and no more workers are busy than there are slots
(`Trace.slots_conserved`).
-/

namespace SecretScan.Pool

/-! ## 1. Events -/

/-- What happens to an item, which is given by its index. -/
inductive Event (ε : Type) where
  /-- The item is handed to a worker. -/
  | handed (i : Nat)
  /-- The work on the item ends, with an error if it fails. -/
  | completed (i : Nat) (failure : Option ε)
  /-- The error of the item is stored, unless there is an earlier one. -/
  | stored (i : Nat) (e : ε)
  deriving Repr, DecidableEq

namespace Event

variable {ε : Type}

/-- The item that is handed to a worker. -/
def handed? : Event ε → Option Nat
  | handed i => some i
  | _ => none

/-- How the work on the item at `i` ends. -/
def completedBy? (i : Nat) : Event ε → Option (Option ε)
  | completed j failure => if j = i then some failure else none
  | _ => none

/-- The item whose error is to be stored, and the error. -/
def stored? : Event ε → Option (Nat × ε)
  | stored i e => some (i, e)
  | _ => none

end Event

variable {ι α ε : Type}

/-- What happens when an actor takes its next step. -/
def State.event? (s : State ι α ε) : Actor → Option (Event ε)
  | .dispatcher => match s.dispatcher with
    | .spawning => some (.handed s.workers.length)
    | _ => none
  | .worker i => match s.workers[i]? with
    | some (.working ⟨[], failure⟩) => some (.completed i failure)
    | some (.storing e) => some (.stored i e)
    | _ => none

/-- Some order of steps leads to a state, with these events on the way. -/
inductive Trace (items : List ι) (work : ι → Work α ε) (slots : Nat) :
    List (Event ε) → State ι α ε → Prop
  | start : Trace items work slots [] {}
  | step {h : List (Event ε)} {s t : State ι α ε} (actor : Actor) : Trace items work slots h s →
      step? items work slots actor s = some t →
      Trace items work slots (h ++ (s.event? actor).toList) t

variable {items : List ι} {work : ι → Work α ε} {slots : Nat} {s t : State ι α ε}
  {h : List (Event ε)}

theorem Trace.reachable (htrace : Trace items work slots h s) : Reachable items work slots s := by
  induction htrace with
  | start => exact .start
  | step actor _ hstep ih => exact ih.step actor hstep

theorem Reachable.trace (hreach : Reachable items work slots s) :
    ∃ h, Trace items work slots h s := by
  induction hreach with
  | start => exact ⟨[], .start⟩
  | step actor _ hstep ih =>
    obtain ⟨h, htrace⟩ := ih
    exact ⟨_, htrace.step actor hstep⟩

/-! ## 2. What a step does by its event -/

/-- Whether the work of the worker at this point is completed. -/
def WorkerPhase.isCompleted : WorkerPhase α ε → Bool
  | .working _ => false
  | _ => true

/-- Whether the work on the item at `i` is completed. -/
def State.isCompleted (s : State ι α ε) (i : Nat) : Bool := s.workers[i]?.any WorkerPhase.isCompleted

/-- What a step changes that has an event: the number of workers, the completed work, and the stored
error. -/
inductive Effect (s t : State ι α ε) : Option (Event ε) → Prop
  | quiet (hlength : t.workers.length = s.workers.length) (herror : t.error = s.error)
      (hcompleted : ∀ j, t.isCompleted j = s.isCompleted j) : Effect s t none
  | hand (hlength : t.workers.length = s.workers.length + 1) (herror : t.error = s.error)
      (hcompleted : ∀ j, t.isCompleted j = s.isCompleted j) :
      Effect s t (some (.handed s.workers.length))
  | complete {i : Nat} {failure : Option ε}
      (hphase : s.workers[i]? = some (.working ⟨[], failure⟩))
      (hlength : t.workers.length = s.workers.length) (herror : t.error = s.error)
      (hcompleted : ∀ j, t.isCompleted j = if j = i then true else s.isCompleted j) :
      Effect s t (some (.completed i failure))
  | store {i : Nat} {e : ε} (hphase : s.workers[i]? = some (.storing e))
      (hlength : t.workers.length = s.workers.length) (herror : t.error = some (s.error.getD e))
      (hcompleted : ∀ j, t.isCompleted j = s.isCompleted j) : Effect s t (some (.stored i e))

theorem isCompleted_of_phase {i : Nat} {p : WorkerPhase α ε} (hphase : s.workers[i]? = some p) :
    s.isCompleted i = p.isCompleted := by
  rw [State.isCompleted, hphase, Option.any_some]

theorem isCompleted_congr (hworkers : t.workers = s.workers) (j : Nat) :
    t.isCompleted j = s.isCompleted j := by
  rw [State.isCompleted, hworkers, State.isCompleted]

theorem isCompleted_set {i : Nat} {p q : WorkerPhase α ε} (hphase : s.workers[i]? = some p)
    (hworkers : t.workers = s.workers.set i q) (j : Nat) :
    t.isCompleted j = if j = i then q.isCompleted else s.isCompleted j := by
  have hlt : i < s.workers.length := (List.getElem?_eq_some_iff.mp hphase).1
  rw [State.isCompleted, hworkers]
  split_ifs with hj
  · rw [hj, List.getElem?_set_self hlt, Option.any_some]
  · rw [List.getElem?_set_ne (Ne.symm hj), State.isCompleted]

/-- A worker that comes to another point and neither begins nor completes its work. -/
theorem isCompleted_move {i : Nat} {p q : WorkerPhase α ε} (hphase : s.workers[i]? = some p)
    (hworkers : t.workers = s.workers.set i q) (hsame : q.isCompleted = p.isCompleted) (j : Nat) :
    t.isCompleted j = s.isCompleted j := by
  rw [isCompleted_set hphase hworkers]
  split_ifs with hj
  · rw [hsame, hj, isCompleted_of_phase hphase]
  · rfl

/-- A new worker has not completed its work. -/
theorem isCompleted_append {rest : Work α ε} (hworkers : t.workers = s.workers ++ [.working rest])
    (j : Nat) : t.isCompleted j = s.isCompleted j := by
  rw [State.isCompleted, hworkers, State.isCompleted]
  rcases Nat.lt_trichotomy j s.workers.length with hlt | rfl | hgt
  · rw [List.getElem?_append_left hlt]
  · simp [WorkerPhase.isCompleted]
  · rw [List.getElem?_eq_none (by simp; omega), List.getElem?_eq_none (by omega)]

theorem Effect.of_dispatcherStep? (hstep : dispatcherStep? items work slots s = some t) :
    Effect s t (s.event? .dispatcher) := by
  -- all steps of the dispatcher but one leave the workers as they are
  have hquiet : t.workers = s.workers → t.error = s.error → Effect s t none :=
    fun hworkers herror =>
      .quiet (congrArg List.length hworkers) herror (isCompleted_congr hworkers)
  cases hphase : s.dispatcher with
  | spawning =>
    simp only [dispatcherStep?, hphase] at hstep
    split at hstep
    next item _ =>
      cases hstep
      simp only [State.event?, hphase]
      exact .hand (by simp) rfl (isCompleted_append rfl)
    next => cases hstep
  | acquiring =>
    simp only [dispatcherStep?, hphase] at hstep
    simp only [State.event?, hphase]
    split_ifs at hstep <;> cases hstep <;> exact hquiet rfl rfl
  | announcing =>
    simp only [dispatcherStep?, hphase] at hstep
    simp only [State.event?, hphase]
    split at hstep <;> cases hstep
    exact hquiet rfl rfl
  | checking | returning =>
    simp only [dispatcherStep?, hphase] at hstep
    simp only [State.event?, hphase]
    cases hstep
    exact hquiet rfl rfl
  | stopped =>
    simp only [dispatcherStep?, hphase] at hstep
    cases hstep

theorem Effect.of_workerStep? {i : Nat} (hstep : workerStep? i s = some t) :
    Effect s t (s.event? (.worker i)) := by
  simp only [workerStep?] at hstep
  simp only [State.event?]
  -- the cases are the points of a worker, in the order of its work, and an index without a worker
  split at hstep
  case h_1 hphase =>
    cases hstep
    rw [hphase]
    exact .quiet (by simp) rfl (isCompleted_move hphase rfl rfl)
  case h_2 hphase =>
    cases hstep
    rw [hphase]
    exact .complete hphase (by simp) rfl (isCompleted_set (q := .storing _) hphase rfl)
  case h_3 hphase =>
    cases hstep
    rw [hphase]
    exact .complete hphase (by simp) rfl (isCompleted_set (q := .releasing) hphase rfl)
  case h_4 hphase =>
    cases hstep
    rw [hphase]
    exact .store hphase (by simp) rfl (isCompleted_move hphase rfl rfl)
  case h_5 hphase =>
    cases hstep
    rw [hphase]
    exact .quiet (by simp) rfl (isCompleted_move hphase rfl rfl)
  case h_6 hphase =>
    split_ifs at hstep
    cases hstep
    rw [hphase]
    exact .quiet (by simp) rfl (isCompleted_move hphase rfl rfl)
  case h_7 => cases hstep
  case h_8 => cases hstep

theorem Effect.of_step? {actor : Actor} (hstep : step? items work slots actor s = some t) :
    Effect s t (s.event? actor) := by
  cases actor with
  | dispatcher => exact .of_dispatcherStep? hstep
  | worker i => exact .of_workerStep? hstep

/-! ## 3. What the events on the way tell of a state -/

/-- Items have been handed to workers in order, each once; completed work has been completed once,
with the failure of its item; and the error in the state is the one that was stored first, that of an
item which a worker has. -/
structure Recounts (items : List ι) (work : ι → Work α ε) (h : List (Event ε)) (s : State ι α ε) :
    Prop where
  handed : h.filterMap Event.handed? = List.range s.workers.length
  completed : ∀ {i : Nat} {item : ι}, items[i]? = some item →
    h.filterMap (Event.completedBy? i) = if s.isCompleted i then [(work item).failure] else []
  stored : (h.filterMap Event.stored?).head?.map Prod.snd = s.error
  culprit : ∀ {i : Nat} {e : ε}, (i, e) ∈ h.filterMap Event.stored? →
    i < s.workers.length ∧ ∃ item, items[i]? = some item ∧ (work item).failure = some e

theorem Recounts.start : Recounts items work [] ({} : State ι α ε) where
  handed := rfl
  completed _ := rfl
  stored := rfl
  culprit hmem := nomatch hmem

theorem Recounts.handed_step {event : Option (Event ε)} (hs : Recounts items work h s)
    (heffect : Effect s t event) :
    (h ++ event.toList).filterMap Event.handed? = List.range t.workers.length := by
  rw [List.filterMap_append, hs.handed]
  cases heffect with
  | hand hlength =>
    -- the worker that is added has the next index
    rw [hlength, List.range_succ]
    rfl
  | quiet hlength | complete _ hlength | store _ hlength =>
    rw [hlength]
    exact List.append_nil _

theorem Recounts.completed_step {event : Option (Event ε)} (hreach : Reachable items work slots s)
    (hs : Recounts items work h s) (heffect : Effect s t event) {j : Nat} {item : ι}
    (hget : items[j]? = some item) :
    (h ++ event.toList).filterMap (Event.completedBy? j) =
      if t.isCompleted j then [(work item).failure] else [] := by
  rw [List.filterMap_append, hs.completed hget]
  cases heffect with
  | @complete i failure hphase _ _ hcompleted =>
    rw [hcompleted]
    by_cases hj : j = i
    · -- the work of this item had not been completed before, and its failure is that of the item
      subst hj
      obtain ⟨item', hget', hcourse⟩ := hreach.item hphase
      obtain rfl : item = item' := Option.some.inj (hget.symm.trans hget')
      have hfailure : failure = (work item).failure := hcourse.2
      simp [isCompleted_of_phase hphase, WorkerPhase.isCompleted, Event.completedBy?, hfailure]
    · simp [hj, Event.completedBy?, Ne.symm hj]
  | quiet _ _ hcompleted | hand _ _ hcompleted | store _ _ _ hcompleted =>
    rw [hcompleted]
    exact List.append_nil _

theorem Recounts.stored_step {event : Option (Event ε)} (hs : Recounts items work h s)
    (heffect : Effect s t event) :
    ((h ++ event.toList).filterMap Event.stored?).head?.map Prod.snd = t.error := by
  rw [List.filterMap_append]
  cases heffect with
  | store _ _ herror =>
    -- only the first of the stored errors counts
    rw [herror, ← hs.stored]
    cases h.filterMap Event.stored? <;> rfl
  | quiet _ herror | hand _ herror | complete _ _ herror =>
    rw [herror, ← hs.stored]
    exact congrArg (fun l => (List.head? l).map Prod.snd) (List.append_nil _)

theorem Recounts.culprit_step {event : Option (Event ε)} (hreach : Reachable items work slots s)
    (hs : Recounts items work h s) (heffect : Effect s t event) {j : Nat} {e : ε}
    (hmem : (j, e) ∈ (h ++ event.toList).filterMap Event.stored?) :
    j < t.workers.length ∧ ∃ item, items[j]? = some item ∧ (work item).failure = some e := by
  rw [List.filterMap_append, List.mem_append] at hmem
  -- workers are never taken away, so a culprit stays one
  have hle : s.workers.length ≤ t.workers.length := by cases heffect <;> omega
  rcases hmem with hold | hnew
  · obtain ⟨hlt, hculprit⟩ := hs.culprit hold
    exact ⟨hlt.trans_le hle, hculprit⟩
  · cases heffect with
    | @store i e' hphase =>
      obtain ⟨rfl, rfl⟩ : j = i ∧ e = e' := by simpa [Event.stored?] using hnew
      obtain ⟨item, hget, hcourse⟩ := hreach.item hphase
      exact ⟨(List.getElem?_eq_some_iff.mp hphase).1.trans_le hle, item, hget, hcourse.2⟩
    | quiet | hand | complete => cases hnew

theorem Recounts.step {event : Option (Event ε)} (hreach : Reachable items work slots s)
    (hs : Recounts items work h s) (heffect : Effect s t event) :
    Recounts items work (h ++ event.toList) t where
  handed := hs.handed_step heffect
  completed := hs.completed_step hreach heffect
  stored := hs.stored_step heffect
  culprit := hs.culprit_step hreach heffect

theorem Trace.recounts (htrace : Trace items work slots h s) : Recounts items work h s := by
  induction htrace with
  | start => exact .start
  | step actor hprev hstep ih => exact ih.step hprev.reachable (.of_step? hstep)

/-! ## 4. Slots -/

/-- Whether a worker has not yet given its slot back. -/
def WorkerPhase.isLive : WorkerPhase α ε → Bool
  | .done => false
  | _ => true

/-- The number of items in flight. -/
def State.inFlight (s : State ι α ε) : Nat := s.workers.countP WorkerPhase.isLive

theorem sum_owed (workers : List (WorkerPhase α ε)) :
    (workers.map WorkerPhase.owed).sum = workers.countP WorkerPhase.isLive := by
  induction workers with
  | nil => rfl
  | cons p workers ih =>
    rw [List.map_cons, List.sum_cons, List.countP_cons, ih, Nat.add_comm]
    cases p <;> rfl

/-- The channel never holds more tokens than there are slots. -/
theorem Reachable.tokens_le (hreach : Reachable items work slots s) : s.tokens ≤ slots := by
  refine hreach.invariant (P := fun s => s.tokens ≤ slots) (Nat.zero_le _) fun _ hle hstep => ?_
  cases hstep with
  | acquire _ _ htokens => exact htokens
  | stop | release => exact (Nat.sub_le _ _).trans hle
  | _ => exact hle

/-- The channel holds one token for each item in flight and one for the dispatcher while it holds a
slot, so there are never more items in flight than slots, and whoever takes a token finds one.  The
announced items are the first `k` ones; each of them is handed to one worker, the last one right
after its announcement, and its work is run once at most. -/
theorem Trace.slots_conserved {concurrency : Nat}
    (htrace : Trace items work (Pool.slots concurrency) h s) :
    s.tokens = s.inFlight + s.dispatcher.held ∧
    s.inFlight + s.dispatcher.held ≤ max concurrency 1 ∧
    (∀ i : Nat, s.workers[i]? = some .releasing → 0 < s.tokens) ∧
    (s.dispatcher = .returning → 0 < s.tokens) ∧
    ∃ k ≤ items.length,
      s.announced = (items.take k).zipIdx.map (fun x => (x.1, x.2, items.length)) ∧
      h.filterMap Event.handed? = List.range s.workers.length ∧
      s.workers.length + (if s.dispatcher = .spawning then 1 else 0) = k ∧
      ∀ (i : Nat) item, items[i]? = some item →
        s.recordedBy i <+: (work item).records ∧
        h.filterMap (Event.completedBy? i) <+: [(work item).failure] ∧
        (s.workers.length ≤ i → s.recordedBy i = [] ∧ h.filterMap (Event.completedBy? i) = []) := by
  have hreach := htrace.reachable
  have hrecounts := htrace.recounts
  have htokens : s.tokens = s.inFlight + s.dispatcher.held := by
    rw [State.inFlight, ← sum_owed]
    exact hreach.accounted
  have hahead : s.dispatcher.ahead = if s.dispatcher = .spawning then 1 else 0 := by
    cases s.dispatcher <;> rfl
  refine ⟨htokens, htokens ▸ hreach.tokens_le, fun i hphase => ?_, fun hphase => ?_,
    s.workers.length + s.dispatcher.ahead, ?_, hreach.dispatched.announced, hrecounts.handed,
    by rw [hahead], fun i item hget => ⟨?_, ?_, fun hi => ?_⟩⟩
  · -- a worker that waits for its token is in flight itself
    have hlive : 0 < s.inFlight :=
      List.countP_pos_iff.mpr ⟨_, List.mem_of_getElem? hphase, rfl⟩
    omega
  · rw [hphase] at htokens
    simp only [DispatcherPhase.held] at htokens
    omega
  · have hspawned := hreach.dispatched.spawned
    have hnext := hreach.dispatched.next
    cases hphase : s.dispatcher <;> simp only [DispatcherPhase.ahead, hphase,
      DispatcherPhase.held] at hnext ⊢ <;> omega
  · -- an item without a worker has no records, and a worker is on the course of its item
    cases hphase : s.workers[i]? with
    | none =>
      rw [hreach.recorded.fresh (List.getElem?_eq_none_iff.mp hphase)]
      exact List.nil_prefix
    | some p => exact (hreach.recorded.course hget hphase).prefix_records
  · rw [hrecounts.completed hget]
    split_ifs
    · exact List.prefix_rfl
    · exact List.nil_prefix
  · have hnone : s.isCompleted i = false := by
      rw [State.isCompleted, List.getElem?_eq_none hi, Option.any_none]
    exact ⟨hreach.recorded.fresh hi, by rw [hrecounts.completed hget, hnone]; rfl⟩

/-- While the dispatcher takes its token back after the failure of the first of two items, the worker
that failed waits for one too, and there are two. -/
theorem Trace.slots_conserved_returning :
    ∃ h s, Trace [10, 11] (fun n => ⟨["seen"], some n⟩) (Pool.slots 2) h s ∧
      s.dispatcher = .returning ∧ s.workers = [.releasing] ∧
      s.tokens = s.inFlight + s.dispatcher.held ∧ s.inFlight + s.dispatcher.held ≤ max 2 1 ∧
      0 < s.tokens ∧ h.filterMap Event.handed? = List.range 1 := by
  have hstart : Trace [10, 11] (fun n => (⟨["seen"], some n⟩ : Work String Nat)) (Pool.slots 2) []
      {} := .start
  have hspawned := (((hstart.step .dispatcher rfl).step .dispatcher rfl).step .dispatcher
    rfl).step .dispatcher rfl
  -- the dispatcher holds a slot before the failure is made known
  have htrace := ((((hspawned.step .dispatcher rfl).step (.worker 0) rfl).step (.worker 0) rfl).step
    (.worker 0) rfl).step (.worker 0) rfl |>.step .dispatcher rfl
  obtain ⟨htokens, hflight, -, hreturning, k, -, -, hhanded, -⟩ := htrace.slots_conserved
  exact ⟨_, _, htrace, rfl, rfl, htokens, hflight, hreturning rfl, hhanded⟩

end SecretScan.Pool
