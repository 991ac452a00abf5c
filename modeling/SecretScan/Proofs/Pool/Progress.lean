import SecretScan.Proofs.Pool.Invariant

/-!
# Every run of a pool ends

A schedule says who takes the next step.  Every step of every schedule makes `State.left` smaller,
so that no schedule is longer than `Pool.bound`, and somebody can take a step until the run is over
(`Reachable.progress`).  `Pool.run` follows one schedule to its end.
-/

namespace SecretScan.Pool

variable {ι α ε : Type} {items : List ι} {work : ι → Work α ε} {slots : Nat} {s t : State ι α ε}

/-! ## 1. The steps that are left -/

/-- The number of steps of the worker that has this work to do. -/
def Work.steps (w : Work α ε) : Nat := w.records.length + if w.failure.isSome then 4 else 2

/-- The number of steps that a worker has left. -/
def WorkerPhase.left : WorkerPhase α ε → Nat
  | .working rest => rest.steps
  | .storing _ => 3
  | .raising => 2
  | .releasing => 1
  | .done => 0

/-- The number of steps of the dispatcher and of the workers for some items, at most. -/
def ahead (items : List ι) (work : ι → Work α ε) : Nat :=
  (items.map fun item => 4 + (work item).steps).sum

/-- The number of steps that the dispatcher has left and those of the workers that it will spawn, at
most; `n` is the number of steps for the items that have no worker. -/
def DispatcherPhase.left (n : Nat) : DispatcherPhase → Nat
  | .acquiring => n + 1
  | .checking => n
  | .announcing => n - 1
  | .spawning => n - 2
  | .returning => 1
  | .stopped => 0

/-- What is left to do if a worker at a point has `weight` of it left. -/
def State.weigh (weight : WorkerPhase α ε → Nat) (items : List ι) (work : ι → Work α ε)
    (s : State ι α ε) : Nat :=
  (s.workers.map weight).sum + s.dispatcher.left
    ((items.drop s.workers.length).map fun item => 4 + weight (.working (work item))).sum

/-- A worker has less left after each of its steps; a step that records something may cost `c` less
than the others. -/
structure Descends (weight : WorkerPhase α ε → Nat) (c : Nat) : Prop where
  record : ∀ a rest failure,
    weight (.working ⟨rest, failure⟩) + 1 ≤ weight (.working ⟨a :: rest, failure⟩) + c
  fail : ∀ e, weight (.storing e) + 1 ≤ weight (.working ⟨[], some e⟩)
  succeed : weight .releasing + 1 ≤ weight (.working ⟨[], none⟩)
  store : ∀ e, weight .raising + 1 ≤ weight (.storing e)
  raise : weight .releasing + 1 ≤ weight .raising
  release : weight .done + 1 ≤ weight .releasing

section Weigh

variable {weight : WorkerPhase α ε → Nat} {c : Nat}

theorem sum_drop (g : ι → Nat) {k : Nat} {item : ι} (h : items[k]? = some item) :
    ((items.drop k).map g).sum = g item + ((items.drop (k + 1)).map g).sum := by
  obtain ⟨hk, rfl⟩ := List.getElem?_eq_some_iff.mp h
  rw [List.drop_eq_getElem_cons hk, List.map_cons, List.sum_cons]

/-- A worker comes to another point. -/
theorem State.weigh_setPhase {i : Nat} {p q : WorkerPhase α ε} {n : Nat}
    (hphase : s.workers[i]? = some p) (hweight : weight q + 1 ≤ weight p + n) :
    (s.setPhase i q).weigh weight items work + 1 ≤ s.weigh weight items work + n := by
  have hsum := sum_map_set weight hphase q
  simp only [State.weigh, State.setPhase, List.length_set]
  omega

/-- After every step there is less left to do, but for what has been recorded. -/
theorem Step.weigh_le (hweight : Descends weight c) (h : Dispatched items s)
    (hstep : Step items work slots s t) :
    t.weigh weight items work + 1 + c * s.recorded.length ≤
      s.weigh weight items work + c * t.recorded.length := by
  -- while the dispatcher holds a slot there is an item without a worker
  have hnext : 0 < s.dispatcher.held →
      4 ≤ ((items.drop s.workers.length).map fun item =>
        4 + weight (.working (work item))).sum := by
    intro hheld
    rw [sum_drop _ (List.getElem?_eq_getElem (h.next hheld))]
    omega
  cases hstep with
  | acquire hphase | finish hphase | stop hphase =>
    simp only [State.weigh, hphase, DispatcherPhase.left]
    omega
  | pass hphase | give hphase | announce hphase =>
    have := hnext (by rw [hphase]; decide)
    simp only [State.weigh, hphase, DispatcherPhase.left]
    omega
  | spawn hphase hitem =>
    have := sum_drop (fun item => 4 + weight (.working (work item))) hitem
    simp only [State.weigh, hphase, DispatcherPhase.left, List.map_append, List.sum_append,
      List.map_singleton, List.sum_singleton, List.length_append, List.length_singleton]
    omega
  | @record i a rest failure hphase =>
    have hless : (s.setPhase i (.working ⟨rest, failure⟩)).weigh weight items work + 1 ≤
        s.weigh weight items work + c := State.weigh_setPhase hphase (hweight.record a rest failure)
    show (s.setPhase i _).weigh weight items work + 1 + c * s.recorded.length ≤
      s.weigh weight items work + c * (s.recorded ++ [(i, a)]).length
    rw [List.length_append, List.length_singleton, Nat.mul_succ]
    omega
  | fail hphase =>
    exact Nat.add_le_add_right (State.weigh_setPhase (n := 0) hphase (hweight.fail _)) _
  | succeed hphase =>
    exact Nat.add_le_add_right (State.weigh_setPhase (n := 0) hphase hweight.succeed) _
  | store hphase =>
    exact Nat.add_le_add_right (State.weigh_setPhase (n := 0) hphase (hweight.store _)) _
  | raise hphase =>
    exact Nat.add_le_add_right (State.weigh_setPhase (n := 0) hphase hweight.raise) _
  | release hphase =>
    exact Nat.add_le_add_right (State.weigh_setPhase (n := 0) hphase hweight.release) _

end Weigh

/-- The number of steps left, at most. -/
def State.left (items : List ι) (work : ι → Work α ε) (s : State ι α ε) : Nat :=
  (s.workers.map WorkerPhase.left).sum +
    s.dispatcher.left (ahead (items.drop s.workers.length) work)

/-- Each step of a worker is one of those that it has left. -/
theorem descends_left : Descends (WorkerPhase.left : WorkerPhase α ε → Nat) 0 where
  record a rest failure := by
    simp only [WorkerPhase.left, Work.steps, List.length_cons]
    omega
  fail e := le_rfl
  succeed := le_rfl
  store e := le_rfl
  raise := le_rfl
  release := le_rfl

/-- Every step makes the number of steps left smaller. -/
theorem Step.left_lt (h : Dispatched items s) (hstep : Step items work slots s t) :
    t.left items work < s.left items work := by
  have hle := hstep.weigh_le descends_left h
  rw [Nat.zero_mul, Nat.zero_mul] at hle
  exact hle

/-- At the start there are at most as many steps left as the bound says. -/
theorem left_start_le_bound : ({} : State ι α ε).left items work ≤ bound items work := by
  have hle : ahead items work ≤ (items.map fun item => stepsFor (work item)).sum := by
    refine List.sum_le_sum fun item _ => ?_
    simp only [Work.steps, stepsFor]
    split <;> omega
  show 0 + (ahead items work + 1) ≤ (items.map fun item => stepsFor (work item)).sum + 2
  omega

/-! ## 2. Somebody can take a step -/

/-- A worker that is not done can take a step, since its token is in the channel. -/
theorem Reachable.worker_enabled (h : Reachable items work slots s) {i : Nat}
    {p : WorkerPhase α ε} (hphase : s.workers[i]? = some p) (hp : p ≠ .done) :
    ∃ t, step? items work slots (.worker i) s = some t := by
  -- the tokens cover what all workers owe, and so what this one owes
  have htokens : p.owed ≤ s.tokens := by
    have hsum := sum_map_set WorkerPhase.owed hphase .done
    have hacc : s.tokens = (s.workers.map WorkerPhase.owed).sum + s.dispatcher.held := h.accounted
    simp only [WorkerPhase.owed] at hsum ⊢
    omega
  simp only [step?, workerStep?, hphase]
  rcases p with ⟨_ | ⟨a, rest⟩, _ | e⟩ | e | _ | _ | _
  case releasing =>
    have hpos : 0 < s.tokens := htokens
    simp [hpos]
  case done => exact absurd rfl hp
  all_goals exact ⟨_, rfl⟩

/-- The dispatcher waits only for room in the channel. -/
theorem Reachable.full_of_blocked (h : Reachable items work slots s)
    (hphase : s.dispatcher ≠ .stopped) (hblocked : step? items work slots .dispatcher s = none) :
    s.dispatcher = .acquiring ∧ s.workers.length < items.length ∧ slots ≤ s.tokens := by
  -- a dispatcher with a slot has an item to hand out
  have hnext : 0 < s.dispatcher.held → ∃ item, items[s.workers.length]? = some item := fun hheld =>
    ⟨_, List.getElem?_eq_getElem (h.dispatched.next hheld)⟩
  simp only [step?, dispatcherStep?] at hblocked
  cases hd : s.dispatcher with
  | acquiring =>
    simp only [hd] at hblocked
    split_ifs at hblocked with hmore hroom
    exact ⟨rfl, hmore, Nat.le_of_not_lt hroom⟩
  | checking => simp [hd] at hblocked
  | returning => simp [hd] at hblocked
  | announcing =>
    obtain ⟨item, hitem⟩ := hnext (by rw [hd]; decide)
    simp [hd, hitem] at hblocked
  | spawning =>
    obtain ⟨item, hitem⟩ := hnext (by rw [hd]; decide)
    simp [hd, hitem] at hblocked
  | stopped => exact absurd hd hphase

/-- Once all workers are done, the dispatcher can take a step until it has stopped. -/
theorem Reachable.dispatcher_enabled (h : Reachable items work slots s) (hslots : 0 < slots)
    (hdone : ∀ p ∈ s.workers, p = .done) (hphase : s.dispatcher ≠ .stopped) :
    ∃ t, step? items work slots .dispatcher s = some t := by
  cases hstep : step? items work slots .dispatcher s with
  | some t => exact ⟨t, rfl⟩
  | none =>
    -- the channel is empty, so it is not full
    obtain ⟨hacquiring, -, hfull⟩ := h.full_of_blocked hphase hstep
    have hacc : s.tokens = (s.workers.map WorkerPhase.owed).sum + s.dispatcher.held := h.accounted
    have hnone : (s.workers.map WorkerPhase.owed).sum = 0 :=
      List.sum_eq_zero fun n hn => by
        obtain ⟨p, hp, rfl⟩ := List.mem_map.mp hn
        rw [hdone p hp]
        rfl
    have hheld : s.dispatcher.held = 0 := by rw [hacquiring, DispatcherPhase.held]
    omega

theorem getElem?_eq_done (hdone : ∀ p ∈ s.workers, p = .done) {i : Nat}
    (hi : i < s.workers.length) : s.workers[i]? = some .done := by
  rw [List.getElem?_eq_getElem hi, hdone _ (List.getElem_mem hi)]

theorem isOver_iff : s.isOver = true ↔ s.dispatcher = .stopped ∧ ∀ p ∈ s.workers, p = .done := by
  simp only [State.isOver, Bool.and_eq_true, beq_iff_eq, List.all_eq_true]
  refine and_congr_right fun _ => forall₂_congr fun p _ => ?_
  cases p <;> simp

/-- Until the run is over, somebody can take a step. -/
theorem Reachable.progress (h : Reachable items work slots s) (hslots : 0 < slots)
    (hover : s.isOver = false) : ∃ actor t, step? items work slots actor s = some t := by
  by_cases hdone : ∀ p ∈ s.workers, p = .done
  · refine ⟨.dispatcher, h.dispatcher_enabled hslots hdone fun hstopped => ?_⟩
    rw [isOver_iff.mpr ⟨hstopped, hdone⟩] at hover
    cases hover
  · push Not at hdone
    obtain ⟨p, hmem, hp⟩ := hdone
    obtain ⟨i, hi, rfl⟩ := List.getElem_of_mem hmem
    exact ⟨.worker i, h.worker_enabled (List.getElem?_eq_getElem hi) hp⟩

/-! ## 3. Schedules -/

/-- The state that a schedule leads to: `none` if somebody on it cannot take a step when it is
time. -/
def follow (items : List ι) (work : ι → Work α ε) (slots : Nat) (schedule : List Actor)
    (s : State ι α ε) : Option (State ι α ε) :=
  schedule.foldlM (fun s actor => step? items work slots actor s) s

theorem follow_cons_eq_some {actor : Actor} {schedule : List Actor} {u : State ι α ε} :
    follow items work slots (actor :: schedule) s = some u ↔
      ∃ t, step? items work slots actor s = some t ∧
        follow items work slots schedule t = some u := by
  simp only [follow, List.foldlM_cons]
  exact Option.bind_eq_some_iff

/-- Schedules lead to reachable states, and each step on the way leaves less to do. -/
theorem Reachable.follow_weigh_le {weight : WorkerPhase α ε → Nat} {c : Nat} {schedule : List Actor}
    (hweight : Descends weight c) (h : Reachable items work slots s)
    (hfollow : Pool.follow items work slots schedule s = some t) :
    Reachable items work slots t ∧
      t.weigh weight items work + schedule.length + c * s.recorded.length ≤
        s.weigh weight items work + c * t.recorded.length := by
  induction schedule generalizing s with
  | nil =>
    cases hfollow
    exact ⟨h, le_rfl⟩
  | cons actor schedule ih =>
    obtain ⟨u, hu, hrest⟩ := follow_cons_eq_some.mp hfollow
    obtain ⟨hreach, hlater⟩ := ih (h.step actor hu) hrest
    -- one step leaves less to do, and the later ones do by induction
    have hone := (Step.of_step? hu).weigh_le hweight h.dispatched
    refine ⟨hreach, ?_⟩
    rw [List.length_cons]
    omega

/-- Each step on the way is one step less to take. -/
theorem Reachable.follow {schedule : List Actor} (h : Reachable items work slots s)
    (hfollow : follow items work slots schedule s = some t) :
    Reachable items work slots t ∧ t.left items work + schedule.length ≤ s.left items work := by
  obtain ⟨hreach, hle⟩ := h.follow_weigh_le descends_left hfollow
  rw [Nat.zero_mul, Nat.zero_mul] at hle
  exact ⟨hreach, hle⟩

theorem reachable_of_follow {schedule : List Actor}
    (h : follow items work slots schedule {} = some s) : Reachable items work slots s :=
  (Reachable.start.follow h).1

/-- No schedule is longer than the bound. -/
theorem length_le_bound {schedule : List Actor}
    (h : follow items work slots schedule {} = some s) : schedule.length ≤ bound items work := by
  have hleft := (Reachable.start.follow h).2
  have hbound : ({} : State ι α ε).left items work ≤ bound items work := left_start_le_bound
  omega

/-- If no actor on the list takes a step, nobody can. -/
theorem firstStep?_actors_eq_none (h : firstStep? items work slots (actors s) s = none)
    (actor : Actor) : step? items work slots actor s = none := by
  rw [firstStep?, List.findSome?_eq_none_iff] at h
  cases actor with
  | dispatcher => exact h .dispatcher (by simp [actors])
  | worker i =>
    by_cases hi : i < s.workers.length
    · exact h (.worker i) (by simp [actors, hi])
    · simp only [step?, workerStep?, List.getElem?_eq_none (Nat.le_of_not_lt hi)]

/-- With enough fuel the run goes on until it is over. -/
theorem Reachable.runFrom (h : Reachable items work slots s) (hslots : 0 < slots) {fuel : Nat}
    (hfuel : s.left items work ≤ fuel) :
    Reachable items work slots (runFrom items work slots fuel s) ∧
      (runFrom items work slots fuel s).isOver = true := by
  induction fuel generalizing s with
  | zero =>
    refine ⟨h, ?_⟩
    -- no fuel is left because nothing is left to do
    by_contra hover
    obtain ⟨actor, t, ht⟩ := h.progress hslots (Bool.not_eq_true _ ▸ hover)
    have hlt := (Step.of_step? ht).left_lt h.dispatched
    omega
  | succ fuel ih =>
    unfold Pool.runFrom
    split
    next t ht =>
      obtain ⟨actor, -, hstep⟩ := List.exists_of_findSome?_eq_some ht
      have hlt := (Step.of_step? hstep).left_lt h.dispatched
      exact ih (h.step actor hstep) (by omega)
    next hnone =>
      refine ⟨h, ?_⟩
      by_contra hover
      obtain ⟨actor, t, ht⟩ := h.progress hslots (Bool.not_eq_true _ ▸ hover)
      rw [firstStep?_actors_eq_none hnone actor] at ht
      cases ht

theorem slots_pos (concurrency : Nat) : 0 < Pool.slots concurrency := by
  unfold Pool.slots
  omega

/-- `Pool.run` comes to a state that is over. -/
theorem run_over (items : List ι) (work : ι → Work α ε) (concurrency : Nat) :
    Reachable items work (Pool.slots concurrency) (run items work concurrency) ∧
      (run items work concurrency).isOver = true :=
  Reachable.start.runFrom (slots_pos concurrency) left_start_le_bound

end SecretScan.Pool
