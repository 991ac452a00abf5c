import SecretScan.Proofs.Pool.Outcome
import SecretScan.Proofs.Pool.Trace

/-!
# Nobody in a pool waits forever

As long as a run is not over, somebody can take a step, whatever the order of steps was so far.  A
worker never waits for its token, also not after the dispatcher has taken one back.  The dispatcher
waits only while the channel is full, and then any of the live workers makes room for it by steps of
its own alone (`Live`).

A step in which something is recorded is taken inside a work call.  Of the other steps, which are
those of the pool itself, there are at most eight for an item and one more
(`follow_length_le`).
-/

namespace SecretScan.Pool

variable {ι α ε : Type} {items : List ι} {work : ι → Work α ε} {slots : Nat}
  {s t u : State ι α ε}

/-! ## 1. The steps of the pool itself -/

/-- The number of steps outside its work call that a worker has left, at most. -/
def WorkerPhase.own : WorkerPhase α ε → Nat
  | .working _ => 4
  | .storing _ => 3
  | .raising => 2
  | .releasing => 1
  | .done => 0

/-- Of the steps of a worker, those that record something are not counted. -/
theorem descends_own : Descends (WorkerPhase.own : WorkerPhase α ε → Nat) 1 where
  record _ _ _ := le_rfl
  fail _ := le_rfl
  -- without a failure the error is neither stored nor made known
  succeed := show 2 ≤ 4 by decide
  store _ := le_rfl
  raise := le_rfl
  release := le_rfl

/-- At most eight steps for an item and one more are taken outside of work calls. -/
theorem follow_length_le {schedule : List Actor}
    (h : follow items work slots schedule {} = some s) :
    schedule.length ≤ 8 * items.length + 1 + s.recorded.length := by
  obtain ⟨-, hle⟩ := Reachable.start.follow_weigh_le descends_own h
  have hstart : ({} : State ι α ε).weigh WorkerPhase.own items work = 8 * items.length + 1 := by
    simp [State.weigh, DispatcherPhase.left, WorkerPhase.own, Nat.mul_comm]
  have hnone : ({} : State ι α ε).recorded.length = 0 := rfl
  omega

theorem follow_append {first rest : List Actor} :
    follow items work slots (first ++ rest) s =
      (follow items work slots first s).bind (follow items work slots rest) :=
  List.foldlM_append

/-- There is no infinite run. -/
theorem not_exists_infinite_run (items : List ι) (work : ι → Work α ε) (slots : Nat) :
    ¬ ∃ run : Nat → State ι α ε, run 0 = {} ∧
      ∀ n, ∃ actor, step? items work slots actor (run n) = some (run (n + 1)) := by
  rintro ⟨run, hstart, hnext⟩
  -- the first steps of a run are a schedule, and schedules are bounded
  have hschedule : ∀ n, ∃ schedule : List Actor, schedule.length = n ∧
      follow items work slots schedule {} = some (run n) := by
    intro n
    induction n with
    | zero => exact ⟨[], rfl, congrArg some hstart.symm⟩
    | succ n ih =>
      obtain ⟨schedule, hlength, hfollow⟩ := ih
      obtain ⟨actor, hactor⟩ := hnext n
      refine ⟨schedule ++ [actor], by rw [List.length_append, hlength]; rfl, ?_⟩
      rw [follow_append, hfollow, Option.bind_some]
      exact follow_cons_eq_some.mpr ⟨_, hactor, rfl⟩
  obtain ⟨schedule, hlength, hfollow⟩ := hschedule (bound items work + 1)
  have hle := length_le_bound hfollow
  omega

/-! ## 2. Steps of one worker alone -/

/-- From `s` to `t` only the worker at `i` has moved, from the point `p` to the point `q`. -/
structure Advance (s t : State ι α ε) (i : Nat) (p q : WorkerPhase α ε) : Prop where
  workers : t.workers = s.workers.set i q
  dispatcher : t.dispatcher = s.dispatcher
  tokens : t.tokens + p.owed = s.tokens + q.owed

theorem Advance.trans {i : Nat} {p q r : WorkerPhase α ε} (h : Advance s t i p q)
    (hnext : Advance t u i q r) : Advance s u i p r where
  workers := by rw [hnext.workers, h.workers, List.set_set]
  dispatcher := hnext.dispatcher.trans h.dispatcher
  tokens := by
    have := h.tokens
    have := hnext.tokens
    omega

/-- A step of a worker brings it nearer to its end. -/
theorem Advance.of_workerStep? {i : Nat} {p : WorkerPhase α ε} (hphase : s.workers[i]? = some p)
    (hstep : workerStep? i s = some t) : ∃ q : WorkerPhase α ε, Advance s t i p q ∧
      q.left < p.left := by
  simp only [workerStep?, hphase] at hstep
  rcases p with ⟨_ | ⟨a, rest⟩, _ | e⟩ | e | _ | _ | _
  case releasing =>
    split_ifs at hstep with htokens
    cases hstep
    refine ⟨.done, ⟨rfl, rfl, ?_⟩, Nat.zero_lt_one⟩
    show s.tokens - 1 + 1 = s.tokens + 0
    omega
  case done => cases hstep
  -- at all other points the worker keeps its token
  case working.nil.none =>
    cases hstep
    exact ⟨.releasing, ⟨rfl, rfl, rfl⟩, show 1 < 2 by decide⟩
  case working.nil.some =>
    cases hstep
    exact ⟨.storing e, ⟨rfl, rfl, rfl⟩, by simp [WorkerPhase.left, Work.steps]⟩
  case working.cons.none =>
    cases hstep
    exact ⟨.working ⟨rest, none⟩, ⟨rfl, rfl, rfl⟩, by simp [WorkerPhase.left, Work.steps]⟩
  case working.cons.some =>
    cases hstep
    exact ⟨.working ⟨rest, some e⟩, ⟨rfl, rfl, rfl⟩, by simp [WorkerPhase.left, Work.steps]⟩
  case storing =>
    cases hstep
    exact ⟨.raising, ⟨rfl, rfl, rfl⟩, show 2 < 3 by decide⟩
  case raising =>
    cases hstep
    exact ⟨.releasing, ⟨rfl, rfl, rfl⟩, show 1 < 2 by decide⟩

/-- A worker comes to its end by steps of its own alone. -/
theorem Reachable.worker_finishes (h : Reachable items work slots s) {i : Nat}
    {p : WorkerPhase α ε} (hphase : s.workers[i]? = some p) :
    ∃ k t, Pool.follow items work slots (List.replicate k (.worker i)) s = some t ∧
      Advance s t i p .done := by
  have hi : i < s.workers.length := (List.getElem?_eq_some_iff.mp hphase).1
  -- on the steps that the worker has left; nobody else moves on the way
  induction hn : p.left using Nat.strong_induction_on generalizing s p with
  | _ n ih =>
    by_cases hdone : p = .done
    · subst hdone
      have hsame : s.workers.set i .done = s.workers := by
        rw [← (List.getElem?_eq_some_iff.mp hphase).2, List.set_getElem_self]
      exact ⟨0, s, rfl, hsame.symm, rfl, rfl⟩
    · obtain ⟨t, ht⟩ := h.worker_enabled hphase hdone
      obtain ⟨q, hmove, hlt⟩ := Advance.of_workerStep? hphase ht
      have hi' : i < t.workers.length := by rwa [hmove.workers, List.length_set]
      have hphase' : t.workers[i]? = some q := by rw [hmove.workers, List.getElem?_set_self hi]
      obtain ⟨k, u, hfollow, hrest⟩ := ih q.left (hn ▸ hlt) (h.step _ ht) hphase' hi' rfl
      refine ⟨k + 1, u, ?_, hmove.trans hrest⟩
      rw [List.replicate_succ]
      exact follow_cons_eq_some.mpr ⟨t, ht, hfollow⟩

/-! ## 3. Who waits for what -/

/-- While the dispatcher waits, some worker is not done. -/
theorem Reachable.live_of_blocked (h : Reachable items work slots s) (hslots : 0 < slots)
    (hphase : s.dispatcher ≠ .stopped) (hblocked : step? items work slots .dispatcher s = none) :
    ∃ (i : Nat) (p : WorkerPhase α ε), s.workers[i]? = some p ∧ p ≠ .done := by
  by_contra hnone
  have hdone : ∀ p ∈ s.workers, p = .done := by
    intro p hmem
    by_contra hp
    obtain ⟨i, hi, rfl⟩ := List.getElem_of_mem hmem
    exact hnone ⟨i, _, List.getElem?_eq_getElem hi, hp⟩
  obtain ⟨t, ht⟩ := h.dispatcher_enabled hslots hdone hphase
  rw [hblocked] at ht
  cases ht

/-- After a live worker has come to its end, the dispatcher no longer waits. -/
theorem Advance.sends {i : Nat} {p : WorkerPhase α ε} (h : Advance s t i p .done) (hp : p ≠ .done)
    (hphase : s.dispatcher = .acquiring) (hmore : s.workers.length < items.length)
    (hfull : s.tokens = slots) : step? items work slots .dispatcher t =
      some { t with dispatcher := .checking, tokens := t.tokens + 1 } := by
  have hroom : t.tokens < slots := by
    have howed : p.owed = 1 := by
      cases p with
      | done => exact absurd rfl hp
      | _ => rfl
    have htokens : t.tokens + p.owed = s.tokens + 0 := h.tokens
    omega
  have hmore' : t.workers.length < items.length := by rwa [h.workers, List.length_set]
  simp only [step?, dispatcherStep?, h.dispatcher, hphase, if_pos hmore', if_pos hroom]

theorem step?_of_isOver (hover : s.isOver = true) (actor : Actor) :
    step? items work slots actor s = none := by
  obtain ⟨hstopped, hdone⟩ := isOver_iff.mp hover
  cases actor with
  | dispatcher => simp only [step?, dispatcherStep?, hstopped]
  | worker i =>
    simp only [step?, workerStep?]
    cases hphase : s.workers[i]? with
    | none => rfl
    | some p => rw [hdone p (List.mem_of_getElem? hphase)]

/-- Every schedule can be continued until the run is over. -/
theorem Reachable.exists_over (h : Reachable items work slots s) (hslots : 0 < slots) :
    ∃ schedule t, Pool.follow items work slots schedule s = some t ∧ t.isOver = true := by
  induction hn : s.left items work using Nat.strong_induction_on generalizing s with
  | _ n ih =>
    cases hover : s.isOver with
    | true => exact ⟨[], s, rfl, hover⟩
    | false =>
      obtain ⟨actor, t, ht⟩ := h.progress hslots hover
      have hlt := (Step.of_step? ht).left_lt h.dispatched
      obtain ⟨rest, u, hfollow, hend⟩ := ih _ (hn ▸ hlt) (h.step actor ht) rfl
      exact ⟨actor :: rest, u, follow_cons_eq_some.mpr ⟨t, ht, hfollow⟩, hend⟩

/-- From this state on nobody waits forever.  Whoever is named as the next one to take a step in
`over_iff`, `worker_enabled` and `worker_finishes` needs nobody else for it. -/
structure Live (items : List ι) (work : ι → Work α ε) (slots : Nat) (s : State ι α ε) : Prop where
  over_iff : s.isOver = true ↔ ∀ actor, step? items work slots actor s = none
  worker_enabled : ∀ {i : Nat} {p : WorkerPhase α ε}, s.workers[i]? = some p → p ≠ .done →
    ∃ t, step? items work slots (.worker i) s = some t
  worker_finishes : ∀ {i : Nat} {p : WorkerPhase α ε}, s.workers[i]? = some p →
    ∃ k t, follow items work slots (List.replicate k (.worker i)) s = some t ∧
      t.workers = s.workers.set i .done
  dispatcher_blocked : s.dispatcher ≠ .stopped → step? items work slots .dispatcher s = none →
    s.dispatcher = .acquiring ∧ s.tokens = slots ∧
    (∃ (i : Nat) (p : WorkerPhase α ε), s.workers[i]? = some p ∧ p ≠ .done) ∧
    ∀ {i : Nat} {p : WorkerPhase α ε}, s.workers[i]? = some p → p ≠ .done →
      ∃ k t u, follow items work slots (List.replicate k (.worker i)) s = some t ∧
        step? items work slots .dispatcher t = some u ∧ u.dispatcher = .checking
  ends : ∃ schedule t, follow items work slots schedule s = some t ∧ t.isOver = true

theorem Reachable.live (h : Reachable items work slots s) (hslots : 0 < slots) :
    Live items work slots s where
  over_iff := by
    constructor
    · exact step?_of_isOver
    · intro hnone
      by_contra hover
      obtain ⟨actor, t, ht⟩ := h.progress hslots (Bool.not_eq_true _ ▸ hover)
      rw [hnone actor] at ht
      cases ht
  worker_enabled := h.worker_enabled
  worker_finishes hphase := by
    obtain ⟨k, t, hfollow, hmove⟩ := h.worker_finishes hphase
    exact ⟨k, t, hfollow, hmove.workers⟩
  dispatcher_blocked hphase hblocked := by
    obtain ⟨hacquiring, hmore, hfull⟩ := h.full_of_blocked hphase hblocked
    -- the channel is full and never holds more than there are slots
    have htokens : s.tokens = slots := le_antisymm h.tokens_le hfull
    refine ⟨hacquiring, htokens, h.live_of_blocked hslots hphase hblocked, fun hworker hp => ?_⟩
    obtain ⟨k, t, hfollow, hmove⟩ := h.worker_finishes hworker
    exact ⟨k, t, _, hfollow, hmove.sends hp hacquiring hmore htokens, rfl⟩
  ends := h.exists_over hslots

/-- Whatever order the steps are taken in, nobody waits forever, and the order comes to its end: of
its steps no more than eight for an item and one more are not taken inside work calls, and no order
is infinite. -/
theorem never_deadlocks (items : List ι) (work : ι → Work α ε) (concurrency : Nat) :
    (∀ (schedule : List Actor) (s : State ι α ε),
      follow items work (Pool.slots concurrency) schedule {} = some s →
        Live items work (Pool.slots concurrency) s ∧
        schedule.length ≤ 8 * items.length + 1 + s.recorded.length ∧
        ((∀ item ∈ items, (work item).records = []) → schedule.length ≤ 8 * items.length + 1)) ∧
    ¬ ∃ run : Nat → State ι α ε, run 0 = {} ∧
      ∀ n, ∃ actor, step? items work (Pool.slots concurrency) actor (run n) =
        some (run (n + 1)) := by
  refine ⟨fun schedule s h => ?_, not_exists_infinite_run items work _⟩
  have hreach := reachable_of_follow h
  have hlength := follow_length_le h
  refine ⟨hreach.live (slots_pos concurrency), hlength, fun hquiet => ?_⟩
  -- what has been recorded belongs to the work of some item
  have hnone : s.recorded = [] := by
    refine List.eq_nil_iff_forall_not_mem.mpr fun x hx => ?_
    obtain ⟨item, hitem, hmem⟩ := hreach.mem_records hx
    rw [hquiet item hitem] at hmem
    cases hmem
  rwa [hnone] at hlength

/-- With one slot the dispatcher waits for the worker of the first of two items, which is to fail.
The worker comes to its end by itself, and the dispatcher goes on. -/
theorem never_deadlocks_blocked :
    ∃ s, follow [10, 11] (fun n => (⟨["seen"], some n⟩ : Work String Nat)) (Pool.slots 1)
        (List.replicate 4 .dispatcher) {} = some s ∧
      step? [10, 11] (fun n => (⟨["seen"], some n⟩ : Work String Nat)) (Pool.slots 1)
        .dispatcher s = none ∧
      s.isOver = false ∧
      ∃ k t u, follow [10, 11] (fun n => (⟨["seen"], some n⟩ : Work String Nat)) (Pool.slots 1)
          (List.replicate k (.worker 0)) s = some t ∧
        step? [10, 11] (fun n => (⟨["seen"], some n⟩ : Work String Nat)) (Pool.slots 1)
          .dispatcher t = some u ∧ u.dispatcher = .checking := by
  obtain ⟨hlive, -, -⟩ :=
    (never_deadlocks [10, 11] (fun n => (⟨["seen"], some n⟩ : Work String Nat)) 1).1
      (List.replicate 4 .dispatcher) _ rfl
  obtain ⟨-, -, -, hfrees⟩ := hlive.dispatcher_blocked (by decide) rfl
  exact ⟨_, rfl, rfl, rfl, hfrees (i := 0) rfl nofun⟩

end SecretScan.Pool
