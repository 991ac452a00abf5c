import SecretScan.Proofs.Pool.Failure
import SecretScan.Proofs.Pool.Liveness

/-!
# A pool stops after a failure

Once a failure has been made known, the dispatcher hands out at most the one item for which it has
already looked (`follow_after_failure`).

With one slot the order of steps does not matter.  The failure is made known before the slot is
given back, so that the dispatcher, which needs the slot to look, sees it.  Such a pool does what a
loop does that handles one item after the other up to the first failure (`upToFailure`).
-/

namespace SecretScan.Pool

variable {ι α ε : Type} {items : List ι} {work : ι → Work α ε} {slots : Nat} {s t : State ι α ε}

/-! ## 1. What is still dispatched after a failure -/

/-- How many items the dispatcher still hands to workers without looking for a failure. -/
@[simp]
def DispatcherPhase.cleared : DispatcherPhase → Nat
  | .announcing | .spawning => 1
  | _ => 0

/-- While an item is to be handed out without looking, the slot for it is held. -/
theorem DispatcherPhase.held_of_cleared (d : DispatcherPhase) (h : 0 < d.cleared) :
    0 < d.held := by
  cases d with
  | announcing | spawning => exact Nat.zero_lt_one
  | _ => cases h

/-- How many items the dispatcher still announces without looking for a failure. -/
@[simp]
def DispatcherPhase.unannounced : DispatcherPhase → Nat
  | .announcing => 1
  | _ => 0

/-- After a failure has been made known it stays known, and what the dispatcher has done and what it
still does without looking add up to the same. -/
theorem Step.after_failure (hfailed : s.failed = true) (hstep : Step items work slots s t) :
    t.failed = true ∧
    t.workers.length + t.dispatcher.cleared = s.workers.length + s.dispatcher.cleared ∧
    t.announced.length + t.dispatcher.unannounced =
      s.announced.length + s.dispatcher.unannounced := by
  cases hstep with
  | pass _ hcalm =>
    -- the dispatcher does not pass any more
    rw [hfailed] at hcalm
    cases hcalm
  -- what one count loses when the dispatcher goes on, the list beside it gains
  | acquire hphase | finish hphase | give hphase | stop hphase | announce hphase | spawn hphase =>
    simp [hphase, hfailed]
  | raise => simp [State.setPhase]
  | _ => simp [State.setPhase, hfailed]

/-- Whatever steps are taken after a failure has been made known, at most one more item is announced
and handed to a worker: the one for which the dispatcher has already looked. -/
theorem follow_after_failure {rest : List Actor} (hfailed : s.failed = true)
    (hrest : follow items work slots rest s = some t) :
    t.failed = true ∧
    t.workers.length ≤ s.workers.length + s.dispatcher.cleared ∧
    t.announced.length ≤ s.announced.length + s.dispatcher.unannounced := by
  -- the sums of `Step.after_failure` stay the same along the schedule
  induction rest generalizing s with
  | nil =>
    cases hrest
    exact ⟨hfailed, Nat.le_add_right _ _, Nat.le_add_right _ _⟩
  | cons actor rest ih =>
    obtain ⟨u, hu, hlater⟩ := follow_cons_eq_some.mp hrest
    obtain ⟨hstill, hworkers, hannounced⟩ := (Step.of_step? hu).after_failure hfailed
    obtain ⟨hend, hle, hle'⟩ := ih hstill hlater
    exact ⟨hend, hworkers ▸ hle, hannounced ▸ hle'⟩

/-! ## 2. A failure is known before its slot is free -/

/-- Whether a worker at this point has made its failure known, if its work failed. -/
def WorkerPhase.hasRaised : WorkerPhase α ε → Bool
  | .releasing | .done => true
  | _ => false

/-- A worker that gives its slot back has made known that its work failed. -/
def Flagged (items : List ι) (work : ι → Work α ε) (s : State ι α ε) : Prop :=
  Marked items work WorkerPhase.hasRaised (s.failed = true) s

theorem Flagged.step (hreach : Reachable items work slots s) (hs : Flagged items work s)
    (hstep : Step items work slots s t) : Flagged items work t := by
  cases hstep with
  | acquire | finish | pass | give | stop | announce => exact hs.congr rfl id
  | spawn => exact hs.spawn rfl rfl
  | record hphase | fail hphase => exact hs.move hphase rfl id fun _ _ hraised => nomatch hraised
  | succeed hphase =>
    refine hs.move hphase rfl id fun item hitem _ hfailure => absurd ?_ hfailure
    exact (hreach.recorded.course hitem hphase).2.symm
  | store hphase => exact hs.move hphase rfl id fun _ _ hraised => nomatch hraised
  | raise hphase => exact hs.move hphase rfl (fun _ => rfl) fun _ _ _ _ => rfl
  | release hphase => exact hs.move hphase rfl id fun _ hitem _ => hs.mark hitem hphase rfl

theorem Reachable.flagged (hreach : Reachable items work slots s) : Flagged items work s :=
  hreach.invariant (P := Flagged items work) .start Flagged.step

/-- The stored error is that of an item which a worker has. -/
theorem Reachable.culprit (hreach : Reachable items work slots s) {e : ε}
    (herror : s.error = some e) :
    ∃ i < s.workers.length, ∃ item, items[i]? = some item ∧ (work item).failure = some e := by
  obtain ⟨h, htrace⟩ := hreach.trace
  have hstored := htrace.recounts.stored
  rw [herror, Option.map_eq_some_iff] at hstored
  obtain ⟨⟨i, e'⟩, hhead, rfl⟩ := hstored
  exact ⟨i, htrace.recounts.culprit (List.mem_of_head? hhead)⟩

/-! ## 3. One slot -/

/-- With one slot, all workers are done while the dispatcher holds the slot. -/
theorem Reachable.all_done_of_held (hreach : Reachable items work 1 s)
    (hheld : 0 < s.dispatcher.held) : ∀ p ∈ s.workers, p = .done := by
  have hnone : (s.workers.map WorkerPhase.owed).sum = 0 := by
    have hle := hreach.tokens_le
    have hacc : s.tokens = (s.workers.map WorkerPhase.owed).sum + s.dispatcher.held :=
      hreach.accounted
    omega
  intro p hmem
  have howed := List.sum_eq_zero_iff.mp hnone p.owed (List.mem_map_of_mem hmem)
  cases p with
  | done => rfl
  | _ => cases howed

/-- With one slot, items are handled one after the other.  Only the last worker may be busy, the
items before it did not fail, and what has been recorded has been recorded item by item.  The
dispatcher announces an item and hands it to a worker only while there was no failure. -/
structure Sequential (items : List ι) (work : ι → Work α ε) (s : State ι α ε) : Prop where
  done : ∀ {i : Nat}, i + 1 < s.workers.length → s.workers[i]? = some .done
  succeeded : ∀ {i : Nat} {item : ι}, items[i]? = some item → i + 1 < s.workers.length →
    (work item).failure = none
  calm : 0 < s.dispatcher.cleared → s.failed = false
  ordered : s.recorded.map Prod.snd = (List.range s.workers.length).flatMap s.recordedBy

/-- What the last worker records comes last. -/
theorem State.flatMap_recordedBy {i : Nat} {a : α} (h : t.recorded = s.recorded ++ [(i, a)]) :
    (List.range (i + 1)).flatMap t.recordedBy =
      (List.range (i + 1)).flatMap s.recordedBy ++ [a] := by
  have hothers : (List.range i).flatMap t.recordedBy = (List.range i).flatMap s.recordedBy :=
    List.flatMap_congr fun j hj => State.recordedBy_of_ne h (List.mem_range.mp hj).ne
  simp only [List.range_succ, List.flatMap_append, List.flatMap_singleton, hothers,
    State.recordedBy_self h, List.append_assoc]

theorem Sequential.start : Sequential items work ({} : State ι α ε) where
  done h := absurd h (by simp)
  succeeded _ h := absurd h (by simp)
  calm h := absurd h (Nat.lt_irrefl 0)
  ordered := rfl

/-- The dispatcher comes to another point. -/
theorem Sequential.turn (hs : Sequential items work s) (hworkers : t.workers = s.workers)
    (hrecorded : t.recorded = s.recorded) (hcalm : 0 < t.dispatcher.cleared → t.failed = false) :
    Sequential items work t where
  done := by rw [hworkers]; exact hs.done
  succeeded := by rw [hworkers]; exact hs.succeeded
  calm := hcalm
  ordered := by
    rw [hworkers, hrecorded, State.recordedBy_congr hrecorded]
    exact hs.ordered

/-- Only the last worker can take a step. -/
theorem Sequential.last (hs : Sequential items work s) {i : Nat} {p : WorkerPhase α ε}
    (hphase : s.workers[i]? = some p) (hp : p.isLive = true) : s.workers.length = i + 1 := by
  have hlt : i < s.workers.length := (List.getElem?_eq_some_iff.mp hphase).1
  by_contra hne
  have hdone := hs.done (i := i) (by omega)
  rw [hphase] at hdone
  obtain rfl : p = .done := Option.some.inj hdone
  cases hp

/-- The last worker comes to another point. -/
theorem Sequential.move (hs : Sequential items work s) {i : Nat} {p q : WorkerPhase α ε}
    (hphase : s.workers[i]? = some p) (hp : p.isLive = true)
    (hworkers : t.workers = s.workers.set i q)
    (hcalm : 0 < t.dispatcher.cleared → t.failed = false)
    (hordered : t.recorded.map Prod.snd = (List.range (i + 1)).flatMap t.recordedBy) :
    Sequential items work t where
  done {j} hj := by
    -- a busy worker is the last one, so those before it are not touched
    have hlast := hs.last hphase hp
    rw [hworkers, List.length_set] at hj
    rw [hworkers, List.getElem?_set_ne (by omega)]
    exact hs.done hj
  succeeded hitem hj := by
    rw [hworkers, List.length_set] at hj
    exact hs.succeeded hitem hj
  calm := hcalm
  ordered := by
    rw [hworkers, List.length_set, hs.last hphase hp]
    exact hordered

theorem Sequential.step (hreach : Reachable items work 1 s) (hs : Sequential items work s)
    (hstep : Step items work 1 s t) : Sequential items work t := by
  -- a worker that records nothing
  have hquiet : ∀ {i : Nat} {p : WorkerPhase α ε}, s.workers[i]? = some p → p.isLive = true →
      s.recorded.map Prod.snd = (List.range (i + 1)).flatMap s.recordedBy := by
    intro i p hphase hp
    rw [← hs.last hphase hp]
    exact hs.ordered
  cases hstep with
  | acquire | finish => exact hs.turn rfl rfl fun hcleared => absurd hcleared (Nat.lt_irrefl 0)
  | pass _ hcalm => exact hs.turn rfl rfl fun _ => hcalm
  | give | stop => exact hs.turn rfl rfl fun hcleared => absurd hcleared (Nat.lt_irrefl 0)
  | announce hphase =>
    exact hs.turn rfl rfl fun _ => hs.calm (by rw [hphase]; decide)
  | @spawn hphase item hitem =>
    -- the dispatcher holds the slot, so the workers so far are done, and none of them failed
    have hdone := hreach.all_done_of_held (by rw [hphase]; decide)
    have hcalm := hs.calm (by rw [hphase]; decide)
    refine ⟨fun {i} hi => ?_, fun {i item'} hitem' hi => ?_,
      fun hcleared => absurd hcleared (Nat.lt_irrefl 0), ?_⟩
    · simp only [List.length_append, List.length_singleton] at hi
      have hlt : i < s.workers.length := by omega
      show (s.workers ++ _)[i]? = some .done
      rw [List.getElem?_append_left hlt, getElem?_eq_done hdone hlt]
    · simp only [List.length_append, List.length_singleton] at hi
      have hlt : i < s.workers.length := by omega
      by_contra hfailure
      have hfailed := hreach.flagged.mark hitem' (getElem?_eq_done hdone hlt) rfl hfailure
      rw [hcalm] at hfailed
      cases hfailed
    · show s.recorded.map Prod.snd = (List.range (s.workers ++ _).length).flatMap s.recordedBy
      rw [List.length_append, List.length_singleton, List.range_succ, List.flatMap_append,
        List.flatMap_singleton, hreach.recorded.fresh le_rfl, List.append_nil]
      exact hs.ordered
  | @record i a rest failure hphase =>
    refine hs.move hphase rfl rfl hs.calm ?_
    show (s.recorded ++ [(i, a)]).map Prod.snd = _
    rw [List.map_append, hquiet hphase rfl]
    exact (State.flatMap_recordedBy rfl).symm
  | fail hphase | succeed hphase | store hphase =>
    exact hs.move hphase rfl rfl hs.calm (hquiet hphase rfl)
  | raise hphase =>
    -- a busy worker has the only slot, so the dispatcher is not about to hand out an item
    refine hs.move hphase rfl rfl (fun hcleared => ?_) (hquiet hphase rfl)
    have hheld := s.dispatcher.held_of_cleared hcleared
    have hdone := hreach.all_done_of_held hheld _ (List.mem_of_getElem? hphase)
    cases hdone
  | release hphase => exact hs.move hphase rfl rfl hs.calm (hquiet hphase rfl)

theorem Reachable.sequential (hreach : Reachable items work 1 s) : Sequential items work s :=
  hreach.invariant .start .step

/-- With one slot an item is announced only after the items before it have been completed. -/
theorem Reachable.done_of_announced (hreach : Reachable items work 1 s) {i : Nat}
    (hi : i + 1 < s.announced.length) : s.workers[i]? = some .done := by
  have hlength : s.announced.length ≤ s.workers.length + s.dispatcher.ahead := by
    rw [hreach.dispatched.announced, announcements, List.length_map, List.length_zipIdx]
    exact List.length_take_le _ _
  by_cases hphase : s.dispatcher = .spawning
  · -- the last announced item has no worker yet
    have hlt : i < s.workers.length := by
      rw [hphase] at hlength
      simp only [DispatcherPhase.ahead] at hlength
      omega
    exact getElem?_eq_done (hreach.all_done_of_held (by rw [hphase]; decide)) hlt
  · have hnone : s.dispatcher.ahead = 0 := by
      cases hd : s.dispatcher with
      | spawning => exact absurd hd hphase
      | _ => rfl
    exact hreach.sequential.done (by omega)

/-! ## 4. The loop over the items -/

/-- The items that a loop handles which ends with the first failure. -/
def upToFailure (work : ι → Work α ε) : List ι → List ι
  | [] => []
  | item :: items => match (work item).failure with
    | some _ => [item]
    | none => item :: upToFailure work items

/-- A run over items that has done what a loop over them does.  The loop ends with the first
failure, and its error is that of this item. -/
structure LikeLoop (items : List ι) (work : ι → Work α ε) (s : State ι α ε) : Prop where
  processed : s.processed items = upToFailure work items
  announced : s.announced = announcements items (upToFailure work items).length
  recorded : s.recorded.map Prod.snd =
    (upToFailure work items).flatMap fun item => (work item).records
  result : s.result = match items.findSome? fun item => (work item).failure with
    | some e => .error e
    | none => .ok ()

theorem upToFailure_eq_self (hok : ∀ item ∈ items, (work item).failure = none) :
    upToFailure work items = items := by
  induction items with
  | nil => rfl
  | cons item items ih =>
    rw [upToFailure, hok item List.mem_cons_self]
    exact congrArg _ (ih fun other hmem => hok other (List.mem_cons_of_mem _ hmem))

/-- If an item fails and no item before it does, the loop ends with this item. -/
theorem upToFailure_eq_take {k : Nat} {item : ι} {e : ε} (hitem : items[k]? = some item)
    (hfailure : (work item).failure = some e)
    (hbefore : ∀ j other, items[j]? = some other → j < k → (work other).failure = none) :
    upToFailure work items = items.take (k + 1) ∧
      items.findSome? (fun item => (work item).failure) = some e := by
  induction items generalizing k with
  | nil => cases hitem
  | cons first items ih =>
    -- the loop ends here, or it goes on to an item that is one nearer
    cases k with
    | zero =>
      cases hitem
      rw [upToFailure, hfailure, List.findSome?_cons, hfailure]
      exact ⟨rfl, rfl⟩
    | succ k =>
      have hok : (work first).failure = none := hbefore 0 first rfl k.succ_pos
      obtain ⟨htake, hfind⟩ := ih (k := k) hitem fun j other hother hj =>
        hbefore (j + 1) other hother (by omega)
      rw [upToFailure, hok, List.findSome?_cons, hok, List.take_succ_cons]
      exact ⟨congrArg _ htake, hfind⟩

/-- With one slot, the items that were handed to workers by the end are those that the loop handles,
and the stored error is that of the loop. -/
theorem Reachable.upToFailure_of_over (hreach : Reachable items work 1 s)
    (hover : s.isOver = true) :
    upToFailure work items = items.take s.workers.length ∧
      s.error = items.findSome? fun item => (work item).failure := by
  cases herror : s.error with
  | none =>
    obtain ⟨hall, hok⟩ := (hreach.error_eq_none_iff hover).mp herror
    rw [upToFailure_eq_self hok, hall, List.take_length]
    exact ⟨rfl, (List.findSome?_eq_none_iff.mpr hok).symm⟩
  | some e =>
    obtain ⟨i, hi, item, hitem, hfailure⟩ := hreach.culprit herror
    -- no item before the last one failed, so it is the last one that did
    have hlast : s.workers.length = i + 1 := by
      by_contra hne
      have hok := hreach.sequential.succeeded hitem (by omega)
      rw [hfailure] at hok
      cases hok
    obtain ⟨htake, hfind⟩ := upToFailure_eq_take hitem hfailure fun j other hother hj =>
      hreach.sequential.succeeded hother (by omega)
    rw [hlast]
    exact ⟨htake, hfind.symm⟩

theorem Reachable.likeLoop (hreach : Reachable items work 1 s) (hover : s.isOver = true) :
    LikeLoop items work s := by
  obtain ⟨htake, herror⟩ := hreach.upToFailure_of_over hover
  obtain ⟨hstopped, hdone⟩ := isOver_iff.mp hover
  have hlength : (items.take s.workers.length).length = s.workers.length :=
    List.length_take_of_le hreach.dispatched.spawned
  refine ⟨htake.symm, ?_, ?_, ?_⟩
  · have hannounced := hreach.dispatched.announced
    rw [htake, hlength]
    rwa [hstopped] at hannounced
  · -- all workers are done, so each has recorded the whole work of its item
    have hby : ∀ {i : Nat} {item : ι}, (items.take s.workers.length)[i]? = some item →
        s.recordedBy i = (work item).records := by
      intro i item hitem
      obtain ⟨hi, hget⟩ := List.getElem?_eq_some_iff.mp hitem
      have hlt : i < s.workers.length := hlength ▸ hi
      have hitem' : items[i]? = some item := by
        rw [← hitem, List.getElem?_take_of_lt hlt]
      exact hreach.recordedBy_of_done hitem' (getElem?_eq_done hdone hlt)
    rw [hreach.sequential.ordered, htake, ← flatMap_range_eq hby, hlength]
  · cases hfind : items.findSome? fun item => (work item).failure with
    | none => exact result_eq_ok_iff.mpr (herror.trans hfind)
    | some e => exact result_eq_error_iff.mpr (herror.trans hfind)

/-! ## 5. The whole pool -/

/-- Announcements are never taken back. -/
theorem follow_announced {rest : List Actor} (hrest : follow items work slots rest s = some t) :
    s.announced <+: t.announced := by
  induction rest generalizing s with
  | nil =>
    cases hrest
    exact List.prefix_rfl
  | cons actor rest ih =>
    obtain ⟨u, hu, hlater⟩ := follow_cons_eq_some.mp hrest
    have hone : s.announced <+: u.announced := by
      cases Step.of_step? hu with
      | announce => exact List.prefix_append _ _
      | _ => exact List.prefix_rfl
    exact hone.trans (ih hlater)

/-- All items that were announced are completed at the end. -/
theorem Reachable.completed_of_over (hreach : Reachable items work slots s)
    (hover : s.isOver = true) {i : Nat} (hi : i < s.announced.length) : s.workers[i]? = some .done ∧
      ∃ item, items[i]? = some item ∧ s.recordedBy i = (work item).records := by
  obtain ⟨hstopped, hdone⟩ := isOver_iff.mp hover
  have hlt : i < s.workers.length := by
    rw [hreach.dispatched.announced, hstopped, announcements, List.length_map,
      List.length_zipIdx] at hi
    exact hi.trans_le (List.length_take_le _ _)
  have hphase : s.workers[i]? = some .done := getElem?_eq_done hdone hlt
  obtain ⟨item, hitem, hcourse⟩ := hreach.item hphase
  exact ⟨hphase, item, hitem, hcourse⟩

/-- Once a failure has been made known, at most one more item is announced and handed to a worker,
and only if the dispatcher has already looked; all announced items are completed by the end, which
every order of steps can come to.  With at most one slot, every order of steps does what a loop
over the items does, and announces an item only after the ones before it have been completed. -/
theorem stops_after_failure (items : List ι) (work : ι → Work α ε) (concurrency : Nat)
    (schedule : List Actor) {s : State ι α ε}
    (h : follow items work (Pool.slots concurrency) schedule {} = some s) :
    (s.failed = true → ∀ rest t, follow items work (Pool.slots concurrency) rest s = some t →
      t.announced.length ≤ s.announced.length + s.dispatcher.unannounced ∧
      t.workers.length ≤ s.workers.length + s.dispatcher.cleared) ∧
    (∃ rest t, follow items work (Pool.slots concurrency) rest s = some t ∧ t.isOver = true) ∧
    (∀ rest t, follow items work (Pool.slots concurrency) rest s = some t → t.isOver = true →
      s.announced <+: t.announced ∧
      ∀ i < t.announced.length, t.workers[i]? = some .done ∧
        ∃ item, items[i]? = some item ∧ t.recordedBy i = (work item).records) ∧
    (concurrency ≤ 1 →
      (∀ i, i + 1 < s.announced.length → s.workers[i]? = some .done) ∧
      (s.isOver = true → LikeLoop items work s)) := by
  have hreach := reachable_of_follow h
  refine ⟨fun hfailed rest t hrest => ?_, hreach.exists_over (slots_pos concurrency),
    fun rest t hrest hover => ?_, fun hone => ?_⟩
  · obtain ⟨-, hworkers, hannounced⟩ := follow_after_failure hfailed hrest
    exact ⟨hannounced, hworkers⟩
  · have hend := (hreach.follow hrest).1
    exact ⟨follow_announced hrest, fun i hi => hend.completed_of_over hover hi⟩
  · -- no more than one slot is asked for
    have hslots : Pool.slots concurrency = 1 := max_eq_right hone
    rw [hslots] at hreach
    exact ⟨fun i => hreach.done_of_announced, hreach.likeLoop⟩

/-- With the concurrency 0, the first of two items fails while the dispatcher waits.  Nothing more
is announced, and the run ends as a loop does that never comes to the second item. -/
theorem stops_after_failure_first :
    ∃ s t, follow [10, 11] (fun n => (⟨["seen"], some n⟩ : Work String Nat)) (Pool.slots 0)
        (List.replicate 4 .dispatcher ++ List.replicate 4 (.worker 0)) {} = some s ∧
      s.failed = true ∧
      follow [10, 11] (fun n => (⟨["seen"], some n⟩ : Work String Nat)) (Pool.slots 0)
        (.worker 0 :: List.replicate 3 .dispatcher) s = some t ∧
      t.isOver = true ∧ t.announced.length ≤ s.announced.length ∧
      LikeLoop [10, 11] (fun n => (⟨["seen"], some n⟩ : Work String Nat)) t ∧
      t.processed [10, 11] = [10] ∧ t.result = .error 10 := by
  obtain ⟨hstop, -⟩ := stops_after_failure [10, 11]
    (fun n => (⟨["seen"], some n⟩ : Work String Nat)) 0
    (List.replicate 4 .dispatcher ++ List.replicate 4 (.worker 0)) rfl
  obtain ⟨hannounced, -⟩ := hstop rfl (.worker 0 :: List.replicate 3 .dispatcher) _ rfl
  obtain ⟨-, -, -, hloop⟩ := stops_after_failure [10, 11]
    (fun n => (⟨["seen"], some n⟩ : Work String Nat)) 0
    (List.replicate 4 .dispatcher ++ List.replicate 5 (.worker 0) ++
      List.replicate 3 .dispatcher) rfl
  have hlike := (hloop (by decide)).2 rfl
  exact ⟨_, _, rfl, rfl, rfl, rfl, hannounced, hlike, hlike.processed, hlike.result⟩

end SecretScan.Pool
