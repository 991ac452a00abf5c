import SecretScan.Proofs.Pool.Step

/-!
# What holds in every state of a pool

Three things hold whatever order the steps are taken in.  Items are announced and handed to workers
in order (`Dispatched`).  The channel holds one token for each worker that has not given its token
back, and one for the dispatcher while it holds a slot (`Accounted`).  What a worker has recorded and
what it has still to record are the records of its item, and its failure is that of its item
(`Recorded`, `Blamed`).
-/

namespace SecretScan.Pool

variable {ι α ε : Type} {items : List ι} {work : ι → Work α ε} {slots : Nat} {s t : State ι α ε}

/-! ## 1. Items -/

/-- How many slots the dispatcher holds. -/
def DispatcherPhase.held : DispatcherPhase → Nat
  | .checking | .returning | .announcing | .spawning => 1
  | .acquiring | .stopped => 0

/-- How many items have been announced that no worker has. -/
def DispatcherPhase.ahead : DispatcherPhase → Nat
  | .spawning => 1
  | _ => 0

/-- The announcements of the first `k` items. -/
def announcements (items : List ι) (k : Nat) : List (ι × Nat × Nat) :=
  (items.take k).zipIdx.map fun x => (x.1, x.2, items.length)

theorem announcements_succ {k : Nat} {item : ι} (h : items[k]? = some item) :
    announcements items (k + 1) = announcements items k ++ [(item, k, items.length)] := by
  have hk : k < items.length := (List.getElem?_eq_some_iff.mp h).1
  have hlen : (items.take k).length = k := List.length_take_of_le hk.le
  unfold announcements
  rw [List.take_add_one, h, Option.toList_some, List.zipIdx_append, List.map_append, hlen]
  simp

/-- Items are handed to workers in order, each right after its announcement. -/
structure Dispatched (items : List ι) (s : State ι α ε) : Prop where
  spawned : s.workers.length ≤ items.length
  next : 0 < s.dispatcher.held → s.workers.length < items.length
  announced : s.announced = announcements items (s.workers.length + s.dispatcher.ahead)

theorem Dispatched.start : Dispatched items ({} : State ι α ε) where
  spawned := Nat.zero_le _
  next h := absurd h (Nat.lt_irrefl 0)
  announced := rfl

/-- Steps of workers change nothing about items. -/
theorem Dispatched.congr (h : Dispatched items s) (hworkers : t.workers.length = s.workers.length)
    (hphase : t.dispatcher = s.dispatcher) (hannounced : t.announced = s.announced) :
    Dispatched items t where
  spawned := by rw [hworkers]; exact h.spawned
  next := by rw [hworkers, hphase]; exact h.next
  announced := by rw [hworkers, hphase, hannounced]; exact h.announced

theorem Dispatched.announced_of (h : Dispatched items s) {phase : DispatcherPhase}
    (hphase : s.dispatcher = phase) :
    s.announced = announcements items (s.workers.length + phase.ahead) := by
  rw [← hphase]
  exact h.announced

theorem Dispatched.step (h : Dispatched items s) (hstep : Step items work slots s t) :
    Dispatched items t := by
  cases hstep with
  | acquire hphase hnext =>
    have hannounced := h.announced_of hphase
    exact ⟨h.spawned, fun _ => hnext, hannounced⟩
  | finish hphase | stop hphase =>
    have hannounced := h.announced_of hphase
    exact ⟨h.spawned, fun hheld => absurd hheld (Nat.lt_irrefl 0), hannounced⟩
  | pass hphase | give hphase =>
    have hannounced := h.announced_of hphase
    exact ⟨h.spawned, fun _ => h.next (by rw [hphase]; decide), hannounced⟩
  | announce hphase hitem =>
    refine ⟨h.spawned, fun _ => h.next (by rw [hphase]; decide), ?_⟩
    show s.announced ++ _ = announcements items (s.workers.length + 1)
    rw [announcements_succ hitem, h.announced_of hphase]
    rfl
  | spawn hphase hitem =>
    -- the worker takes the place of the announcement that was ahead of it
    have hnext := h.next (by rw [hphase]; decide)
    refine ⟨?_, fun hheld => absurd hheld (Nat.lt_irrefl 0), ?_⟩
    · simp only [List.length_append, List.length_singleton]
      omega
    · simp only [List.length_append, List.length_singleton]
      exact h.announced_of hphase
  | record | fail | succeed | store | raise | release =>
    exact h.congr (by simp [State.setPhase]) rfl rfl

theorem Reachable.dispatched (h : Reachable items work slots s) : Dispatched items s :=
  h.invariant .start fun _ => .step

/-! ## 2. Tokens -/

/-- Replacing one element of a list changes a sum over the list by the difference at this element. -/
theorem sum_map_set {β : Type} (g : β → Nat) {l : List β} {i : Nat} {p : β} (h : l[i]? = some p)
    (q : β) : ((l.set i q).map g).sum + g p = (l.map g).sum + g q := by
  induction l generalizing i with
  | nil => cases h
  | cons b l ih =>
    cases i with
    | zero =>
      cases h
      simp only [List.set_cons_zero, List.map_cons, List.sum_cons]
      omega
    | succ i =>
      have := ih (i := i) h
      simp only [List.set_cons_succ, List.map_cons, List.sum_cons]
      omega

/-- How many tokens a worker has to take out. -/
def WorkerPhase.owed : WorkerPhase α ε → Nat
  | .done => 0
  | _ => 1

/-- The channel holds a token for each worker that is not done, and for the slot of the dispatcher. -/
def Accounted (s : State ι α ε) : Prop :=
  s.tokens = (s.workers.map WorkerPhase.owed).sum + s.dispatcher.held

theorem Accounted.setPhase (h : Accounted s) {i : Nat} {p q : WorkerPhase α ε}
    (hphase : s.workers[i]? = some p) (howed : p.owed = q.owed) : Accounted (s.setPhase i q) := by
  have hsum := sum_map_set WorkerPhase.owed hphase q
  unfold Accounted at h ⊢
  simp only [State.setPhase]
  omega

theorem Accounted.step (h : Accounted s) (hstep : Step items work slots s t) : Accounted t := by
  cases hstep with
  | acquire hphase | stop hphase =>
    -- the dispatcher puts a token in for its slot, or takes it out again
    simp only [Accounted, hphase, DispatcherPhase.held] at h ⊢
    omega
  | finish hphase | pass hphase | give hphase | announce hphase =>
    simpa only [Accounted, hphase, DispatcherPhase.held] using h
  | spawn hphase =>
    -- the slot of the dispatcher becomes that of the worker
    simp only [Accounted, hphase, DispatcherPhase.held, List.map_append, List.sum_append,
      List.map_singleton, List.sum_singleton, WorkerPhase.owed] at h ⊢
    omega
  | record hphase | fail hphase | succeed hphase | store hphase | raise hphase =>
    exact h.setPhase hphase rfl
  | @release i hphase htokens =>
    have hsum := sum_map_set WorkerPhase.owed hphase .done
    simp only [Accounted, State.setPhase, WorkerPhase.owed] at h hsum ⊢
    omega

theorem Reachable.accounted (h : Reachable items work slots s) : Accounted s :=
  h.invariant (P := Accounted) rfl fun _ => Accounted.step

/-! ## 3. Records -/

/-- What the worker at `i` has recorded so far. -/
def State.recordedBy (s : State ι α ε) (i : Nat) : List α :=
  (s.recorded.filter fun x => x.1 == i).map Prod.snd

theorem State.recordedBy_congr (h : t.recorded = s.recorded) : t.recordedBy = s.recordedBy :=
  funext fun i => by rw [State.recordedBy, h, State.recordedBy]

theorem State.recordedBy_self {i : Nat} {a : α} (h : t.recorded = s.recorded ++ [(i, a)]) :
    t.recordedBy i = s.recordedBy i ++ [a] := by
  simp [State.recordedBy, h]

/-- Nobody else has recorded what a worker records. -/
theorem State.recordedBy_of_ne {i j : Nat} {a : α} (h : t.recorded = s.recorded ++ [(i, a)])
    (hne : j ≠ i) : t.recordedBy j = s.recordedBy j := by
  simp [State.recordedBy, h, hne.symm]

/-- A worker that has recorded `seen` of the work `w` has come to this point. -/
def WorkerPhase.OnCourse (w : Work α ε) (seen : List α) : WorkerPhase α ε → Prop
  | .working rest => seen ++ rest.records = w.records ∧ rest.failure = w.failure
  | .storing e => seen = w.records ∧ w.failure = some e
  | .raising => seen = w.records ∧ w.failure ≠ none
  | .releasing | .done => seen = w.records

/-- Every worker is on the course of its item, and nothing is recorded for items without a worker. -/
structure Recorded (items : List ι) (work : ι → Work α ε) (s : State ι α ε) : Prop where
  course : ∀ {i : Nat} {item : ι} {p : WorkerPhase α ε}, items[i]? = some item →
    s.workers[i]? = some p → p.OnCourse (work item) (s.recordedBy i)
  fresh : ∀ {i : Nat}, s.workers.length ≤ i → s.recordedBy i = []

theorem Recorded.start : Recorded items work ({} : State ι α ε) where
  course _ h := absurd h (by simp)
  fresh _ := rfl

/-- The dispatcher changes nothing of what workers have recorded. -/
theorem Recorded.congr (h : Recorded items work s) (hworkers : t.workers = s.workers)
    (hrecorded : t.recorded = s.recorded) : Recorded items work t where
  course hitem hphase := by
    rw [hworkers] at hphase
    rw [State.recordedBy_congr hrecorded]
    exact h.course hitem hphase
  fresh hi := by
    rw [hworkers] at hi
    rw [State.recordedBy_congr hrecorded]
    exact h.fresh hi

/-- A worker comes to another point, and only what it has recorded may change. -/
theorem Recorded.move (h : Recorded items work s) {i : Nat} {p q : WorkerPhase α ε}
    (hphase : s.workers[i]? = some p) (hworkers : t.workers = s.workers.set i q)
    (hothers : ∀ j, j ≠ i → t.recordedBy j = s.recordedBy j)
    (hcourse : ∀ w, p.OnCourse w (s.recordedBy i) → q.OnCourse w (t.recordedBy i)) :
    Recorded items work t where
  course {j item p'} hitem hp' := by
    rw [hworkers] at hp'
    -- the other workers stand where they stood
    by_cases hj : j = i
    · subst hj
      have hlt : j < s.workers.length := (List.getElem?_eq_some_iff.mp hphase).1
      rw [List.getElem?_set_self hlt] at hp'
      cases hp'
      exact hcourse _ (h.course hitem hphase)
    · rw [List.getElem?_set_ne (Ne.symm hj)] at hp'
      rw [hothers j hj]
      exact h.course hitem hp'
  fresh {j} hj := by
    have hlt : i < s.workers.length := (List.getElem?_eq_some_iff.mp hphase).1
    rw [hworkers, List.length_set] at hj
    rw [hothers j (by omega)]
    exact h.fresh hj

theorem Recorded.step (h : Recorded items work s) (hstep : Step items work slots s t) :
    Recorded items work t := by
  cases hstep with
  | acquire | finish | pass | give | stop | announce => exact h.congr rfl rfl
  | @spawn hphase item hitem =>
    -- the new worker stands at the first index for which nothing has been recorded
    refine ⟨fun {j item' p} hitem' hp => ?_, fun {j} hj => ?_⟩
    · rcases Nat.lt_trichotomy j s.workers.length with hlt | rfl | hgt
      · exact h.course hitem' (by simpa [List.getElem?_append_left hlt] using hp)
      · obtain rfl : item = item' := Option.some.inj (hitem.symm.trans hitem')
        obtain rfl : .working (work item) = p := by simpa using hp
        have hnone : s.recordedBy s.workers.length = [] := h.fresh le_rfl
        show s.recordedBy s.workers.length ++ (work item).records = _ ∧ _
        rw [hnone]
        exact ⟨rfl, rfl⟩
      · have hnone : (s.workers ++ [.working (work item)])[j]? = none :=
          List.getElem?_eq_none (by simp only [List.length_append, List.length_singleton]; omega)
        rw [hnone] at hp
        cases hp
    · simp only [List.length_append, List.length_singleton] at hj
      exact h.fresh (i := j) (by omega)
  | @record i a rest failure hphase =>
    refine h.move hphase rfl (fun j hj => State.recordedBy_of_ne rfl hj) fun w hw => ?_
    rw [State.recordedBy_self (s := s) rfl]
    refine ⟨?_, hw.2⟩
    rw [← hw.1, List.append_assoc]
    rfl
  | fail hphase =>
    refine h.move hphase rfl (fun _ _ => rfl) fun w hw => ⟨?_, hw.2.symm⟩
    rw [← hw.1, List.append_nil]
    rfl
  | succeed hphase =>
    refine h.move hphase rfl (fun _ _ => rfl) fun w hw => ?_
    show s.recordedBy _ = w.records
    rw [← hw.1, List.append_nil]
  | store hphase =>
    exact h.move hphase rfl (fun _ _ => rfl) fun w hw => ⟨hw.1, by rw [hw.2]; simp⟩
  | raise hphase => exact h.move hphase rfl (fun _ _ => rfl) fun w hw => hw.1
  | release hphase => exact h.move hphase rfl (fun _ _ => rfl) fun w hw => hw

theorem Reachable.recorded (h : Reachable items work slots s) : Recorded items work s :=
  h.invariant .start fun _ => .step

/-- A worker that is done has recorded all that there is to record. -/
theorem Reachable.recordedBy_of_done (h : Reachable items work slots s) {i : Nat} {item : ι}
    (hitem : items[i]? = some item) (hphase : s.workers[i]? = some .done) :
    s.recordedBy i = (work item).records :=
  h.recorded.course hitem hphase

/-- The item of a worker. -/
theorem Reachable.item (h : Reachable items work slots s) {i : Nat} {p : WorkerPhase α ε}
    (hphase : s.workers[i]? = some p) :
    ∃ item, items[i]? = some item ∧ p.OnCourse (work item) (s.recordedBy i) := by
  have hlt : i < s.workers.length := (List.getElem?_eq_some_iff.mp hphase).1
  have hitem := List.getElem?_eq_getElem (hlt.trans_le h.dispatched.spawned)
  exact ⟨_, hitem, h.recorded.course hitem hphase⟩

/-- What has been recorded of some work is the beginning of what there is to record. -/
theorem WorkerPhase.OnCourse.prefix_records {w : Work α ε} {seen : List α} {p : WorkerPhase α ε}
    (hcourse : p.OnCourse w seen) : seen <+: w.records := by
  cases p with
  | working rest => exact ⟨rest.records, hcourse.1⟩
  | storing e => exact hcourse.1 ▸ List.prefix_rfl
  | raising => exact hcourse.1 ▸ List.prefix_rfl
  | releasing | done => exact (show seen = w.records from hcourse) ▸ List.prefix_rfl

/-! ## 4. Failures -/

/-- A failure is made known only after its error is stored, the error is that of an item, and the
dispatcher stops early only after a failure. -/
structure Blamed (items : List ι) (work : ι → Work α ε) (s : State ι α ε) : Prop where
  stored : ∀ {e}, s.error = some e → ∃ item ∈ items, (work item).failure = some e
  raising : .raising ∈ s.workers → s.error ≠ none
  raised : s.failed = true → s.error ≠ none
  returning : s.dispatcher = .returning → s.failed = true
  stopped : s.dispatcher = .stopped → items.length ≤ s.workers.length ∨ s.failed = true

theorem Blamed.start : Blamed items work ({} : State ι α ε) where
  stored h := nomatch h
  raising h := nomatch h
  raised h := nomatch h
  returning h := nomatch h
  stopped h := nomatch h

/-- The dispatcher comes to another point. -/
theorem Blamed.turn (h : Blamed items work s) (herror : t.error = s.error)
    (hfailed : t.failed = s.failed) (hraising : .raising ∈ t.workers → .raising ∈ s.workers)
    (hreturning : t.dispatcher = .returning → s.failed = true)
    (hstopped : t.dispatcher = .stopped → items.length ≤ t.workers.length ∨ s.failed = true) :
    Blamed items work t where
  stored := by rw [herror]; exact h.stored
  raising hmem := by rw [herror]; exact h.raising (hraising hmem)
  raised := by rw [herror, hfailed]; exact h.raised
  returning := by rw [hfailed]; exact hreturning
  stopped := by rw [hfailed]; exact hstopped

/-- A worker comes to another point without a new error. -/
theorem Blamed.move (h : Blamed items work s) {i : Nat} {p : WorkerPhase α ε}
    (hworkers : t.workers = s.workers.set i p) (hp : p ≠ .raising) (herror : t.error = s.error)
    (hfailed : t.failed = s.failed) (hdispatcher : t.dispatcher = s.dispatcher) :
    Blamed items work t := by
  refine h.turn herror hfailed (fun hmem => ?_) (hdispatcher ▸ h.returning) fun hstopped => ?_
  · rw [hworkers] at hmem
    rcases List.mem_or_eq_of_mem_set hmem with hold | hnew
    · exact hold
    · exact absurd hnew.symm hp
  · rw [hworkers, List.length_set]
    exact h.stopped (hdispatcher ▸ hstopped)

theorem Blamed.step (hs : Reachable items work slots s) (h : Blamed items work s)
    (hstep : Step items work slots s t) : Blamed items work t := by
  cases hstep with
  | acquire => exact h.turn rfl rfl id (nomatch ·) (nomatch ·)
  | finish _ hlast => exact h.turn rfl rfl id (nomatch ·) fun _ => .inl hlast
  | pass => exact h.turn rfl rfl id (nomatch ·) (nomatch ·)
  | give _ hfailed => exact h.turn rfl rfl id (fun _ => hfailed) (nomatch ·)
  | stop hphase => exact h.turn rfl rfl id (nomatch ·) fun _ => .inr (h.returning hphase)
  | announce => exact h.turn rfl rfl id (nomatch ·) (nomatch ·)
  | spawn =>
    exact h.turn rfl rfl (fun hmem => by simpa using hmem) (nomatch ·) (nomatch ·)
  | record | fail | succeed => exact h.move rfl nofun rfl rfl rfl
  | @store i e hphase =>
    refine ⟨fun {e'} he' => ?_, fun _ => nofun, fun _ => nofun, h.returning, fun hstopped => ?_⟩
    · -- an earlier error stays; without one the error is that of this worker's item
      cases herror : s.error with
      | none =>
        obtain ⟨item, hitem, hcourse⟩ := hs.item hphase
        rw [herror] at he'
        cases he'
        exact ⟨item, List.mem_of_getElem? hitem, hcourse.2⟩
      | some e₀ =>
        rw [herror] at he'
        cases he'
        exact h.stored herror
    · simpa only [State.setPhase, List.length_set] using h.stopped hstopped
  | raise hphase =>
    have herror := h.raising (List.mem_of_getElem? hphase)
    exact ⟨h.stored, fun _ => herror, fun _ => herror, fun _ => rfl, fun _ => .inr rfl⟩
  | release => exact h.move rfl nofun rfl rfl rfl

theorem Reachable.blamed (h : Reachable items work slots s) : Blamed items work s :=
  h.invariant .start .step

end SecretScan.Pool
