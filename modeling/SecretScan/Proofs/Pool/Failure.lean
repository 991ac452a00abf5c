import SecretScan.Proofs.Pool.Outcome
import SecretScan.Proofs.Pool.Trace

/-!
# Failures of a pool

A run that is over has completed the work on all items that were handed to workers.  It has no error
exactly if all items were handed to workers and none of them failed, and otherwise its error is the
one that was stored first (`Trace.verdict`).
-/

namespace SecretScan.Pool

variable {ι α ε : Type} {items : List ι} {work : ι → Work α ε} {slots : Nat} {s t : State ι α ε}
  {h : List (Event ε)}

/-! ## 1. A failure leaves an error behind -/

/-- Whether a worker at this point has stored its error, if its work failed. -/
def WorkerPhase.isSettled : WorkerPhase α ε → Bool
  | .working _ | .storing _ => false
  | .raising | .releasing | .done => true

/-- As soon as a worker whose work failed has come to one of some points, there is a mark of it. -/
structure Marked (items : List ι) (work : ι → Work α ε) (reached : WorkerPhase α ε → Bool)
    (mark : Prop) (s : State ι α ε) : Prop where
  mark : ∀ {i : Nat} {item : ι} {p : WorkerPhase α ε}, items[i]? = some item →
    s.workers[i]? = some p → reached p = true → (work item).failure ≠ none → mark

namespace Marked

variable {reached : WorkerPhase α ε → Bool} {mark mark' : Prop}

theorem start : Marked items work reached mark {} :=
  ⟨fun _ hp => absurd hp (by simp)⟩

/-- The workers stay where they are, and the mark does not vanish. -/
theorem congr (hs : Marked items work reached mark s) (hworkers : t.workers = s.workers)
    (hmark : mark → mark') : Marked items work reached mark' t where
  mark := by
    rw [hworkers]
    exact fun hitem hp hreached hfailure => hmark (hs.mark hitem hp hreached hfailure)

/-- One worker comes to another point, and the mark does not vanish. -/
theorem move (hs : Marked items work reached mark s) {i : Nat} {p q : WorkerPhase α ε}
    (hphase : s.workers[i]? = some p) (hworkers : t.workers = s.workers.set i q)
    (hmark : mark → mark')
    (hq : ∀ item, items[i]? = some item → reached q = true → (work item).failure ≠ none → mark') :
    Marked items work reached mark' t where
  mark {j item p'} hitem hp' hreached hfailure := by
    rw [hworkers] at hp'
    by_cases hj : j = i
    · subst hj
      rw [List.getElem?_set_self (List.getElem?_eq_some_iff.mp hphase).1] at hp'
      cases hp'
      exact hq item hitem hreached hfailure
    · rw [List.getElem?_set_ne (Ne.symm hj)] at hp'
      exact hmark (hs.mark hitem hp' hreached hfailure)

/-- A new worker has not come to one of these points. -/
theorem spawn (hs : Marked items work reached mark s) {p : WorkerPhase α ε}
    (hworkers : t.workers = s.workers ++ [p]) (hp : reached p = false) :
    Marked items work reached mark t where
  mark {j item p'} hitem hp' hreached hfailure := by
    rw [hworkers] at hp'
    rcases Nat.lt_trichotomy j s.workers.length with hlt | rfl | hgt
    · rw [List.getElem?_append_left hlt] at hp'
      exact hs.mark hitem hp' hreached hfailure
    · obtain rfl : p = p' := by simpa using hp'
      rw [hp] at hreached
      cases hreached
    · rw [List.getElem?_eq_none (by simp; omega)] at hp'
      cases hp'

end Marked

/-- A settled worker whose work failed has left an error behind. -/
def Kept (items : List ι) (work : ι → Work α ε) (s : State ι α ε) : Prop :=
  Marked items work WorkerPhase.isSettled (s.error ≠ none) s

theorem Kept.step (hreach : Reachable items work slots s) (hs : Kept items work s)
    (hstep : Step items work slots s t) : Kept items work t := by
  cases hstep with
  | acquire | finish | pass | give | stop | announce => exact hs.congr rfl id
  | spawn => exact hs.spawn rfl rfl
  | record hphase | fail hphase => exact hs.move hphase rfl id fun _ _ hsettled => nomatch hsettled
  | succeed hphase =>
    refine hs.move hphase rfl id fun item hitem _ hfailure => absurd ?_ hfailure
    exact (hreach.recorded.course hitem hphase).2.symm
  | store hphase =>
    exact hs.move hphase rfl (fun _ => Option.some_ne_none _) fun _ _ _ _ => Option.some_ne_none _
  | raise hphase =>
    exact hs.move hphase rfl id fun _ _ _ _ => hreach.blamed.raising (List.mem_of_getElem? hphase)
  | release hphase => exact hs.move hphase rfl id fun _ hitem _ => hs.mark hitem hphase rfl

theorem Reachable.kept (hreach : Reachable items work slots s) : Kept items work s :=
  hreach.invariant (P := Kept items work) .start Kept.step

/-! ## 2. A run that is over -/

theorem result_eq_ok_iff : s.result = .ok () ↔ s.error = none := by
  rw [State.result]
  cases s.error <;> simp

theorem result_eq_error_iff {e : ε} : s.result = .error e ↔ s.error = some e := by
  rw [State.result]
  cases s.error <;> simp

/-- Without an error the dispatcher stops only after the last item. -/
theorem Reachable.all_spawned (hreach : Reachable items work slots s)
    (hstopped : s.dispatcher = .stopped) (herror : s.error = none) :
    s.workers.length = items.length := by
  rcases hreach.blamed.stopped hstopped with hle | hfailed
  · exact le_antisymm hreach.dispatched.spawned hle
  · exact absurd herror (hreach.blamed.raised hfailed)

/-- A run that is over has no error exactly if all items were handed to workers and none failed. -/
theorem Reachable.error_eq_none_iff (hreach : Reachable items work slots s)
    (hover : s.isOver = true) :
    s.error = none ↔
      s.workers.length = items.length ∧ ∀ item ∈ items, (work item).failure = none := by
  obtain ⟨hstopped, hdone⟩ := isOver_iff.mp hover
  refine ⟨fun herror => ?_, fun ⟨_, hok⟩ => (hreach.unfailed hok).1⟩
  have hall := hreach.all_spawned hstopped herror
  refine ⟨hall, fun item hmem => ?_⟩
  by_contra hfailure
  obtain ⟨i, hi, rfl⟩ := List.getElem_of_mem hmem
  have hphase := getElem?_eq_done hdone (hall ▸ hi)
  exact hreach.kept.mark (List.getElem?_eq_getElem hi) hphase rfl hfailure herror

/-- What a run that is over tells of its items: those handed to workers are the announced ones, and
the work on each of them has been completed once.  There is no error exactly if these are all items
and none failed; an error is the one that was stored first, by an item that failed with it. -/
structure Verdict (items : List ι) (work : ι → Work α ε) (h : List (Event ε)) (s : State ι α ε) :
    Prop where
  announced : s.announced = announcements items s.workers.length
  completed : ∀ {i : Nat} {item : ι}, items[i]? = some item → i < s.workers.length →
    h.filterMap (Event.completedBy? i) = [(work item).failure] ∧
      s.recordedBy i = (work item).records
  ok_iff : s.result = .ok () ↔
    s.workers.length = items.length ∧ ∀ item ∈ items, (work item).failure = none
  error_iff : ∀ e, s.result = .error e ↔
    ∃ i later, h.filterMap Event.stored? = (i, e) :: later
  stored : ∀ {i : Nat} {e : ε}, (i, e) ∈ h.filterMap Event.stored? →
    i < s.workers.length ∧ ∃ item, items[i]? = some item ∧ (work item).failure = some e

theorem Trace.verdict (htrace : Trace items work slots h s) (hover : s.isOver = true) :
    Verdict items work h s := by
  have hreach := htrace.reachable
  obtain ⟨hstopped, hdone⟩ := isOver_iff.mp hover
  refine ⟨?_, fun {i item} hitem hi => ?_, ?_, fun e => ?_, htrace.recounts.culprit⟩
  · have hannounced := hreach.dispatched.announced
    rwa [hstopped] at hannounced
  · have hphase := getElem?_eq_done hdone hi
    -- a worker that is done has completed its work
    have hcompleted : s.isCompleted i = true := by
      rw [isCompleted_of_phase hphase]
      rfl
    refine ⟨?_, hreach.recordedBy_of_done hitem hphase⟩
    rw [htrace.recounts.completed hitem, if_pos hcompleted]
  · rw [result_eq_ok_iff, hreach.error_eq_none_iff hover]
  · -- the error of the run is the one that was stored first
    rw [result_eq_error_iff, ← htrace.recounts.stored, Option.map_eq_some_iff]
    constructor
    · rintro ⟨⟨i, e'⟩, hhead, rfl⟩
      obtain ⟨later, hlater⟩ := List.head?_eq_some_iff.mp hhead
      exact ⟨i, later, hlater⟩
    · rintro ⟨i, later, hlater⟩
      exact ⟨(i, e), by rw [hlater, List.head?_cons], rfl⟩

end SecretScan.Pool
