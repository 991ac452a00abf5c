import Mathlib
import SecretScan.Proofs.Tally.Counts

/-!
# Workers that share a tally

Any number of workers record matches into one tally, each of them its own matches one after the
other.  A step records one match, and the steps of different workers come in any order.  Whatever the
order, nothing is lost or recorded twice, the counts are those of the matches, and the matches of
each worker keep their order (`Recording.Trace.counts_agree`).
-/

namespace SecretScan

/-- What each worker has still to record, and the tally of what has been recorded. -/
structure Recording where
  pending : List (List Match)
  tally : Tally

namespace Recording

/-! ## 1. Steps -/

/-- The worker at an index records its next match. -/
def step? (i : Nat) (s : Recording) : Option Recording :=
  match s.pending[i]? with
  | some (m :: rest) => some ⟨s.pending.set i rest, s.tally.record m⟩
  | _ => none

theorem step?_eq_some_iff {i : Nat} {s t : Recording} :
    step? i s = some t ↔ ∃ m rest, s.pending[i]? = some (m :: rest) ∧
      t = ⟨s.pending.set i rest, s.tally.record m⟩ := by
  rw [step?]
  split
  next m rest hpending => simp [hpending, eq_comm]
  next hnone => exact iff_of_false (by simp) fun ⟨m, rest, hsome, _⟩ => hnone m rest hsome

/-- Whether all workers have recorded all their matches. -/
def isOver (s : Recording) : Bool := s.pending.all List.isEmpty

/-- The workers with these matches, taking their steps in the order of the schedule, come to a
state. -/
inductive Trace (queues : List (List Match)) : List Nat → Recording → Prop
  | start : Trace queues [] ⟨queues, {}⟩
  | step {schedule : List Nat} {s t : Recording} (i : Nat) : Trace queues schedule s →
      step? i s = some t → Trace queues (schedule ++ [i]) t

/-! ## 2. What each worker has recorded -/

/-- The matches that were recorded in the steps of one worker. -/
def recordedBy (i : Nat) (schedule : List Nat) (ms : List Match) : List Match :=
  ((schedule.zip ms).filter fun x => x.1 == i).map Prod.snd

theorem recordedBy_concat {schedule : List Nat} {ms : List Match}
    (h : schedule.length = ms.length) (i j : Nat) (m : Match) :
    recordedBy i (schedule ++ [j]) (ms ++ [m]) =
      recordedBy i schedule ms ++ if j = i then [m] else [] := by
  rw [recordedBy, List.zip_append h, List.filter_append, List.map_append, recordedBy]
  by_cases hj : j = i
  · simp [hj]
  · simp [hj]

variable {queues : List (List Match)} {schedule : List Nat} {s t : Recording}

/-- Each step has recorded one match, and what a worker has recorded and what it has still to record
are its matches. -/
structure Accounted (queues : List (List Match)) (schedule : List Nat) (s : Recording) : Prop where
  agrees : s.tally.Agrees
  recorded : schedule.length = s.tally.matches_.length
  workers : s.pending.length = queues.length
  split : ∀ {i : Nat} {rest : List Match}, s.pending[i]? = some rest →
    queues[i]? = some (recordedBy i schedule s.tally.matches_ ++ rest)

theorem Accounted.start : Accounted queues [] ⟨queues, {}⟩ where
  agrees := .start
  recorded := rfl
  workers := rfl
  split hrest := hrest

theorem Accounted.step (h : Accounted queues schedule s) {i : Nat} (hstep : step? i s = some t) :
    Accounted queues (schedule ++ [i]) t := by
  obtain ⟨m, rest, hpending, rfl⟩ := step?_eq_some_iff.mp hstep
  refine ⟨h.agrees.record m, ?_, ?_, fun {j rest'} hrest => ?_⟩
  · show (schedule ++ [i]).length = (s.tally.matches_ ++ [m]).length
    rw [List.length_append, List.length_append, h.recorded]
    rfl
  · rw [List.length_set]
    exact h.workers
  · show queues[j]? = some (recordedBy j (schedule ++ [i]) (s.tally.matches_ ++ [m]) ++ rest')
    rw [recordedBy_concat h.recorded]
    by_cases hj : i = j
    · -- the match has moved from what is left to what is recorded
      subst hj
      have hlt : i < s.pending.length := (List.getElem?_eq_some_iff.mp hpending).1
      rw [List.getElem?_set_self hlt] at hrest
      cases hrest
      rw [if_pos rfl, List.append_assoc]
      exact h.split hpending
    · rw [List.getElem?_set_ne hj] at hrest
      rw [if_neg hj, List.append_nil]
      exact h.split hrest

theorem Trace.accounted (h : Trace queues schedule s) : Accounted queues schedule s := by
  induction h with
  | start => exact .start
  | step i _ hstep ih => exact ih.step hstep

/-! ## 3. Any order of steps -/

/-- However the steps of the workers are mixed, the counts of the result are those of its matches, as
many as there were steps; the candidates are as they were given; and each worker has recorded its
matches in their order, all of them once the workers are done. -/
theorem Trace.counts_agree (htrace : Trace queues schedule s) (candidates : List Path) :
    (s.tally.finish candidates).Consistent ∧
    (s.tally.finish candidates).totalMatches = schedule.length ∧
    (s.tally.finish candidates).candidates = candidates ∧
    ∀ (i : Nat) queue, queues[i]? = some queue →
      recordedBy i schedule (s.tally.finish candidates).matches_ <+: queue ∧
      (s.isOver → recordedBy i schedule (s.tally.finish candidates).matches_ = queue) := by
  have h := htrace.accounted
  refine ⟨h.agrees.consistent candidates, h.recorded.symm, rfl, fun i queue hqueue => ?_⟩
  have hlt : i < s.pending.length := h.workers ▸ (List.getElem?_eq_some_iff.mp hqueue).1
  have hrest := List.getElem?_eq_getElem hlt
  -- a queue is what its worker has recorded and what is still to come
  obtain rfl : queue = recordedBy i schedule s.tally.matches_ ++ s.pending[i] :=
    Option.some.inj (hqueue.symm.trans (h.split hrest))
  refine ⟨List.prefix_append _ _, fun hover => ?_⟩
  have hempty : s.pending[i] = [] :=
    List.isEmpty_iff.mp (List.all_eq_true.mp hover _ (List.getElem_mem hlt))
  rw [hempty, List.append_nil]
  rfl

/-- The matches of two workers, which meet in a file that they spell differently. -/
def pairQueues : List (List Match) :=
  [[⟨⟨"a//b"⟩, 1, "x", "x"⟩, ⟨⟨"c"⟩, 1, "x", "x"⟩], [⟨⟨"a/b"⟩, 7, "y", "y"⟩]]

/-- The two workers share the count of the file, which keeps the spelling that came first. -/
theorem Trace.counts_agree_pair :
    ∃ s, Trace pairQueues [0, 1, 0] s ∧ s.isOver ∧
      s.tally.counts = [(⟨"a//b"⟩, 2), (⟨"c"⟩, 1)] ∧
      (s.tally.finish [⟨"c"⟩]).Consistent ∧ (s.tally.finish [⟨"c"⟩]).totalMatches = 3 ∧
      recordedBy 0 [0, 1, 0] s.tally.matches_ =
        [⟨⟨"a//b"⟩, 1, "x", "x"⟩, ⟨⟨"c"⟩, 1, "x", "x"⟩] := by
  have hstart : Trace pairQueues [] ⟨pairQueues, {}⟩ := .start
  have htrace := ((hstart.step 0 rfl).step 1 rfl).step 0 rfl
  obtain ⟨hconsistent, htotal, -, hworkers⟩ := htrace.counts_agree [⟨"c"⟩]
  exact ⟨_, htrace, rfl, by decide, hconsistent, htotal, (hworkers 0 _ rfl).2 rfl⟩

end Recording

end SecretScan
