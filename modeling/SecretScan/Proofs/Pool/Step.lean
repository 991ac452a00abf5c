import Mathlib
import SecretScan.Pool.Run

/-!
# What one step of a pool can do

`Pool.Step` lists the steps of the dispatcher and of the workers with what each of them asks for.
Whatever holds in every reachable state is proved from this list.
-/

namespace SecretScan.Pool

variable {ι α ε : Type} {items : List ι} {work : ι → Work α ε} {slots : Nat}

/-- The state after the worker at `i` has come to another point. -/
def State.setPhase (s : State ι α ε) (i : Nat) (phase : WorkerPhase α ε) : State ι α ε :=
  { s with workers := s.workers.set i phase }

/-- The steps that can be taken from `s`. -/
inductive Step (items : List ι) (work : ι → Work α ε) (slots : Nat) (s : State ι α ε) :
    State ι α ε → Prop
  | acquire (hphase : s.dispatcher = .acquiring) (hnext : s.workers.length < items.length)
      (htokens : s.tokens < slots) :
      Step items work slots s { s with dispatcher := .checking, tokens := s.tokens + 1 }
  | finish (hphase : s.dispatcher = .acquiring) (hlast : items.length ≤ s.workers.length) :
      Step items work slots s { s with dispatcher := .stopped }
  | pass (hphase : s.dispatcher = .checking) (hcalm : s.failed = false) :
      Step items work slots s { s with dispatcher := .announcing }
  | give (hphase : s.dispatcher = .checking) (hfailed : s.failed = true) :
      Step items work slots s { s with dispatcher := .returning }
  | stop (hphase : s.dispatcher = .returning) :
      Step items work slots s { s with dispatcher := .stopped, tokens := s.tokens - 1 }
  | announce (hphase : s.dispatcher = .announcing) {item : ι}
      (hitem : items[s.workers.length]? = some item) :
      Step items work slots s { s with
        dispatcher := .spawning
        announced := s.announced ++ [(item, s.workers.length, items.length)] }
  | spawn (hphase : s.dispatcher = .spawning) {item : ι}
      (hitem : items[s.workers.length]? = some item) :
      Step items work slots s { s with
        dispatcher := .acquiring
        workers := s.workers ++ [.working (work item)] }
  | record {i : Nat} {a : α} {rest : List α} {failure : Option ε}
      (hphase : s.workers[i]? = some (.working ⟨a :: rest, failure⟩)) :
      Step items work slots s { s.setPhase i (.working ⟨rest, failure⟩) with
        recorded := s.recorded ++ [(i, a)] }
  | fail {i : Nat} {e : ε} (hphase : s.workers[i]? = some (.working ⟨[], some e⟩)) :
      Step items work slots s (s.setPhase i (.storing e))
  | succeed {i : Nat} (hphase : s.workers[i]? = some (.working ⟨[], none⟩)) :
      Step items work slots s (s.setPhase i .releasing)
  | store {i : Nat} {e : ε} (hphase : s.workers[i]? = some (.storing e)) :
      Step items work slots s { s.setPhase i .raising with error := some (s.error.getD e) }
  | raise {i : Nat} (hphase : s.workers[i]? = some .raising) :
      Step items work slots s { s.setPhase i .releasing with failed := true }
  | release {i : Nat} (hphase : s.workers[i]? = some .releasing) (htokens : 0 < s.tokens) :
      Step items work slots s { s.setPhase i .done with tokens := s.tokens - 1 }

section Actors

variable {s t : State ι α ε}

theorem Step.of_dispatcherStep? (h : dispatcherStep? items work slots s = some t) :
    Step items work slots s t := by
  simp only [dispatcherStep?] at h
  -- the cases are the points of the dispatcher, in the order of its loop
  split at h
  case h_1 hphase =>
    split_ifs at h with hnext htokens
    · cases h
      exact .acquire hphase hnext htokens
    · cases h
      exact .finish hphase (Nat.le_of_not_lt hnext)
  case h_2 hphase =>
    cases h
    split_ifs with hfailed
    · exact .give hphase hfailed
    · exact .pass hphase (Bool.not_eq_true _ ▸ hfailed)
  case h_3 hphase =>
    cases h
    exact .stop hphase
  case h_4 hphase =>
    split at h
    next item hitem =>
      cases h
      exact .announce hphase hitem
    next => cases h
  case h_5 hphase =>
    split at h
    next item hitem =>
      cases h
      exact .spawn hphase hitem
    next => cases h
  case h_6 => cases h

theorem Step.of_workerStep? {i : Nat} (h : workerStep? i s = some t) :
    Step items work slots s t := by
  simp only [workerStep?] at h
  -- the cases are the points of a worker, in the order of its work, and an index without a worker
  split at h
  case h_1 hphase =>
    cases h
    exact .record hphase
  case h_2 hphase =>
    cases h
    exact .fail hphase
  case h_3 hphase =>
    cases h
    exact .succeed hphase
  case h_4 hphase =>
    cases h
    exact .store hphase
  case h_5 hphase =>
    cases h
    exact .raise hphase
  case h_6 hphase =>
    split_ifs at h with htokens
    cases h
    exact .release hphase htokens
  case h_7 => cases h
  case h_8 => cases h

/-- A step of an actor is one of the steps in the list. -/
theorem Step.of_step? {actor : Actor} (h : step? items work slots actor s = some t) :
    Step items work slots s t := by
  cases actor with
  | dispatcher => exact .of_dispatcherStep? h
  | worker i => exact .of_workerStep? h

end Actors

/-- What holds at the start and after every step holds in every reachable state. -/
theorem Reachable.invariant {P : State ι α ε → Prop} (hstart : P {})
    (hstep : ∀ {s t}, Reachable items work slots s → P s → Step items work slots s t → P t)
    {s : State ι α ε} (h : Reachable items work slots s) : P s := by
  induction h with
  | start => exact hstart
  | step actor hreach hactor ih => exact hstep hreach ih (.of_step? hactor)

end SecretScan.Pool
