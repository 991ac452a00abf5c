import SecretScan.Proofs.Pool.Progress

/-!
# What a pool leaves behind

If no work fails, every run ends without an error, with all items announced in order, and with the
records of all items.  Only the order of records of different workers is free.
-/

namespace SecretScan.Pool

variable {ι α ε : Type} {items : List ι} {work : ι → Work α ε} {slots : Nat} {s : State ι α ε}

/-- Values with an index below `n` are, in some order, those with index 0, those with index 1, and so
on. -/
theorem perm_flatMap_filter {β : Type} {n : Nat} (l : List (Nat × β)) (h : ∀ x ∈ l, x.1 < n) :
    l.Perm ((List.range n).flatMap fun i => l.filter fun x => x.1 == i) := by
  have hbelow : ∀ k, (l.filter fun x => x.1 < k).Perm
      ((List.range k).flatMap fun i => l.filter fun x => x.1 == i) := by
    intro k
    induction k with
    | zero => simp
    | succ k ih =>
      rw [List.range_succ, List.flatMap_append, List.flatMap_singleton]
      -- an index below `k + 1` is below `k`, or it is `k`
      have hlow : (l.filter fun x => x.1 < k + 1).filter (fun x => decide (x.1 < k)) =
          l.filter fun x => x.1 < k := by
        rw [List.filter_filter]
        refine List.filter_congr fun x _ => ?_
        rw [← Bool.decide_and]
        exact decide_eq_decide.mpr (by omega)
      have hhigh : (l.filter fun x => x.1 < k + 1).filter (fun x => !decide (x.1 < k)) =
          l.filter fun x => x.1 == k := by
        rw [List.filter_filter]
        refine List.filter_congr fun x _ => ?_
        rw [← decide_not, ← Bool.decide_and, Bool.beq_eq_decide_eq]
        exact decide_eq_decide.mpr (by omega)
      have hsplit := List.filter_append_perm (fun x => decide (x.1 < k))
        (l.filter fun x => x.1 < k + 1)
      rw [hlow, hhigh] at hsplit
      exact hsplit.symm.trans (ih.append_right _)
  have hall : (l.filter fun x => x.1 < n) = l := List.filter_eq_self.mpr (by simpa using h)
  have hn := hbelow n
  rwa [hall] at hn

/-- Values computed from indices are those computed from the items at these indices. -/
theorem flatMap_range_eq {β : Type} {f : Nat → List β} {g : ι → List β}
    (h : ∀ {i item}, items[i]? = some item → f i = g item) :
    (List.range items.length).flatMap f = items.flatMap g := by
  have hmap : (List.range items.length).map f = items.map g :=
    List.ext_getElem (by simp) fun i hi _ => by
      have hlt : i < items.length := by simpa using hi
      simpa using h (List.getElem?_eq_getElem hlt)
  rw [List.flatMap_def, hmap, ← List.flatMap_def]

/-- No worker records anything for an item that is not there. -/
theorem Reachable.index_lt (h : Reachable items work slots s) {x : Nat × α}
    (hx : x ∈ s.recorded) : x.1 < s.workers.length := by
  by_contra hge
  have hnone : s.recordedBy x.1 = [] := h.recorded.fresh (Nat.le_of_not_lt hge)
  have hmem : x.2 ∈ s.recordedBy x.1 :=
    List.mem_map_of_mem (List.mem_filter.mpr ⟨hx, by simp⟩)
  rw [hnone] at hmem
  cases hmem

/-- What is recorded is to be recorded for one of the items. -/
theorem Reachable.mem_records (h : Reachable items work slots s) {x : Nat × α}
    (hx : x ∈ s.recorded) : ∃ item ∈ items, x.2 ∈ (work item).records := by
  obtain ⟨item, hitem, hcourse⟩ := h.item (List.getElem?_eq_getElem (h.index_lt hx))
  have hmem : x.2 ∈ s.recordedBy x.1 :=
    List.mem_map_of_mem (List.mem_filter.mpr ⟨hx, by simp⟩)
  exact ⟨item, List.mem_of_getElem? hitem, hcourse.prefix_records.mem hmem⟩

/-- If no work fails, no error is stored and no failure is made known. -/
theorem Reachable.unfailed (h : Reachable items work slots s)
    (hok : ∀ item ∈ items, (work item).failure = none) : s.error = none ∧ s.failed = false := by
  have herror : s.error = none := by
    cases he : s.error with
    | none => rfl
    | some e =>
      obtain ⟨item, hmem, hfail⟩ := h.blamed.stored he
      rw [hok item hmem] at hfail
      cases hfail
  refine ⟨herror, ?_⟩
  cases hf : s.failed with
  | false => rfl
  | true => exact absurd herror (h.blamed.raised hf)

/-- What a run over items amounts to if no work fails. -/
structure Complete (items : List ι) (work : ι → Work α ε) (s : State ι α ε) : Prop where
  result : s.result = .ok ()
  announced : s.announced = announcements items items.length
  recorded : (s.recorded.map Prod.snd).Perm (items.flatMap fun item => (work item).records)

theorem Reachable.complete (h : Reachable items work slots s) (hover : s.isOver = true)
    (hok : ∀ item ∈ items, (work item).failure = none) : Complete items work s := by
  obtain ⟨hstopped, hdone⟩ := isOver_iff.mp hover
  obtain ⟨herror, hcalm⟩ := h.unfailed hok
  -- the dispatcher has not stopped early
  have hall : s.workers.length = items.length := by
    have hspawned := h.dispatched.spawned
    rcases h.blamed.stopped hstopped with hle | hfailed
    · omega
    · rw [hcalm] at hfailed
      cases hfailed
  refine ⟨by rw [State.result, herror], ?_, ?_⟩
  · have hann := h.dispatched.announced
    rwa [hall, hstopped] at hann
  · have hby : ∀ {i item}, items[i]? = some item → s.recordedBy i = (work item).records := by
      intro i item hitem
      have hlt : i < s.workers.length := hall ▸ (List.getElem?_eq_some_iff.mp hitem).1
      exact h.recordedBy_of_done hitem (getElem?_eq_done hdone hlt)
    have hperm := (perm_flatMap_filter s.recorded fun x hx => hall ▸ h.index_lt hx).map Prod.snd
    rw [List.map_flatMap] at hperm
    exact hperm.trans (List.Perm.of_eq (flatMap_range_eq hby))

end SecretScan.Pool
