import Mathlib
import SecretScan.Text.CaseFold

/-!
# Texts in any letter case

What differs from a text in the case of its letters only, and the code points that do not differ from
any other one in case.
-/

namespace SecretScan.CaseFold

/-- The text is the word in any letter case. -/
def Alike (word text : List Char) : Prop :=
  List.Forall₂ (fun c d => d.toNat ∈ variants c.toNat) word text

/-- Whether no other code point differs from this one in case only. -/
def isCaseless (c : Nat) : Bool :=
  families.all (fun family => !family.contains c) && pairs.all fun run => (run.partner? c).isNone

theorem PairRun.isSome_partner?_iff {run : PairRun} {c : Nat} : (run.partner? c).isSome ↔
    run.hasSmaller c = true ∨ run.offset ≤ c ∧ run.hasSmaller (c - run.offset) = true := by
  unfold partner?
  split_ifs with hsmaller hlarger
  · simp [hsmaller]
  · simpa [hsmaller] using hlarger
  · simpa [hsmaller] using hlarger

/-- Of two partners, each has a partner. -/
theorem PairRun.isSome_partner? {run : PairRun} {c d : Nat} (h : run.partner? c = some d) :
    (run.partner? d).isSome := by
  rw [isSome_partner?_iff]
  unfold partner? at h
  split_ifs at h with hsmaller hlarger
  · cases h
    rw [Nat.add_sub_cancel]
    exact .inr ⟨Nat.le_add_left _ _, hsmaller⟩
  · cases h
    exact .inl (Bool.and_eq_true_iff.mp hlarger).2

/-- A caseless code point differs in case from no other code point. -/
theorem eq_of_mem_variants {c d : Nat} (hcaseless : isCaseless d = true) (h : d ∈ variants c) :
    d = c := by
  rw [isCaseless, Bool.and_eq_true, List.all_eq_true, List.all_eq_true] at hcaseless
  -- a caseless code point is in no family and has no partner
  obtain ⟨hfamilies, hpairs⟩ := hcaseless
  unfold variants at h
  split_ifs at h with hplain
  · exact List.mem_singleton.mp h
  · split at h
    next family hfamily =>
      have hnot := hfamilies family (List.mem_of_find?_eq_some hfamily)
      simp [h] at hnot
    next =>
      split at h
      next partner hpartner =>
        obtain ⟨run, hrun, hsome⟩ := List.exists_of_findSome?_eq_some hpartner
        rcases List.mem_pair.mp h with rfl | rfl
        · rfl
        · -- being partners goes both ways
          have hnone := hpairs run hrun
          rw [Option.isNone_iff_eq_none] at hnone
          have hd := PairRun.isSome_partner? hsome
          rw [hnone] at hd
          cases hd
      next => exact List.mem_singleton.mp h

end SecretScan.CaseFold
