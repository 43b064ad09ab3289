import Mathlib.Data.Finset.Card
import Mathlib.Order.Bounds.Basic
import SwaggerService.Proofs.FreeNames

/-! # The search for a suffix

How far a free name is from its candidate. The candidate and its numbered forms are all different, so at
most as many numbers are passed over as there are other names in use. The search therefore ends within as
many steps as there are names, with the least number that is left, and more steps would change nothing. A
name that is in use twice counts once. -/

namespace SwaggerService.Registry

variable {names : List String} {candidate : String}

/-- A number adds something to a name. -/
theorem numbered_ne (candidate : String) (n : Nat) : numbered candidate n ≠ candidate := by
  intro h
  have hs := congrArg String.toList h
  rw [numbered, String.toList_append, List.append_right_eq_self, Nat.toString_eq_ofList_toDigits,
    String.toList_ofList] at hs
  exact Nat.toDigits_ne_nil hs

theorem seek_lt {fuel start n : Nat} (h : seek names candidate fuel start = some n) : n < start + fuel := by
  induction fuel generalizing start with
  | zero => cases h
  | succ fuel ih =>
    rw [seek] at h
    split at h
    · have := ih h
      omega
    · cases h
      omega

/-- Pigeonhole: a candidate that is in use, with the numbered forms that are, is among the names. -/
theorem seek_exists_card (hused : candidate ∈ names) {fuel : Nat} (hfuel : names.toFinset.card ≤ fuel)
    (start : Nat) : ∃ n, seek names candidate fuel start = some n := by
  cases h : seek names candidate fuel start with
  | some n => exact ⟨n, rfl⟩
  | none =>
    let tried := (List.range' start fuel).map (numbered candidate)
    have hnodup : (candidate :: tried).Nodup := by
      refine List.nodup_cons.mpr ⟨?_, List.Nodup.map (numbered_injective candidate) List.nodup_range'⟩
      intro hm
      obtain ⟨n, _, hn⟩ := List.mem_map.mp hm
      exact numbered_ne candidate n hn
    have hsub : (candidate :: tried).toFinset ⊆ names.toFinset := by
      intro name hm
      rcases List.mem_cons.mp (List.mem_toFinset.mp hm) with rfl | hm
      · exact List.mem_toFinset.mpr hused
      · obtain ⟨n, hn, rfl⟩ := List.mem_map.mp hm
        exact List.mem_toFinset.mpr (seek_none h n hn)
    have hcard := Finset.card_le_card hsub
    rw [List.toFinset_card_of_nodup hnodup, List.length_cons, List.length_map, List.length_range'] at hcard
    omega

/-- The number that is found is the least one from the start on that makes the name free. -/
theorem seek_isLeast {fuel start n : Nat} (h : seek names candidate fuel start = some n) :
    IsLeast {k | start ≤ k ∧ numbered candidate k ∉ names} n := by
  obtain ⟨hstart, hpassed⟩ := seek_least h
  refine ⟨⟨hstart, seek_free h⟩, fun k hk => ?_⟩
  by_contra hlt
  exact hk.2 (hpassed k hk.1 (Nat.lt_of_not_le hlt))

/-- A candidate that is in use has a least free number, however long the search may be beyond the number of
names, and that number is at most one more than there are names. -/
theorem exists_suffix (hused : candidate ∈ names) :
    ∃ n, IsLeast {k | 2 ≤ k ∧ numbered candidate k ∉ names} n ∧ n ≤ names.toFinset.card + 1 ∧
      ∀ fuel, names.toFinset.card ≤ fuel → seek names candidate fuel 2 = some n := by
  obtain ⟨n, hn⟩ := seek_exists_card hused (Nat.le_refl _) 2
  have hleast := seek_isLeast hn
  have hlt := seek_lt hn
  refine ⟨n, hleast, by omega, fun fuel hfuel => ?_⟩
  obtain ⟨k, hk⟩ := seek_exists_card hused hfuel 2
  rw [hk, (seek_isLeast hk).unique hleast]

theorem toFinset_insert (names : List String) (name : String) :
    (names.insert name).toFinset = insert name names.toFinset := by
  ext other
  rw [List.mem_toFinset, List.mem_insert_iff, Finset.mem_insert, List.mem_toFinset]

/-- Taking a name gives the candidate itself if it is free, and otherwise the candidate with the least
number from 2 on that makes it free. The search for that number ends, so the text that stands for a failed
search is never given. The name was free, it is taken afterwards, and nothing else is different. -/
theorem claim_exact (r : Registry) (candidate : String) :
    (candidate ∉ r.names → (r.claim candidate).1 = candidate) ∧
    (candidate ∈ r.names → ∃ n, IsLeast {k | 2 ≤ k ∧ candidate ++ toString k ∉ r.names} n ∧
      n ≤ r.names.toFinset.card + 1 ∧
      (∀ fuel, r.names.toFinset.card ≤ fuel → seek r.names candidate fuel 2 = some n) ∧
      (r.claim candidate).1 = candidate ++ toString n) ∧
    (r.claim candidate).1 ∉ r.names ∧
    ∃ names, (r.claim candidate).2 = { r with names } ∧
      names.toFinset = insert (r.claim candidate).1 r.names.toFinset := by
  refine ⟨?_, ?_, freeName_not_mem _ _, _, rfl, toFinset_insert _ _⟩
  · intro hfree
    exact if_neg hfree
  · intro hused
    obtain ⟨n, hleast, hbound, hsearch⟩ := exists_suffix hused
    refine ⟨n, hleast, hbound, hsearch, ?_⟩
    have henough : r.names.toFinset.card ≤ r.names.length + 1 :=
      Nat.le_succ_of_le (List.toFinset_card_le r.names)
    change freeName r.names candidate = numbered candidate n
    rw [freeName, if_pos hused, hsearch _ henough]
    rfl

example : (claim { names := ["v2", "v22"], maxDepth := 1 } "v2").1 = "v23" := by decide +kernel

end SwaggerService.Registry
