import Mathlib.Data.List.Nodup
import SwaggerService.Registry

/-! # Free names

The search for a free name ends: of the numbered forms of a candidate at most as many are in use as
there are names, and one more than that is tried. So the empty text that stands for a failed search is
never given, and whatever name is given was free. -/

namespace SwaggerService.Registry

theorem numbered_injective (candidate : String) : (numbered candidate).Injective := by
  intro m n h
  have hs : candidate.toList ++ (toString m).toList = candidate.toList ++ (toString n).toList := by
    simpa only [numbered, String.toList_append] using congrArg String.toList h
  have hd : Nat.toDigits 10 m = Nat.toDigits 10 n := by
    simpa only [Nat.toString_eq_ofList_toDigits, String.toList_ofList] using List.append_cancel_left hs
  have hn := congrArg (Nat.ofDigitChars 10 · 0) hd
  simpa using hn

theorem seek_free {names : List String} {candidate : String} {fuel start n : Nat}
    (h : seek names candidate fuel start = some n) : numbered candidate n ∉ names := by
  induction fuel generalizing start with
  | zero => simp [seek] at h
  | succ fuel ih =>
    rw [seek] at h
    split at h
    · exact ih h
    · next hfree => cases h; exact hfree

theorem seek_none {names : List String} {candidate : String} {fuel start : Nat}
    (h : seek names candidate fuel start = none) :
    ∀ n ∈ List.range' start fuel, numbered candidate n ∈ names := by
  induction fuel generalizing start with
  | zero => simp
  | succ fuel ih =>
    rw [seek] at h
    split at h
    · next hused =>
      rw [List.range'_succ]
      exact List.forall_mem_cons.mpr ⟨hused, ih h⟩
    · cases h

/-- Pigeonhole: the numbered forms that are tried are distinct, and more than there are names. -/
theorem seek_exists (names : List String) (candidate : String) (start : Nat) :
    ∃ n, seek names candidate (names.length + 1) start = some n := by
  cases h : seek names candidate (names.length + 1) start with
  | some n => exact ⟨n, rfl⟩
  | none =>
    let tried := (List.range' start (names.length + 1)).map (numbered candidate)
    have hd : tried.Nodup := List.Nodup.map (numbered_injective candidate) List.nodup_range'
    have hs : tried ⊆ names := fun name hm => by
      obtain ⟨n, hn, rfl⟩ := List.mem_map.mp hm
      exact seek_none h n hn
    have hl := hd.length_le_of_subset hs
    simp only [tried, List.length_map, List.length_range'] at hl
    omega

/-- The search passes over names in use only. -/
theorem seek_least {names : List String} {candidate : String} {fuel start n : Nat}
    (h : seek names candidate fuel start = some n) :
    start ≤ n ∧ ∀ k, start ≤ k → k < n → numbered candidate k ∈ names := by
  induction fuel generalizing start with
  | zero => simp [seek] at h
  | succ fuel ih =>
    rw [seek] at h
    split at h
    · next hused =>
      obtain ⟨hle, hpassed⟩ := ih h
      refine ⟨by omega, fun k hk hlt => ?_⟩
      by_cases hfirst : k = start
      · exact hfirst ▸ hused
      · exact hpassed k (by omega) hlt
    · cases h
      exact ⟨Nat.le_refl _, fun k hk hlt => by omega⟩

theorem freeName_not_mem (names : List String) (candidate : String) :
    freeName names candidate ∉ names := by
  unfold freeName
  split
  · obtain ⟨n, hn⟩ := seek_exists names candidate 2
    rw [hn]
    exact seek_free hn
  · next hfree => exact hfree

/-- A name is its candidate, or the candidate extended by the least number from 2 on that is left. -/
theorem freeName_least (names : List String) (candidate : String) :
    freeName names candidate = candidate ∨
      candidate ∈ names ∧ ∃ n, 2 ≤ n ∧ freeName names candidate = numbered candidate n ∧
        ∀ k, 2 ≤ k → k < n → numbered candidate k ∈ names := by
  by_cases hused : candidate ∈ names
  · obtain ⟨n, hn⟩ := seek_exists names candidate 2
    obtain ⟨hle, hpassed⟩ := seek_least hn
    have hname : freeName names candidate = numbered candidate n := by
      rw [freeName, if_pos hused, hn]
      rfl
    exact .inr ⟨hused, n, hle, hname, hpassed⟩
  · left
    rw [freeName, if_neg hused]

theorem seek_congr {names names' : List String} (h : ∀ name, name ∈ names' ↔ name ∈ names)
    (candidate : String) (fuel start : Nat) :
    seek names' candidate fuel start = seek names candidate fuel start := by
  induction fuel generalizing start with
  | zero => rfl
  | succ fuel ih => rw [seek, seek, ih, if_congr (h _) rfl rfl]

/-- Which name is free does not depend on the order in which others were taken. -/
theorem freeName_perm {names names' : List String} (hp : names'.Perm names) (candidate : String) :
    freeName names' candidate = freeName names candidate := by
  have hmem : ∀ name, name ∈ names' ↔ name ∈ names := fun _ => hp.mem_iff
  rw [freeName, freeName, seek_congr hmem, hp.length_eq, if_congr (hmem _) rfl rfl]

/-! ## Taking several names -/

/-- The names in use after some more were taken, one after the other. -/
def take (names claims : List String) : List String :=
  claims.foldl (fun names name => names.insert name) names

theorem take_append (names xs ys : List String) : take names (xs ++ ys) = take (take names xs) ys :=
  List.foldl_append

theorem mem_take {names claims : List String} {name : String} :
    name ∈ take names claims ↔ name ∈ names ∨ name ∈ claims := by
  induction claims generalizing names with
  | nil => simp [take]
  | cons claim rest ih =>
    rw [take, List.foldl_cons, ← take, ih, List.mem_insert_iff, List.mem_cons]
    tauto

theorem forall_mem_take {names claims : List String} {p : String → Prop} (hn : ∀ name ∈ names, p name)
    (hc : ∀ name ∈ claims, p name) : ∀ name ∈ take names claims, p name :=
  fun name h => (mem_take.mp h).elim (hn name) (hc name)

theorem take_perm {names names' claims claims' : List String} (hn : names'.Perm names)
    (hc : claims'.Perm claims) : (take names' claims').Perm (take names claims) := by
  have hsame : ∀ (claims : List String) {names names' : List String}, names'.Perm names →
      (take names' claims).Perm (take names claims) := by
    intro claims
    induction claims with
    | nil => exact fun hn => hn
    | cons claim rest ih => exact fun hn => ih (hn.insert claim)
  induction hc generalizing names names' with
  | nil => exact hn
  | cons claim _ ih => exact ih (hn.insert claim)
  | swap first second rest =>
    refine hsame rest ((List.perm_insert_swap first second names').trans ?_)
    exact (hn.insert first).insert second
  | trans _ _ ih ih' => exact (ih hn).trans (ih' (.refl _))

/-- Names that are distinct and were not in use. -/
def Fresh (names claims : List String) : Prop := claims.Nodup ∧ ∀ name ∈ claims, name ∉ names

theorem Fresh.nil (names : List String) : Fresh names [] := ⟨List.nodup_nil, nofun⟩

theorem Fresh.append {names xs ys : List String} (hx : Fresh names xs) (hy : Fresh (take names xs) ys) :
    Fresh names (xs ++ ys) := by
  refine ⟨List.nodup_append.mpr ⟨hx.1, hy.1, ?_⟩, ?_⟩
  · rintro a ha b hb rfl
    exact hy.2 a hb (mem_take.mpr (.inr ha))
  · intro name h
    rcases List.mem_append.mp h with h | h
    · exact hx.2 name h
    · exact fun hn => hy.2 name h (mem_take.mpr (.inl hn))

theorem Fresh.freeName (names : List String) (candidate : String) :
    Fresh names [freeName names candidate] :=
  ⟨List.nodup_singleton _, fun _ h => List.mem_singleton.mp h ▸ freeName_not_mem names candidate⟩

end SwaggerService.Registry
