import Mathlib.Data.List.Induction
import SwaggerService.Proofs.Blueprint

/-! # Grouping of paths

Paths are entered into their groups one after the other. What comes out has one group for each first
segment, in the order in which the segments occur, and each group is the filter of the paths by its
segment: so a path is in one group only, and keeps its place among the paths of that group. -/

namespace SwaggerService

/-- The first segment is what stands between the first and the second `/`. -/
theorem firstSegment_toList (path : String) :
    (firstSegment path).toList =
      ((path.toList.dropWhile (· != '/')).drop 1).takeWhile (· != '/') := by
  have hhead : ∀ cs : List Char, (cs.splitOn '/')[0]? = some (cs.takeWhile (· != '/')) := by
    intro cs
    induction cs with
    | nil => rfl
    | cons c rest ih =>
      rw [List.splitOn_cons_eq_if_modifyHead]
      by_cases h : c = '/'
      · simp [h]
      · simp [h, ih, List.getElem?_modifyHead]
  have hsecond : ∀ cs : List Char, ((cs.splitOn '/')[1]?).getD [] =
      ((cs.dropWhile (· != '/')).drop 1).takeWhile (· != '/') := by
    intro cs
    induction cs with
    | nil => rfl
    | cons c rest ih =>
      rw [List.splitOn_cons_eq_if_modifyHead]
      by_cases h : c = '/'
      · simp [h, hhead]
      · simp [h, ih]
  rw [firstSegment, String.toList_ofList, hsecond]

example : firstSegment "/widgets/{id}" = "widgets" ∧ firstSegment "widgets" = "" := by cbv

namespace Entries

variable {α : Type}

theorem put_map (f : String → α) (key : String) (value : α) {keys : List String} (hd : keys.Nodup) :
    put key value (keys.map fun k => (k, f k)) =
      if key ∈ keys then keys.map fun k => (k, if k = key then value else f k)
      else (keys.map fun k => (k, f k)) ++ [(key, value)] := by
  induction keys with
  | nil => rfl
  | cons k rest ih =>
    obtain ⟨habsent, hrest⟩ := List.nodup_cons.mp hd
    by_cases h : k = key
    · subst h
      have hsame : rest.map (fun other => (other, if other = k then value else f other)) =
          rest.map fun other => (other, f other) := by
        refine List.map_congr_left fun other hm => ?_
        have hne : other ≠ k := fun e => habsent (e ▸ hm)
        rw [if_neg hne]
      simp [put, hsame]
    · have h' : ¬ key = k := fun e => h e.symm
      by_cases hm : key ∈ rest
      · simp [put, h, h', ih hrest, hm]
      · simp [put, h, h', ih hrest, hm]

theorem get?_map (f : String → α) (key : String) (keys : List String) :
    get? key (keys.map fun k => (k, f k)) = if key ∈ keys then some (f key) else none := by
  induction keys with
  | nil => rfl
  | cons k rest ih =>
    by_cases h : k = key
    · simp [get?, h]
    · have h' : ¬ key = k := fun e => h e.symm
      simp [get?, h, h', ih]

end Entries

theorem eraseDups_concat {α : Type} [DecidableEq α] (xs : List α) (x : α) :
    (xs ++ [x]).eraseDups = if x ∈ xs then xs.eraseDups else xs.eraseDups ++ [x] := by
  rw [List.eraseDups_append, List.removeAll, List.filter_singleton]
  by_cases h : x ∈ xs
  · simp [h]
  · simp [h, List.eraseDups_cons]

theorem nodup_eraseDups {α : Type} [DecidableEq α] (xs : List α) : xs.eraseDups.Nodup := by
  induction xs using List.reverseRecOn with
  | nil => exact List.nodup_nil
  | append_singleton xs x ih =>
    rw [eraseDups_concat]
    split
    · exact ih
    · next h =>
      refine List.nodup_append.mpr ⟨ih, List.nodup_singleton x, ?_⟩
      rintro a ha b hb rfl
      rw [List.mem_singleton.mp hb] at ha
      exact h (List.mem_eraseDups.mp ha)

section groups

variable {α : Type}

/-- The first segments of some paths, each one once, in the order in which they occur. -/
def segments (paths : List (String × α)) : List String := (paths.map fun p => firstSegment p.1).eraseDups

/-- The paths with a first segment. -/
def pathsUnder (segment : String) (paths : List (String × α)) : List (String × α) :=
  paths.filter fun p => firstSegment p.1 == segment

theorem mem_segments {segment : String} {paths : List (String × α)} :
    segment ∈ segments paths ↔ ∃ p ∈ paths, firstSegment p.1 = segment := by
  rw [segments, List.mem_eraseDups, List.mem_map]

theorem segments_nodup (paths : List (String × α)) : (segments paths).Nodup := nodup_eraseDups _

theorem pathsUnder_concat (segment : String) (paths : List (String × α)) (entry : String × α) :
    pathsUnder segment (paths ++ [entry]) =
      if segment = firstSegment entry.1 then pathsUnder segment paths ++ [entry]
      else pathsUnder segment paths := by
  rw [pathsUnder, List.filter_append, List.filter_cons, List.filter_nil]
  by_cases h : segment = firstSegment entry.1
  · simp [h, pathsUnder]
  · have h' : ¬ firstSegment entry.1 = segment := fun e => h e.symm
    simp [h, h', pathsUnder]

/-- A segment that no path has yet has no paths yet. -/
theorem pathsUnder_eq_nil {segment : String} {paths : List (String × α)} (h : segment ∉ segments paths) :
    pathsUnder segment paths = [] := by
  refine List.filter_eq_nil_iff.mpr fun p hp hs => h ?_
  exact mem_segments.mpr ⟨p, hp, by simpa using hs⟩

/-- The groups, said without the order in which paths are entered. -/
theorem groupPaths_eq (paths : List (String × α)) :
    groupPaths paths = (segments paths).map fun segment => (segment, pathsUnder segment paths) := by
  induction paths using List.reverseRecOn with
  | nil => rfl
  | append_singleton paths entry ih =>
    have hstep : groupPaths (paths ++ [entry]) = Entries.put (firstSegment entry.1)
        ((Entries.get? (firstSegment entry.1) (groupPaths paths)).getD [] ++ [entry])
        (groupPaths paths) := List.foldl_concat _ _ _ _
    have hgroup : (Entries.get? (firstSegment entry.1) (groupPaths paths)).getD [] =
        pathsUnder (firstSegment entry.1) paths := by
      rw [ih, Entries.get?_map]
      split
      · rfl
      · next hnew => exact (pathsUnder_eq_nil hnew).symm
    have hsegments : segments (paths ++ [entry]) = if firstSegment entry.1 ∈ segments paths
        then segments paths else segments paths ++ [firstSegment entry.1] := by
      rw [segments, List.map_append, List.map_singleton, eraseDups_concat]
      simp only [segments, List.mem_eraseDups]
    rw [hstep, hgroup, ih, Entries.put_map _ _ _ (segments_nodup paths), hsegments]
    by_cases hm : firstSegment entry.1 ∈ segments paths
    · rw [if_pos hm, if_pos hm]
      refine List.map_congr_left fun segment _ => ?_
      rw [pathsUnder_concat]
      by_cases hs : segment = firstSegment entry.1
      · rw [if_pos hs, if_pos hs, hs]
      · rw [if_neg hs, if_neg hs]
    · rw [if_neg hm, if_neg hm, List.map_append, List.map_singleton, pathsUnder_concat, if_pos rfl]
      congr 1
      refine List.map_congr_left fun segment hs => ?_
      have hne : segment ≠ firstSegment entry.1 := fun e => hm (e ▸ hs)
      rw [pathsUnder_concat, if_neg hne]

theorem mem_groupPaths {segment : String} {group paths : List (String × α)} {p : String × α}
    (hg : (segment, group) ∈ groupPaths paths) (hp : p ∈ group) : p ∈ paths := by
  rw [groupPaths_eq] at hg
  obtain ⟨_, _, he⟩ := List.mem_map.mp hg
  cases he
  exact (List.mem_filter.mp hp).1

/-- Every path is in the group of its segment. -/
theorem exists_mem_groupPaths {paths : List (String × α)} {p : String × α} (hp : p ∈ paths) :
    ∃ group, (firstSegment p.1, group) ∈ groupPaths paths ∧ p ∈ group := by
  refine ⟨pathsUnder (firstSegment p.1) paths, ?_, List.mem_filter.mpr ⟨hp, beq_self_eq_true _⟩⟩
  rw [groupPaths_eq]
  exact List.mem_map.mpr ⟨_, mem_segments.mpr ⟨p, hp, rfl⟩, rfl⟩

end groups

/-- The operations that interfaces are made of are those of the paths. -/
theorem Document.mem_operations {d : Document} {o : Operation} {shared : List (RefOr Parameter)} :
    (o, shared) ∈ d.operations ↔
      ∃ path item verb, (path, item) ∈ d.paths ∧ (verb, o) ∈ item.operations ∧ shared = item.parameters := by
  constructor
  · intro h
    obtain ⟨⟨segment, group⟩, hg, h⟩ := List.mem_flatMap.mp h
    obtain ⟨⟨path, item⟩, hp, h⟩ := List.mem_flatMap.mp h
    obtain ⟨⟨verb, _⟩, ho, he⟩ := List.mem_map.mp h
    cases he
    exact ⟨path, item, verb, mem_groupPaths hg hp, ho, rfl⟩
  · rintro ⟨path, item, verb, hp, ho, rfl⟩
    obtain ⟨group, hg, hp⟩ := exists_mem_groupPaths hp
    refine List.mem_flatMap.mpr ⟨_, hg, List.mem_flatMap.mpr ⟨_, hp, ?_⟩⟩
    exact List.mem_map.mpr ⟨_, ho, rfl⟩

end SwaggerService
