/-! # Ordered entries

Sections of a document, objects and mappings keep their entries in the order in which their keys were
first written. A key that is written again keeps its place and takes the later value. -/

namespace SwaggerService.Entries

variable {α : Type}

/-- Adds an entry at the end, or replaces the value of a key that is already there. -/
def put (key : String) (value : α) : List (String × α) → List (String × α)
  | [] => [(key, value)]
  | (k, v) :: rest => if k == key then (k, value) :: rest else (k, v) :: put key value rest

/-- The value of a key. -/
def get? (key : String) : List (String × α) → Option α
  | [] => none
  | (k, v) :: rest => if k == key then some v else get? key rest

/-- Enters all of the entries, one after the other. -/
def ofList (entries : List (String × α)) : List (String × α) :=
  entries.foldl (fun done (key, value) => put key value done) []

theorem keys_put (key : String) (value : α) (entries : List (String × α)) :
    (put key value entries).map (·.1) =
      if key ∈ entries.map (·.1) then entries.map (·.1) else entries.map (·.1) ++ [key] := by
  induction entries with
  | nil => simp [put]
  | cons entry rest ih =>
    obtain ⟨k, v⟩ := entry
    by_cases h : k = key
    · simp [put, h]
    · have h' : ¬key = k := fun e => h e.symm
      by_cases m : key ∈ rest.map (·.1)
      · simp [put, h, h', ih, m]
      · simp [put, h, h', ih, m]

theorem nodup_put {key : String} {value : α} {entries : List (String × α)}
    (h : (entries.map (·.1)).Nodup) : ((put key value entries).map (·.1)).Nodup := by
  rw [keys_put]
  split
  · exact h
  · next absent => exact List.nodup_append.2 ⟨h, by simp, by
      intro a ha b hb
      simp only [List.mem_singleton] at hb
      exact fun e => absent (hb ▸ e ▸ ha)⟩

end SwaggerService.Entries
