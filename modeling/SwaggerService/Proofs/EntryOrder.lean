import SwaggerService.Proofs.DistinctKeys

/-! # The order of entries

Schemas, parameters and responses are read from the entries of an object. Each keyword of a schema is a cell
of its own: to enter one never looks at another, so two keywords may be entered in either order. Where keys
are distinct, what is read therefore does not depend on the order of the entries; only which of several
faults is reported does. -/

namespace SwaggerService
open Decode

theorem toOption_bind {ε α β : Type} (e : Except ε α) (f : α → Except ε β) :
    (e >>= f).toOption = e.toOption.bind fun a => (f a).toOption := by
  cases e with
  | error _ => rfl
  | ok _ => rfl

/-- Outcomes agree, whatever the faults are, if each is a value wherever the other one is. -/
theorem toOption_congr {ε α : Type} {e e' : Except ε α} (h : ∀ a, e = .ok a → e' = .ok a)
    (h' : ∀ a, e' = .ok a → e = .ok a) : e'.toOption = e.toOption := by
  refine Option.ext fun a => ?_
  rw [toOption_eq_some, toOption_eq_some]
  exact ⟨h' a, h a⟩

/-! ## Schemas -/

namespace Schema

/-- What a schema says under one keyword. -/
abbrev Cell := (α : Type) × α

/-- What a schema says under each of the keywords, in their order. -/
def row (s : Schema) : List Cell :=
  [⟨_, s.type⟩, ⟨_, s.description⟩, ⟨_, s.format⟩, ⟨_, s.pattern⟩, ⟨_, s.minLength⟩, ⟨_, s.maxLength⟩,
    ⟨_, s.enumValues⟩, ⟨_, s.multipleOf⟩, ⟨_, s.minimum⟩, ⟨_, s.exclusiveMinimum⟩, ⟨_, s.maximum⟩,
    ⟨_, s.exclusiveMaximum⟩, ⟨_, s.items⟩, ⟨_, s.minItems⟩, ⟨_, s.maxItems⟩, ⟨_, s.uniqueItems⟩,
    ⟨_, s.properties⟩, ⟨_, s.required⟩, ⟨_, s.allOf⟩, ⟨_, s.minProperties⟩, ⟨_, s.maxProperties⟩,
    ⟨_, s.additionalProperties⟩]

theorem row_injective : Function.Injective row := by
  intro s t h
  cases s
  cases t
  simpa only [row, List.cons.injEq, Sigma.mk.injEq, heq_eq_eq, true_and, and_true, mk.injEq] using h

/-- A cell that is set to what was read. -/
theorem read_row {α : Type} {read : Except Decode.Fault α} {write : Schema → α → Schema} {index : Nat}
    (h : ∀ s a, row (write s a) = (row s).set index ⟨α, a⟩) :
    ∃ cell : Option Cell, ∀ s, (read >>= fun a => Except.ok (write s a)).toOption.map row =
      cell.map fun c => (row s).set index c := by
  refine ⟨read.toOption.map fun a => ⟨α, a⟩, fun s => ?_⟩
  cases read with
  | error _ => rfl
  | ok a => exact congrArg some (h s a)

/-- To enter a keyword is to set its cell, to a value that does not depend on the schema. -/
theorem enter_row (payload : Payload) (keyword : String) (v : Json) (readings : Readings) :
    ∃ cell : Option Cell, ∀ s, (enter payload s keyword v readings).toOption.map row =
      cell.map fun c => (row s).set (keywords.idxOf keyword) c := by
  unfold enter
  split
  case h_23 =>
    -- No other keyword has a cell.
    have hunknown : keyword ∉ keywords := by simp_all [keywords]
    refine ⟨some ⟨Unit, ()⟩, fun s => congrArg some (List.set_eq_of_length_le ?_).symm⟩
    rw [List.idxOf_eq_length hunknown]
    exact Nat.le_refl _
  all_goals exact read_row fun _ _ => rfl

theorem enter_unknown {payload : Payload} {keyword : String} (h : keyword ∉ keywords) (s : Schema)
    (v : Json) (readings : Readings) : enter payload s keyword v readings = .ok s := by
  unfold enter
  split
  case h_23 => rfl
  all_goals exact absurd (by decide) h

theorem set_row_comm (s : Schema) {keyword other : String} (hne : keyword ≠ other) (c d : Cell) :
    ((row s).set (keywords.idxOf keyword) c).set (keywords.idxOf other) d =
      ((row s).set (keywords.idxOf other) d).set (keywords.idxOf keyword) c := by
  by_cases hmem : keyword ∈ keywords
  · exact List.set_comm c d fun heq => hne ((List.idxOf_inj hmem).mp heq)
  · have hidle : ∀ cells : List Cell, cells.length = (row s).length →
        cells.set (keywords.idxOf keyword) c = cells := by
      intro cells hlength
      refine List.set_eq_of_length_le ?_
      rw [hlength, List.idxOf_eq_length hmem]
      exact Nat.le_refl _
    rw [hidle _ rfl, hidle _ (List.length_set ..)]

theorem row_of_bind {e : Except Decode.Fault Schema} {f : Schema → Except Decode.Fault Schema}
    {cells : Option (List Cell)} {cell : Option Cell} {index : Nat} (he : e.toOption.map row = cells)
    (hf : ∀ s, (f s).toOption.map row = cell.map fun c => (row s).set index c) :
    (e >>= f).toOption.map row = cells.bind fun cells => cell.map fun c => cells.set index c := by
  subst he
  cases e with
  | error _ => rfl
  | ok s => exact hf s

/-- Two keywords may be entered in either order. -/
theorem enter_comm (payload : Payload) (s : Schema) {keyword other : String} (hne : keyword ≠ other)
    (v w : Json) (readings readings' : Readings) :
    (enter payload s keyword v readings >>= fun s => enter payload s other w readings').toOption =
      (enter payload s other w readings' >>= fun s => enter payload s keyword v readings).toOption := by
  obtain ⟨c, hc⟩ := enter_row payload keyword v readings
  obtain ⟨d, hd⟩ := enter_row payload other w readings'
  refine Option.map_injective row_injective ?_
  rw [row_of_bind (hc s) hd, row_of_bind (hd s) hc]
  cases c with
  | none => cases d <;> rfl
  | some c =>
    cases d with
    | none => rfl
    | some d => exact congrArg some (set_row_comm s hne c d)

/-- Entries with distinct keys may be entered in any order. -/
theorem ofEntries_perm {entries entries' : List (String × Json)} (hp : entries'.Perm entries)
    (hd : (entries'.map (·.1)).Nodup) (payload : Payload) (s : Schema) :
    (ofEntries payload s entries').toOption = (ofEntries payload s entries).toOption := by
  induction hp generalizing s with
  | nil => rfl
  | cons entry _ ih =>
    obtain ⟨keyword, v⟩ := entry
    rw [ofEntries, ofEntries, toOption_bind, toOption_bind]
    exact Option.bind_congr fun s _ => ih (List.nodup_cons.mp hd).2 s
  | swap first second rest =>
    obtain ⟨keyword, v⟩ := first
    obtain ⟨other, w⟩ := second
    have hne : other ≠ keyword := by
      have hnot := (List.nodup_cons.mp hd).1
      exact fun heq => hnot (heq ▸ List.mem_cons_self)
    simp only [ofEntries]
    rw [← bind_assoc, ← bind_assoc, toOption_bind, toOption_bind (_ >>= _)]
    exact congrArg (Option.bind · _) (enter_comm payload s hne ..)
  | trans hfirst _ ih ih' => exact (ih hd s).trans (ih' (Entries.nodup_perm hfirst.symm hd) s)

/-- What is no keyword of a schema may have any value. -/
theorem ofEntries_congr {entries entries' : List (String × Json)} (payload : Payload)
    (h : List.Forall₂ (fun entry entry' => entry'.1 = entry.1 ∧ (entry'.2 = entry.2 ∨ entry.1 ∉ keywords))
      entries entries') (s : Schema) : ofEntries payload s entries' = ofEntries payload s entries := by
  induction h generalizing s with
  | nil => rfl
  | @cons entry entry' _ _ hentry _ ih =>
    obtain ⟨keyword, v⟩ := entry
    obtain ⟨keyword', v'⟩ := entry'
    obtain ⟨hkey, hvalue⟩ := hentry
    dsimp only at hkey hvalue
    subst hkey
    rw [ofEntries, ofEntries]
    rcases hvalue with rfl | hunknown
    · exact bind_congr fun s => ih s
    · rw [enter_unknown hunknown, enter_unknown hunknown]
      exact ih s

theorem decode_perm {fields fields' : List (String × Json)} (hp : fields'.Perm fields)
    (hd : (fields.map (·.1)).Nodup) :
    (decode (.object fields')).toOption = (decode (.object fields)).toOption :=
  ofEntries_perm hp (Entries.nodup_perm hp hd) .null {}

end Schema

/-! ## Fields -/

namespace Decode.Fields

variable {α β : Type}

/-- Whatever fields are read as from one source, something that corresponds is read from another one. -/
def Transfers (fields : Fields α) (source source' : Source) (index : Nat) (V : α → α → Prop) : Prop :=
  ∀ a, fields.read source index = .ok a → ∃ a', fields.read source' index = .ok a' ∧ V a a'

variable {source source' : Source} {index : Nat}

theorem Transfers.seq {f : Fields (α → β)} {x : Fields α} {V : α → α → Prop} {W : β → β → Prop}
    (hx : x.Transfers source source' (index + f.count) V)
    (hf : f.Transfers source source' index fun g g' => ∀ a a', V a a' → W (g a) (g' a')) :
    (f <*> x).Transfers source source' index W := by
  intro b h
  obtain ⟨g, a, hg, ha, rfl⟩ := seq_eq_ok.mp h
  obtain ⟨g', hg', hgg⟩ := hf g hg
  obtain ⟨a', ha', haa⟩ := hx a ha
  exact ⟨g' a', seq_eq_ok.mpr ⟨g', a', hg', ha', rfl⟩, hgg a a' haa⟩

theorem Transfers.map {g : α → β} {x : Fields α} {V : α → α → Prop} {W : β → β → Prop}
    (hx : x.Transfers source source' index V) (hg : ∀ a a', V a a' → W (g a) (g a')) :
    (g <$> x).Transfers source source' index W := by
  refine Transfers.seq hx ?_
  rintro g' ⟨⟩
  exact ⟨g, rfl, hg⟩

theorem field_transfers {name : String} {decode : Decoder α} {absent : Option α} {V : α → α → Prop}
    (h : ∀ a, ReadAs decode absent (source.value? name index) a →
      ∃ a', ReadAs decode absent (source'.value? name index) a' ∧ V a a') :
    (field name decode absent).Transfers source source' index V := by
  intro a ha
  obtain ⟨a', ha', hV⟩ := h a (field_eq_ok.mp ha)
  exact ⟨a', field_eq_ok.mpr ha', hV⟩

theorem field_same {name : String} {decode : Decoder α} {absent : Option α}
    (h : source'.value? name index = source.value? name index) :
    (field name decode absent).Transfers source source' index (· = ·) :=
  field_transfers fun a ha => ⟨a, by rw [h]; exact ha, rfl⟩

/-- Where the fields of both are read as the same, both objects are. -/
theorem ofObject_congr {fields : Fields α} {entries entries' : List (String × Json)}
    (h : fields.Transfers (.object entries) (.object entries') 0 (· = ·))
    (h' : fields.Transfers (.object entries') (.object entries) 0 (· = ·)) :
    (fields.ofObject entries').toOption = (fields.ofObject entries).toOption := by
  have hread : ∀ {entries entries'}, fields.Transfers (.object entries) (.object entries') 0 (· = ·) →
      ∀ a, fields.ofObject entries = .ok a → fields.ofObject entries' = .ok a := by
    intro entries entries' htransfers a ha
    obtain ⟨_, hread, rfl⟩ := htransfers a (mapError_ok ha)
    rw [ofObject, hread]
    rfl
  exact toOption_congr (hread h) (hread h')

end Decode.Fields

/-! ## Parameters and responses -/

/-- The values under some keys are the same in two objects. -/
def Entries.SameAt (keys : List String) (fields fields' : List (String × Json)) : Prop :=
  ∀ key ∈ keys, Entries.get? key fields' = Entries.get? key fields

namespace Entries.SameAt

variable {keys : List String} {fields fields' : List (String × Json)}

theorem symm (h : SameAt keys fields fields') : SameAt keys fields' fields := fun key hk => (h key hk).symm

theorem of_perm (hp : fields'.Perm fields) (hd : (fields.map (·.1)).Nodup) :
    SameAt keys fields fields' := fun key _ => get?_perm hp hd key

theorem field {α : Type} {name : String} {decode : Decoder α} {absent : Option α} {index : Nat}
    (h : SameAt keys fields fields') (hname : name ∈ keys) :
    (Fields.field name decode absent).Transfers (.object fields) (.object fields') index (· = ·) := by
  refine Fields.field_same ?_
  rw [value?_object, value?_object]
  exact h name hname

end Entries.SameAt

namespace Parameter

theorem ownFields_transfers {fields fields' : List (String × Json)}
    (h : Entries.SameAt ownKeys fields fields') :
    ownFields.Transfers (.object fields) (.object fields') 0 (· = ·) := by
  refine .seq (h.field (by decide)) (.seq (h.field (by decide)) (.seq (h.field (by decide)) ?_))
  refine .seq (h.field (by decide)) (.seq (h.field (by decide)) (.map (h.field (by decide)) ?_))
  rintro name _ rfl location _ rfl description _ rfl required _ rfl schema _ rfl format _ rfl
  rfl

theorem decode_congr {fields fields' : List (String × Json)} (hown : Entries.SameAt ownKeys fields fields')
    (hothers : (Schema.ofEntries .nullOrEmpty {} (fields'.filter fun (key, _) => !ownKeys.contains key)).toOption =
      (Schema.ofEntries .nullOrEmpty {} (fields.filter fun (key, _) => !ownKeys.contains key)).toOption) :
    (decode (.object fields')).toOption = (decode (.object fields)).toOption := by
  have hfields := Fields.ofObject_congr (ownFields_transfers hown) (ownFields_transfers hown.symm)
  simp only [decode]
  rw [toOption_bind, toOption_bind, hfields]
  refine Option.bind_congr fun own _ => ?_
  rw [toOption_bind, toOption_bind, hothers]

theorem decode_perm {fields fields' : List (String × Json)} (hp : fields'.Perm fields)
    (hd : (fields.map (·.1)).Nodup) :
    (decode (.object fields')).toOption = (decode (.object fields)).toOption := by
  refine decode_congr (.of_perm hp hd) (Schema.ofEntries_perm (hp.filter _) ?_ .nullOrEmpty {})
  exact (Entries.nodup_perm hp hd).sublist (List.filter_sublist.map _)

end Parameter

namespace Response

/-- The keys of a response. -/
def keys : List String := ["description", "schema"]

theorem decode_congr {fields fields' : List (String × Json)} (h : Entries.SameAt keys fields fields') :
    (decode (.object fields')).toOption = (decode (.object fields)).toOption := by
  have htransfers : ∀ {fields fields' : List (String × Json)}, Entries.SameAt keys fields fields' →
      (mk <$> Fields.optional "description" string <*> Fields.optional "schema" Schema.decodeNode).Transfers
        (.object fields) (.object fields') 0 (· = ·) := by
    intro fields fields' h
    refine .seq (h.field (by decide)) (.map (h.field (by decide)) ?_)
    rintro description _ rfl schema _ rfl
    rfl
  exact Fields.ofObject_congr (htransfers h) (htransfers h.symm)

end Response

end SwaggerService
