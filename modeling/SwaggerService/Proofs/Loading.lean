import SwaggerService.Describe
import SwaggerService.Load
import SwaggerService.Proofs.Returns

/-! # Loading

What a document is known to be once it is loaded: no section of it has a key twice, however often a key was
written, because reading keeps the first place and the last value of a key. -/

namespace SwaggerService

theorem Entries.nodup_ofList {α : Type} (entries : List (String × α)) :
    ((ofList entries).map (·.1)).Nodup := by
  have hfold : ∀ (rest done : List (String × α)), (done.map (·.1)).Nodup →
      ((rest.foldl (fun done entry => put entry.1 entry.2 done) done).map (·.1)).Nodup := by
    intro rest
    induction rest with
    | nil => exact fun _ h => h
    | cons entry rest ih => exact fun done h => ih _ (nodup_put h)
  exact hfold entries [] List.nodup_nil

namespace Decode

theorem mapError_ok {ε δ α : Type} {e : Except ε α} {f : ε → δ} {a : α} (h : e.mapError f = .ok a) :
    e = .ok a := by
  cases e with
  | error _ => cases h
  | ok _ => cases h; rfl

theorem map_nodup {α : Type} {decode : Decoder α} {v : Json} {entries : List (String × α)}
    (h : map decode v = .ok entries) : (entries.map (·.1)).Nodup := by
  unfold map at h
  split at h
  · next fields =>
    cases hv : values decode fields with
    | error fault => rw [hv] at h; cases h
    | ok read =>
      rw [hv] at h
      cases h
      exact Entries.nodup_ofList read
  · cases h

/-- The value of a field with a name and a declaration index. -/
def Source.value? (source : Source) (name : String) (index : Nat) : Option Json :=
  (source.slot? name index).map (·.2)

theorem value?_object (entries : List (String × Json)) (name : String) (index : Nat) :
    (Source.object entries).value? name index = Entries.get? name entries := by
  have hlocate : ∀ (entries : List (String × Json)) (position : Nat),
      Option.map (·.2) (locate? name position entries) = Entries.get? name entries := by
    intro entries
    induction entries with
    | nil => exact fun _ => rfl
    | cons entry rest ih =>
      intro position
      rw [locate?, Entries.get?]
      split
      · rfl
      · exact ih (position + 1)
  exact hlocate entries 0

theorem value?_list (items : List Json) (name : String) (index : Nat) :
    (Source.list items).value? name index = items[index]? := by
  simp only [Source.value?, Source.slot?, Option.map_map]
  exact Option.map_id'

namespace Fields

variable {α β : Type}

/-- Whatever fields are read as from a source has a property. -/
def GivesAt (fields : Fields α) (source : Source) (index : Nat) (P : α → Prop) : Prop :=
  ∀ a, fields.read source index = .ok a → P a

/-- Whatever fields are read as has a property. -/
def Gives (fields : Fields α) (P : α → Prop) : Prop := ∀ source index, fields.GivesAt source index P

theorem GivesAt.any (fields : Fields α) (source : Source) (index : Nat) :
    fields.GivesAt source index fun _ => True := fun _ _ => trivial

theorem Gives.any (fields : Fields α) : fields.Gives fun _ => True := fun _ _ => GivesAt.any _ _ _

theorem seq_eq_ok {f : Fields (α → β)} {x : Fields α} {source : Source} {index : Nat} {b : β} :
    (f <*> x).read source index = .ok b ↔
      ∃ g a, f.read source index = .ok g ∧ x.read source (index + f.count) = .ok a ∧ g a = b := by
  change both (f.read source index) (x.read source (index + f.count)) = .ok b ↔ _
  constructor
  · intro h
    cases hg : f.read source index with
    | error t =>
      cases ha : x.read source (index + f.count) <;> (rw [hg, ha] at h; cases h)
    | ok g =>
      cases ha : x.read source (index + f.count) with
      | error t => rw [hg, ha] at h; cases h
      | ok a =>
        rw [hg, ha] at h
        cases h
        exact ⟨g, a, rfl, rfl, rfl⟩
  · rintro ⟨g, a, hg, ha, rfl⟩
    rw [hg, ha]
    rfl

/-- A property of a structure that holds whatever its next field is. -/
theorem GivesAt.seq {f : Fields (α → β)} {x : Fields α} {source : Source} {index : Nat} {P : α → Prop}
    {Q : β → Prop} (hx : x.GivesAt source (index + f.count) P)
    (hf : f.GivesAt source index fun g => ∀ a, P a → Q (g a)) : (f <*> x).GivesAt source index Q := by
  intro b h
  obtain ⟨g, a, hg, ha, rfl⟩ := seq_eq_ok.mp h
  exact hf g hg a (hx a ha)

theorem Gives.seq {f : Fields (α → β)} {x : Fields α} {P : α → Prop} {Q : β → Prop}
    (hx : x.Gives P) (hf : f.Gives fun g => ∀ a, P a → Q (g a)) : (f <*> x).Gives Q :=
  fun source index => GivesAt.seq (hx source (index + f.count)) (hf source index)

theorem GivesAt.map {g : α → β} {x : Fields α} {source : Source} {index : Nat} {P : α → Prop}
    {Q : β → Prop} (hx : x.GivesAt source index P) (hg : ∀ a, P a → Q (g a)) :
    (g <$> x).GivesAt source index Q := by
  refine GivesAt.seq hx ?_
  rintro g' ⟨⟩
  exact hg

theorem Gives.map {g : α → β} {x : Fields α} {P : α → Prop} {Q : β → Prop} (hx : x.Gives P)
    (hg : ∀ a, P a → Q (g a)) : (g <$> x).Gives Q :=
  fun source index => GivesAt.map (hx source index) hg

/-- What was written, if anything, is read as a value, or the value stands for its absence. -/
def ReadAs (decode : Decoder α) (absent : Option α) (written : Option Json) (a : α) : Prop :=
  match written with
  | some v => decode v = .ok a
  | none => absent = some a

theorem field_eq_ok {name : String} {decode : Decoder α} {absent : Option α} {source : Source} {index : Nat}
    {a : α} : (field name decode absent).read source index = .ok a ↔
      ReadAs decode absent (source.value? name index) a := by
  simp only [field, Source.value?]
  constructor
  · intro ha
    split at ha
    · next hslot =>
      rw [hslot]
      exact mapError_ok ha
    · next hslot =>
      cases ha
      rw [hslot]
      rfl
    · cases ha
  · intro h
    cases hslot : source.slot? name index with
    | none =>
      rw [hslot] at h
      cases h
      rfl
    | some slot =>
      rw [hslot] at h
      have hread : decode slot.2 = .ok a := h
      dsimp only
      rw [hread]
      rfl

theorem field_givesAt {name : String} {decode : Decoder α} {absent : Option α} {source : Source}
    {index : Nat} : (field name decode absent).GivesAt source index
      (ReadAs decode absent (source.value? name index)) := fun _ => field_eq_ok.mp

theorem defaulted_gives {name : String} {decode : Decoder α} {default : α} {P : α → Prop}
    (hd : ∀ v a, decode v = .ok a → P a) (h : P default) : (defaulted name decode default).Gives P := by
  intro source index a ha
  have hfield := field_givesAt a ha
  unfold ReadAs at hfield
  split at hfield
  · exact hd _ _ hfield
  · cases hfield
    exact h

/-- A structure is read off one source, whichever form it is written in. -/
theorem decode_source {name : String} {fields : Fields α} {v : Json} {a : α}
    (h : fields.decode name v = .ok a) :
    (∃ entries, v = .object entries ∧ fields.read (.object entries) 0 = .ok a) ∨
      ∃ items, v = .list items ∧ fields.read (.list items) 0 = .ok a := by
  unfold Fields.decode at h
  split at h
  · exact .inl ⟨_, rfl, mapError_ok h⟩
  · next items =>
    cases hr : (fields.read (.list items) 0).mapError (listFault ("struct " ++ name) fields.count) with
    | error fault => simp only [hr, bind, Except.bind] at h; cases h
    | ok read =>
      simp only [hr, bind, Except.bind] at h
      split at h
      · cases h
      · cases h
        exact .inr ⟨_, rfl, mapError_ok hr⟩
  · cases h

theorem decode_gives {name : String} {fields : Fields α} {P : α → Prop} (hf : fields.Gives P) {v : Json}
    {a : α} (h : fields.decode name v = .ok a) : P a := by
  rcases decode_source h with ⟨_, _, hread⟩ | ⟨_, _, hread⟩
  · exact hf _ _ a hread
  · exact hf _ _ a hread

end Fields

end Decode

/-- The sections of a document have distinct keys. -/
structure Document.Distinct (d : Document) : Prop where
  paths : (d.paths.map (·.1)).Nodup
  definitions : (d.definitions.map (·.1)).Nodup
  parameters : (d.parameters.map (·.1)).Nodup
  responses : (d.responses.map (·.1)).Nodup

open Decode in
theorem Document.decode_distinct {v : Json} {d : Document} (h : Document.decode v = .ok d) :
    d.Distinct := by
  have hsection : ∀ {α : Type} (name : String) (decode : Decoder α),
      (Fields.defaulted name (map decode) []).Gives fun entries => (entries.map (·.1)).Nodup :=
    fun name decode => Fields.defaulted_gives (fun _ _ => map_nodup) List.nodup_nil
  refine Fields.decode_gives ?_ h
  refine .seq (hsection "responses" Response.decode) ?_
  refine .seq (hsection "parameters" Parameter.decode) ?_
  refine .seq (hsection "definitions" Schema.decode) ?_
  refine .seq (hsection "paths" PathItem.decode) ?_
  refine .seq (.any _) ?_
  refine .map (.any _) ?_
  intro swagger _ info _ paths hp definitions hd parameters hq responses hr
  exact ⟨hp, hd, hq, hr⟩

theorem Loaded.ofJson_decode {raw : Json} {l : Loaded} (h : ofJson raw = .ok l) :
    Document.decode raw = .ok l.document ∧ l.raw = raw := by
  unfold ofJson at h
  split at h
  · cases h
  · split at h
    · next d hd =>
      cases h
      exact ⟨hd, rfl⟩
    · cases h

theorem Loaded.ofJson_distinct {raw : Json} {l : Loaded} (h : Loaded.ofJson raw = .ok l) :
    l.document.Distinct := Document.decode_distinct (ofJson_decode h).1

/-! ## A document to look at -/

/-- A small document in which names meet: the body of `order` would be called like a definition. It has
objects and enumerations in place, an array that is a definition, a definition that refers to itself, a
reference to no definition, and a schema that says nothing. -/
def Json.orders : Json :=
  let ref (target : String) : Json := .object [("$ref", .string target)]
  let text (values : List String) : Json :=
    .object [("type", .string "string"), ("enum", .list (values.map .string))]
  let array (items : Json) : Json := .object [("type", .string "array"), ("items", items)]
  let object (properties : List (String × Json)) : Json :=
    .object [("type", .string "object"), ("properties", .object properties)]
  .object [
    ("info", .object [("title", .string "orders"), ("version", .string "1.0.0")]),
    ("paths", .object [("/orders", .object [("post", .object [
      ("operationId", .string "order"),
      ("parameters", .list [.object [("name", .string "body"), ("in", .string "body"),
        ("schema", object [("state", text ["open", "done"]), ("first", ref "#/definitions/Item")])]]),
      ("responses", .object [("200", .object [("schema", ref "#/definitions/States")])])])])]),
    ("definitions", .object [
      ("orderBody", object [("levels", array (array (text ["low"])))]),
      ("States", array (text ["open"])),
      ("Item", object [("parts", array (ref "#/definitions/Item")),
        ("notes", array (ref "#/info/title")), ("count", .object [("type", .string "integer")]),
        ("extra", .object [])])])]

/-- Loading and describing in one go, to look at a result on a given document. -/
theorem Loaded.exists_described {α : Type} (raw : Json) (maxDepth : Nat) (view : Loaded → Service → α)
    (a : α) (h : ((Loaded.ofJson raw).toOption.bind fun l =>
      (l.describe maxDepth).toOption.map (view l)) = some a) :
    ∃ l service, Loaded.ofJson raw = .ok l ∧ l.describe maxDepth = .ok service ∧ view l service = a := by
  obtain ⟨l, hl, h⟩ := Option.bind_eq_some_iff.mp h
  obtain ⟨service, hservice, h⟩ := Option.map_eq_some_iff.mp h
  exact ⟨l, service, toOption_eq_some.mp hl, toOption_eq_some.mp hservice, h⟩

/-- A walk over a loaded document, as a view of it and of what it returns shows it. -/
theorem Loaded.exists_returned {α β : Type} (raw : Json) (walk : Loaded → Walk α) (run : Run)
    (view : Loaded → α → Run → β) (b : β) (h : ((Loaded.ofJson raw).toOption.bind fun l =>
      (walk l run).1.toOption.map fun a => view l a (walk l run).2) = some b) :
    ∃ l a run', Loaded.ofJson raw = .ok l ∧ Walk.Returns (walk l) run a run' ∧ view l a run' = b := by
  obtain ⟨l, hl, h⟩ := Option.bind_eq_some_iff.mp h
  obtain ⟨a, ha, h⟩ := Option.map_eq_some_iff.mp h
  have hreturned : (walk l run).1 = .ok a := toOption_eq_some.mp ha
  exact ⟨l, a, (walk l run).2, toOption_eq_some.mp hl, Prod.ext hreturned rfl, h⟩

end SwaggerService
