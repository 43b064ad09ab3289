import Mathlib.Data.List.Perm.Basic
import SwaggerService.Proofs.EntryOrder

/-! # Reordered sections

The entries of sections of a written document are put into another order. What the document is read as then
has the same entries in that order, and whatever a reference leads to in the written document is read as it
was: inside a section nothing changed, and neither a section as a whole nor the document as a whole shows the
order of its entries when it is read as something else. -/

namespace SwaggerService
open Decode

/-! ## Optional values side by side -/

section

variable {α β : Type} {R S : α → α → Prop} {o o' : Option α}

theorem rel_refl (h : ∀ a, R a a) (o : Option α) : Option.Rel R o o := by
  cases o with
  | none => exact .none
  | some a => exact .some (h a)

theorem rel_mono (h : Option.Rel R o o') (hRS : ∀ a a', R a a' → S a a') : Option.Rel S o o' := by
  cases h with
  | none => exact .none
  | some ha => exact .some (hRS _ _ ha)

theorem rel_bind {T : β → β → Prop} {f f' : α → Option β} (h : Option.Rel R o o')
    (hf : ∀ a a', R a a' → Option.Rel T (f a) (f' a')) : Option.Rel T (o.bind f) (o'.bind f') := by
  cases h with
  | none => exact .none
  | some ha => exact hf _ _ ha

theorem rel_isNone (h : Option.Rel R o o') : o'.isNone = o.isNone := by
  cases h with
  | none => rfl
  | some _ => rfl

end

/-! ## Written documents -/

namespace Document

/-- The keys of a document in declaration order. -/
def keys : List String := ["swagger", "info", "paths", "definitions", "parameters", "responses"]

/-- The keys of the sections that references name. -/
def sections : List String := ["definitions", "parameters", "responses"]

end Document

namespace Json

/-- An object has the entries of another one, in any order. No key comes twice, as in every value that is read
from a text. -/
inductive Reordered : Json → Json → Prop
  | object {fields fields' : List (String × Json)} (perm : fields'.Perm fields)
      (distinct : (fields.map (·.1)).Nodup) : Reordered (.object fields) (.object fields')

/-- A value stays as it is, or is reordered where that is allowed. -/
def Kept (allowed : Prop) (v v' : Json) : Prop := v' = v ∨ allowed ∧ v.Reordered v'

theorem Kept.eq_of_rel {allowed : Prop} {o o' : Option Json} (h : Option.Rel (Kept allowed) o o')
    (hnot : ¬ allowed) : o' = o := by
  cases h with
  | none => rfl
  | some hkept => rw [hkept.resolve_right fun hallowed => hnot hallowed.1]

/-- Some sections of a document are reordered, and everything else is as it was. -/
inductive Shuffled (sections : List String) : Json → Json → Prop
  | object {fields fields' : List (String × Json)}
      (entries : List.Forall₂ (fun entry entry' => entry'.1 = entry.1 ∧
        Kept (entry.1 ∈ sections) entry.2 entry'.2) fields fields') :
      Shuffled sections (.object fields) (.object fields')
  | list {items items' : List Json}
      (values : ∀ index : Nat, Option.Rel (Kept (∃ key ∈ sections, Document.keys[index]? = some key))
        items[index]? items'[index]?) :
      Shuffled sections (.list items) (.list items')

end Json

namespace Entries

variable {α β : Type} {R : String → α → β → Prop} {entries : List (String × α)}
  {entries' : List (String × β)}

theorem get?_forall₂ (h : List.Forall₂ (fun entry entry' => entry'.1 = entry.1 ∧ R entry.1 entry.2 entry'.2)
    entries entries') (key : String) : Option.Rel (R key) (get? key entries) (get? key entries') := by
  induction h with
  | nil => exact .none
  | @cons entry entry' _ _ hentry _ ih =>
    obtain ⟨hkey, hvalue⟩ := hentry
    by_cases hname : (entry.1 == key) = true
    · simp only [get?, hkey, if_pos hname]
      exact .some (beq_iff_eq.mp hname ▸ hvalue)
    · simp only [get?, hkey, if_neg hname]
      exact ih

end Entries

/-! ## Reading a document -/

/-- Both are written as objects, or both as lists of one length. -/
inductive Json.SameForm : Json → Json → Prop
  | object (fields fields' : List (String × Json)) : SameForm (.object fields) (.object fields')
  | list {items items' : List Json} (length : items'.length = items.length) :
      SameForm (.list items) (.list items')

namespace Decode

variable {α : Type}

theorem Fields.decode_transfers {name : String} {fields : Fields α} {V : α → α → Prop} {v v' : Json} {a : α}
    (hform : v.SameForm v')
    (h : ∀ source source', (∀ name index, source.value? name index = v.member? name index) →
      (∀ name index, source'.value? name index = v'.member? name index) →
      fields.Transfers source source' 0 V)
    (ha : fields.decode name v = .ok a) : ∃ a', fields.decode name v' = .ok a' ∧ V a a' := by
  cases hform with
  | object entries entries' =>
    have htransfers := h _ _ (value?_object entries) (value?_object entries')
    obtain ⟨a', hread, hV⟩ := htransfers a (mapError_ok ha)
    refine ⟨a', ?_, hV⟩
    simp only [decode, ofObject, hread]
    rfl
  | @list items items' hlength =>
    have htransfers := h _ _ (value?_list items) (value?_list items')
    obtain ⟨b, hb, hrest⟩ := bind_ok ha
    obtain ⟨b', hread, hV⟩ := htransfers b (mapError_ok hb)
    split at hrest
    · cases hrest
    · next hshort =>
      cases hrest
      refine ⟨b', ?_, hV⟩
      simp only [decode, hread, hlength, if_neg hshort]
      rfl

/-- A list that is longer than a structure is none. -/
theorem Fields.decode_overlong {name : String} {fields : Fields α} {items : List Json}
    (h : fields.count < items.length) : (fields.decode name (.list items)).toOption = none := by
  simp only [decode]
  rw [toOption_bind]
  refine Option.bind_eq_none_iff.mpr fun a _ => ?_
  rw [if_pos h]
  rfl

/-- A map of reordered entries is read as the same entries, reordered. -/
theorem map_reordered {decode : Decoder α} {v v' : Json} {entries : List (String × α)}
    (h : v.Reordered v') (hread : map decode v = .ok entries) :
    ∃ entries', map decode v' = .ok entries' ∧ entries'.Perm entries := by
  cases h with
  | object hp hd =>
    obtain ⟨entries', hreads, hperm⟩ := List.perm_comp_forall₂ hp ((map_eq_ok hd).mp hread)
    exact ⟨entries', (map_eq_ok (Entries.nodup_perm hp hd)).mpr hreads, hperm⟩

/-- Entries in another order, if that is allowed, and otherwise the same. -/
structure Rearranged (allowed : Prop) (entries entries' : List (String × α)) : Prop where
  perm : entries'.Perm entries
  eq : ¬ allowed → entries' = entries

theorem Fields.section_transfers {name : String} {decode : Decoder α} {source source' : Source} {index : Nat}
    {allowed : Prop}
    (h : Option.Rel (Json.Kept allowed) (source.value? name index) (source'.value? name index)) :
    (defaulted name (map decode) []).Transfers source source' index (Rearranged allowed) := by
  refine field_transfers fun entries hentries => ?_
  generalize source.value? name index = written at h hentries
  generalize source'.value? name index = written' at h
  cases h with
  | none => exact ⟨entries, hentries, .refl _, fun _ => rfl⟩
  | some hkept =>
    rcases hkept with rfl | ⟨hallowed, hreordered⟩
    · exact ⟨entries, hentries, .refl _, fun _ => rfl⟩
    · obtain ⟨entries', hread, hperm⟩ := map_reordered hreordered hentries
      exact ⟨entries', hread, hperm, fun hnot => absurd hallowed hnot⟩

end Decode

/-- The sections of a document are in another order where that is allowed, and everything else is as it was. -/
structure Document.Reordered (sections : List String) (d d' : Document) : Prop where
  swagger : d'.swagger = d.swagger
  info : d'.info = d.info
  paths : d'.paths = d.paths
  definitions : Rearranged ("definitions" ∈ sections) d.definitions d'.definitions
  parameters : Rearranged ("parameters" ∈ sections) d.parameters d'.parameters
  responses : Rearranged ("responses" ∈ sections) d.responses d'.responses

namespace Json.Shuffled

variable {sections : List String} {raw raw' : Json}

theorem sameForm (h : raw.Shuffled sections raw') : raw.SameForm raw' := by
  cases h with
  | object => exact .object _ _
  | @list items items' hvalues =>
    have hnone : ∀ index : Nat, items'.length ≤ index ↔ items.length ≤ index := by
      intro index
      rw [← List.getElem?_eq_none_iff, ← List.getElem?_eq_none_iff, ← Option.isNone_iff_eq_none,
        ← Option.isNone_iff_eq_none, rel_isNone (hvalues index)]
    exact .list (Nat.le_antisymm ((hnone _).mpr (Nat.le_refl _)) ((hnone _).mp (Nat.le_refl _)))

/-- What a document has under one of its keys, in either form. -/
theorem member (h : raw.Shuffled sections raw') {name : String} {index : Nat}
    (hkey : Document.keys[index]? = some name) :
    Option.Rel (Kept (name ∈ sections)) (raw.member? name index) (raw'.member? name index) := by
  cases h with
  | object hentries => exact Entries.get?_forall₂ (R := fun key => Kept (key ∈ sections)) hentries name
  | list hvalues =>
    refine rel_mono (hvalues index) fun v v' hkept => hkept.imp_right fun ⟨hallowed, hreordered⟩ => ?_
    obtain ⟨key, hmem, heq⟩ := hallowed
    rw [hkey] at heq
    cases heq
    exact ⟨hmem, hreordered⟩

end Json.Shuffled

theorem Document.decode_reordered {sections : List String} {raw raw' : Json} {d : Document}
    (hs : sections ⊆ Document.sections) (h : raw.Shuffled sections raw') (hd : decode raw = .ok d) :
    ∃ d', decode raw' = .ok d' ∧ d.Reordered sections d' := by
  refine Fields.decode_transfers h.sameForm (fun source source' hsource hsource' => ?_) hd
  have hsection : ∀ {name : String} {index : Nat}, keys[index]? = some name →
      Option.Rel (Json.Kept (name ∈ sections)) (source.value? name index) (source'.value? name index) := by
    intro name index hkey
    rw [hsource, hsource']
    exact h.member hkey
  have hfixed : ∀ {name : String} {index : Nat}, keys[index]? = some name → name ∉ Document.sections →
      source'.value? name index = source.value? name index :=
    fun hkey hname => Json.Kept.eq_of_rel (hsection hkey) fun hmem => hname (hs hmem)
  refine .seq (Fields.section_transfers (hsection rfl)) (.seq (Fields.section_transfers (hsection rfl)) ?_)
  refine .seq (Fields.section_transfers (hsection rfl)) (.seq (Fields.field_same (hfixed rfl (by decide))) ?_)
  refine .seq (Fields.field_same (hfixed rfl (by decide))) (.map (Fields.field_same (hfixed rfl (by decide))) ?_)
  rintro swagger _ rfl info _ rfl paths _ rfl definitions definitions' hdefinitions
  intro parameters parameters' hparameters responses responses' hresponses
  exact ⟨rfl, rfl, rfl, hdefinitions, hparameters, hresponses⟩

/-! ## Reading what a reference leads to -/

theorem Document.decode_info {raw : Json} {d : Document} (h : decode raw = .ok d) :
    Fields.ReadAs Info.decode none (raw.member? "info" 1) d.info := by
  refine Fields.decode_member (P := fun d => Fields.ReadAs Info.decode none (raw.member? "info" 1) d.info)
    (fun source hsource => ?_) h
  refine .seq (.any _ _ _) (.seq (.any _ _ _) (.seq (.any _ _ _) (.seq (.any _ _ _) ?_)))
  refine .seq Fields.field_givesAt (.map (.any _ _ _) ?_)
  intro swagger _ info hinfo paths _ definitions _ parameters _ responses _
  rw [hsource] at hinfo
  exact hinfo

namespace Json

/-- Two values are read as the same, whatever they are read as. -/
structure ReadsAlike (v v' : Json) : Prop where
  target : (v'.field? "$ref").bind string? = (v.field? "$ref").bind string?
  schema : (Schema.decode v').toOption = (Schema.decode v).toOption
  parameter : (Parameter.decode v').toOption = (Parameter.decode v).toOption
  response : (Response.decode v').toOption = (Response.decode v).toOption

theorem ReadsAlike.refl (v : Json) : v.ReadsAlike v := ⟨rfl, rfl, rfl, rfl⟩

theorem Reordered.readsAlike {v v' : Json} (h : v.Reordered v') : v.ReadsAlike v' := by
  cases h with
  | object hp hd =>
    constructor
    case target => exact congrArg (·.bind string?) (Entries.get?_perm hp hd "$ref")
    case schema => exact Schema.decode_perm hp hd
    case parameter => exact Parameter.decode_perm hp hd
    case response => exact Response.decode_congr (.of_perm hp hd)

theorem Kept.at?_alike {allowed : Prop} {v v' : Json} (h : Kept allowed v v') (steps : List String) :
    Option.Rel ReadsAlike (v.at? steps) (v'.at? steps) := by
  rcases h with rfl | ⟨_, hreordered⟩
  · exact rel_refl ReadsAlike.refl _
  · cases steps with
    | nil => exact .some hreordered.readsAlike
    | cons step rest =>
      have hchild : v'.child? step = v.child? step := by
        cases hreordered with
        | object hp hd => exact Entries.get?_perm hp hd step
      rw [at?, at?, hchild]
      exact rel_refl ReadsAlike.refl _

namespace Shuffled

variable {sections : List String}

theorem field?_eq {raw raw' : Json} {key : String} (hs : sections ⊆ Document.sections)
    (h : raw.Shuffled sections raw') (hkey : key ∉ Document.sections) : raw'.field? key = raw.field? key := by
  cases h with
  | object hentries =>
    exact Kept.eq_of_rel (Entries.get?_forall₂ (R := fun key => Kept (key ∈ sections)) hentries key)
      fun hmem => hkey (hs hmem)
  | list => rfl

/-- No key of a section is one that anything but a document has. -/
theorem readsAlike_object {fields fields' : List (String × Json)} (hs : sections ⊆ Document.sections)
    (h : List.Forall₂ (fun entry entry' => entry'.1 = entry.1 ∧ Kept (entry.1 ∈ sections) entry.2 entry'.2)
      fields fields') : (Json.object fields).ReadsAlike (.object fields') := by
  have hget : ∀ key, key ∉ Document.sections → Entries.get? key fields' = Entries.get? key fields :=
    fun key hkey => (Shuffled.object h).field?_eq hs hkey
  have hsame : ∀ {keys : List String}, (∀ key ∈ keys, key ∉ Document.sections) →
      Entries.SameAt keys fields fields' := fun hkeys key hmem => hget key (hkeys key hmem)
  have hentries : List.Forall₂ (fun entry entry' => entry'.1 = entry.1 ∧
      (entry'.2 = entry.2 ∨ entry.1 ∉ Schema.keywords)) fields fields' := by
    refine h.imp fun entry entry' hentry => ⟨hentry.1, hentry.2.imp_right fun hallowed hkeyword => ?_⟩
    have hkeywords : ∀ keyword ∈ Schema.keywords, keyword ∉ Document.sections := by decide
    exact hkeywords _ hkeyword (hs hallowed.1)
  constructor
  case target => exact congrArg (·.bind string?) (hget "$ref" (by decide))
  case schema => exact congrArg Except.toOption (Schema.ofEntries_congr .null hentries {})
  case parameter =>
    refine Parameter.decode_congr (hsame (by decide)) (congrArg Except.toOption ?_)
    refine Schema.ofEntries_congr .nullOrEmpty (List.rel_filter ?_ hentries) {}
    rintro ⟨key, _⟩ ⟨key', _⟩ ⟨hkey, _⟩
    cases hkey
    rfl
  case response => exact Response.decode_congr (hsame (by decide))

/-- What a list says of a service as a whole is no text, so as a schema it would have no description. -/
theorem schema_decode_list {items : List Json} {d : Document} (h : Document.decode (.list items) = .ok d) :
    (Schema.decode (.list items)).toOption = none := by
  have hinfo : Fields.ReadAs Info.decode none (items[1]?) d.info := Document.decode_info h
  match items with
  | [] | [_] => cases hinfo
  | swagger :: info :: rest =>
    have hread : Info.decode info = .ok d.info := hinfo
    have hfault : ∃ fault, Decode.optional Decode.string info = .error fault := by
      rcases Fields.decode_source hread with ⟨entries, rfl, _⟩ | ⟨items, rfl, _⟩
      · exact ⟨_, rfl⟩
      · exact ⟨_, rfl⟩
    obtain ⟨fault, hfault⟩ := hfault
    rw [Schema.decode, Schema.keywords, Schema.ofItems, toOption_bind]
    refine Option.bind_eq_none_iff.mpr fun s _ => ?_
    rw [Schema.ofItems, toOption_bind, Schema.enter, hfault]
    rfl

theorem readsAlike_list {items items' : List Json} {d d' : Document} (hs : sections ⊆ Document.sections)
    (h : ∀ index : Nat, Option.Rel (Kept (∃ key ∈ sections, Document.keys[index]? = some key))
      items[index]? items'[index]?) (hd : Document.decode (.list items) = .ok d)
    (hd' : Document.decode (.list items') = .ok d') (hlength : items'.length = items.length) :
    (Json.list items).ReadsAlike (.list items') := by
  by_cases hlong : 2 < items.length
  · constructor
    case target => rfl
    case schema => rw [schema_decode_list hd, schema_decode_list hd']
    case parameter => rfl
    case response =>
      exact (Fields.decode_overlong (hlength.symm ▸ hlong)).trans (Fields.decode_overlong hlong).symm
  · -- Such a list ends before the sections.
    have heq : items' = items := by
      refine List.ext_getElem? fun index => ?_
      by_cases hindex : index < 3
      · refine Kept.eq_of_rel (h index) ?_
        rintro ⟨key, hkey, heq⟩
        have hkeys : ∀ index < 3, ∀ key ∈ Document.sections, Document.keys[index]? ≠ some key := by decide
        exact hkeys index hindex key (hs hkey) heq
      · rw [List.getElem?_eq_none (by omega), List.getElem?_eq_none (by omega)]
    rw [heq]
    exact .refl _

theorem readsAlike {raw raw' : Json} {d : Document} (hs : sections ⊆ Document.sections)
    (h : raw.Shuffled sections raw') (hd : Document.decode raw = .ok d) : raw.ReadsAlike raw' := by
  obtain ⟨d', hd', _⟩ := Document.decode_reordered hs h hd
  have hform := h.sameForm
  cases h with
  | object hentries => exact readsAlike_object hs hentries
  | list hvalues =>
    cases hform with
    | list hlength => exact readsAlike_list hs hvalues hd hd' hlength

theorem child {raw raw' : Json} (h : raw.Shuffled sections raw') (step : String) :
    Option.Rel (Kept True) (raw.child? step) (raw'.child? step) := by
  have hallowed : ∀ {allowed : Prop} (v v' : Json), Kept allowed v v' → Kept True v v' :=
    fun _ _ hkept => hkept.imp_right fun hallowed => ⟨trivial, hallowed.2⟩
  cases h with
  | object hentries =>
    exact rel_mono (Entries.get?_forall₂ (R := fun key => Kept (key ∈ sections)) hentries step) hallowed
  | list hvalues =>
    refine rel_bind (rel_refl (R := (· = ·)) (fun _ => rfl) (readNatural? UInt64.size step)) ?_
    rintro index _ rfl
    exact rel_mono (hvalues index) hallowed

/-- Whatever a path leads to in a shuffled document is read as it was. -/
theorem at?_alike {raw raw' : Json} (h : raw.Shuffled sections raw') (hraw : raw.ReadsAlike raw')
    (steps : List String) : Option.Rel ReadsAlike (raw.at? steps) (raw'.at? steps) := by
  cases steps with
  | nil => exact .some hraw
  | cons step rest => exact rel_bind (h.child step) fun v v' hkept => hkept.at?_alike rest

end Shuffled

end Json

end SwaggerService
