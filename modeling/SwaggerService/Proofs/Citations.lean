import SwaggerService.Proofs.PathTable
import SwaggerService.Proofs.Shapes

/-! # Citations

A reference that a document holds was written somewhere in it, as the text of a `$ref` key. Reading adds no
reference to those that are written, and it loses no entry of a section: a name that a section does not have
leads nowhere in the written document either. -/

namespace SwaggerService
open Decode

/-! ## Written values -/

/-- Somewhere in a value a reference is written. -/
inductive Json.Cites : Json → String → Prop
  | here {v : Json} {reference : String} (h : v.field? "$ref" = some (.string reference)) :
      Cites v reference
  | item {items : List Json} {v : Json} {reference : String} (hv : v ∈ items) (h : Cites v reference) :
      Cites (.list items) reference
  | field {fields : List (String × Json)} {key : String} {v : Json} {reference : String}
      (hv : (key, v) ∈ fields) (h : Cites v reference) : Cites (.object fields) reference

variable {α : Type} {known : String → Prop} {good : α → Prop}

/-- Every reference that is written in a value is a known one. -/
def Json.RefsIn (known : String → Prop) (v : Json) : Prop := ∀ reference, v.Cites reference → known reference

namespace Json

theorem refsIn_cites (v : Json) : v.RefsIn v.Cites := fun _ h => h

theorem RefsIn.item {items : List Json} {v : Json} (h : (list items).RefsIn known) (hv : v ∈ items) :
    v.RefsIn known := fun reference hr => h reference (.item hv hr)

theorem RefsIn.field {fields : List (String × Json)} {key : String} {v : Json}
    (h : (object fields).RefsIn known) (hv : (key, v) ∈ fields) : v.RefsIn known :=
  fun reference hr => h reference (.field hv hr)

theorem RefsIn.target {v : Json} {reference : String} (h : v.RefsIn known)
    (hv : (v.field? "$ref").bind string? = some reference) : known reference := by
  obtain ⟨w, hw, hs⟩ := Option.bind_eq_some_iff.mp hv
  cases w with
  | string text =>
    cases hs
    exact h reference (.here hw)
  | null | bool | number | list | object => cases hs

theorem RefsIn.member {v w : Json} {name : String} {index : Nat} (h : v.RefsIn known)
    (hw : v.member? name index = some w) : w.RefsIn known := by
  cases v with
  | object fields => exact h.field (Entries.mem_of_get? hw)
  | list items => exact h.item (List.mem_of_getElem? hw)
  | null | bool | number | string => cases hw

theorem RefsIn.child {v w : Json} {step : String} (h : v.RefsIn known) (hw : v.child? step = some w) :
    w.RefsIn known := by
  cases v with
  | object fields => exact h.field (Entries.mem_of_get? hw)
  | list items =>
    obtain ⟨index, _, hindex⟩ := Option.bind_eq_some_iff.mp hw
    exact h.item (List.mem_of_getElem? hindex)
  | null | bool | number | string => cases hw

theorem RefsIn.at {v w : Json} {steps : List String} (h : v.RefsIn known) (hw : v.at? steps = some w) :
    w.RefsIn known := by
  induction steps generalizing v with
  | nil =>
    cases hw
    exact h
  | cons step rest ih =>
    obtain ⟨u, hu, hw⟩ := Option.bind_eq_some_iff.mp hw
    exact ih (h.child hu) hw

end Json

/-! ## Decoders -/

theorem Entries.forall_put {p : String × α → Prop} {key : String} {value : α}
    {entries : List (String × α)} (hp : p (key, value)) (h : ∀ entry ∈ entries, p entry) :
    ∀ entry ∈ put key value entries, p entry := by
  induction entries with
  | nil => simpa [put] using hp
  | cons entry rest ih =>
    obtain ⟨hentry, hrest⟩ := List.forall_mem_cons.mp h
    rw [put]
    split
    · next hk =>
      rw [beq_iff_eq.mp hk]
      exact List.forall_mem_cons.mpr ⟨hp, hrest⟩
    · exact List.forall_mem_cons.mpr ⟨hentry, ih hrest⟩

theorem Entries.forall_ofList {p : String × α → Prop} {entries : List (String × α)}
    (h : ∀ entry ∈ entries, p entry) : ∀ entry ∈ ofList entries, p entry := by
  have hfold : ∀ (rest done : List (String × α)), (∀ entry ∈ rest, p entry) → (∀ entry ∈ done, p entry) →
      ∀ entry ∈ rest.foldl (fun done entry => put entry.1 entry.2 done) done, p entry := by
    intro rest
    induction rest with
    | nil => exact fun _ _ hdone => hdone
    | cons entry rest ih =>
      intro done hrest hdone
      obtain ⟨hentry, hrest⟩ := List.forall_mem_cons.mp hrest
      exact ih _ hrest (forall_put hentry hdone)
  exact hfold entries [] h (List.forall_mem_nil _)

/-- A part is a known reference, or good. -/
def RefOr.RefsIn (known : String → Prop) (good : α → Prop) : RefOr α → Prop
  | .ref target => known target
  | .item a => good a

/-- Where only known references are written, whatever is read is good. -/
def Decoder.Keeps (known : String → Prop) (decode : Decoder α) (good : α → Prop) : Prop :=
  ∀ v a, v.RefsIn known → decode v = .ok a → good a

theorem RefOr.ofJson_refsIn {v : Json} {read : Unit → Except Decode.Fault α} {node : RefOr α}
    (hv : v.RefsIn known) (hread : ∀ a, read () = .ok a → good a) (h : ofJson v read = .ok node) :
    node.RefsIn known good := by
  unfold ofJson at h
  split at h
  · next target htarget =>
    cases h
    exact hv.target htarget
  · split at h
    · next a ha =>
      cases h
      exact hread a ha
    · cases h

namespace Decode

variable {decode : Decoder α}

theorem map_ok {ε β : Type} {e : Except ε α} {f : α → β} {b : β} (h : e.map f = .ok b) :
    ∃ a, e = .ok a ∧ f a = b := by
  cases e with
  | error _ => cases h
  | ok a => cases h; exact ⟨a, rfl, rfl⟩

theorem refOr_keeps (hd : decode.Keeps known good) :
    (RefOr.decode decode).Keeps known (RefOr.RefsIn known good) := by
  intro v node hv h
  exact RefOr.ofJson_refsIn hv (fun a ha => hd v a hv ha) h

theorem optional_ok {v : Json} {o : Option α} {a : α} (h : optional decode v = .ok o) (ha : a ∈ o) :
    decode v = .ok a := by
  cases ha
  unfold optional at h
  split at h
  · cases h
  · obtain ⟨b, hb, hs⟩ := map_ok h
    cases hs
    exact hb

theorem optional_keeps (hd : decode.Keeps known good) :
    Decoder.Keeps known (optional decode) fun o => ∀ a ∈ o, good a :=
  fun v _ hv h a ha => hd v a hv (optional_ok h ha)

theorem list_keeps (hd : decode.Keeps known good) :
    (list decode).Keeps known fun as => ∀ a ∈ as, good a := by
  have hitems : ∀ (vs : List Json) (as : List α), (∀ v ∈ vs, v.RefsIn known) →
      items decode vs = .ok as → ∀ a ∈ as, good a := by
    intro vs
    induction vs with
    | nil =>
      intro as _ h
      cases h
      exact List.forall_mem_nil _
    | cons v rest ih =>
      intro as hvs h
      obtain ⟨hv, hrest⟩ := List.forall_mem_cons.mp hvs
      obtain ⟨a, ha, h⟩ := bind_ok h
      obtain ⟨others, hothers, h⟩ := bind_ok h
      cases h
      exact List.forall_mem_cons.mpr ⟨hd v a hv ha, ih others hrest hothers⟩
  intro v as hv h
  cases v with
  | list vs => exact hitems vs as (fun v => hv.item) h
  | null | bool | number | string | object => cases h

theorem map_keeps (hd : decode.Keeps known good) :
    (map decode).Keeps known fun entries => ∀ entry ∈ entries, good entry.2 := by
  have hvalues : ∀ (fields : List (String × Json)) (read : List (String × α)),
      (∀ field ∈ fields, field.2.RefsIn known) → values decode fields = .ok read →
      ∀ entry ∈ read, good entry.2 := by
    intro fields
    induction fields with
    | nil =>
      intro read _ h
      cases h
      exact List.forall_mem_nil _
    | cons field rest ih =>
      intro read hfields h
      obtain ⟨hv, hrest⟩ := List.forall_mem_cons.mp hfields
      obtain ⟨a, ha, h⟩ := bind_ok h
      obtain ⟨others, hothers, h⟩ := bind_ok h
      cases h
      exact List.forall_mem_cons.mpr ⟨hd field.2 a hv ha, ih others hrest hothers⟩
  intro v entries hv h
  cases v with
  | object fields =>
    obtain ⟨read, hread, rfl⟩ := map_ok h
    exact Entries.forall_ofList (hvalues fields read (fun field => hv.field) hread)
  | null | bool | number | string | list => cases h

end Decode

/-! ## Schemas -/

namespace Schema

/-- The parts of a schema that are read as schemas. -/
def parts (s : Schema) : List (RefOr Schema) := s.items.toList ++ s.properties.map (·.2) ++ s.allOf

theorem forall_parts {s : Schema} {p : RefOr Schema → Prop} :
    (∀ part ∈ s.parts, p part) ↔
      (∀ part ∈ s.items, p part) ∧ (∀ member ∈ s.properties, p member.2) ∧ ∀ part ∈ s.allOf, p part := by
  simp only [parts, List.forall_mem_append, List.forall_mem_map, Option.mem_toList, Option.mem_def, and_assoc]

/-- Every reference inside a schema is a known one. -/
inductive RefsIn (known : String → Prop) : Schema → Prop
  | of {s : Schema} (targets : ∀ target, .ref target ∈ s.parts → known target)
      (items : ∀ t, .item t ∈ s.parts → RefsIn known t) : RefsIn known s

theorem refsIn_iff {s : Schema} :
    s.RefsIn known ↔ ∀ part ∈ s.parts, part.RefsIn known (RefsIn known) := by
  constructor
  · rintro ⟨htargets, hitems⟩ part hpart
    cases part with
    | ref target => exact htargets target hpart
    | item t => exact hitems t hpart
  · intro h
    exact ⟨fun target ht => h _ ht, fun t ht => h _ ht⟩

theorem RefsIn.part {s : Schema} {part : RefOr Schema} (h : s.RefsIn known) (hp : part ∈ s.parts) :
    part.RefsIn known (RefsIn known) := refsIn_iff.mp h part hp

theorem RefsIn.congr {s t : Schema} (h : s.RefsIn known) (hparts : t.parts = s.parts) :
    t.RefsIn known := by
  rw [refsIn_iff, hparts]
  exact refsIn_iff.mp h

theorem refsIn_empty : RefsIn known {} := ⟨nofun, nofun⟩

/-- What the readings of a keyword give has known references only. -/
structure Readings.RefsIn (known : String → Prop) (readings : Readings) : Prop where
  node : ∀ node, readings.node () = .ok node → node.RefsIn known (Schema.RefsIn known)
  nodes : ∀ nodes, readings.nodes () = .ok nodes → ∀ node ∈ nodes, node.RefsIn known (Schema.RefsIn known)
  members : ∀ members, readings.members () = .ok members →
    ∀ member ∈ members, member.2.RefsIn known (Schema.RefsIn known)

theorem enter_refsIn {payload : Payload} {s s' : Schema} {keyword : String} {v : Json}
    {readings : Readings} (hr : readings.RefsIn known) (hs : s.RefsIn known)
    (h : enter payload s keyword v readings = .ok s') : s'.RefsIn known := by
  obtain ⟨hitems, hproperties, hall⟩ := forall_parts.mp (refsIn_iff.mp hs)
  by_cases hk : keyword = "items"
  · subst hk
    obtain ⟨items, hread, h⟩ := bind_ok h
    cases h
    have hnew : ∀ part ∈ items, part.RefsIn known (Schema.RefsIn known) :=
      fun part hpart => hr.node part (optional_ok hread hpart)
    exact refsIn_iff.mpr (forall_parts.mpr ⟨hnew, hproperties, hall⟩)
  by_cases hk : keyword = "properties"
  · subst hk
    obtain ⟨members, hread, h⟩ := bind_ok h
    cases h
    exact refsIn_iff.mpr (forall_parts.mpr ⟨hitems, hr.members members hread, hall⟩)
  by_cases hk : keyword = "allOf"
  · subst hk
    obtain ⟨nodes, hread, h⟩ := bind_ok h
    cases h
    exact refsIn_iff.mpr (forall_parts.mpr ⟨hitems, hproperties, hr.nodes nodes hread⟩)
  -- No other keyword holds parts.
  unfold enter at h
  split at h
  all_goals first
    | contradiction
    | cases h; exact hs
    | obtain ⟨a, _, h⟩ := bind_ok h
      cases h
      exact hs.congr rfl

mutual

theorem decode_refsIn : ∀ (v : Json) {s : Schema}, v.RefsIn known → decode v = .ok s → s.RefsIn known
  | .object entries, _, hv, h => ofEntries_refsIn entries (fun _ => hv.field) refsIn_empty h
  | .list items, _, hv, h => ofItems_refsIn items (fun _ => hv.item) refsIn_empty h

theorem ofEntries_refsIn {payload : Payload} : ∀ (entries : List (String × Json)) {s s' : Schema},
    (∀ entry ∈ entries, entry.2.RefsIn known) → s.RefsIn known →
    ofEntries payload s entries = .ok s' → s'.RefsIn known
  | [], _, _, _, hs, h => by
    cases h
    exact hs
  | (keyword, v) :: rest, s, s', hentries, hs, h => by
    obtain ⟨hv, hrest⟩ := List.forall_mem_cons.mp hentries
    obtain ⟨next, hnext, h⟩ := bind_ok h
    have hnode : ∀ node, RefOr.ofJson v (fun _ => decode v) = .ok node →
        node.RefsIn known (Schema.RefsIn known) :=
      fun node => RefOr.ofJson_refsIn hv fun _ => decode_refsIn v hv
    refine ofEntries_refsIn rest hrest (enter_refsIn ⟨?_, ?_, ?_⟩ hs hnext) h
    · exact hnode
    · exact fun nodes => decodeNodes_refsIn v hv
    · exact fun members => decodeMembers_refsIn v hv

theorem ofItems_refsIn : ∀ (items : List Json) {keywords : List String} {s s' : Schema},
    (∀ v ∈ items, v.RefsIn known) → s.RefsIn known → ofItems s keywords items = .ok s' → s'.RefsIn known
  | [], _, _, _, _, hs, h => by
    cases h
    exact hs
  | _ :: _, [], _, _, _, _, h => nomatch h
  | v :: rest, keyword :: keywords, s, s', hitems, hs, h => by
    obtain ⟨hv, hrest⟩ := List.forall_mem_cons.mp hitems
    obtain ⟨next, hnext, h⟩ := bind_ok h
    have hnode : ∀ node, RefOr.ofJson v (fun _ => decode v) = .ok node →
        node.RefsIn known (Schema.RefsIn known) :=
      fun node => RefOr.ofJson_refsIn hv fun _ => decode_refsIn v hv
    refine ofItems_refsIn rest hrest (enter_refsIn ⟨?_, ?_, ?_⟩ hs hnext) h
    · exact hnode
    · exact fun nodes => decodeNodes_refsIn v hv
    · exact fun members => decodeMembers_refsIn v hv

theorem decodeNodes_refsIn : ∀ (v : Json) {nodes : List (RefOr Schema)}, v.RefsIn known →
    decodeNodes v = .ok nodes → ∀ node ∈ nodes, node.RefsIn known (Schema.RefsIn known)
  | .list items, _, hv, h => nodesOf_refsIn items (fun _ => hv.item) h

theorem nodesOf_refsIn : ∀ (items : List Json) {nodes : List (RefOr Schema)},
    (∀ v ∈ items, v.RefsIn known) → nodesOf items = .ok nodes →
    ∀ node ∈ nodes, node.RefsIn known (Schema.RefsIn known)
  | [], _, _, h => by
    cases h
    exact List.forall_mem_nil _
  | v :: rest, _, hitems, h => by
    obtain ⟨hv, hrest⟩ := List.forall_mem_cons.mp hitems
    obtain ⟨node, hnode, h⟩ := bind_ok h
    obtain ⟨others, hothers, h⟩ := bind_ok h
    cases h
    exact List.forall_mem_cons.mpr
      ⟨RefOr.ofJson_refsIn hv (fun _ => decode_refsIn v hv) hnode, nodesOf_refsIn rest hrest hothers⟩

theorem decodeMembers_refsIn : ∀ (v : Json) {members : List (String × RefOr Schema)}, v.RefsIn known →
    decodeMembers v = .ok members → ∀ member ∈ members, member.2.RefsIn known (Schema.RefsIn known)
  | .object entries, _, hv, h => by
    obtain ⟨read, hread, h⟩ := bind_ok h
    cases h
    exact Entries.forall_ofList (membersOf_refsIn entries (fun _ => hv.field) hread)

theorem membersOf_refsIn : ∀ (entries : List (String × Json)) {members : List (String × RefOr Schema)},
    (∀ entry ∈ entries, entry.2.RefsIn known) → membersOf entries = .ok members →
    ∀ member ∈ members, member.2.RefsIn known (Schema.RefsIn known)
  | [], _, _, h => by
    cases h
    exact List.forall_mem_nil _
  | (name, v) :: rest, _, hentries, h => by
    obtain ⟨hv, hrest⟩ := List.forall_mem_cons.mp hentries
    obtain ⟨node, hnode, h⟩ := bind_ok h
    obtain ⟨others, hothers, h⟩ := bind_ok h
    cases h
    exact List.forall_mem_cons.mpr
      ⟨RefOr.ofJson_refsIn hv (fun _ => decode_refsIn v hv) hnode, membersOf_refsIn rest hrest hothers⟩

end

theorem decodeNode_keeps : decodeNode.Keeps known (RefOr.RefsIn known (RefsIn known)) :=
  refOr_keeps fun v _ => decode_refsIn v

end Schema

/-! ## Documents -/

/-- Every reference of a parameter is a known one. -/
structure Parameter.RefsIn (known : String → Prop) (p : Parameter) : Prop where
  schema : ∀ node ∈ p.schema, node.RefsIn known (Schema.RefsIn known)
  fields : p.fields.RefsIn known

/-- Every reference of a response is a known one. -/
def Response.RefsIn (known : String → Prop) (r : Response) : Prop :=
  ∀ node ∈ r.schema, node.RefsIn known (Schema.RefsIn known)

/-- Every reference of an operation is a known one. -/
structure Operation.RefsIn (known : String → Prop) (o : Operation) : Prop where
  parameters : ∀ node ∈ o.parameters, node.RefsIn known (Parameter.RefsIn known)
  responses : ∀ entry ∈ o.responses, entry.2.RefsIn known (Response.RefsIn known)

/-- Every reference of a path item is a known one. -/
structure PathItem.RefsIn (known : String → Prop) (item : PathItem) : Prop where
  parameters : ∀ node ∈ item.parameters, node.RefsIn known (Parameter.RefsIn known)
  operations : ∀ operation ∈ item.operations, operation.2.RefsIn known

/-- Every reference of a document is a known one. -/
structure Document.RefsIn (known : String → Prop) (d : Document) : Prop where
  paths : ∀ path ∈ d.paths, path.2.RefsIn known
  definitions : ∀ entry ∈ d.definitions, entry.2.RefsIn known
  parameters : ∀ entry ∈ d.parameters, entry.2.RefsIn known
  responses : ∀ entry ∈ d.responses, entry.2.RefsIn known

/-- Only known references are written in the values of the fields of a structure. -/
def Decode.Source.RefsIn (known : String → Prop) (source : Source) : Prop :=
  ∀ name index v, source.value? name index = some v → v.RefsIn known

namespace Decode.Fields

variable {name : String} {decode : Decoder α} {source : Source} {index : Nat}

theorem field_keeps {absent : Option α} (hsource : source.RefsIn known) (hd : decode.Keeps known good)
    (habsent : ∀ a ∈ absent, good a) : (field name decode absent).GivesAt source index good := by
  intro a ha
  have hread := field_givesAt a ha
  unfold ReadAs at hread
  split at hread
  · next v hv => exact hd v a (hsource name index v hv) hread
  · exact habsent a hread

theorem optional_keeps (hsource : source.RefsIn known) (hd : decode.Keeps known good) :
    (optional name decode).GivesAt source index fun o => ∀ a ∈ o, good a :=
  field_keeps hsource (Decode.optional_keeps hd) (by simp)

theorem defaulted_keeps {default : α} (hsource : source.RefsIn known) (hd : decode.Keeps known good)
    (h : good default) : (defaulted name decode default).GivesAt source index good :=
  field_keeps hsource hd (by simpa using h)

theorem decode_keeps {fields : Fields α} (hf : ∀ source, source.RefsIn known → fields.GivesAt source 0 good) :
    (fields.decode name).Keeps known good := by
  intro v a hv
  refine decode_member fun source hsource => hf source ?_
  intro name index w hw
  rw [hsource] at hw
  exact hv.member hw

end Decode.Fields

theorem Parameter.decode_keeps : Parameter.decode.Keeps known (RefsIn known) := by
  intro v p hv h
  cases v with
  | object entries =>
    obtain ⟨own, hown, h⟩ := bind_ok h
    obtain ⟨fields, hfields, h⟩ := bind_ok h
    cases h
    have hsource : (Source.object entries).RefsIn known := by
      intro name index w hw
      rw [value?_object] at hw
      exact hv.field (Entries.mem_of_get? hw)
    have howns : ownFields.GivesAt (.object entries) 0 fun own =>
        ∀ fields, fields.RefsIn known → (own fields).RefsIn known := by
      refine .seq (.any _ _ _) (.seq (Fields.optional_keeps hsource Schema.decodeNode_keeps) ?_)
      refine .seq (.any _ _ _) (.seq (.any _ _ _) (.seq (.any _ _ _) (.map (.any _ _ _) ?_)))
      intro name _ location _ description _ required _ schema hschema format _ fields hfields
      exact ⟨hschema, hfields⟩
    refine howns own (mapError_ok hown) fields ?_
    exact Schema.ofEntries_refsIn _ (fun entry he => hv.field (List.mem_filter.mp he).1)
      Schema.refsIn_empty hfields
  | null | bool | number | string | list => cases h

theorem Response.decode_keeps : Response.decode.Keeps known (RefsIn known) := by
  refine Fields.decode_keeps fun source hsource => ?_
  refine .seq (Fields.optional_keeps hsource Schema.decodeNode_keeps) (.map (.any _ _ _) ?_)
  intro description _ schema hschema
  exact hschema

theorem Operation.decode_keeps : Operation.decode.Keeps known (RefsIn known) := by
  refine Fields.decode_keeps fun source hsource => ?_
  refine .seq (Fields.defaulted_keeps hsource (map_keeps (refOr_keeps Response.decode_keeps)) ?_) ?_
  · exact List.forall_mem_nil _
  refine .seq (Fields.defaulted_keeps hsource (list_keeps (refOr_keeps Parameter.decode_keeps)) ?_) ?_
  · exact List.forall_mem_nil _
  refine .seq (.any _ _ _) (.seq (.any _ _ _) (.map (.any _ _ _) ?_))
  intro id _ summary _ description _ parameters hparameters responses hresponses
  exact ⟨hparameters, hresponses⟩

theorem PathItem.enter_refsIn {item item' : PathItem} {key : String} {v : Json} (hv : v.RefsIn known)
    (hitem : item.RefsIn known) (h : item.enter key v = .ok item') : item'.RefsIn known := by
  unfold enter at h
  split at h
  · obtain ⟨parameters, hread, h⟩ := bind_ok h
    cases h
    exact ⟨list_keeps (refOr_keeps Parameter.decode_keeps) v parameters hv hread, hitem.operations⟩
  · split at h
    · cases h
    · split at h
      · next verb _ =>
        obtain ⟨operation, hread, h⟩ := bind_ok h
        cases h
        refine ⟨hitem.parameters, List.forall_mem_append.mpr ⟨hitem.operations, ?_⟩⟩
        exact List.forall_mem_singleton.mpr (Operation.decode_keeps v operation hv (mapError_ok hread))
      · cases h
        exact hitem

theorem PathItem.decode_keeps : PathItem.decode.Keeps known (RefsIn known) := by
  have hfold : ∀ (entries : List (String × Json)) (first last : PathItem),
      (∀ entry ∈ entries, entry.2.RefsIn known) → first.RefsIn known →
      entries.foldlM (fun item entry => enter item entry.1 entry.2) first = .ok last →
      last.RefsIn known := by
    intro entries
    induction entries with
    | nil =>
      intro first last _ hfirst h
      cases h
      exact hfirst
    | cons entry rest ih =>
      intro first last hentries hfirst h
      obtain ⟨hv, hrest⟩ := List.forall_mem_cons.mp hentries
      rw [List.foldlM_cons] at h
      obtain ⟨next, hnext, h⟩ := bind_ok h
      exact ih next last hrest (enter_refsIn hv hfirst hnext) h
  intro v item hv h
  cases v with
  | object entries =>
    exact hfold entries {} item (fun _ => hv.field) ⟨List.forall_mem_nil _, List.forall_mem_nil _⟩ h
  | null | bool | number | string | list => cases h

theorem Document.decode_keeps : Document.decode.Keeps known (RefsIn known) := by
  refine Fields.decode_keeps fun source hsource => ?_
  refine .seq (Fields.defaulted_keeps hsource (map_keeps Response.decode_keeps) ?_) ?_
  · exact List.forall_mem_nil _
  refine .seq (Fields.defaulted_keeps hsource (map_keeps Parameter.decode_keeps) ?_) ?_
  · exact List.forall_mem_nil _
  refine .seq (Fields.defaulted_keeps hsource (map_keeps fun v _ => Schema.decode_refsIn v) ?_) ?_
  · exact List.forall_mem_nil _
  refine .seq (Fields.defaulted_keeps hsource (map_keeps PathItem.decode_keeps) ?_) ?_
  · exact List.forall_mem_nil _
  refine .seq (.any _ _ _) (.map (.any _ _ _) ?_)
  intro swagger _ info _ paths hp definitions hd parameters hq responses hr
  exact ⟨hp, hd, hq, hr⟩

/-! ## Sections -/

theorem Entries.get?_eq_none {key : String} {entries : List (String × α)} :
    get? key entries = none ↔ key ∉ entries.map (·.1) := by
  induction entries with
  | nil => simp [get?]
  | cons entry rest ih =>
    obtain ⟨k, a⟩ := entry
    by_cases h : k = key
    · simp [get?, h]
    · have h' : ¬ key = k := fun e => h e.symm
      simp only [get?, beq_iff_eq, h, ↓reduceIte, List.map_cons, List.mem_cons, h', false_or]
      exact ih

theorem Entries.mem_keys_put {key name : String} {value : α} {entries : List (String × α)} :
    name ∈ (put key value entries).map (·.1) ↔ name = key ∨ name ∈ entries.map (·.1) := by
  rw [keys_put]
  split
  · next hkey =>
    refine ⟨.inr, ?_⟩
    rintro (rfl | hname)
    · exact hkey
    · exact hname
  · simp only [List.mem_append, List.mem_singleton, or_comm]

theorem Entries.mem_keys_ofList {name : String} {entries : List (String × α)} :
    name ∈ (ofList entries).map (·.1) ↔ name ∈ entries.map (·.1) := by
  have hfold : ∀ rest done : List (String × α),
      name ∈ (rest.foldl (fun done entry => put entry.1 entry.2 done) done).map (·.1) ↔
        name ∈ rest.map (·.1) ∨ name ∈ done.map (·.1) := by
    intro rest
    induction rest with
    | nil => simp
    | cons entry rest ih =>
      intro done
      rw [List.foldl_cons, ih, mem_keys_put, List.map_cons, List.mem_cons, or_left_comm, or_assoc]
  exact (hfold entries []).trans (by simp)

theorem Decode.map_keys {decode : Decoder α} {fields : List (String × Json)} {read : List (String × α)}
    (h : map decode (.object fields) = .ok read) :
    read.map (·.1) = (Entries.ofList fields).map (·.1) := by
  have hview := map_view (f := fun _ => ()) (g := fun _ => ()) (fun _ _ _ => rfl) h
  have hkeys := congrArg (List.map (·.1)) hview
  rw [List.map_map, List.map_map] at hkeys
  exact hkeys

/-- A name that a section has no entry for leads nowhere in the written document. -/
theorem Decode.section_complete {decode : Decoder α} {raw : Json} {key : String} {index : Nat}
    {entries : List (String × α)} (hkey : readNatural? UInt64.size key = none)
    (h : Fields.ReadAs (map decode) (some []) (raw.member? key index) entries) {name : String}
    (hname : Entries.get? name entries = none) : raw.at? [key, name] = none := by
  cases raw with
  | object fields =>
    change Fields.ReadAs _ _ (Entries.get? key fields) entries at h
    change ((Entries.get? key fields).bind fun v => (v.child? name).bind some) = none
    cases hv : Entries.get? key fields with
    | none => rfl
    | some v =>
      rw [hv] at h
      cases v with
      | object written =>
        have hwritten : Entries.get? name written = none := by
          rw [Entries.get?_eq_none] at hname ⊢
          rw [map_keys h, Entries.mem_keys_ofList] at hname
          exact hname
        simp [Json.child?, hwritten]
      | null | bool | number | string | list => cases h
  | list items => simp [Json.at?, Json.child?, hkey]
  | null | bool | number | string => rfl

/-- What a loaded document has of the written one: no reference is new, and no entry of a section that a
reference can name is lost. -/
structure Loaded.Faithful (l : Loaded) : Prop where
  refs : l.document.RefsIn l.raw.Cites
  definitions : ∀ name, Entries.get? name l.document.definitions = none →
    l.raw.at? ["definitions", name] = none
  parameters : ∀ name, Entries.get? name l.document.parameters = none →
    l.raw.at? ["parameters", name] = none
  responses : ∀ name, Entries.get? name l.document.responses = none →
    l.raw.at? ["responses", name] = none

/-- What the sections that references name were read off. -/
structure Document.SectionsOf (raw : Json) (d : Document) : Prop where
  definitions : Fields.ReadAs (map Schema.decode) (some []) (raw.member? "definitions" 3) d.definitions
  parameters : Fields.ReadAs (map Parameter.decode) (some []) (raw.member? "parameters" 4) d.parameters
  responses : Fields.ReadAs (map Response.decode) (some []) (raw.member? "responses" 5) d.responses

theorem Document.decode_sections {raw : Json} {d : Document} (h : Document.decode raw = .ok d) :
    d.SectionsOf raw := by
  refine Fields.decode_member (P := SectionsOf raw) (fun source hsource => ?_) h
  refine .seq Fields.field_givesAt (.seq Fields.field_givesAt (.seq Fields.field_givesAt ?_))
  refine .seq (.any _ _ _) (.seq (.any _ _ _) (.map (.any _ _ _) ?_))
  intro swagger _ info _ paths _ definitions hd parameters hq responses hr
  rw [hsource] at hd hq hr
  exact ⟨hd, hq, hr⟩

theorem Document.decode_faithful {raw : Json} {d : Document} (h : Document.decode raw = .ok d) :
    Loaded.Faithful ⟨d, raw⟩ := by
  obtain ⟨hdefinitions, hparameters, hresponses⟩ := decode_sections h
  constructor
  · exact decode_keeps raw d raw.refsIn_cites h
  · exact fun name => section_complete (by decide) hdefinitions
  · exact fun name => section_complete (by decide) hparameters
  · exact fun name => section_complete (by decide) hresponses

theorem Loaded.ofJson_faithful {raw : Json} {l : Loaded} (h : ofJson raw = .ok l) :
    l.Faithful ∧ l.raw = raw := by
  obtain ⟨hd, rfl⟩ := ofJson_decode h
  exact ⟨Document.decode_faithful hd, rfl⟩

end SwaggerService
