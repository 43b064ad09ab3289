import SwaggerService.Proofs.Grouping
import SwaggerService.Proofs.Loading
import SwaggerService.Proofs.Methods

/-! # The table of paths

Which interfaces a service has, which paths each of them has and which methods each path has is read off
the written document: the first segments of its paths in the order in which they occur, the paths with each
segment in document order, and those keys of a path that are verbs, in document order. Nothing is lost on
the way, and nothing occurs twice. -/

namespace SwaggerService
open Service

/-! ## What is written -/

/-- The keys of a path item that are verbs. -/
def Verb.keys : List String := all.map key

example : Verb.keys = ["get", "put", "post", "delete", "options", "head", "patch"] := by decide

namespace Json

/-- The value of a field of a structure, which is written as an object or as the list of its fields. -/
def member? (name : String) (index : Nat) : Json → Option Json
  | .object entries => Entries.get? name entries
  | .list items => items[index]?
  | _ => none

/-- The written paths of a document. A path that is written twice keeps its first place and its last item. -/
def paths (raw : Json) : List (String × Json) :=
  match raw.member? "paths" 2 with
  | some (.object entries) => Entries.ofList entries
  | _ => []

/-- The name of a written operation. -/
def operationName (v : Json) : String :=
  match v.member? "operationId" 0 with
  | some (.string id) => id
  | _ => Operation.unnamed

/-- The verbs of a written path item, each with the name of its operation. -/
def methods : Json → List (String × String)
  | .object entries =>
    (entries.filter fun entry => Verb.keys.contains entry.1).map fun entry => (entry.1, entry.2.operationName)
  | _ => []

end Json

/-! ## What is read -/

open Decode

theorem Decode.Fields.decode_member {α : Type} {name : String} {fields : Fields α} {v : Json} {a : α}
    {P : α → Prop} (hf : ∀ source, (∀ name index, source.value? name index = v.member? name index) →
      fields.GivesAt source 0 P) (h : fields.decode name v = .ok a) : P a := by
  rcases decode_source h with ⟨entries, rfl, hread⟩ | ⟨items, rfl, hread⟩
  · exact hf _ (value?_object entries) a hread
  · exact hf _ (value?_list items) a hread

theorem Operation.decode_name {v : Json} {o : Operation} (h : Operation.decode v = .ok o) :
    o.name = v.operationName := by
  refine Fields.decode_member (P := fun o => o.name = v.operationName) (fun source hsource => ?_) h
  refine .seq (.any _ _ _) (.seq (.any _ _ _) (.seq (.any _ _ _) (.seq (.any _ _ _) ?_)))
  refine .map Fields.field_givesAt ?_
  intro id hid summary _ description _ parameters _ responses _
  rw [hsource] at hid
  change id.getD unnamed = _
  rw [Json.operationName]
  cases hm : v.member? "operationId" 0 with
  | none =>
    rw [hm] at hid
    cases hid
    rfl
  | some w =>
    rw [hm] at hid
    change Decode.optional Decode.string w = .ok id at hid
    cases w with
    | null | string => cases hid; rfl
    | bool | number | list | object => cases hid

theorem Verb.isSome_ofKey? (key : String) : (ofKey? key).isSome = keys.contains key := by
  rw [ofKey?, keys, List.isSome_find?, List.contains_eq_any_beq, List.any_map]
  exact List.any_congr rfl fun verb => BEq.comm

/-- The verbs of a path item, each with the name of its operation. -/
def PathItem.methods (item : PathItem) : List (String × String) :=
  item.operations.map fun operation => (operation.1.key, operation.2.name)

/-- Entering a key adds a method if the key is a verb, and no method otherwise. -/
theorem PathItem.enter_methods {item item' : PathItem} {key : String} {v : Json}
    (h : item.enter key v = .ok item') :
    item'.methods = item.methods ++ if Verb.keys.contains key then [(key, v.operationName)] else [] := by
  unfold enter at h
  split at h
  · next hkey =>
    subst hkey
    obtain ⟨parameters, _, h⟩ := bind_ok h
    cases h
    exact (List.append_nil _).symm
  · split at h
    · cases h
    · rw [← Verb.isSome_ofKey?]
      cases hverb : Verb.ofKey? key with
      | none =>
        rw [hverb] at h
        cases h
        exact (List.append_nil _).symm
      | some verb =>
        rw [hverb] at h
        obtain ⟨o, ho, h⟩ := bind_ok h
        cases h
        rw [methods, List.map_append, List.map_singleton, Verb.key_of_ofKey? hverb,
          Operation.decode_name (mapError_ok ho)]
        rfl

theorem PathItem.decode_methods {v : Json} {item : PathItem} (h : PathItem.decode v = .ok item) :
    item.methods = v.methods := by
  have hfold : ∀ (entries : List (String × Json)) (first last : PathItem),
      entries.foldlM (fun item entry => enter item entry.1 entry.2) first = .ok last →
      last.methods = first.methods ++ (Json.object entries).methods := by
    intro entries
    induction entries with
    | nil =>
      intro first last h
      cases h
      exact (List.append_nil _).symm
    | cons entry rest ih =>
      intro first last h
      rw [List.foldlM_cons] at h
      obtain ⟨next, hnext, h⟩ := bind_ok h
      rw [ih next last h, enter_methods hnext, List.append_assoc]
      congr 1
      rw [Json.methods, Json.methods, List.filter_cons]
      split
      · rfl
      · rfl
  cases v with
  | object entries => exact hfold entries {} item h
  | null | bool | number | string | list => cases h

theorem Entries.put_map_snd {α β : Type} (f : α → β) (key : String) (value : α)
    (entries : List (String × α)) :
    put key (f value) (entries.map fun entry => (entry.1, f entry.2)) =
      (put key value entries).map fun entry => (entry.1, f entry.2) := by
  induction entries with
  | nil => rfl
  | cons entry rest ih =>
    rw [List.map_cons, put, put, ih]
    split
    · rfl
    · rfl

theorem Entries.ofList_map_snd {α β : Type} (f : α → β) (entries : List (String × α)) :
    ofList (entries.map fun entry => (entry.1, f entry.2)) =
      (ofList entries).map fun entry => (entry.1, f entry.2) := by
  have hfold : ∀ (rest done : List (String × α)),
      (rest.map fun entry => (entry.1, f entry.2)).foldl (fun done entry => put entry.1 entry.2 done)
        (done.map fun entry => (entry.1, f entry.2)) =
      (rest.foldl (fun done entry => put entry.1 entry.2 done) done).map
        fun entry => (entry.1, f entry.2) := by
    intro rest
    induction rest with
    | nil => exact fun _ => rfl
    | cons entry rest ih =>
      intro done
      rw [List.map_cons, List.foldl_cons, List.foldl_cons, ← ih, ← put_map_snd]
  exact hfold entries []

/-- A view of the values of a map is that of the written values, if it is so for each one. -/
theorem Decode.map_view {α β : Type} {decode : Decoder α} {f : α → β} {g : Json → β}
    (hview : ∀ v a, decode v = .ok a → f a = g v) {entries : List (String × Json)}
    {read : List (String × α)} (h : map decode (.object entries) = .ok read) :
    (read.map fun entry => (entry.1, f entry.2)) =
      (Entries.ofList entries).map fun entry => (entry.1, g entry.2) := by
  have hvalues : ∀ (entries : List (String × Json)) (read : List (String × α)),
      values decode entries = .ok read →
      (read.map fun entry => (entry.1, f entry.2)) = entries.map fun entry => (entry.1, g entry.2) := by
    intro entries
    induction entries with
    | nil =>
      intro read h
      cases h
      rfl
    | cons entry rest ih =>
      intro read h
      obtain ⟨key, v⟩ := entry
      obtain ⟨a, hv, h⟩ := bind_ok h
      obtain ⟨others, hrest, h⟩ := bind_ok h
      cases h
      rw [List.map_cons, List.map_cons, ih others hrest, hview v a hv]
  cases hr : values decode entries with
  | error fault => simp only [map, hr] at h; cases h
  | ok done =>
    simp only [map, hr] at h
    cases h
    rw [← Entries.ofList_map_snd, hvalues entries done hr, Entries.ofList_map_snd]

theorem Document.decode_paths {raw : Json} {d : Document} (h : Document.decode raw = .ok d) :
    (d.paths.map fun p => (p.1, p.2.methods)) = raw.paths.map fun p => (p.1, p.2.methods) := by
  refine Fields.decode_member (P := fun d : Document => (d.paths.map fun p => (p.1, p.2.methods)) =
    raw.paths.map fun p => (p.1, p.2.methods)) (fun source hsource => ?_) h
  refine .seq (.any _ _ _) (.seq (.any _ _ _) (.seq (.any _ _ _) (.seq Fields.field_givesAt ?_)))
  refine .seq (.any _ _ _) (.map (.any _ _ _) ?_)
  intro swagger _ info _ paths hp definitions _ parameters _ responses _
  have hread : Fields.ReadAs (Decode.map PathItem.decode) (some []) (raw.member? "paths" 2) paths := by
    rw [← hsource]
    exact hp
  change (paths.map fun p => (p.1, p.2.methods)) = _
  rw [Json.paths]
  cases hm : raw.member? "paths" 2 with
  | none =>
    rw [hm] at hread
    cases hread
    rfl
  | some v =>
    rw [hm] at hread
    cases v with
    | object entries => exact Decode.map_view (fun v item => PathItem.decode_methods) hread
    | null | bool | number | string | list => cases hread

theorem Loaded.ofJson_paths {raw : Json} {l : Loaded} (h : Loaded.ofJson raw = .ok l) :
    (l.document.paths.map fun p => (p.1, p.2.methods)) = raw.paths.map fun p => (p.1, p.2.methods) :=
  Document.decode_paths (ofJson_decode h).1

/-! ## What is described -/

/-- The paths of an interface, each with the verbs and the names of its methods. -/
def Service.Interface.table (i : Interface) : String × List (String × List (String × String)) :=
  (i.name, i.protocols.http.map fun p => (p.path, p.methods.map fun m => (m.verb.key, m.name)))

theorem Loaded.MethodBuilt.table {l : Loaded} {shared : List (RefOr Parameter)}
    {operations : List (Verb × Operation)} {built : List (Method × WireMethod)}
    (h : List.Forall₂ (fun operation => l.MethodBuilt operation.1 operation.2 shared) operations built) :
    ((built.map (·.2)).map fun m => (m.verb.key, m.name)) =
      operations.map fun operation => (operation.1.key, operation.2.name) := by
  induction h with
  | nil => rfl
  | cons hm _ ih => rw [List.map_cons, List.map_cons, List.map_cons, ih, hm.verb, hm.wireName]

theorem Loaded.PathBuilt.table {l : Loaded} {paths : List (String × PathItem)}
    {built : List (List Method × WirePath)} (h : List.Forall₂ l.PathBuilt paths built) :
    ((built.map (·.2)).map fun p => (p.path, p.methods.map fun m => (m.verb.key, m.name))) =
      paths.map fun p => (p.1, p.2.methods) := by
  induction h with
  | nil => rfl
  | cons hp _ ih =>
    obtain ⟨methods, hmethods, rfl⟩ := hp
    rw [List.map_cons, List.map_cons, List.map_cons, ih, MethodBuilt.table hmethods]
    rfl

theorem Loaded.InterfaceBuilt.table {l : Loaded} {groups : List (String × List (String × PathItem))}
    {interfaces : List Interface} (h : List.Forall₂ l.InterfaceBuilt groups interfaces) :
    interfaces.map Interface.table = groups.map fun group =>
      (Naming.singularize group.1, group.2.map fun p => (p.1, p.2.methods)) := by
  induction h with
  | nil => rfl
  | cons hi _ ih =>
    obtain ⟨paths, hpaths, rfl⟩ := hi
    rw [List.map_cons, List.map_cons, ih, Interface.table, PathBuilt.table hpaths]

section views

variable {α β : Type} (f : α → β) (paths : List (String × α))

theorem segments_map : segments (paths.map fun p => (p.1, f p.2)) = segments paths := by
  rw [segments, List.map_map]
  rfl

theorem pathsUnder_map (segment : String) :
    pathsUnder segment (paths.map fun p => (p.1, f p.2)) =
      (pathsUnder segment paths).map fun p => (p.1, f p.2) := by
  rw [pathsUnder, List.filter_map]
  rfl

end views

/-- The table of a service is that of the written document, where the first segment of a path is the text
between its first and its second `/`. -/
theorem interfaces_of_paths {raw : Json} {l : Loaded} {maxDepth : Nat} {service : Service}
    (hl : Loaded.ofJson raw = .ok l) (h : l.describe maxDepth = .ok service) :
    (∀ path, (firstSegment path).toList =
      ((path.toList.dropWhile (· != '/')).drop 1).takeWhile (· != '/')) ∧
    service.interfaces.map Interface.table = (segments raw.paths).map fun segment =>
      (Naming.singularize segment, (pathsUnder segment raw.paths).map fun p => (p.1, p.2.methods)) := by
  refine ⟨firstSegment_toList, ?_⟩
  have hwritten := Loaded.ofJson_paths hl
  have hsegments : segments l.document.paths = segments raw.paths := by
    rw [← segments_map PathItem.methods, hwritten, segments_map]
  rw [Loaded.InterfaceBuilt.table (Loaded.interfaces_built h), groupPaths_eq, List.map_map, hsegments]
  refine List.map_congr_left fun segment _ => ?_
  change (_, (pathsUnder segment l.document.paths).map fun p => (p.1, p.2.methods)) = _
  rw [← pathsUnder_map PathItem.methods, hwritten, pathsUnder_map]

/-- A document whose paths interleave, with own and shared parameters in every place, and arrays in most. -/
def Json.garage : Json :=
  let parameter (name place : String) (keywords : List (String × Json)) : Json :=
    .object ([("name", .string name), ("in", .string place)] ++ keywords)
  let array : List (String × Json) :=
    [("type", .string "array"), ("items", .object [("type", .string "integer")])]
  let operation (id : List (String × Json)) (parameters : List Json) : Json :=
    .object (id ++ [("parameters", .list parameters)])
  .object [
    ("info", .object [("title", .string "garage"), ("version", .string "2.1.0")]),
    ("paths", .object [
      ("/cars", .object [
        ("get", operation [("operationId", .string "listCars")] [parameter "tags" "query" array]),
        ("parameters", .list [parameter "trace" "header" [("type", .string "string")]]),
        ("x-stable", .bool true),
        ("post", operation [("operationId", .string "addCar")]
          [parameter "car" "body" [("schema", .object array)], parameter "trace" "header" array])]),
      ("/vans/{id}", .object [("put", operation [] [parameter "seats" "formData" array])]),
      ("/cars/{id}", .object [("parameters", .list [.object [("$ref", .string "#/parameters/id")]]),
        ("head", operation [] []),
        ("delete", operation [("operationId", .string "dropCar")] [])])]),
    ("parameters", .object [("id", parameter "id" "path" array)])]

set_option synthInstance.maxSize 1000 in
theorem garage_interfaces_of_paths : ∃ l service, Loaded.ofJson Json.garage = .ok l ∧
    l.describe defaultMaxDepth = .ok service ∧
    service.interfaces.map Interface.table =
      [("car", [("/cars", [("get", "listCars"), ("post", "addCar")]),
          ("/cars/{id}", [("head", "UNNAMED"), ("delete", "dropCar")])]),
        ("van", [("/vans/{id}", [("put", "UNNAMED")])])] ∧
    service.interfaces.map Interface.table = (segments Json.garage.paths).map fun segment =>
      (Naming.singularize segment,
        (pathsUnder segment Json.garage.paths).map fun p => (p.1, p.2.methods)) := by
  obtain ⟨l, service, hl, h, htable⟩ := Loaded.exists_described Json.garage defaultMaxDepth
    (fun _ service => service.interfaces.map Interface.table)
    [("car", [("/cars", [("get", "listCars"), ("post", "addCar")]),
        ("/cars/{id}", [("head", "UNNAMED"), ("delete", "dropCar")])]),
      ("van", [("/vans/{id}", [("put", "UNNAMED")])])] (by decide +kernel)
  exact ⟨l, service, hl, h, htable, (interfaces_of_paths hl h).2⟩

end SwaggerService
