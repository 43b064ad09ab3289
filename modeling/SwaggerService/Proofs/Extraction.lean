import SwaggerService.Proofs.Blueprint
import SwaggerService.Proofs.Loading

/-! # Extraction of properties

The properties of an object are extracted entry by entry: from its own entries, or from those of its
resolved members when it is composed. No entry is left out, moved or merged with another one of the same
key. Each is classified where the one before it has left the registry, one level below the object. -/

namespace SwaggerService
open Service Walk

/-- The extraction of one property: its key, the schema that its entry resolves to, and the type that this
schema has, classified from one state to another. -/
structure Extraction where
  key : String
  source : Schema
  type : Descriptor
  before : Run
  after : Run

namespace Extraction

/-- The property. -/
def property (required : List String) (x : Extraction) : Property :=
  ⟨x.key, x.source.description, x.type.withRequired (required.contains x.key)⟩

/-- Extractions follow one another from one registry to another: each begins with the registry that the
one before it left. -/
inductive Follow : Registry → List Extraction → Registry → Prop
  | nil {r : Registry} : Follow r [] r
  | cons {x : Extraction} {rest : List Extraction} {r : Registry} :
      Follow x.after.registry rest r → Follow x.before.registry (x :: rest) r

theorem Follow.append {xs ys : List Extraction} {r mid r' : Registry} (hx : Follow r xs mid)
    (hy : Follow mid ys r') : Follow r (xs ++ ys) r' := by
  induction hx with
  | nil => exact hy
  | cons _ ih => exact .cons (ih hy)

end Extraction

namespace Loaded

/-- The entries of an object: its own ones, or those of its resolved members when it is composed. What else
a composed object or a member of it has contributes nothing. -/
inductive Lists (l : Loaded) (s : Schema) : List (String × RefOr Schema) → Prop
  | own : s.allOf = [] → Lists l s s.properties
  | composed {members : List Schema} : s.allOf ≠ [] →
      List.Forall₂ (fun node member => l.schema node = .ok member) s.allOf members →
      Lists l s (members.flatMap Schema.properties)

/-- An extraction is that of an entry, inside an object of the given name. -/
structure Extracts (l : Loaded) (parentName : String) (entry : String × RefOr Schema) (x : Extraction) :
    Prop where
  key : x.key = entry.1
  source : l.schema entry.2 = .ok x.source
  classified : Returns (l.classifySchema x.source x.key parentName) x.before x.type x.after

end Loaded

/-- Properties are extracted from entries, from one state to another. -/
def Loaded.Extracted (l : Loaded) (required : List String) (parentName : String)
    (entries : List (String × RefOr Schema)) (properties : List Property) (r r' : Registry) : Prop :=
  ∃ xs, List.Forall₂ (l.Extracts parentName) entries xs ∧ Extraction.Follow r xs r' ∧
    properties = xs.map (Extraction.property required)

namespace Walker

variable {l : Loaded} {room : Nat} {required : List String} {parentName : String} {run run' : Run}

/-- What is drawn leaves as many levels as there were. -/
theorem room_of_absorb {r r' : Registry} {claims : List String} {nodes : List Outline}
    (h : r' = r.absorb claims nodes) : r'.room = r.room := by
  rw [h]
  rfl

theorem property_extracted {name : String} {node : RefOr Schema} {p : Property}
    (hroom : run.registry.room = room)
    (h : Returns (property l (fun _ => withRoom l room) required parentName name node) run p run') :
    ∃ x, l.Extracts parentName (name, node) x ∧ p = x.property required ∧
      x.before.registry = run.registry ∧ x.after = run' := by
  obtain ⟨s, mid, hschema, h⟩ := Returns.bind h
  obtain ⟨type, after, htype, h⟩ := Returns.bind h
  obtain ⟨rfl, rfl⟩ := Returns.pure h
  obtain ⟨hs, hreg⟩ := schema_returns hschema
  -- The walk with so many levels is the one that classifies from this state.
  have hclassified : Returns (l.classifySchema s name parentName) mid type after := by
    change (withRoom l mid.registry.room).schema s name parentName mid = _
    rw [hreg, hroom]
    exact htype
  exact ⟨⟨name, s, type, mid, after⟩, ⟨rfl, hs, hclassified⟩, rfl, hreg, rfl⟩

theorem ownProperties_extracted {entries : List (String × RefOr Schema)} {properties : List Property}
    (hroom : run.registry.room = room)
    (h : Returns (ownProperties l (fun _ => withRoom l room) required parentName entries) run properties
      run') :
    l.Extracted required parentName entries properties run.registry run'.registry := by
  induction entries generalizing run properties with
  | nil =>
    obtain ⟨rfl, rfl⟩ := Returns.pure h
    exact ⟨[], .nil, .nil, rfl⟩
  | cons entry rest ih =>
    obtain ⟨name, node⟩ := entry
    obtain ⟨first, mid, hfirst, h⟩ := Returns.bind h
    obtain ⟨others, out, hothers, h⟩ := Returns.bind h
    obtain ⟨rfl, rfl⟩ := Returns.pure h
    obtain ⟨x, hx, rfl, hbefore, rfl⟩ := property_extracted hroom hfirst
    obtain ⟨_, _, _, hdrawn⟩ := Loaded.classifySchema_draws hx.classified
    have hleft : x.after.registry.room = room := by
      rw [room_of_absorb hdrawn.registry, hbefore, hroom]
    obtain ⟨xs, hxs, hfollow, rfl⟩ := ih hleft hothers
    refine ⟨x :: xs, .cons hx hxs, ?_, rfl⟩
    rw [← hbefore]
    exact .cons hfollow

theorem memberProperties_extracted {nodes : List (RefOr Schema)} {properties : List Property}
    (hroom : run.registry.room = room)
    (h : Returns (memberProperties l (fun _ => withRoom l room) required parentName nodes) run properties
      run') :
    ∃ members, List.Forall₂ (fun node member => l.schema node = .ok member) nodes members ∧
      l.Extracted required parentName (members.flatMap Schema.properties) properties run.registry
        run'.registry := by
  induction nodes generalizing run properties with
  | nil =>
    obtain ⟨rfl, rfl⟩ := Returns.pure h
    exact ⟨[], .nil, [], .nil, .nil, rfl⟩
  | cons node rest ih =>
    obtain ⟨member, r₁, hschema, h⟩ := Returns.bind h
    obtain ⟨own, r₂, hown, h⟩ := Returns.bind h
    obtain ⟨others, r₃, hothers, h⟩ := Returns.bind h
    obtain ⟨rfl, rfl⟩ := Returns.pure h
    obtain ⟨hs, hreg⟩ := schema_returns hschema
    have hroom₁ : r₁.registry.room = room := by rw [hreg, hroom]
    obtain ⟨_, _, _, _, _, hdrawn⟩ := ownProperties_draws (withRoom_draws l room) hown
    have hroom₂ : r₂.registry.room = room := by rw [room_of_absorb hdrawn.registry, hroom₁]
    obtain ⟨xs, hxs, hfollow, rfl⟩ := ownProperties_extracted hroom₁ hown
    obtain ⟨members, hmembers, ys, hys, hfollow', rfl⟩ := ih hroom₂ hothers
    rw [hreg] at hfollow
    exact ⟨member :: members, .cons hs hmembers, xs ++ ys, List.rel_append hxs hys,
      hfollow.append hfollow', List.map_append.symm⟩

theorem allProperties_extracted {s : Schema} {properties : List Property}
    (hroom : run.registry.room = room)
    (h : Returns (allProperties l (fun _ => withRoom l room) s parentName) run properties run') :
    ∃ entries, l.Lists s entries ∧
      l.Extracted s.required parentName entries properties run.registry run'.registry := by
  unfold allProperties at h
  split at h
  · next hown => exact ⟨_, .own (List.isEmpty_iff.mp hown), ownProperties_extracted hroom h⟩
  · next hcomposed =>
    obtain ⟨members, hmembers, hextracted⟩ := memberProperties_extracted hroom h
    exact ⟨_, .composed (fun hnil => hcomposed (List.isEmpty_iff.mpr hnil)) hmembers, hextracted⟩

end Walker

/-- Every entry of an object is extracted once and in its place, one level below the object. -/
theorem properties_extracted {l : Loaded} {s : Schema} {parentName : String} {run run' : Run}
    {properties : List Property} (h : Returns (l.properties s parentName) run properties run') :
    ∃ entries, l.Lists s entries ∧
      l.Extracted s.required parentName entries properties run.deeper.registry run'.deeper.registry := by
  have hwalk : Returns ((Walker.withRoom l run.registry.room).properties s parentName) run properties run' := h
  cases hroom : run.registry.room with
  | zero =>
    rw [hroom] at hwalk
    exact (refuse_returns hwalk).elim
  | succ room =>
    rw [hroom] at hwalk
    change Returns (level parentName _) run properties run' at hwalk
    obtain ⟨mid, hbody, rfl⟩ := level_returns hwalk
    have hdeeper : run.deeper.registry.room = room := by
      change run.registry.maxDepth - (run.registry.depth + 1) = room
      unfold Registry.room at hroom
      omega
    obtain ⟨entries, hentries, hextracted⟩ := Walker.allProperties_extracted hdeeper hbody
    obtain ⟨_, _, _, _, _, hdrawn⟩ := Walker.allProperties_draws (Walker.withRoom_draws l room) hbody
    have hback : mid.left.deeper.registry = mid.registry := by
      unfold Run.left Run.deeper Registry.leave
      rw [hdrawn.registry]
      rfl
    rw [hback]
    exact ⟨entries, hentries, hextracted⟩

/-- A document with a composed object. Two of its members have a key in common, one member is the object
itself, and one is composed in turn. -/
def Json.hangar : Json :=
  let ref (target : String) : Json := .object [("$ref", .string target)]
  let kind (name : String) : Json := .object [("type", .string name)]
  let object (required : List String) (properties : List (String × Json)) (allOf : List Json) : Json :=
    .object [("type", .string "object"), ("required", .list (required.map .string)),
      ("properties", .object properties), ("allOf", .list allOf)]
  .object [
    ("info", .object [("title", .string "hangar"), ("version", .string "1.0.0")]),
    ("definitions", .object [
      ("Part", object ["serial"] [("serial", kind "string"), ("state", .object [("type", .string "string"),
        ("enum", .list [.string "new", .string "worn"])])] []),
      ("Plane", object ["state"] [("span", kind "number")] [ref "#/definitions/Part",
        ref "#/definitions/Plane",
        object [] [("state", object [] [] []), ("crew", kind "integer")] [ref "#/definitions/Part"]])])]

/-- The names of properties, with their types and whether they are required. -/
def Service.Property.summary (p : Property) : String × String × Bool :=
  (p.name, p.type.typeName, p.type.isRequired)

theorem hangar_properties_extracted : ∃ l s properties run run', Loaded.ofJson Json.hangar = .ok l ∧
    l.schemaAt "#/definitions/Plane" = .ok s ∧
    Returns (l.properties s "Plane") run properties run' ∧
    properties.map Property.summary = [("serial", "string", false), ("state", "planeState", true),
      ("span", "number", false), ("state", "planeState2", true), ("crew", "integer", false)] ∧
    ∃ entries, l.Lists s entries ∧
      l.Extracted s.required "Plane" entries properties run.deeper.registry run'.deeper.registry := by
  let run : Run := { registry := { maxDepth := 8, depth := 3, names := ["Part", "Plane"] } }
  obtain ⟨l, properties, run', hl, h, hview⟩ := Loaded.exists_returned Json.hangar
    (fun l => Walk.outcome (l.schemaAt "#/definitions/Plane") >>= fun s => l.properties s "Plane") run
    (fun _ properties _ => properties.map Property.summary)
    [("serial", "string", false), ("state", "planeState", true), ("span", "number", false),
      ("state", "planeState2", true), ("crew", "integer", false)] (by decide +kernel)
  obtain ⟨s, mid, hlooked, h⟩ := Returns.bind h
  obtain ⟨hs, rfl⟩ := outcome_returns hlooked
  exact ⟨l, s, properties, run, run', hl, hs, h, hview, properties_extracted h⟩

end SwaggerService
