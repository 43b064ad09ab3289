import SwaggerService.Proofs.Blueprint
import SwaggerService.Proofs.Loading
import SwaggerService.Proofs.ReferenceChains

/-! # References to definitions

A reference to a definition is classified by a walk of its own, and so is a schema that is written in
place. Where neither a reference stands for a name nor the schema is given one, the two do the same: they
give the same descriptor or fault, and leave the same registry. Only objects and listed texts are
different, because a reference never makes a new entry of them. -/

namespace SwaggerService
open Service

/-- A schema that is given a name where it is written in place: an object, or a text of listed values. -/
def Schema.TakesName (s : Schema) : Prop :=
  s.kind = .object ∨ s.kind = .string ∧ ∃ values, s.enumValues = some values ∧ values ≠ []

theorem Schema.TakesName.kind_ne_array {s : Schema} (h : s.TakesName) : s.kind ≠ .array := by
  intro harray
  rcases h with hk | ⟨hk, _⟩
  · rw [harray] at hk
    cases hk
  · rw [harray] at hk
    cases hk

theorem Schema.enumStrings_of_not_takesName {s : Schema} (hk : s.kind = .string) (h : ¬ s.TakesName) :
    s.enumStrings.getD [] = [] := by
  cases hv : s.enumValues with
  | none => rw [enumStrings, hv]; rfl
  | some values =>
    obtain rfl : values = [] := by
      by_contra hne
      exact h (.inr ⟨hk, values, hv, hne⟩)
    rw [enumStrings, hv]
    rfl

namespace Walk

variable {α β : Type}

/-- From every state two walks give the same outcome and leave the same registry. What they note may
differ. -/
def Agree (w w' : Walk α) : Prop :=
  ∀ run, (w run).1 = (w' run).1 ∧ (w run).2.registry = (w' run).2.registry

theorem Agree.refl (w : Walk α) : Agree w w := fun _ => ⟨rfl, rfl⟩

theorem Agree.bind (w : Walk α) {f g : α → Walk β} (h : ∀ a, Agree (f a) (g a)) :
    Agree (w >>= f) (w >>= g) := by
  intro run
  rw [bind_eq, bind_eq]
  split
  · exact h _ _
  · exact ⟨rfl, rfl⟩

theorem Agree.level {w w' : Walk α} (place : String) (h : Agree w w') :
    Agree (level place w) (level place w') := by
  intro run
  rw [level_eq, level_eq]
  split
  · exact ⟨rfl, rfl⟩
  · exact ⟨(h run.deeper).1, congrArg Registry.leave (h run.deeper).2⟩

/-- Which event is noted does not matter. -/
theorem Agree.note (e e' : Event) (a : α) :
    Agree (do Walk.note e; return a) (do Walk.note e'; return a) := fun _ => ⟨rfl, rfl⟩

/-- A reference to a definition leads there at once, and nothing is noted on the way. -/
theorem schemaAt_definition {l : Loaded} {target name : String} {s : Schema}
    (hp : Pointer.parse? target = some (.definition name))
    (hs : Entries.get? name l.document.definitions = some s) :
    schemaAt l target = outcome (.ok s) := by
  have hland : l.land target = .ok (.schema s) := by
    rw [Loaded.land_eq_definition hp, Loaded.entry_of_get? hs]
    rfl
  have hchase : l.chase Loaded.maxHops target = .ok (.schema s) := by
    rw [Loaded.maxHops, Loaded.chase, hland]
    rfl
  have hquiet : noteShapeless l target = pure () := by
    rw [noteShapeless, Loaded.shapeless?, hchase]
  rw [schemaAt, hquiet, Loaded.schemaAt, hchase]
  rfl

end Walk

namespace Walker

open Walk

variable {l : Loaded} {below : Unit → Walker} {target name : String} {s : Schema}

/-- Past its look-up, the walk of a reference to a definition goes by the kind of the definition. -/
theorem reference_definition (hp : Pointer.parse? target = some (.definition name))
    (hs : Entries.get? name l.document.definitions = some s) (localName parentName : String) :
    reference l below target localName parentName = do
      let rules ← ruleSet l s
      match s.kind with
      | .object => return .local name rules
      | .array => array below s localName parentName rules
      | .file | .unrecognized =>
        note (.untypedDefinition name)
        return .unknown rules
      | kind => return .plain kind.name rules := by
  have hpointer : Loaded.pointer target = .ok (.definition name) := by rw [Loaded.pointer, hp]
  rw [reference, hpointer, schemaAt_definition hp hs]
  rfl

theorem reference_agree (hp : Pointer.parse? target = some (.definition name))
    (hs : Entries.get? name l.document.definitions = some s) (hn : ¬ s.TakesName)
    (localName parentName : String) :
    Agree (reference l below target localName parentName) (inline l below s localName parentName) := by
  rw [reference_definition hp hs, inline]
  refine .bind _ fun rules => ?_
  cases hk : s.kind with
  | object => exact absurd (.inl hk) hn
  | array => exact .refl _
  | file | unrecognized => exact .note _ _ _
  | number | integer | boolean | null => exact .refl _
  | string =>
    dsimp only
    have hnone := s.enumStrings_of_not_takesName hk hn
    split
    · next value values hv => simp [hv] at hnone
    · exact .refl _

end Walker

/-- A reference to a definition and its schema written in place are classified alike, unless the schema is
one that takes a name. -/
theorem classify_definition {l : Loaded} {target name : String} {s : Schema}
    (hp : Loaded.pointer target = .ok (.definition name))
    (hs : Entries.get? name l.document.definitions = some s) (hn : ¬ s.TakesName)
    (localName parentName : String) :
    Walk.Agree (l.classify (.ref target) localName parentName)
      (l.classifySchema s localName parentName) := by
  intro run
  unfold Loaded.classify Loaded.classifySchema Loaded.walk
  cases run.registry.room with
  | zero => exact ⟨rfl, rfl⟩
  | succ room =>
    have hbody : Walk.Agree
        (Walker.reference l (fun _ => Walker.withRoom l room) target localName parentName)
        (Walker.inline l (fun _ => Walker.withRoom l room) s localName parentName) :=
      Walker.reference_agree (Loaded.parse_of_pointer hp) hs hn localName parentName
    exact hbody.level (place parentName localName) run

/-- A document whose crates are an array of objects with a listed text. -/
def Json.freight : Json :=
  .object [
    ("info", .object [("title", .string "freight"), ("version", .string "1.0.0")]),
    ("definitions", .object [
      ("Crates/all", .object [("type", .string "array"), ("maxItems", .nat 40), ("items", .object [
        ("type", .string "object"), ("properties", .object [
          ("labels", .object [("type", .string "string"), ("enum", .list [.string "glass"])])])])])])]

/-- The name of a descriptor, with the names of the entries that a state has. -/
def Run.namesWith (run : Run) (d : Descriptor) : String × List String × List String :=
  (d.typeName, run.registry.types.map TypeDef.name, run.registry.enums.map EnumDef.name)

-- An array takes no name, but what is inside it does, and it is named alike on both ways.
theorem freight_classify_definition : ∃ l s d run run', Loaded.ofJson Json.freight = .ok l ∧
    Loaded.pointer "#/definitions/Crates~1all" = .ok (.definition "Crates/all") ∧
    Entries.get? "Crates/all" l.document.definitions = some s ∧ ¬ s.TakesName ∧
    Walk.Returns (l.classify (.ref "#/definitions/Crates~1all") "load" "ship") run d run' ∧
    run'.namesWith d = ("shipLoad", ["shipLoad"], ["shipLoadLabel"]) ∧
    Walk.Agree (l.classify (.ref "#/definitions/Crates~1all") "load" "ship")
      (l.classifySchema s "load" "ship") := by
  let run : Run := { registry := { maxDepth := 4 } }
  obtain ⟨l, d, run', hl, h, hview⟩ := Loaded.exists_returned Json.freight
    (fun l => l.classify (.ref "#/definitions/Crates~1all") "load" "ship") run
    (fun l d run => (run.namesWith d, (Entries.get? "Crates/all" l.document.definitions).map Schema.kind))
    (("shipLoad", ["shipLoad"], ["shipLoadLabel"]), some .array) (by decide +kernel)
  obtain ⟨hnames, hkind⟩ := Prod.mk.inj hview
  obtain ⟨s, hs, hk⟩ := Option.map_eq_some_iff.mp hkind
  have hparse : Pointer.parse? "#/definitions/Crates~1all" = some (.definition "Crates/all") := by
    decide +kernel
  have hp : Loaded.pointer "#/definitions/Crates~1all" = .ok (.definition "Crates/all") := by
    rw [Loaded.pointer, hparse]
  have hn : ¬ s.TakesName := fun hn => hn.kind_ne_array hk
  exact ⟨l, s, d, run, run', hl, hp, hs, hn, h, hnames, classify_definition hp hs hn "load" "ship"⟩

/-! ## Schemas that take a name -/

namespace Loaded

variable {l : Loaded} {s : Schema}

theorem SchemaOutline.exists_name {o : Outline} (h : l.SchemaOutline s o) (hn : s.TakesName) :
    ∃ name, name ∈ o.claims := by
  cases h with
  | enum => exact ⟨_, List.mem_singleton_self _⟩
  | object => exact ⟨_, List.mem_cons_self⟩
  | array _ hk => exact absurd hk hn.kind_ne_array
  | bare _ ho _ hnone =>
    rcases hn with hobject | ⟨hstring, values, hv, hne⟩
    · exact absurd hobject ho
    · have hempty := hnone hstring
      rw [Schema.enumStrings, hv] at hempty
      exact absurd (List.map_eq_nil_iff.mp hempty) hne

theorem DefinitionOutline.claims_eq_nil {name : String} {rules : List Rule} {o : Outline}
    (h : l.DefinitionOutline name s rules o) (hn : s.TakesName) : o.claims = [] ∧ o.nodes = [] := by
  cases h with
  | object | bare => exact ⟨rfl, rfl⟩
  | array hk => exact absurd hk hn.kind_ne_array

end Loaded

/-- Where the schema of a definition takes a name, only the schema in place takes it: the reference leaves
the registry as it was. -/
theorem classify_named_definition {l : Loaded} {target name : String} {s : Schema}
    (hp : Loaded.pointer target = .ok (.definition name))
    (hs : Entries.get? name l.document.definitions = some s) (hn : s.TakesName)
    {localName parentName : String} {run out out' : Run} {d d' : Descriptor}
    (h : Walk.Returns (l.classify (.ref target) localName parentName) run d out)
    (h' : Walk.Returns (l.classifySchema s localName parentName) run d' out') :
    out.registry = run.registry ∧ out'.registry ≠ run.registry := by
  have hparse := Loaded.parse_of_pointer hp
  constructor
  · obtain ⟨o, ho, _, hd⟩ := Loaded.classify_draws h
    cases ho with
    | other hp' hno =>
      exact hd.registry.trans (Registry.absorb_nil _)
    | definition hp' hs' _ ho =>
      rw [hparse] at hp'
      cases hp'
      rw [Loaded.schemaAt_definition hparse, Loaded.entry_of_get? hs] at hs'
      cases hs'
      obtain ⟨hclaims, hnodes⟩ := ho.claims_eq_nil hn
      rw [hd.registry, hclaims, hnodes, Registry.absorb_nil]
  · obtain ⟨o, ho, _, hd⟩ := Loaded.classifySchema_draws h'
    obtain ⟨taken, htaken⟩ := ho.exists_name hn
    intro heq
    have hnew : taken ∈ out'.registry.names := by
      rw [hd.registry]
      exact Registry.mem_take.mpr (.inr htaken)
    rw [heq] at hnew
    exact (Outline.Named.fresh o hd.named).2 taken htaken hnew

end SwaggerService
