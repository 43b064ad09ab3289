import SwaggerService.Proofs.Loading
import SwaggerService.Proofs.Required

/-! # Rules of classified schemas

However a schema is classified, its descriptor carries the rules that the schema states itself and, when it
is an array with items, those that the schema of the items states itself. Items are classified too, with
rules of their own, but an array takes only the type of what that gives; so arrays inside arrays neither
repeat rules nor lose any. -/

namespace SwaggerService
open Service Walk

namespace Loaded

/-- The rules of a schema: its own ones, followed by those of its items one level deep. -/
inductive StatedRules (l : Loaded) (s : Schema) : List Rule → Prop
  | own : (s.kind = .array → s.items = none) → StatedRules l s s.localRules
  | items {items : RefOr Schema} {item : Schema} : s.kind = .array → s.items = some items →
      l.schema items = .ok item → StatedRules l s (s.localRules ++ item.localRules)

/-- A descriptor carries the rules of a schema, and `required` is none of them. -/
structure CarriesRules (l : Loaded) (s : Schema) (d : Descriptor) : Prop where
  ruleSet : l.ruleSet s = .ok d.rules
  stated : l.StatedRules s d.rules
  required : Rule.required ∉ d.rules

variable {l : Loaded}

theorem ruleSet_stated {s : Schema} {rules : List Rule} (h : l.ruleSet s = .ok rules) :
    l.StatedRules s rules := by
  unfold ruleSet Schema.arrayItems? at h
  by_cases hk : s.kind = .array
  · rw [if_pos hk] at h
    cases hi : s.items with
    | none =>
      rw [hi] at h
      cases h
      exact .own fun _ => hi
    | some items =>
      rw [hi] at h
      obtain ⟨item, hitem, h⟩ := bind_ok h
      cases h
      exact .items hk hi hitem
  · rw [if_neg hk] at h
    cases h
    exact .own fun harray => absurd harray hk

theorem carriesRules_of_ruleSet {s : Schema} {d : Descriptor} (h : l.ruleSet s = .ok d.rules) :
    l.CarriesRules s d := ⟨h, ruleSet_stated h, ruleSet_required h⟩

end Loaded

/-- A part and a schema keep their rules, whatever becomes of their types. -/
theorem rules_kept (l : Loaded) (localName parentName : String) (run run' : Run) (d : Descriptor) :
    (∀ node, Returns (l.classify node localName parentName) run d run' →
      ∃ s, l.schema node = .ok s ∧ l.CarriesRules s d) ∧
    ∀ s, Returns (l.classifySchema s localName parentName) run d run' → l.CarriesRules s d := by
  constructor
  · intro node h
    obtain ⟨o, ho, rfl, _⟩ := Loaded.classify_draws h
    obtain ⟨s, hs, hr⟩ := ho.rules
    exact ⟨s, hs, Loaded.carriesRules_of_ruleSet hr⟩
  · intro s h
    obtain ⟨o, ho, rfl, _⟩ := Loaded.classifySchema_draws h
    exact Loaded.carriesRules_of_ruleSet ho.rules

/-- A document whose tables are arrays of rows, and whose rows are arrays of cells. -/
def Json.sheet : Json :=
  let array (bounds : List (String × Json)) (items : Json) : Json :=
    .object ([("type", .string "array"), ("items", items)] ++ bounds)
  .object [
    ("info", .object [("title", .string "sheet"), ("version", .string "1.0.0")]),
    ("definitions", .object [
      ("Table", array [("maxItems", .nat 9)] (.object [("$ref", .string "#/definitions/Row")])),
      ("Row", array [("minItems", .nat 2), ("uniqueItems", .bool true)] (.object
        [("type", .string "string"), ("maxLength", .nat 1), ("enum", .list [.string "x", .string "o"])]))])]

-- The rules of a cell reach a row but not the table, where the row is classified on the way.
theorem sheet_rules_kept : ∃ l table row d d' run run' mid out, Loaded.ofJson Json.sheet = .ok l ∧
    l.schemaAt "#/definitions/Table" = .ok table ∧
    Returns (l.classify (.ref "#/definitions/Table") "grid" "show") run d run' ∧
    d.rules = [.arrayMaxItems 9, .arrayMinItems 2, .arrayUniqueItems] ∧ l.CarriesRules table d ∧
    l.schemaAt "#/definitions/Row" = .ok row ∧
    Returns (l.classifySchema row "line" "show") mid d' out ∧
    d'.rules = [.arrayMinItems 2, .arrayUniqueItems, .stringEnum ["x", "o"], .stringMaxLength 1] ∧
    l.CarriesRules row d' := by
  let run : Run := { registry := { maxDepth := 4 } }
  obtain ⟨l, d, run', hl, h, hrules⟩ := Loaded.exists_returned Json.sheet
    (fun l => l.classify (.ref "#/definitions/Table") "grid" "show") run (fun _ d _ => d.rules)
    [.arrayMaxItems 9, .arrayMinItems 2, .arrayUniqueItems] (by decide +kernel)
  obtain ⟨l', d', out, hl', h', hrules'⟩ := Loaded.exists_returned Json.sheet
    (fun l => Walk.schemaAt l "#/definitions/Row" >>= fun row => l.classifySchema row "line" "show") run
    (fun _ d _ => d.rules)
    [.arrayMinItems 2, .arrayUniqueItems, .stringEnum ["x", "o"], .stringMaxLength 1] (by decide +kernel)
  obtain rfl : l = l' := Except.ok.inj (hl.symm.trans hl')
  obtain ⟨row, mid, hrow, h'⟩ := Returns.bind h'
  obtain ⟨table, htable, hcarries⟩ := (rules_kept l "grid" "show" run run' d).1 _ h
  exact ⟨l, table, row, d, d', run, run', mid, out, hl, htable, h, hrules, hcarries,
    (schemaAt_returns hrow).1, h', hrules', (rules_kept l "line" "show" mid out d').2 _ h'⟩

end SwaggerService
