import SwaggerService.Proofs.PathTable

/-! # Names of interfaces

A service has one interface for each first segment of its paths, and the interface is named by the singular
of the segment. Segments are kept apart as they are written, so two of them with one singular, such as a
singular and its plural, make two interfaces with one name. Looking a name up then reaches only the first of
the two. -/

namespace SwaggerService
open Service

/-- Looking up by a name reaches every entry exactly if no two entries share one. -/
theorem find?_reaches_iff {α : Type} {name : α → String} {entries : List α} (hd : entries.Nodup) :
    (∀ entry ∈ entries, entries.find? (fun other => name other == name entry) = some entry) ↔
      (entries.map name).Nodup := by
  constructor
  · intro hreached
    refine hd.map_on fun entry hentry other hother hname => ?_
    have hfound := hreached entry hentry
    rw [hname, hreached other hother] at hfound
    exact (Option.some.inj hfound).symm
  · intro hnames entry hentry
    cases hfound : entries.find? fun other => name other == name entry with
    | none => exact absurd (beq_self_eq_true _) (List.find?_eq_none.mp hfound entry hentry)
    | some other =>
      have hkept := List.find?_some hfound
      have hname : name other = name entry := beq_iff_eq.mp hkept
      rw [List.inj_on_of_nodup_map hnames (List.mem_of_find?_eq_some hfound) hentry hname]

namespace Loaded

variable {l : Loaded} {maxDepth : Nat} {service : Service}

/-- The interfaces of a service, segment by segment. -/
theorem describe_table (h : l.describe maxDepth = .ok service) :
    service.interfaces.map Interface.table = (segments l.document.paths).map fun segment =>
      (Naming.singularize segment, (pathsUnder segment l.document.paths).map fun p => (p.1, p.2.methods)) := by
  rw [InterfaceBuilt.table (interfaces_built h), groupPaths_eq, List.map_map]
  rfl

theorem describe_names (h : l.describe maxDepth = .ok service) :
    service.interfaces.map Interface.name = (segments l.document.paths).map Naming.singularize := by
  have htable := congrArg (List.map Prod.fst) (describe_table h)
  rw [List.map_map, List.map_map] at htable
  exact htable

/-- Interfaces differ in their paths, even where they share a name. -/
theorem describe_interfaces_nodup (h : l.describe maxDepth = .ok service) : service.interfaces.Nodup := by
  refine List.Nodup.of_map Interface.table ?_
  rw [describe_table h]
  refine (segments_nodup _).map_on fun segment hsegment other _ htable => ?_
  obtain ⟨p, hp, hfirst⟩ := mem_segments.mp hsegment
  have hpaths := congrArg (fun row => row.2.map Prod.fst) htable
  simp only [List.map_map] at hpaths
  have hmem : p.1 ∈ (pathsUnder segment l.document.paths).map Prod.fst :=
    List.mem_map_of_mem (List.mem_filter.mpr ⟨hp, beq_iff_eq.mpr hfirst⟩)
  have hother : p.1 ∈ (pathsUnder other l.document.paths).map Prod.fst := hpaths ▸ hmem
  obtain ⟨q, hq, heq⟩ := List.mem_map.mp hother
  rw [← hfirst, ← heq]
  exact beq_iff_eq.mp (List.mem_filter.mp hq).2

end Loaded

/-- There is one interface for each first segment, and two interfaces share a name exactly if their segments
have one singular. Every interface is reached by its name exactly if no two share theirs. -/
theorem names_of_segments {l : Loaded} {maxDepth : Nat} {service : Service}
    (h : l.describe maxDepth = .ok service) :
    service.interfaces.map Interface.name = (segments l.document.paths).map Naming.singularize ∧
    (segments l.document.paths).Nodup ∧
    ((service.interfaces.map Interface.name).Nodup ↔
      ∀ segment ∈ segments l.document.paths, ∀ other ∈ segments l.document.paths,
        Naming.singularize segment = Naming.singularize other → segment = other) ∧
    ((∀ i ∈ service.interfaces, service.findInterface? i.name = some i) ↔
      (service.interfaces.map Interface.name).Nodup) := by
  have hnames := Loaded.describe_names h
  have hsegments := segments_nodup l.document.paths
  refine ⟨hnames, hsegments, ?_, find?_reaches_iff (Loaded.describe_interfaces_nodup h)⟩
  rw [hnames]
  constructor
  · intro hd segment hsegment other hother
    exact List.inj_on_of_nodup_map hd hsegment hother
  · exact hsegments.map_on

/-- The garage has cars and vans, so each of its interfaces is reached by its name. -/
theorem garage_names_of_segments : ∃ l service, Loaded.ofJson Json.garage = .ok l ∧
    l.describe defaultMaxDepth = .ok service ∧
    service.interfaces.map Interface.name = ["car", "van"] ∧
    ∀ i ∈ service.interfaces, service.findInterface? i.name = some i := by
  obtain ⟨l, service, hl, h, hview⟩ := Loaded.exists_described Json.garage defaultMaxDepth
    (fun _ service => service.interfaces.map Interface.name) ["car", "van"] (by decide +kernel)
  obtain ⟨_, _, _, hreached⟩ := names_of_segments h
  refine ⟨l, service, hl, h, hview, hreached.mpr ?_⟩
  rw [hview]
  decide

/-- A document with a singular and its plural as first segments. -/
def Json.twins : Json :=
  .object [
    ("info", .object [("title", .string "twins"), ("version", .string "1.0.0")]),
    ("paths", .object [
      ("/widgets", .object [("get", .object [("operationId", .string "listWidgets")])]),
      ("/widget/{id}", .object [("get", .object [("operationId", .string "getWidget")])])])]

theorem twins_share_name : ∃ l service, Loaded.ofJson Json.twins = .ok l ∧
    l.describe defaultMaxDepth = .ok service ∧
    service.interfaces.map Interface.name = ["widget", "widget"] ∧
    ¬ (service.interfaces.map Interface.name).Nodup ∧
    ∃ i ∈ service.interfaces, service.findInterface? i.name ≠ some i := by
  obtain ⟨l, service, hl, h, hview⟩ := Loaded.exists_described Json.twins defaultMaxDepth
    (fun _ service => (service.interfaces.map Interface.name,
      service.interfaces.any fun i => service.findInterface? i.name != some i))
    (["widget", "widget"], true) (by decide +kernel)
  obtain ⟨hnames, hmissed⟩ := Prod.mk.inj hview
  obtain ⟨i, hi, hne⟩ := List.any_eq_true.mp hmissed
  refine ⟨l, service, hl, h, hnames, ?_, i, hi, bne_iff_ne.mp hne⟩
  rw [hnames]
  decide

end SwaggerService
