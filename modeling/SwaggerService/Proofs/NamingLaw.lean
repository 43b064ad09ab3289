import SwaggerService.Proofs.Provenance
import SwaggerService.Proofs.SuccessChoice

/-! # The law of names

The name of a synthesized entry is made of the name of what it belongs to and its own local name; arrays
around it change nothing. What an object belongs to lends the name that it was given, not its candidate. If
the candidate was in use, the name ends in the least number from 2 on that was left. Every name that is in
use at some time is that of an entry in the end, so the entries of the service account for all the numbers
that were passed over. -/

namespace SwaggerService
open Service

/-! ## Names in use -/

namespace Outline

/-- The name that an outline has was free for its candidate when some of the given names were in use. -/
def NamedAmong (names : List String) (o : Outline) (localName parentName : String) : Prop :=
  ∃ taken, (∀ name ∈ taken, name ∈ names) ∧ o.Named taken localName parentName

/-- Arrays pass on where they stand. -/
theorem Named.element : ∀ (o : Outline) {taken : List String} {localName parentName : String},
    o.Named taken localName parentName → o.element.Named taken localName parentName
  | .leaf _, _, _, _, h | .enum .., _, _, _, h | .object .., _, _, _, h => h
  | .array _ items, _, _, _, h => Named.element items h

theorem NamedAmong.enum {names : List String} {o : Outline} {localName parentName name : String}
    {s : Schema} {values : List String} {rules : List Rule} (h : o.NamedAmong names localName parentName)
    (he : o.element = .enum name s values rules) : ∃ taken, (∀ name ∈ taken, name ∈ names) ∧
      name = Registry.freeName taken (enumCandidate parentName localName) := by
  obtain ⟨taken, hsub, hnamed⟩ := h
  have helement := Named.element o hnamed
  rw [he] at helement
  exact ⟨taken, hsub, helement⟩

theorem NamedAmong.object {names : List String} {o : Outline} {localName parentName name : String}
    {s : Schema} {rules : List Rule} {fields : List Slot} (h : o.NamedAmong names localName parentName)
    (he : o.element = .object name s rules fields) : ∃ taken, (∀ name ∈ taken, name ∈ names) ∧
      name = Registry.freeName taken (typeCandidate parentName localName) := by
  obtain ⟨taken, hsub, hnamed⟩ := h
  have helement := Named.element o hnamed
  rw [he] at helement
  exact ⟨taken, hsub, helement.1⟩

theorem NamedIn.among {names : List String} {parentName : String} {slots : List Slot}
    {taken : List String} (h : NamedIn slots taken parentName) (htaken : ∀ name ∈ taken, name ∈ names)
    (hclaims : ∀ name ∈ claimsIn slots, name ∈ names) :
    ∀ slot ∈ slots, slot.2.NamedAmong names slot.1.name parentName := by
  induction slots generalizing taken with
  | nil => exact List.forall_mem_nil _
  | cons slot rest ih =>
    obtain ⟨hfirst, hrest⟩ := List.forall_mem_append.mp hclaims
    have htaken' := Registry.forall_mem_take htaken hfirst
    exact List.forall_mem_cons.mpr ⟨⟨taken, htaken, h.1⟩, ih h.2 htaken' hrest⟩

/-- The fields of an object are named after the name that it was given. -/
def FieldsNamed (names : List String) (node : Outline) : Prop :=
  ∀ name s rules fields, node = .object name s rules fields →
    ∀ slot ∈ fields, slot.2.NamedAmong names slot.1.name name

mutual

theorem Named.fields {names : List String} : ∀ (o : Outline) {taken : List String}
    {localName parentName : String}, o.Named taken localName parentName →
    (∀ name ∈ taken, name ∈ names) → (∀ name ∈ o.claims, name ∈ names) →
    ∀ node ∈ o.nodes, node.FieldsNamed names
  | .leaf _, _, _, _, _, _, _ => List.forall_mem_nil _
  | .enum .., _, _, _, _, _, _ => List.forall_mem_singleton.mpr nofun
  | .array _ items, _, _, _, h, htaken, hclaims => Named.fields items h htaken hclaims
  | .object name s rules slots, taken, _, _, h, htaken, hclaims => by
    obtain ⟨hname, hinside⟩ := List.forall_mem_cons.mp hclaims
    have htaken' : ∀ other ∈ taken.insert name, other ∈ names := by
      intro other hother
      rcases List.mem_insert_iff.mp hother with rfl | hother
      · exact hname
      · exact htaken other hother
    refine List.forall_mem_append.mpr ⟨NamedIn.fields slots h.2 htaken' hinside, ?_⟩
    refine List.forall_mem_singleton.mpr ?_
    rintro _ _ _ _ ⟨⟩
    exact NamedIn.among h.2 htaken' hinside

theorem NamedIn.fields {names : List String} : ∀ (slots : List (Label × Outline)) {taken : List String}
    {parentName : String}, NamedIn slots taken parentName → (∀ name ∈ taken, name ∈ names) →
    (∀ name ∈ claimsIn slots, name ∈ names) → ∀ node ∈ nodesIn slots, node.FieldsNamed names
  | [], _, _, _, _, _ => List.forall_mem_nil _
  | (_, o) :: rest, taken, _, h, htaken, hclaims => by
    obtain ⟨hfirst, hrest⟩ := List.forall_mem_append.mp hclaims
    have htaken' := Registry.forall_mem_take htaken hfirst
    exact List.forall_mem_append.mpr
      ⟨Named.fields o h.1 htaken hfirst, NamedIn.fields rest h.2 htaken' hrest⟩

end

/-- What holds of each branch where its names are taken holds of all of them. -/
theorem NamedAll.branch {names : List String} {branches : List (String × List Slot)} {taken : List String}
    (h : NamedAll branches taken) (htaken : ∀ name ∈ taken, name ∈ names)
    (hclaims : ∀ name ∈ claimsIn (branches.flatMap (·.2)), name ∈ names) :
    ∀ branch ∈ branches, ∃ taken, (∀ name ∈ taken, name ∈ names) ∧ NamedIn branch.2 taken branch.1 ∧
      ∀ name ∈ claimsIn branch.2, name ∈ names := by
  induction branches generalizing taken with
  | nil => exact List.forall_mem_nil _
  | cons branch rest ih =>
    rw [List.flatMap_cons, claimsIn_append] at hclaims
    obtain ⟨hfirst, hrest⟩ := List.forall_mem_append.mp hclaims
    have htaken' := Registry.forall_mem_take htaken hfirst
    exact List.forall_mem_cons.mpr ⟨⟨taken, htaken, h.1, hfirst⟩, ih h.2 htaken' hrest⟩

end Outline

/-! ## The law -/

/-- The names of the entries of a service. -/
def Service.entryNames (service : Service) : List String :=
  service.types.map TypeDef.name ++ service.enums.map EnumDef.name

/-- Another entry than that of a name has a name. -/
def Service.Occupied (service : Service) (name other : String) : Prop :=
  other ∈ service.entryNames ∧ other ≠ name

/-- A name is its candidate, or the candidate and a number from 2 on, where other entries have the candidate
and every number before. -/
def Service.NameFor (service : Service) (candidate name : String) : Prop :=
  name = candidate ∨ service.Occupied name candidate ∧ ∃ n, 2 ≤ n ∧ name = candidate ++ toString n ∧
    ∀ k, 2 ≤ k → k < n → service.Occupied name (candidate ++ toString k)

theorem Service.nameFor_freeName {service : Service} {taken : List String}
    (h : ∀ name ∈ taken, name ∈ service.entryNames) (candidate : String) :
    service.NameFor candidate (Registry.freeName taken candidate) := by
  have hfree := Registry.freeName_not_mem taken candidate
  have hoccupied : ∀ other ∈ taken, service.Occupied (Registry.freeName taken candidate) other :=
    fun other hother => ⟨h other hother, fun heq => hfree (heq ▸ hother)⟩
  rcases Registry.freeName_least taken candidate with hname | ⟨hused, n, hn, hname, hpassed⟩
  · exact .inl hname
  · exact .inr ⟨hoccupied _ hused, n, hn, hname, fun k hk hlt => hoccupied _ (hpassed k hk hlt)⟩

/-- The synthesized entry that a descriptor names, if it names one, has its name from a local name and the
name of a parent: both in camel case, the local name of an enumeration as a singular. -/
structure Loaded.NamedAfter (l : Loaded) (service : Service) (d : Descriptor)
    (localName parentName : String) : Prop where
  type : ∀ t ∈ l.synthesized service, d.names t.name = true →
    service.NameFor (Naming.camelCase (parentName ++ "_" ++ localName)) t.name
  enum : ∀ e ∈ service.enums, d.names e.name = true →
    service.NameFor (Naming.camelCase (parentName ++ "_" ++ Naming.singularize localName)) e.name

/-- A response is a reference to the shared response with a name. -/
def RefOr.ToResponse (node : RefOr Response) (name : String) : Prop :=
  ∃ target, node = .ref target ∧ Pointer.parse? target = some (.response name)

/-- What the names of a service are made of: the type and the property, the identifier of the operation and
the parameter, and `response` with the shared response that the one that was chosen refers to, or else with
the identifier of the operation. An operation without an identifier has the empty one. -/
structure Loaded.NamingLaw (l : Loaded) (service : Service) : Prop where
  property : ∀ t ∈ service.types, ∀ p ∈ t.properties, l.NamedAfter service p.type p.name t.name
  parameter : ∀ o shared method,
    ((o, shared), method) ∈ l.document.operations.zip (service.interfaces.flatMap (·.methods)) →
    ∀ p ∈ method.parameters, l.NamedAfter service p.type p.name (o.operationId.getD "")
  result : ∀ o shared method,
    ((o, shared), method) ∈ l.document.operations.zip (service.interfaces.flatMap (·.methods)) →
    ∀ d, method.returnType = some d →
      ∃ key node, (∀ choice, SuccessKey.Chosen o.responses choice ↔ choice = some (key, node)) ∧
        (∀ name, node.ToResponse name → l.NamedAfter service d "response" name) ∧
        ((∀ name, ¬ node.ToResponse name) → l.NamedAfter service d "response" (o.operationId.getD ""))

theorem Loaded.sharedResponse?_eq_some {node : RefOr Response} {name : String} :
    sharedResponse? node = some name ↔ node.ToResponse name := by
  cases node with
  | item => exact ⟨nofun, fun ⟨_, heq, _⟩ => nomatch heq⟩
  | ref target =>
    constructor
    · intro h
      unfold sharedResponse? at h
      split at h
      · next hpointer =>
        cases h
        exact ⟨target, rfl, hpointer⟩
      · cases h
    · rintro ⟨_, ⟨⟩, hpointer⟩
      simp only [sharedResponse?, RefOr.target?, Option.bind_some, hpointer]

theorem Loaded.sharedResponse?_eq_none {node : RefOr Response} (h : ∀ name, ¬ node.ToResponse name) :
    sharedResponse? node = none :=
  Option.eq_none_iff_forall_ne_some.mpr fun name heq => h name (sharedResponse?_eq_some.mp heq)

namespace Blueprint

variable {b : Blueprint} {l : Loaded} {service : Service}

/-- The slot whose descriptor names a synthesized type has the type as its element. -/
theorem Draws.slot_of_type (h : b.Draws l service) {t : TypeDef} (ht : t ∈ l.synthesized service)
    {slot : Slot} (hs : slot ∈ b.slots) (hn : (Slot.type slot).names t.name = true) :
    ∃ s rules fields, slot.2.element = .object t.name s rules fields := by
  rw [h.synthesized_eq] at ht
  obtain ⟨node, hnode, htype⟩ := List.mem_filterMap.mp ht
  cases node with
  | leaf | enum | array => cases htype
  | object name s rules fields =>
    cases htype
    have hname := (h.names_iff hs (name_mem_claims hnode rfl)).mp hn
    exact ⟨s, rules, fields, Outline.eq_of_name h.nodes_nodup (element_mem_nodes hs hname) hnode hname rfl⟩

theorem Draws.namedAfter (h : b.Draws l service) {slot : Slot} (hs : slot ∈ b.slots)
    {localName parentName : String}
    (hn : slot.2.NamedAmong service.entryNames localName parentName) :
    l.NamedAfter service (Slot.type slot) localName parentName := by
  constructor
  case type =>
    intro t ht hname
    obtain ⟨s, rules, fields, helement⟩ := h.slot_of_type ht hs hname
    obtain ⟨taken, hsub, hfree⟩ := hn.object helement
    rw [hfree]
    exact Service.nameFor_freeName hsub _
  case enum =>
    intro e he hname
    obtain ⟨s, rules, helement, _⟩ := h.slot_of_enum he hs hname
    obtain ⟨taken, hsub, hfree⟩ := hn.enum helement
    rw [hfree]
    exact Service.nameFor_freeName hsub _

/-- Names that are in use before the walk, or that the walk takes, are those of entries. -/
theorem Draws.entries_of_claims (h : b.Draws l service) :
    (∀ name ∈ Registry.take [] l.document.objectNames, name ∈ service.entryNames) ∧
      ∀ name ∈ Outline.claimsIn b.outer, name ∈ service.entryNames := by
  constructor
  · intro name hname
    have hobject := (Registry.mem_take.mp hname).resolve_left (List.not_mem_nil)
    exact h.names_perm.mem_iff.mpr (List.mem_append_left _ hobject)
  · intro name hname
    exact h.names_perm.mem_iff.mpr (List.mem_append_right _ hname)

theorem Draws.branch_named (h : b.Draws l service) {branch : String × List Slot}
    (hb : branch ∈ b.branches) :
    ∀ slot ∈ branch.2, slot.2.NamedAmong service.entryNames slot.1.name branch.1 := by
  obtain ⟨hbefore, hclaims⟩ := h.entries_of_claims
  obtain ⟨taken, htaken, hnamed, hinside⟩ := h.named.branch hbefore hclaims branch hb
  exact hnamed.among htaken hinside

theorem Draws.fields_named (h : b.Draws l service) {node : Outline} (hn : node ∈ b.nodes) :
    node.FieldsNamed service.entryNames := by
  obtain ⟨hbefore, hclaims⟩ := h.entries_of_claims
  obtain ⟨slot, hslot, hnode⟩ := Outline.mem_nodesIn.mp hn
  obtain ⟨branch, hbranch, hslot⟩ := List.mem_flatMap.mp hslot
  obtain ⟨taken, htaken, hnamed, hinside⟩ := h.named.branch hbefore hclaims branch hbranch
  exact hnamed.fields branch.2 htaken hinside node (Outline.mem_nodesIn.mpr ⟨slot, hslot, hnode⟩)

theorem Draws.root_named (h : b.Draws l service) {m : MethodOutline} {r : Root × Outline}
    (hm : m ∈ b.methods) (hr : r ∈ m.roots) :
    l.NamedAfter service (Root.slot r).type r.1.label.name r.1.parentName := by
  have hbranch : (r.1.parentName, [Root.slot r]) ∈ b.branches :=
    List.mem_append_left _ (List.mem_flatMap.mpr ⟨m, hm, List.mem_map.mpr ⟨r, hr, rfl⟩⟩)
  exact h.namedAfter (slot_of_root hm hr) (h.branch_named hbranch _ (List.mem_singleton_self _))

theorem Draws.property_named (h : b.Draws l service) {t : TypeDef} (ht : t ∈ service.types) {p : Property}
    (hp : p ∈ t.properties) : l.NamedAfter service p.type p.name t.name := by
  rw [h.service_types] at ht
  rcases List.mem_append.mp ht with ht | ht
  · obtain ⟨d, hd, rfl⟩ := List.mem_map.mp ht
    obtain ⟨slot, hslot, rfl⟩ := List.mem_map.mp hp
    have hbranch : (d.name, d.fields) ∈ b.branches :=
      List.mem_append_right _ (List.mem_map.mpr ⟨d, hd, rfl⟩)
    exact h.namedAfter (slot_of_definition hd hslot) (h.branch_named hbranch slot hslot)
  · obtain ⟨node, hnode, ht⟩ := List.mem_filterMap.mp ht
    cases node with
    | leaf | enum | array => cases ht
    | object name s rules fields =>
      cases ht
      obtain ⟨slot, hslot, rfl⟩ := List.mem_map.mp hp
      exact h.namedAfter (slot_of_node hnode hslot) (h.fields_named hnode _ _ _ _ rfl slot hslot)

end Blueprint

/-- The names of a service follow the law. -/
theorem naming_law {l : Loaded} {maxDepth : Nat} {service : Service}
    (h : l.describe maxDepth = .ok service) : l.NamingLaw service := by
  obtain ⟨b, hb⟩ := l.exists_blueprint h
  constructor
  case property => exact fun t ht p hp => hb.property_named ht hp
  case parameter =>
    intro o shared method hmethod p hp
    rw [hb.zip_methods] at hmethod
    obtain ⟨m, hm, heq⟩ := List.mem_map.mp hmethod
    cases heq
    obtain ⟨r, hr, rfl⟩ := List.mem_map.mp hp
    have haligned := (hb.methods m hm).parameters_aligned
    obtain ⟨node, hz⟩ := exists_mem_zip haligned.length_eq hr
    obtain ⟨p, _, hroot⟩ := List.forall₂_zip haligned hz
    have hparent : r.1.parentName = m.operation.operationId.getD "" := by rw [hroot]; rfl
    rw [← hparent]
    exact hb.root_named hm (List.mem_append_left _ hr)
  case result =>
    intro o shared method hmethod d hd
    rw [hb.zip_methods] at hmethod
    obtain ⟨m, hm, heq⟩ := List.mem_map.mp hmethod
    cases heq
    obtain ⟨r, hr, rfl⟩ := Option.map_eq_some_iff.mp hd
    obtain ⟨key, node, _, _, hselect, _, _, hroot⟩ := (hb.methods m hm).result_root hr
    have hnamed := hb.root_named hm (List.mem_append_right _ (Option.mem_toList.mpr hr))
    rw [hroot] at hnamed
    refine ⟨key, node, fun choice => by rw [← hselect, SuccessKey.chosen_iff], fun name hname => ?_,
      fun hno => ?_⟩
    · rwa [Loaded.sharedResponse?_eq_some.mpr hname] at hnamed
    · rwa [Loaded.sharedResponse?_eq_none hno] at hnamed

/-- A document whose operations share a response. Its type is in two levels of arrays, and would be called
like a definition. One operation refers to a response that is not a shared one, and one has no identifier. -/
def Json.sales : Json :=
  let ref (target : String) : Json := .object [("$ref", .string target)]
  let array (items : Json) : Json := .object [("type", .string "array"), ("items", items)]
  let object (properties : List (String × Json)) : Json :=
    .object [("type", .string "object"), ("properties", .object properties)]
  let operation (id : List (String × Json)) (responses : List (String × Json)) : Json :=
    .object (id ++ [("responses", .object responses)])
  let slip : Json := .object [("description", .string "Slip"), ("schema", object [])]
  .object [
    ("info", .object [("title", .string "sales"), ("version", .string "1.0.0")]),
    ("paths", .object [("/sales", .object [
      ("get", operation [("operationId", .string "list")] [("default", ref "#/responses/Sales~1all")]),
      ("post", operation [("operationId", .string "sell")]
        [("default", ref "#/x-slip"), ("201", ref "#/responses/Sales~1all")]),
      ("put", operation [("operationId", .string "refund")] [("200", ref "#/x-slip")]),
      ("delete", operation [] [("200", slip)])])]),
    ("definitions", .object [("salesAllResponse", object [])]),
    ("responses", .object [("Sales/all", .object [("description", .string "Sales"),
      ("schema", array (array (object [
        ("states", array (.object [("type", .string "string"), ("enum", .list [.string "paid"])]))])))])]),
    ("x-slip", slip)]

/-- The body of `order` had to give way to a definition, and what is inside it is named after the name that
it got. The enumeration in the array of arrays has the singular of its property. The result of `list` and
`sell` is named after the shared response, with the next two numbers that are left, that of `refund` after
the operation, and that of the operation without an identifier after nothing. -/
theorem orders_sales_naming_law :
    (∃ l service, Loaded.ofJson Json.orders = .ok l ∧ l.describe defaultMaxDepth = .ok service ∧
      (l.synthesized service).map TypeDef.name = ["orderBody2First", "orderBody2"] ∧
      service.enums.map EnumDef.name = ["orderBody2State", "orderResponse", "orderBodyLevel"] ∧
      l.NamingLaw service) ∧
    ∃ l service, Loaded.ofJson Json.sales = .ok l ∧ l.describe defaultMaxDepth = .ok service ∧
      (RefOr.ref "#/responses/Sales~1all").ToResponse "Sales/all" ∧
      (∀ name, ¬ (RefOr.ref "#/x-slip").ToResponse name) ∧
      (service.interfaces.flatMap (·.methods)).map (fun m => (m.name, m.returnType.map Descriptor.typeName)) =
        [("list", some "salesAllResponse2"), ("sell", some "salesAllResponse3"),
          ("refund", some "refundResponse"), ("UNNAMED", some "response")] ∧
      (l.synthesized service).map TypeDef.name =
        ["salesAllResponse2", "salesAllResponse3", "refundResponse", "response"] ∧
      service.enums.map EnumDef.name = ["salesAllResponse2State", "salesAllResponse3State"] ∧
      l.NamingLaw service := by
  constructor
  · obtain ⟨l, service, hl, h, hnames⟩ := Loaded.exists_described Json.orders defaultMaxDepth
      (fun l service => ((l.synthesized service).map TypeDef.name, service.enums.map EnumDef.name))
      (["orderBody2First", "orderBody2"], ["orderBody2State", "orderResponse", "orderBodyLevel"])
      (by decide +kernel)
    obtain ⟨htypes, henums⟩ := Prod.mk.inj hnames
    exact ⟨l, service, hl, h, htypes, henums, naming_law h⟩
  · obtain ⟨l, service, hl, h, hview⟩ := Loaded.exists_described Json.sales defaultMaxDepth
      (fun l service =>
        ((service.interfaces.flatMap (·.methods)).map fun m => (m.name, m.returnType.map Descriptor.typeName),
          (l.synthesized service).map TypeDef.name, service.enums.map EnumDef.name))
      ([("list", some "salesAllResponse2"), ("sell", some "salesAllResponse3"),
          ("refund", some "refundResponse"), ("UNNAMED", some "response")],
        ["salesAllResponse2", "salesAllResponse3", "refundResponse", "response"],
        ["salesAllResponse2State", "salesAllResponse3State"])
      (by decide +kernel)
    obtain ⟨hresults, hnames⟩ := Prod.mk.inj hview
    obtain ⟨htypes, henums⟩ := Prod.mk.inj hnames
    have hshared : Pointer.parse? "#/responses/Sales~1all" = some (.response "Sales/all") := by decide +kernel
    have hslip : Pointer.parse? "#/x-slip" = some (.other "#/x-slip") := by decide +kernel
    refine ⟨l, service, hl, h, ⟨_, rfl, hshared⟩, ?_, hresults, htypes, henums, naming_law h⟩
    rintro name ⟨_, ⟨⟩, hname⟩
    rw [hslip] at hname
    cases hname

end SwaggerService
