import SwaggerService.Proofs.Parallel

/-! # The written document stays out

A document whose references all lead into its sections, or out of the document, is described from its
sections alone. Whatever the written document is, a walk over it never looks there: that a reference leads
into a section holds of the references it meets at first, and so of those inside whatever they lead to. -/

namespace SwaggerService
open Service Walk Coupling

/-- The references that sections answer, and those that lead out of the document. Only a schema may be
referred to in any of the sections. -/
def Reach.sections : Reach where
  schema reference := ∀ raw, Pointer.parse? reference ≠ some (.other raw)
  parameter reference := ∀ p, Pointer.parse? reference = some p → ∃ name, p = .parameter name
  response reference := ∀ p, Pointer.parse? reference = some p → ∃ name, p = .response name

/-- Every lookup in a document is answered by its sections, so nothing is looked up in the written one. -/
theorem Document.Confined.lookups {d : Document} (hd : d.Confined .sections) (raw raw' : Json) :
    Loaded.Lookups .sections (· = ·) ⟨d, raw⟩ ⟨d, raw'⟩ where
  fault_refl _ := rfl
  definition reference _ := Loaded.entry_alike (fun _ => rfl) hd.definitions rfl reference
  parameter reference _ := Loaded.entry_alike (fun _ => rfl) hd.parameters rfl reference
  response reference _ := Loaded.entry_alike (fun _ => rfl) hd.responses rfl reference
  written {_ raw} hr hp := absurd hp (hr raw)
  parameterAt {_ p} hr hp hother := by
    obtain ⟨name, hname⟩ := hr p hp
    exact absurd hname (hother name)
  responseAt {_ p} hr hp hother := by
    obtain ⟨name, hname⟩ := hr p hp
    exact absurd hname (hother name)

/-- Walks over the same sections are in the same state all the time. -/
def Document.Confined.coupling {d : Document} (hd : d.Confined .sections) (raw raw' : Json) :
    Coupling ⟨d, raw⟩ ⟨d, raw'⟩ where
  reach := .sections
  exact := True
  registry r r' := r' = r
  fault f f' := f = f'
  lookups := hd.lookups raw raw'
  fault_deep h := by rw [h trivial]
  depth h := by rw [h]; exact ⟨rfl, rfl⟩
  atDepth _ h := by rw [h]
  claim h hc := by rw [h, hc trivial]; exact ⟨fun _ => rfl, rfl⟩
  addEnum h he := by rw [h, he trivial]
  addType h ht := by rw [h, ht trivial]
  entries h _ := by rw [h]; exact ⟨rfl, rfl⟩

/-- Two documents with the same sections have the same answer, whatever they were read from. -/
theorem describe_of_sections {d : Document} (hd : d.Confined .sections) (maxDepth : Nat)
    (raw raw' : Json) :
    Loaded.describe ⟨d, raw⟩ maxDepth = Loaded.describe ⟨d, raw'⟩ maxDepth := by
  have halike : Alike (· = ·) (· = ·) (Loaded.describe ⟨d, raw⟩ maxDepth)
      (Loaded.describe ⟨d, raw'⟩ maxDepth) :=
    (hd.coupling raw raw').describe_alike trivial hd rfl rfl rfl rfl
  exact halike.eq

/-- A document that has a reference into each of its sections, and one schema for all of them. -/
def Document.posts : Document where
  swagger := none
  info := ⟨"posts", "1.0.0", none⟩
  paths := [("/posts", {
    operations := [(.get, {
      operationId := some "list"
      summary := none
      description := none
      parameters := [.ref "#/parameters/after"]
      responses := [("200", .ref "#/responses/post")] })] })]
  definitions := [("Post", {
    type := some .object
    properties := [("parts", .item { type := some .array, items := some (.ref "#/responses/post") })] })]
  parameters := [("after", ⟨"after", .query, none, true, none, none, { type := some .string }⟩)]
  responses := [("post", ⟨none, some (.ref "#/definitions/Post")⟩)]

theorem Document.posts_confined : posts.Confined .sections := by
  have hpost : Reach.sections.schema "#/definitions/Post" := by
    intro raw h
    cases h
  have hresponse : Reach.sections.schema "#/responses/post" := by
    intro raw h
    cases h
  constructor
  case paths =>
    refine List.forall_mem_singleton.mpr ⟨List.forall_mem_nil _, List.forall_mem_singleton.mpr ⟨?_, ?_⟩⟩
    · refine List.forall_mem_singleton.mpr fun p hp => ?_
      cases hp
      exact ⟨"after", rfl⟩
    · refine List.forall_mem_singleton.mpr fun p hp => ?_
      cases hp
      exact ⟨"post", rfl⟩
  case definitions =>
    refine List.forall_mem_singleton.mpr (Schema.refsIn_iff.mpr (List.forall_mem_singleton.mpr ?_))
    exact Schema.refsIn_iff.mpr (List.forall_mem_singleton.mpr hresponse)
  case parameters =>
    exact List.forall_mem_singleton.mpr ⟨nofun, Schema.refsIn_empty.congr rfl⟩
  case responses =>
    refine List.forall_mem_singleton.mpr fun node hnode => ?_
    cases hnode
    exact hpost

theorem posts_describe_of_sections : Document.posts.Confined .sections ∧
    (Loaded.describe ⟨Document.posts, .null⟩ defaultMaxDepth).toOption.map (·.types.length) = some 1 ∧
    Loaded.describe ⟨Document.posts, .null⟩ defaultMaxDepth =
      Loaded.describe ⟨Document.posts, .object [("definitions", .list [])]⟩ defaultMaxDepth :=
  ⟨Document.posts_confined, by decide +kernel,
    describe_of_sections Document.posts_confined defaultMaxDepth _ _⟩

end SwaggerService
