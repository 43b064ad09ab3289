import SwaggerService.Classification
import SwaggerService.Success

/-! # Interfaces of a document

Paths are grouped by their first segment. Every operation becomes a method of the interface of its path
and, beside it, an entry with the HTTP details of the method. -/

namespace SwaggerService

open Service

/-- The first segment of a path: the text between its first and its second `/`. -/
def firstSegment (path : String) : String :=
  String.ofList (((path.toList.splitOn '/')[1]?).getD [])

/-- The paths of a document by their first segments, in the order in which the segments occur. -/
def groupPaths {α : Type} (paths : List (String × α)) : List (String × List (String × α)) :=
  paths.foldl (fun groups (path, item) =>
    let segment := firstSegment path
    Entries.put segment ((Entries.get? segment groups).getD [] ++ [(path, item)]) groups) []

namespace Parameter

/-- The HTTP details of a parameter. Only where arrays are flattened it matters how they are joined. -/
def wire (p : Parameter) : WireParameter where
  name := p.name
  location := p.location
  array :=
    if p.fields.kind = .array && p.location.isDelimited then some (p.collectionFormat.getD .csv)
    else none

end Parameter

namespace Operation

/-- The name of an operation that does not give one. -/
def unnamed : String := "UNNAMED"

/-- The name of an operation. -/
def name (o : Operation) : String := o.operationId.getD unnamed

/-- The name that inline types inside an operation are derived from. -/
def parentName (o : Operation) : String := o.operationId.getD ""

end Operation

namespace Loaded

/-- The descriptor of a parameter: of the schema of a body, or else of its keywords. -/
def parameterType (l : Loaded) (p : Parameter) (parentName : String) : Walk Descriptor :=
  if p.isBody then
    match p.schema with
    | some node => l.classify node p.name parentName
    | none => pure (.unknown [])
  else l.classifySchema p.fields p.name parentName

/-- A parameter of a method. -/
def methodParameter (l : Loaded) (p : Parameter) (parentName : String) : Walk Service.Parameter := do
  let type ← l.parameterType p parentName
  return ⟨p.name, p.description, type.withRequired p.required⟩

/-- The parameters of a method, each with its HTTP details. -/
def methodParameters (l : Loaded) (parentName : String) :
    List (RefOr Parameter) → Walk (List (Service.Parameter × WireParameter))
  | [] => return []
  | node :: rest => do
    let p ← Walk.outcome (l.parameter node)
    let first ← l.methodParameter p parentName
    let others ← l.methodParameters parentName rest
    return (first, p.wire) :: others

/-- The name of the shared response that a part refers to. -/
def sharedResponse? (node : RefOr Response) : Option String :=
  match node.target?.bind Pointer.parse? with
  | some (.response name) => some name
  | _ => none

/-- The result type of a response, if it has a schema. The types inside a shared response are named
after it. -/
def returnType (l : Loaded) (node : RefOr Response) (parentName : String) :
    Walk (Option Descriptor) := do
  let response ← Walk.outcome (l.response node)
  match response.schema with
  | none => return none
  | some schema =>
    return some (← l.classify schema "response" ((sharedResponse? node).getD parentName))

/-- The method of an operation, and its HTTP details. The shared parameters of its path follow its own
ones. -/
def method (l : Loaded) (verb : Verb) (o : Operation) (shared : List (RefOr Parameter)) :
    Walk (Method × WireMethod) := do
  Walk.note (.methodBegun o.name verb)
  let parameters ← l.methodParameters o.parentName (o.parameters ++ shared)
  let success := SuccessKey.select o.responses
  let returnType ←
    match success with
    | some (_, node) => l.returnType node o.parentName
    | none => pure none
  let code := SuccessKey.code verb (success.map (·.1)) returnType.isSome
  return (
    { name := o.name
      description := Description.combine o.summary o.description
      parameters := parameters.map (·.1)
      returnType },
    { name := o.name
      verb
      parameters := parameters.map (·.2)
      successCode := UInt16.ofNat code })

/-- The methods of the operations of one path. -/
def pathMethods (l : Loaded) (shared : List (RefOr Parameter)) :
    List (Verb × Operation) → Walk (List (Method × WireMethod))
  | [] => return []
  | (verb, o) :: rest => do
    let first ← l.method verb o shared
    let others ← l.pathMethods shared rest
    return first :: others

/-- The methods of the paths of one interface, path by path. -/
def groupMethods (l : Loaded) :
    List (String × PathItem) → Walk (List (List Method × WirePath))
  | [] => return []
  | (path, item) :: rest => do
    let methods ← l.pathMethods item.parameters item.operations
    let others ← l.groupMethods rest
    return (methods.map (·.1), ⟨path, methods.map (·.2)⟩) :: others

/-- The interface of the paths with one first segment. -/
def interface (l : Loaded) (segment : String) (paths : List (String × PathItem)) :
    Walk Interface := do
  let name := Naming.singularize segment
  Walk.note (.interfaceBegun name paths.length)
  let methods ← l.groupMethods paths
  return ⟨name, methods.flatMap (·.1), ⟨methods.map (·.2)⟩⟩

/-- The interfaces of groups of paths. -/
def interfacesOf (l : Loaded) : List (String × List (String × PathItem)) → Walk (List Interface)
  | [] => return []
  | (segment, paths) :: rest => do
    let first ← l.interface segment paths
    let others ← l.interfacesOf rest
    return first :: others

/-- The interfaces of the document. -/
def interfaces (l : Loaded) : Walk (List Interface) :=
  l.interfacesOf (groupPaths l.document.paths)

end Loaded

end SwaggerService
