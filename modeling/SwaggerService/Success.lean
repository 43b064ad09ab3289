import SwaggerService.Document.Operation
import SwaggerService.Number.Natural

/-! # Successful responses

Of the responses of an operation, the one with the least status code from 200 to 299 describes success;
without one, the default response does. The code to answer with is that status code, or depends on the
verb and on whether the response has a schema. -/

namespace SwaggerService

/-- The key of a response that describes success. -/
inductive SuccessKey where
  | status (code : Nat)
  | default
  deriving DecidableEq, Repr

namespace SuccessKey

/-- The status code of a key, if it is one of success. -/
def statusCode? (key : String) : Option Nat :=
  (readNatural? UInt16.size key).filter fun code => 200 ≤ code && code < 300

/-- The entries with a status code of success, each with its code. -/
def candidates {α : Type} (responses : List (String × α)) : List (Nat × α) :=
  responses.filterMap fun (key, response) => (statusCode? key).map fun code => (code, response)

/-- The first entry with the least code. -/
def least? {α : Type} : List (Nat × α) → Option (Nat × α)
  | [] => none
  | first :: rest =>
    match least? rest with
    | some other => if other.1 < first.1 then some other else some first
    | none => some first

/-- The response that describes success, with its key. -/
def select {α : Type} (responses : List (String × α)) : Option (SuccessKey × α) :=
  match least? (candidates responses) with
  | some (code, response) => some (.status code, response)
  | none => (Entries.get? "default" responses).map fun response => (.default, response)

/-- The code to answer with. -/
def code (verb : Verb) (key : Option SuccessKey) (hasSchema : Bool) : Nat :=
  match key with
  | some (.status code) => code
  | some .default =>
    if hasSchema then
      match verb with
      | .delete => 202
      | .options => 204
      | .post => 201
      | _ => 200
    else 204
  | none => 200

end SuccessKey

end SwaggerService
