import SwaggerService.Document.Operation

/-! # Swagger documents

The parts of a Swagger 2.0 document that describe a service. Sections keep the order of the document. -/

namespace SwaggerService

open Decode

/-- What a document says about the service as a whole. -/
structure Info where
  title : String
  version : String
  description : Option String
  deriving DecidableEq, Repr, Inhabited

/-- A document. The entries of `definitions`, `parameters` and `responses` are what references name. -/
structure Document where
  swagger : Option String
  info : Info
  paths : List (String × PathItem)
  definitions : List (String × Schema)
  parameters : List (String × Parameter)
  responses : List (String × Response)
  deriving Inhabited

/-- Reads what a document says about the service. -/
def Info.decode : Decoder Info :=
  (mk <$> Fields.required "title" string
    <*> Fields.required "version" string
    <*> Fields.optional "description" string).decode "Info"

/-- Reads a document. -/
def Document.decode : Decoder Document :=
  (mk <$> Fields.optional "swagger" string
    <*> Fields.required "info" Info.decode
    <*> Fields.defaulted "paths" (map PathItem.decode) []
    <*> Fields.defaulted "definitions" (map Schema.decode) []
    <*> Fields.defaulted "parameters" (map Parameter.decode) []
    <*> Fields.defaulted "responses" (map Response.decode) []).decode "SwaggerSpec"

end SwaggerService
