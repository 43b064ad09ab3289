import SwaggerService.Proofs.Loading
import SwaggerService.Service.Written

/-! # Written services are read back

Every part of a service is read back as it was written. Fields are found by their keys, so it matters that
no key of a descriptor is one of the parameter or property around it and that no field of a rule is called
`id`; an absent option is left out, and no option that is there is written `null`. -/

namespace SwaggerService

open Service

namespace Decode

variable {α β : Type}

/-- Whatever is written is read back as it was. -/
def RoundTrips (encode : α → Json) (decode : Decoder α) : Prop := ∀ a, decode (encode a) = .ok a

/-! ## Plain values -/

theorem natural_written {n bound : Nat} (h : n < bound) (wanted : String) :
    natural bound wanted (.nat n) = .ok n := by
  simp [natural, Json.nat, h]

theorem uint64_roundTrips : RoundTrips writeUInt64 uint64 := by
  intro n
  rw [uint64, writeUInt64, natural_written n.toNat_lt_size]
  simp [Except.map]

theorem uint16_roundTrips : RoundTrips (fun n : UInt16 => .nat n.toNat) uint16 := by
  intro n
  rw [uint16, natural_written n.toNat_lt_size]
  simp [Except.map]

theorem list_roundTrips {encode : α → Json} {decode : Decoder α} (h : RoundTrips encode decode) :
    RoundTrips (writeList encode) (list decode) := by
  intro parts
  change items decode (parts.map encode) = .ok parts
  induction parts with
  | nil => rfl
  | cons part rest ih =>
    simp only [List.map_cons, items, h part, ih]
    rfl

theorem string_roundTrips : RoundTrips Json.string string := fun _ => rfl

theorem bool_roundTrips : RoundTrips Json.bool bool := fun _ => rfl

/-! ## Fields -/

namespace Fields

variable {entries : List (String × Json)} {name : String}

/-- The fields are read out of an object, whatever they are declared after. -/
def Reads (fields : Fields α) (entries : List (String × Json)) (a : α) : Prop :=
  ∀ index, fields.read (.object entries) index = .ok a

theorem Reads.seq {f : Fields (α → β)} {x : Fields α} {g : α → β} {a : α} (hf : f.Reads entries g)
    (hx : x.Reads entries a) : (f <*> x).Reads entries (g a) :=
  fun index => seq_eq_ok.mpr ⟨g, a, hf index, hx _, rfl⟩

theorem Reads.map {g : α → β} {x : Fields α} {a : α} (hx : x.Reads entries a) :
    (g <$> x).Reads entries (g a) := Reads.seq (f := pure g) (fun _ => rfl) hx

theorem field_reads {decode : Decoder α} {absent : Option α} {v : Json} {a : α}
    (hv : Entries.get? name entries = some v) (hd : decode v = .ok a) :
    (field name decode absent).Reads entries a := by
  intro index
  refine field_eq_ok.mpr ?_
  rw [value?_object, hv]
  exact hd

theorem field_absent {decode : Decoder α} {a : α} (hv : Entries.get? name entries = none) :
    (field name decode (some a)).Reads entries a := by
  intro index
  refine field_eq_ok.mpr ?_
  rw [value?_object, hv]
  rfl

theorem optional_reads {encode : α → Json} {decode : Decoder α} {o : Option α}
    (h : RoundTrips encode decode) (hnull : ∀ a, encode a ≠ .null)
    (hv : Entries.get? name entries = o.map encode) : (optional name decode).Reads entries o := by
  cases o with
  | none => exact field_absent hv
  | some a =>
    refine field_reads hv ?_
    have hsome : Decode.optional decode (encode a) = (decode (encode a)).map some := by
      unfold Decode.optional
      split
      · next hn => exact absurd hn (hnull a)
      · rfl
    rw [hsome, h a]
    rfl

theorem ofObject_reads {fields : Fields α} {a : α} (h : fields.Reads entries a) :
    fields.ofObject entries = .ok a := by
  rw [ofObject, h 0]
  rfl

theorem decode_reads {fields : Fields α} {a : α} (h : fields.Reads entries a) :
    fields.decode name (.object entries) = .ok a := ofObject_reads h

end Fields

theorem Tagged.decode_reads {type : Tagged α} {form : TagForm} {entries : List (String × Json)} {tag : Json}
    {shape : Shape α} {a : α} (ht : Entries.get? "id" entries = some tag)
    (hs : type.shape form tag = .ok shape) (h : shape.fields.Reads entries a) :
    type.decode form (.object entries) = .ok a := by
  simp only [decode, ht, hs]
  exact Fields.ofObject_reads h

end Decode

open Decode Decode.Fields

/-! ## Vocabulary -/

theorem Verb.roundTrips : RoundTrips (fun verb : Verb => .string verb.key) (Verb.decode .null) := by
  intro verb
  cases verb <;> rfl

theorem Location.roundTrips :
    RoundTrips (fun location : Location => .string location.key) (Location.decode .null) := by
  intro location
  cases location <;> rfl

theorem CollectionFormat.roundTrips : RoundTrips (fun format : CollectionFormat => .string format.key)
    (CollectionFormat.decode .null) := by
  intro format
  cases format <;> rfl

namespace Service

/-! ## Rules -/

theorem Rule.roundTrips (form : TagForm) : RoundTrips Rule.encode (Rule.decode form) := by
  intro rule
  cases rule with
  | required | arrayUniqueItems => rfl
  | stringMaxLength n | stringMinLength n | arrayMinItems n | arrayMaxItems n =>
    exact Tagged.decode_reads rfl rfl (.map (field_reads rfl (uint64_roundTrips n)))
  | stringPattern text | stringFormat text =>
    exact Tagged.decode_reads rfl rfl (.map (field_reads rfl (string_roundTrips text)))
  | stringEnum values =>
    exact Tagged.decode_reads rfl rfl (.map (field_reads rfl (list_roundTrips string_roundTrips values)))
  | numberMultipleOf n | numberGt n | numberGte n | numberLt n | numberLte n =>
    exact Tagged.decode_reads rfl rfl (.map (field_reads rfl rfl))

theorem ObjectRule.roundTrips : RoundTrips ObjectRule.encode ObjectRule.decode := by
  intro rule
  cases rule with
  | minProperties n | maxProperties n =>
    exact Tagged.decode_reads rfl rfl (.map (field_reads rfl (uint64_roundTrips n)))
  | additionalProperties forbidden =>
    exact Tagged.decode_reads rfl rfl (.map (field_reads rfl (bool_roundTrips forbidden)))

/-! ## Descriptors -/

theorem Descriptor.fields_reads (form : TagForm) (d : Descriptor) : (fields form).Reads d.entries d := by
  obtain ⟨typeName, isArray, isLocal, isUnknown, rules⟩ := d
  refine .seq (.seq (.seq (.seq (.map (field_reads rfl rfl)) (field_reads rfl rfl)) (field_reads rfl rfl))
    (field_reads rfl rfl)) ?_
  exact field_reads rfl (list_roundTrips (Rule.roundTrips form) rules)

theorem Descriptor.roundTrips : RoundTrips Descriptor.encode Descriptor.decode :=
  fun d => decode_reads (Descriptor.fields_reads .text d)

/-- The name and the text of a parameter or a property have keys that no descriptor has. -/
theorem decodeTyped_typedEntries (kind name : String) (description : Option String) (d : Descriptor) :
    decodeTyped kind (.object (typedEntries name description d)) = .ok ((name, description), d) := by
  have hname : nameAndText.ofObject (typedEntries name description d) = .ok (name, description) := by
    refine ofObject_reads (.seq (.map (field_reads rfl rfl)) ?_)
    refine optional_reads string_roundTrips nofun ?_
    cases description <;> rfl
  have hothers : ((typedEntries name description d).filter fun entry =>
      entry.1 != "name" && entry.1 != "description") = d.entries := by
    cases description <;> rfl
  simp only [decodeTyped, hname, hothers, bind, Except.bind]
  rw [ofObject_reads (Descriptor.fields_reads .textOrIndex d)]
  rfl

theorem Parameter.roundTrips : RoundTrips Parameter.encode Parameter.decode := by
  intro p
  rw [encode, decode, decodeTyped_typedEntries]
  rfl

theorem Property.roundTrips : RoundTrips Property.encode Property.decode := by
  intro p
  rw [encode, decode, decodeTyped_typedEntries]
  rfl

/-! ## Methods -/

theorem Description.roundTrips : RoundTrips Description.encode Description.decode := by
  intro d
  cases d with
  | text line => rfl
  | lines several =>
    have hlines := list_roundTrips string_roundTrips several
    rw [writeList] at hlines
    simp only [encode, decode, writeList, hlines]

theorem Method.roundTrips : RoundTrips Method.encode Method.decode := by
  rintro ⟨name, description, parameters, returnType⟩
  refine decode_reads (.seq (.seq (.seq (.map (field_reads rfl rfl)) ?_) ?_) ?_)
  · refine optional_reads Description.roundTrips (fun d => by cases d <;> nofun) ?_
    cases description <;> cases returnType <;> rfl
  · refine field_reads ?_ (list_roundTrips Parameter.roundTrips parameters)
    cases description <;> rfl
  · refine optional_reads Descriptor.roundTrips nofun ?_
    cases description <;> cases returnType <;> rfl

/-! ## Protocols -/

theorem WireParameter.roundTrips : RoundTrips WireParameter.encode WireParameter.decode := by
  rintro ⟨name, location, array⟩
  refine decode_reads (.seq (.seq (.map (field_reads rfl rfl))
    (field_reads rfl (Location.roundTrips location))) ?_)
  refine optional_reads CollectionFormat.roundTrips nofun ?_
  cases array <;> rfl

theorem WireMethod.roundTrips : RoundTrips WireMethod.encode WireMethod.decode := by
  rintro ⟨name, verb, parameters, successCode⟩
  refine decode_reads (.seq (.seq (.seq (.map (field_reads rfl rfl)) ?_) ?_) ?_)
  · exact field_reads rfl (Verb.roundTrips verb)
  · exact field_reads rfl (list_roundTrips WireParameter.roundTrips parameters)
  · exact field_reads rfl (uint16_roundTrips successCode)

theorem WirePath.roundTrips : RoundTrips WirePath.encode WirePath.decode := by
  rintro ⟨path, methods⟩
  refine decode_reads (.seq (.map (field_reads rfl rfl)) ?_)
  exact field_reads rfl (list_roundTrips WireMethod.roundTrips methods)

theorem Protocols.roundTrips : RoundTrips Protocols.encode Protocols.decode := by
  rintro ⟨http⟩
  exact decode_reads (.map (field_reads rfl (list_roundTrips WirePath.roundTrips http)))

theorem Interface.roundTrips : RoundTrips Interface.encode Interface.decode := by
  rintro ⟨name, methods, protocols⟩
  refine decode_reads (.seq (.seq (.map (field_reads rfl rfl)) ?_) ?_)
  · exact field_reads rfl (list_roundTrips Method.roundTrips methods)
  · exact field_reads rfl (Protocols.roundTrips protocols)

/-! ## Types -/

theorem TypeDef.roundTrips : RoundTrips TypeDef.encode TypeDef.decode := by
  rintro ⟨name, description, properties, rules⟩
  refine decode_reads (.seq (.seq (.seq (.map (field_reads rfl rfl)) ?_) ?_) ?_)
  · refine optional_reads string_roundTrips nofun ?_
    cases description <;> rfl
  · refine field_reads ?_ (list_roundTrips Property.roundTrips properties)
    cases description <;> rfl
  · refine field_reads ?_ (list_roundTrips ObjectRule.roundTrips rules)
    cases description <;> rfl

theorem EnumDef.roundTrips : RoundTrips EnumDef.encode EnumDef.decode := by
  rintro ⟨name, values⟩
  refine decode_reads (.seq (.map (field_reads rfl rfl)) ?_)
  exact field_reads rfl (list_roundTrips string_roundTrips values)

theorem roundTrips : RoundTrips encode decode := by
  rintro ⟨title, majorVersion, interfaces, types, enums⟩
  refine decode_reads (.seq (.seq (.seq (.seq (.map (field_reads rfl rfl)) ?_) ?_) ?_) ?_)
  · exact field_reads rfl (uint64_roundTrips majorVersion)
  · exact field_reads rfl (list_roundTrips Interface.roundTrips interfaces)
  · exact field_reads rfl (list_roundTrips TypeDef.roundTrips types)
  · exact field_reads rfl (list_roundTrips EnumDef.roundTrips enums)

/-- A service is read back as it was written, and so is each of its parts by itself. A rule is read back
the same wherever it stands. -/
theorem written_roundTrips :
    RoundTrips Service.encode Service.decode ∧
    RoundTrips Interface.encode Interface.decode ∧
    RoundTrips Method.encode Method.decode ∧
    RoundTrips Description.encode Description.decode ∧
    RoundTrips Parameter.encode Parameter.decode ∧
    RoundTrips Property.encode Property.decode ∧
    RoundTrips Descriptor.encode Descriptor.decode ∧
    (∀ form, RoundTrips Rule.encode (Rule.decode form)) ∧
    RoundTrips TypeDef.encode TypeDef.decode ∧
    RoundTrips ObjectRule.encode ObjectRule.decode ∧
    RoundTrips EnumDef.encode EnumDef.decode ∧
    RoundTrips Protocols.encode Protocols.decode ∧
    RoundTrips WirePath.encode WirePath.decode ∧
    RoundTrips WireMethod.encode WireMethod.decode ∧
    RoundTrips WireParameter.encode WireParameter.decode :=
  ⟨roundTrips, Interface.roundTrips, Method.roundTrips, Description.roundTrips, Parameter.roundTrips,
    Property.roundTrips, Descriptor.roundTrips, Rule.roundTrips, TypeDef.roundTrips, ObjectRule.roundTrips,
    EnumDef.roundTrips, Protocols.roundTrips, WirePath.roundTrips, WireMethod.roundTrips,
    WireParameter.roundTrips⟩

end Service

end SwaggerService
