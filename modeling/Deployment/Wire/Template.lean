import Deployment.Wire.Request

/-!
# Wire/Template — templates as JSON

Templates are stored as a JSON array. The skeleton of a template may be named `config`.
-/

namespace Deployment

open Json (Decode Fields)

namespace Category

/-- A category. -/
def ofJson : Decode Category :=
  Decode.variant [
    (["container"], container), (["proxy"], proxy), (["static"], static),
    (["load_balancer", "loadbalancer"], loadBalancer)] false

/-- A category as a text. -/
def toJson (c : Category) : Json := .string c.name

end Category

namespace Template

namespace VariableType

/-- A type. -/
def ofJson : Decode VariableType :=
  Decode.variant [
    (["string", "text"], string), (["number"], number), (["boolean"], boolean),
    (["password"], password)] false

/-- A type as a text. -/
def toJson (t : VariableType) : Json := .string t.name

end VariableType

namespace Variable

/-- A variable as JSON. -/
def toJson (v : Variable) : Json :=
  .object <|
    [("name", .string v.name), ("label", .string v.label), ("type", v.type.toJson)] ++
      textMember "default" v.fallback ++ [("required", .bool v.required)]

/-- The fields of a variable. -/
def fields : Fields Variable :=
  Variable.mk <$> .required "name" Decode.text <*> .defaulted "label" "" Decode.text <*>
    .defaulted "type" .string VariableType.ofJson <*> .optional "default" Decode.text <*>
    .defaulted "required" false Decode.truth

/-- A variable. -/
def ofJson : Decode Variable := Decode.record "TemplateVariable" fields

end Variable

/-- A template as JSON. -/
def toJson (t : Template) : Except KeyFault Json := do
  let skeleton ← t.skeleton.toJson
  return .object <|
    [("id", .string t.id), ("name", .string t.name)] ++
      textMember "description" t.description ++
      [("category", t.category.toJson), ("configSkeleton", skeleton),
        ("variables", .array (t.declared.map Variable.toJson))] ++
      listMember "tags" t.tags textsJson ++
      textMember "createdAt" (t.createdAt.map Instant.toText) ++
      textMember "updatedAt" (t.updatedAt.map Instant.toText)

/-- The fields of a template. -/
def fields : Fields Template :=
  Template.mk <$> .required "id" Decode.text <*> .required "name" Decode.text <*>
    .optional "description" Decode.text <*> .required "category" Category.ofJson <*>
    .requiredAs "configSkeleton" ["config"] Value.ofJson <*>
    .defaulted "variables" [] (Decode.list Variable.ofJson) <*>
    .defaulted "tags" [] (Decode.list Decode.text) <*> .optional "createdAt" Instant.ofJson <*>
    .optional "updatedAt" Instant.ofJson

/-- A template. -/
def ofJson : Decode Template := Decode.record "Template" fields

end Template

namespace TemplateStore

/-- The store of the templates in a text. -/
def ofText (text : String) : Except String TemplateStore :=
  ofList <$> Json.decodeText (Decode.list Template.ofJson) text

end TemplateStore

end Deployment
