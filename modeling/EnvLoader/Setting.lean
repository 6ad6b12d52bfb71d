import EnvLoader.Converter
import EnvLoader.Key
import EnvLoader.Schema.Graph

/-! Settings: declared fields after analysis. A setting says under which key a field is
read, as what, and what happens where the variable is unset. -/
namespace EnvLoader
open Loader

/-- An analysed field. -/
structure Setting where
  /-- The declared name, or the name of the type. -/
  name : String
  member : MemberName
  /-- The type without the option or list around it. -/
  type : String
  isRequired : Bool
  isList : Bool
  /-- The type is a record of the schema. -/
  isNested : Bool
  /-- The field is declared as an option. -/
  isOptional : Bool
  key : String
  default : Option String
  /-- The type to build, if this is the selector. -/
  selects : Option String
  buildMethod : String
  /-- The setting is taken only if the selector names it. -/
  isGuarded : Bool
  docs : String
  deriving DecidableEq, Repr, Inhabited

/-- Whether a setting selects between others. -/
def Setting.isSelector (setting : Setting) : Bool := setting.selects.isSome

/-- An option that has no effect. -/
inductive Warning where
  | defaultIgnored (record field : String)
  | buildMethodIgnored (record field : String)
  deriving DecidableEq, Repr, Inhabited

/-- What a warning says. -/
def Warning.message : Warning → String
  | .defaultIgnored _ _ => "default ignored on a nested record field"
  | .buildMethodIgnored _ _ => "build_with ignored on a primitive field"

/-- The record a warning is about. -/
def Warning.record : Warning → String
  | .defaultIgnored record _ => record
  | .buildMethodIgnored record _ => record

/-- The field a warning is about. -/
def Warning.field : Warning → String
  | .defaultIgnored _ field => field
  | .buildMethodIgnored _ field => field

/-- What a shape says about a field. -/
structure ShapeTraits where
  type : String
  isList : Bool
  isOptional : Bool
  /-- A record may stand here. -/
  mayNest : Bool
  deriving DecidableEq, Repr, Inhabited

/-- The traits of a recognised shape; of any other, the text of the type. -/
def Shape.traits : Shape → Except String ShapeTraits
  | .named type => .ok ⟨type, false, false, true⟩
  | .optional type => .ok ⟨type, false, true, true⟩
  | .sequence type => .ok ⟨type, true, false, false⟩
  | .qualified type => .ok ⟨type, false, false, false⟩
  | .unrecognized type => .error type

/-- The method a dispatcher calls unless another one is given. -/
def defaultBuildMethod : String := "build"

/-- Analyses a field of a record. -/
def Setting.ofField (field : Field) (record : String) (schema : Schema) (converters : Converters) :
    Except GenerationError Setting :=
  match field.shape.traits with
  | .error type => throw (.unrecognizedShape record field.display type)
  | .ok traits =>
    let name := field.name.getD traits.type
    let isNested := traits.mayNest && schema.contains traits.type
    if !isNested && !converters.contains traits.type then
      throw (.unknownType record name traits.type)
    else
      return {
        name
        member :=
          match field.name with
          | some name => .name name
          | none => .position field.index
        type := traits.type
        isRequired := !traits.isOptional && field.options.default.isNone
        isList := traits.isList
        isNested
        isOptional := traits.isOptional
        key := field.options.key.getD (deriveKey name)
        default := if isNested then none else field.options.default
        selects := field.options.build
        buildMethod := field.options.buildWith.getD defaultBuildMethod
        isGuarded := false
        docs := field.docs }

/-- The options of a field that its setting ignores. -/
def Setting.warnings (setting : Setting) (record : String) (options : Options) : List Warning :=
  (if setting.isNested && options.default.isSome then [.defaultIgnored record setting.name]
      else []) ++
    (if !setting.isNested && options.buildWith.isSome then [.buildMethodIgnored record setting.name]
      else [])

end EnvLoader
