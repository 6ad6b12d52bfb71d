import EnvLoader.Schema.Shape

/-! Declared records: what a loader is generated for. -/
namespace EnvLoader

/-- The options of a field. -/
structure Options where
  /-- The text used when the variable is unset. -/
  default : Option String := none
  /-- The key to use instead of the derived one. -/
  key : Option String := none
  /-- The type that the record's dispatcher builds; makes the field the selector. -/
  build : Option String := none
  /-- The method that the dispatcher calls on the field. -/
  buildWith : Option String := none
  deriving DecidableEq, Repr, Inhabited

/-- A declared field. -/
structure Field where
  /-- The declared name; a field of a tuple has none. -/
  name : Option String
  index : Nat
  shape : Shape
  options : Options
  docs : String
  deriving DecidableEq, Repr, Inhabited

/-- How messages refer to a field: by name, or else by position. -/
def Field.display (field : Field) : String := field.name.getD (toString field.index)

/-- A declared record. -/
structure Record where
  name : String
  docs : String
  fields : List Field
  deriving DecidableEq, Repr, Inhabited

end EnvLoader
