/-! Registries: values under names, in the order of registration. The first value of a
name stays. -/
namespace EnvLoader

/-- Values registered under names. -/
structure Registry (α : Type) where
  entries : List (String × α) := []
  deriving Repr, Inhabited

namespace Registry
variable {α : Type}

/-- The value registered under a name. -/
def get? (registry : Registry α) (name : String) : Option α :=
  (registry.entries.find? (·.1 = name)).map (·.2)

/-- Whether something is registered under a name. -/
def contains (registry : Registry α) (name : String) : Bool :=
  registry.entries.any (·.1 = name)

/-- Registers a value under a name that is still free. -/
def add (registry : Registry α) (name : String) (value : α) : Registry α :=
  if registry.contains name then registry else ⟨registry.entries ++ [(name, value)]⟩

/-- The names in order. -/
def names (registry : Registry α) : List String := registry.entries.map (·.1)

/-- The values in order. -/
def values (registry : Registry α) : List α := registry.entries.map (·.2)

/-- The number of names. -/
def size (registry : Registry α) : Nat := registry.entries.length

/-- Whether nothing is registered. -/
def isEmpty (registry : Registry α) : Bool := registry.entries.isEmpty

end Registry
end EnvLoader
