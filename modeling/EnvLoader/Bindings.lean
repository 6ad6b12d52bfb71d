/-! Bindings of keys to values that can be changed: the last value put under a key counts.
A key keeps the place at which it was first put. -/
namespace EnvLoader

/-- Values bound to keys, each key once. -/
structure Bindings (κ α : Type) where
  entries : List (κ × α) := []
  deriving DecidableEq, Repr, Inhabited

/-- Puts a value in the place of the one bound to a key, or at the end. -/
def putEntry {κ α : Type} [DecidableEq κ] (key : κ) (value : α) : List (κ × α) → List (κ × α)
  | [] => [(key, value)]
  | entry :: rest =>
    if entry.1 = key then (key, value) :: rest else entry :: putEntry key value rest

namespace Bindings
variable {κ α : Type} [DecidableEq κ]

/-- The value of a key. -/
def get? (bindings : Bindings κ α) (key : κ) : Option α :=
  (bindings.entries.find? (·.1 = key)).map (·.2)

/-- Whether a key is bound. -/
def contains (bindings : Bindings κ α) (key : κ) : Bool := (bindings.get? key).isSome

/-- Binds a key, whatever it was bound to before. -/
def put (bindings : Bindings κ α) (key : κ) (value : α) : Bindings κ α :=
  ⟨putEntry key value bindings.entries⟩

/-- Unbinds a key. -/
def erase (bindings : Bindings κ α) (key : κ) : Bindings κ α :=
  ⟨bindings.entries.filter (·.1 ≠ key)⟩

/-- The bindings that come from putting each entry in order. -/
def ofList (entries : List (κ × α)) : Bindings κ α :=
  entries.foldl (fun bindings (key, value) => bindings.put key value) {}

/-- The keys in order. -/
def keys (bindings : Bindings κ α) : List κ := bindings.entries.map (·.1)

/-- The number of keys. -/
def size (bindings : Bindings κ α) : Nat := bindings.entries.length

/-- Whether no key is bound. -/
def isEmpty (bindings : Bindings κ α) : Bool := bindings.entries.isEmpty

end Bindings
end EnvLoader
