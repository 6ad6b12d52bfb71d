import EnvLoader.Files.Access
import EnvLoader.KeyValue.Entry

/-! Key-value stores: one that holds a bounded number of keys in memory, and one that keeps
a log of its entries in a file. -/
namespace EnvLoader.KeyValue
open Files

/-- Why a store refuses to open, or to store an entry. -/
inductive StoreError where
  | zeroCapacity
  /-- Each of so many keys has a value already. -/
  | full (capacity : Nat)
  | invalidEntry (key value : String)
  | file (path : String) (fault : Fault)
  deriving DecidableEq, Repr, Inhabited

/-- The message of an error, given how faults of files are told. -/
def StoreError.messageWith (tell : Fault → String) : StoreError → String
  | .zeroCapacity => "store capacity must be greater than zero"
  | .full capacity => s!"store is full ({capacity} keys)"
  | .invalidEntry key value =>
    "invalid entry " ++ String.ofList (Text.quote (entryText key value).toList)
  | .file path fault => s!"store file {path} failed: {tell fault}"

/-- The message of an error. -/
def StoreError.message : StoreError → String := messageWith Fault.message

/-- Values under keys. -/
abbrev Entries := Bindings String String

/-- A store in memory that holds at most so many keys. -/
structure MemoryStore where
  capacity : Nat
  entries : Entries := {}
  deriving DecidableEq, Repr, Inhabited

namespace MemoryStore

/-- An empty store. It has to have room for a key. -/
def empty (capacity : Nat) : Except StoreError MemoryStore :=
  if capacity = 0 then throw .zeroCapacity else return { capacity }

/-- The value of a key. -/
def get? (store : MemoryStore) (key : String) : Option String := store.entries.get? key

/-- Stores a value under a key. A key that is there already needs no more room. -/
def put (store : MemoryStore) (key value : String) : Except StoreError MemoryStore :=
  if !isValidEntry key value then throw (.invalidEntry key value)
  else if !store.entries.contains key && store.entries.size ≥ store.capacity then
    throw (.full store.capacity)
  else return { store with entries := store.entries.put key value }

end MemoryStore

/-- A store that keeps its entries in a file too, one line for every value ever stored. -/
structure FileStore where
  path : String
  entries : Entries := {}
  deriving DecidableEq, Repr, Inhabited

namespace FileStore

/-- Reads a store from a file that is there. -/
def load (path : String) (tree : Tree) : Except Fault FileStore := do
  return ⟨path, Bindings.ofList (entriesOf (← tree.readText path))⟩

/-- Opens a store. Where `create` is set, a missing file is made first; it stays even if it
turns out that it cannot be read. -/
def openFile (path : String) (create : Bool) (tree : Tree) : Except StoreError FileStore × Tree :=
  match if create then tree.ensureFile path else .ok tree with
  | .error fault => (.error (.file path fault), tree)
  | .ok tree => ((load path tree).mapError (.file path), tree)

/-- The value of a key. -/
def get? (store : FileStore) (key : String) : Option String := store.entries.get? key

/-- Stores a value under a key: adds a line to the file, which has to be there, and then
keeps the entry. -/
def put (store : FileStore) (tree : Tree) (key value : String) :
    Except StoreError (FileStore × Tree) :=
  if !isValidEntry key value then throw (.invalidEntry key value)
  else
    match tree.appendText store.path (entryLine key value) with
    | .error fault => throw (.file store.path fault)
    | .ok tree => return ({ store with entries := store.entries.put key value }, tree)

end FileStore

/-- A store of either kind. -/
inductive Store where
  | memory (store : MemoryStore)
  | file (store : FileStore)
  deriving DecidableEq, Repr, Inhabited

namespace Store

/-- The short name of a kind of store. -/
def name : Store → String
  | memory _ => "mem"
  | file _ => "file"

/-- The values under their keys. -/
def entries : Store → Entries
  | memory store => store.entries
  | file store => store.entries

/-- The value of a key. -/
def get? (store : Store) (key : String) : Option String := store.entries.get? key

/-- Stores a value under a key. -/
def put (store : Store) (tree : Tree) (key value : String) : Except StoreError (Store × Tree) :=
  match store with
  | memory store => (store.put key value).map fun store => (.memory store, tree)
  | file store => (store.put tree key value).map fun (store, tree) => (.file store, tree)

end Store
end EnvLoader.KeyValue
