import EnvLoader.Bindings
import EnvLoader.Discovery

/-! The queue of records to expand, kept by positions. Each name lies once in an arena, in the order
of discovery; it is looked up by its position there, and positions are what waits. From outside, this
is the queue of `Discovery`: the arena, and how many names were taken out of it. -/
namespace EnvLoader

/-- Names in an arena, and the positions of those that wait. -/
structure IndexedQueue where
  /-- The arena. -/
  names : List String := []
  /-- The position of each name in the arena. -/
  positions : Bindings String Nat := {}
  /-- The positions that wait, the oldest first. -/
  waiting : List Nat := []
  /-- How many names were taken out. -/
  expanded : Nat := 0
  deriving DecidableEq, Repr, Inhabited

namespace IndexedQueue

/-- Whether a name was ever added. -/
def seen (queue : IndexedQueue) (name : String) : Bool := queue.positions.contains name

/-- Adds a name at the end unless it was seen before, and tells whether it was new. -/
def add (queue : IndexedQueue) (name : String) : Bool × IndexedQueue :=
  match queue.positions.get? name with
  | some _ => (false, queue)
  | none =>
    let position := queue.names.length
    (true, { queue with
      names := queue.names ++ [name]
      positions := queue.positions.put name position
      waiting := queue.waiting ++ [position] })

/-- Takes out the position that has waited longest, and gives its name. A position outside the
arena would be lost, and would pass for the end of the queue. -/
def pop (queue : IndexedQueue) : Option String × IndexedQueue :=
  match queue.waiting with
  | [] => (none, queue)
  | position :: waiting =>
    match queue.names[position]? with
    | none => (none, { queue with waiting })
    | some name => (some name, { queue with waiting, expanded := queue.expanded + 1 })

/-- Whether no name waits. -/
def isEmpty (queue : IndexedQueue) : Bool := queue.waiting.isEmpty

/-- The queue from outside. -/
def discovery (queue : IndexedQueue) : Discovery := ⟨queue.names, queue.expanded⟩

end IndexedQueue
end EnvLoader
