/-! The queue of records to expand. A name enters it once, when it is first seen, and names
leave in the order in which they entered. So the names ever seen, in order, and how many
of them have left, say everything. -/
namespace EnvLoader

/-- The names seen so far, and how many of them were taken out. -/
structure Discovery where
  discovered : List String := []
  expanded : Nat := 0
  deriving DecidableEq, Repr, Inhabited

namespace Discovery

/-- Whether a name was ever added. -/
def seen (queue : Discovery) (name : String) : Bool := queue.discovered.contains name

/-- Adds a name at the end unless it was seen before. -/
def add (queue : Discovery) (name : String) : Discovery :=
  if queue.seen name then queue else { queue with discovered := queue.discovered ++ [name] }

/-- Adds names in order. -/
def addAll (queue : Discovery) (names : List String) : Discovery := names.foldl add queue

/-- The names that wait to be taken out. -/
def pending (queue : Discovery) : List String := queue.discovered.drop queue.expanded

/-- Whether no name waits. -/
def isEmpty (queue : Discovery) : Bool := queue.pending.isEmpty

/-- Takes out the name that has waited longest. -/
def pop? (queue : Discovery) : Option (String × Discovery) :=
  match queue.pending with
  | [] => none
  | name :: _ => some (name, { queue with expanded := queue.expanded + 1 })

end Discovery
end EnvLoader
