/-! Sets of characters given by a table. A set is stored as the ascending code points
at which membership changes, so a table of ranges is one list of numbers. -/
namespace EnvLoader.Text

/-- A set of characters: membership starts as "outside" and flips at each listed code point. -/
structure CodePointSet where
  flips : Array Nat

/-- A character is inside when the number of flips up to it is odd. -/
def CodePointSet.contains (set : CodePointSet) (c : Char) : Bool :=
  set.flips.foldl (fun inside flip => if flip ≤ c.toNat then !inside else inside) false

end EnvLoader.Text
