import EnvLoader.Loader.Constructor
import EnvLoader.Text.Decimal
import EnvLoader.Text.Duration

/-! Values that loaders give, and the errors they fail with. -/
namespace EnvLoader.Loader
open Text

/-- A loaded value. -/
inductive Value where
  | text (content : String)
  | path (content : String)
  | bool (content : Bool)
  | integer (number : Int)
  | float (number : Decimal)
  | duration (length : Duration)
  | list (items : List Value)
  | absent
  | present (value : Value)
  | record (name : String) (members : List (MemberName × Value))
  deriving Repr, Inhabited

/-- The value of a member of a record. -/
def Value.member? (name : MemberName) : Value → Option Value
  | .record _ members => (members.find? (·.1 = name)).map (·.2)
  | _ => none

/-- Why a loader fails. -/
inductive LoadError where
  | keyNotFound (key : String)
  | notUnicode (key : String)
  | invalidBool (key raw : String)
  | invalidInteger (key : String) (fault : IntegerFault)
  | invalidFloat (key : String) (fault : DecimalFault)
  | invalidDuration (key : String) (fault : DurationFault)
  deriving DecidableEq, Repr, Inhabited

/-- Why what is selected cannot be built. -/
inductive BuildError (ε : Type) where
  | invalidChoice (selected : String)
  | failed (selected : String) (fault : ε)
  deriving DecidableEq, Repr, Inhabited

end EnvLoader.Loader
