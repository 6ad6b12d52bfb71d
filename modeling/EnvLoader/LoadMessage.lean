import EnvLoader.Converter
import EnvLoader.Loader.Value

/-! How the failures of a loader are told: by the message of a variant of its error
enumeration, the context of the failure, and its cause where there is one. -/
namespace EnvLoader.Loader

/-- The message of a failure. -/
def failureMessage (variant : ErrorVariant) (context : String) (cause : Option String) : String :=
  variant.message ++ ": " ++ context ++
    match cause with
    | some cause => ": " ++ cause
    | none => ""

namespace LoadError

/-- The variant that an error belongs to. -/
def variant : LoadError → ErrorVariant
  | .keyNotFound _ => .keyNotFound
  | .notUnicode _ => .notUnicode
  | .invalidBool _ _ => .invalidBool
  | .invalidInteger _ _ => .invalidInt
  | .invalidFloat _ _ => .invalidFloat
  | .invalidDuration _ _ => .invalidDuration

/-- What an error is about. -/
def context : LoadError → String
  | .keyNotFound key | .notUnicode key => key
  | .invalidBool key raw => key ++ "=" ++ raw
  | .invalidInteger key _ | .invalidFloat key _ | .invalidDuration key _ => key

/-- What an error was caused by. -/
def cause? : LoadError → Option String
  | .invalidInteger _ fault => some fault.message
  | .invalidFloat _ fault => some fault.message
  | .invalidDuration _ fault => some fault.message
  | _ => none

/-- The message of an error. -/
def message (error : LoadError) : String :=
  failureMessage error.variant error.context error.cause?

end LoadError

namespace BuildError
variable {ε : Type}

/-- The variant that an error belongs to. -/
def variant : BuildError ε → ErrorVariant
  | .invalidChoice _ => .invalidChoice
  | .failed _ _ => .build

/-- The message of an error, given how its cause is told. -/
def message (tell : ε → String) : BuildError ε → String
  | .invalidChoice selected => failureMessage .invalidChoice selected none
  | .failed selected fault => failureMessage .build selected (some (tell fault))

end BuildError
end EnvLoader.Loader
