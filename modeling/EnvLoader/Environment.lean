import EnvLoader.Bindings
import EnvLoader.Bytes

/-! Environments: variables with values that may be no text. -/
namespace EnvLoader

/-- The variables of a process. -/
abbrev Environment := Bindings String Bytes

/-- The variables whose names start with a prefix. -/
def Environment.namesWith (environment : Environment) (namePrefix : String) : List String :=
  environment.keys.filter (·.startsWith namePrefix)

end EnvLoader
