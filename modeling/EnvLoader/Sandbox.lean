import EnvLoader.Environment
import EnvLoader.Text.Quoted

/-! Sandboxes: changes of an environment that can be taken back. A sandbox keeps what each
variable was when it first touched it, and closing it puts all of that back in reverse. -/
namespace EnvLoader

/-- What a sandbox has to put back: the variables it touched, the first one first, with
their values before. -/
structure Sandbox where
  saved : List (String × Option Bytes) := []
  deriving DecidableEq, Inhabited

namespace Sandbox

/-- The variables that the sandbox touched. -/
def touched (sandbox : Sandbox) : List String := sandbox.saved.map (·.1)

/-- Keeps the present value of a variable unless one is kept already. -/
def remember (sandbox : Sandbox) (environment : Environment) (name : String) : Sandbox :=
  if sandbox.touched.contains name then sandbox
  else ⟨sandbox.saved ++ [(name, environment.get? name)]⟩

/-- Gives a variable the value it had, or unsets it where it had none. -/
def restoreVariable (environment : Environment) : String × Option Bytes → Environment
  | (name, some value) => environment.put name value
  | (name, none) => environment.erase name

/-- Puts back what the sandbox keeps, the variable touched last first. -/
def close (sandbox : Sandbox) (environment : Environment) : Environment :=
  sandbox.saved.reverse.foldl restoreVariable environment

/-- How a sandbox shows itself. -/
def text (sandbox : Sandbox) : String :=
  let names := sandbox.touched.map fun name => String.ofList (Text.quote name.toList)
  "Sandbox \x7b keys: [" ++ ", ".intercalate names ++ "], .. \x7d"

end Sandbox

/-- A change of the environment within a sandbox. -/
inductive Change where
  | set (name : String) (value : Bytes)
  | remove (name : String)
  /-- Removes every variable whose name starts with a prefix. -/
  | clear (namePrefix : String)
  deriving DecidableEq, Inhabited

/-- A sandbox together with the environment it works on. -/
structure Sandboxed where
  sandbox : Sandbox
  environment : Environment
  deriving DecidableEq, Inhabited

namespace Sandboxed

/-- Opens a sandbox on an environment. -/
def start (environment : Environment) : Sandboxed := ⟨{}, environment⟩

/-- Sets a variable. -/
def set (state : Sandboxed) (name : String) (value : Bytes) : Sandboxed :=
  ⟨state.sandbox.remember state.environment name, state.environment.put name value⟩

/-- Removes a variable. -/
def remove (state : Sandboxed) (name : String) : Sandboxed :=
  ⟨state.sandbox.remember state.environment name, state.environment.erase name⟩

/-- Makes a change. -/
def apply (state : Sandboxed) : Change → Sandboxed
  | .set name value => state.set name value
  | .remove name => state.remove name
  | .clear namePrefix => (state.environment.namesWith namePrefix).foldl remove state

/-- Closes the sandbox. -/
def close (state : Sandboxed) : Environment := state.sandbox.close state.environment

end Sandboxed

/-- The environment that is seen while the variables with a prefix are replaced by given ones. -/
def Environment.withVariables (environment : Environment) (namePrefix : String)
    (given : List (String × Bytes)) : Sandboxed :=
  given.foldl (fun state (name, value) => state.set name value)
    ((Sandboxed.start environment).apply (.clear namePrefix))

/-- Sandboxes opened within each other, the innermost first, and the environment they share. -/
structure SandboxStack where
  sandboxes : List Sandbox := []
  environment : Environment := {}
  deriving DecidableEq, Inhabited

namespace SandboxStack

/-- Opens a sandbox within the innermost one. -/
def push (stack : SandboxStack) : SandboxStack :=
  { stack with sandboxes := {} :: stack.sandboxes }

/-- Closes the innermost sandbox. -/
def pop (stack : SandboxStack) : SandboxStack :=
  match stack.sandboxes with
  | [] => stack
  | sandbox :: outer => ⟨outer, sandbox.close stack.environment⟩

/-- Makes a change within the innermost sandbox; without one nothing is changed. -/
def apply (stack : SandboxStack) (change : Change) : SandboxStack :=
  match stack.sandboxes with
  | [] => stack
  | sandbox :: outer =>
    let state := Sandboxed.apply ⟨sandbox, stack.environment⟩ change
    ⟨state.sandbox :: outer, state.environment⟩

/-- Closes all sandboxes. -/
def closeAll (stack : SandboxStack) : Environment :=
  stack.sandboxes.foldl (fun environment sandbox => sandbox.close environment) stack.environment

end SandboxStack
end EnvLoader
