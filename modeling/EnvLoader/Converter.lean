import EnvLoader.Registry
import EnvLoader.Loader.Program
import EnvLoader.GenerationError

/-! Converters: the types of single values that a loader can read, with what the code
that reads them needs. -/
namespace EnvLoader
open Loader

/-- A variant of the error enumeration as it is asked for, its code still text. -/
structure ErrorVariant where
  name : String
  message : String
  source : Option String := none
  deriving DecidableEq, Repr, Inhabited

namespace ErrorVariant

/-- A variable that has to be set is not. -/
def keyNotFound : ErrorVariant := ⟨"KeyNotFound", "env var key not found", none⟩

/-- The value of a variable is no text. -/
def notUnicode : ErrorVariant := ⟨"NotUnicode", "env var value is not valid unicode", none⟩

/-- A value is no truth value. -/
def invalidBool : ErrorVariant := ⟨"InvalidBool", "invalid bool value", none⟩

/-- A value is no integer of its type. -/
def invalidInt : ErrorVariant := ⟨"InvalidInt", "invalid integer value", some "ParseIntError"⟩

/-- A value is no floating-point number. -/
def invalidFloat : ErrorVariant := ⟨"InvalidFloat", "invalid float value", some "ParseFloatError"⟩

/-- A value is no duration. -/
def invalidDuration : ErrorVariant :=
  ⟨"InvalidDuration", "invalid duration value", some "humantime::DurationError"⟩

/-- The selector names no candidate. -/
def invalidChoice : ErrorVariant := ⟨"InvalidChoice", "invalid choice", none⟩

/-- The selected candidate could not be converted. -/
def build : ErrorVariant :=
  ⟨"Build", "failed to build selected value", some "Box<dyn std::error::Error + Send + Sync>"⟩

end ErrorVariant

/-- A type of single values. -/
structure Converter where
  /-- The short name, which parser functions carry in theirs. -/
  name : String
  /-- The type as generated code writes it. -/
  typeText : String
  /-- The names a field's type may have. -/
  aliases : List String
  /-- What the example shows for a variable that has to be set. -/
  zero : String
  imports : List String
  errors : List ErrorVariant
  conversion : Conversion
  deriving DecidableEq, Repr, Inhabited

namespace Converter

/-- Text, taken as it is. -/
def string : Converter :=
  ⟨"string", "String", ["String", "std::string::String"], "", [], [], .text⟩

/-- Truth values. -/
def bool : Converter :=
  ⟨"bool", "bool", ["bool"], "false", [], [.invalidBool], .bool⟩

/-- Integers of a type. -/
def integer (type : String) : Converter :=
  ⟨type, type, [type], "0", ["std::num::ParseIntError"], [.invalidInt], .int⟩

/-- Floating-point numbers of a type. -/
def float (type : String) : Converter :=
  ⟨type, type, [type], "0", ["std::num::ParseFloatError"], [.invalidFloat], .float⟩

/-- Spans of time. -/
def duration : Converter :=
  ⟨"duration", "Duration", ["Duration", "std::time::Duration", "core::time::Duration"], "0s",
    ["std::time::Duration"], [.invalidDuration], .duration⟩

/-- Paths of files. -/
def path : Converter :=
  ⟨"path_buf", "PathBuf", ["PathBuf", "std::path::PathBuf"], "", ["std::path::PathBuf"], [], .path⟩

/-- The integer types. -/
def integerTypes : List String :=
  ["i8", "i16", "i32", "i64", "i128", "isize", "u8", "u16", "u32", "u64", "u128", "usize"]

/-- The converters that are always there. -/
def builtin : List Converter :=
  [string, bool] ++ integerTypes.map integer ++ [float "f32", float "f64", duration, path]

end Converter

/-- The converters of a run under the type names they answer to. A later entry for a name
stands before an earlier one. -/
structure Converters where
  entries : List (String × Converter) := []
  deriving DecidableEq, Repr, Inhabited

namespace Converters

/-- Adds a converter under each of its names, in place of what was there. -/
def insert (table : Converters) (converter : Converter) : Converters :=
  ⟨converter.aliases.map (·, converter) ++ table.entries⟩

/-- The converter of a type name. -/
def find? (table : Converters) (type : String) : Option Converter :=
  (table.entries.find? (·.1 = type)).map (·.2)

/-- Whether a type name has a converter. -/
def contains (table : Converters) (type : String) : Bool := (table.find? type).isSome

/-- The converters that are always there. -/
def builtin : Converters := Converter.builtin.foldl insert {}

end Converters
end EnvLoader
