import EnvLoader.Key
import EnvLoader.Loader.Format
import EnvLoader.RecordPlan

/-! The names of variables, as a constructor makes them at run time. A key is written into a
format string with its braces doubled, and the formatting takes that back. So what is asked for
is the key below the prefix, whatever characters both are made of. -/
namespace EnvLoader.KeyNames
open Loader

/-- The name of the variable that a path of keys leads to. -/
def pathKey (path : List String) : String := "_".intercalate path

/-- The prefix of what is below a path. At the root there is none. -/
def pathPrefix (path : List String) : Option String :=
  if path = [] then none else some (pathKey path)

variable {value? : String → Option String} {keyPrefix : Option String} {key : String}

/-- A record is read without a prefix exactly at the root. -/
theorem pathPrefix_root {path : List String} {name root : String} (atRoot : path = [] ↔ name = root) :
    (name == root) = (pathPrefix path).isNone := by
  unfold pathPrefix
  by_cases isRoot : name = root
  · simp [isRoot, atRoot.mpr isRoot]
  · simp [isRoot, mt atRoot.mp isRoot]

/-- Formatting undoes the doubling of braces, and goes on behind the text. -/
theorem fillFormat_text (text rest : List Char) : fillFormat value? none
    ((text.flatMap fun c => if c = '\x7b' ∨ c = '\x7d' then [c, c] else [c]) ++ rest) =
      (fillFormat value? none rest).map (text ++ ·) := by
  induction text with
  | nil => simp
  | cons c text ih =>
    rw [List.flatMap_cons, List.append_assoc]
    by_cases opening : c = '\x7b'
    · subst opening
      simp [fillFormat, ih, Function.comp_def]
    · by_cases closing : c = '\x7d'
      · subst closing
        simp [fillFormat, ih, Function.comp_def]
      · simp [fillFormat, opening, closing, ih, Function.comp_def]

theorem fillFormat_escaped (text : List Char) : fillFormat value? none
    (text.flatMap fun c => if c = '\x7b' ∨ c = '\x7d' then [c, c] else [c]) = some text := by
  simpa [fillFormat] using @fillFormat_text value? text []

/-- The format string of a key puts it below the prefix. -/
theorem prefixedFormat_name (outer key : String) :
    (KeyExpr.formatted (prefixedFormat key)).name? (some outer) = some (joinKey outer key) := by
  change formatWith _ (placeholder "prefix" ++ "_" ++ escapeBraces key) = _
  have opening : (placeholder "prefix" ++ "_").toList =
      ['\x7b', 'p', 'r', 'e', 'f', 'i', 'x', '\x7d', '_'] := by decide
  rw [formatWith, String.toList_append, opening, escapeBraces, String.toList_ofList]
  simp [fillFormat, fillFormat_escaped, joinKey, String.append_assoc]

/-- A constructor asks for the key of a setting, below its prefix if it has one. -/
theorem keyExpr_name {setting : Setting} :
    (setting.keyExpr keyPrefix.isNone).name? keyPrefix = some (fullKey keyPrefix setting.key) := by
  cases keyPrefix with
  | none => rfl
  | some outer => exact prefixedFormat_name outer setting.key

/-- The key below the prefix of a path ends the path. -/
theorem fullKey_path (path : List String) :
    fullKey (pathPrefix path) key = pathKey (path ++ [key]) := by
  unfold pathPrefix pathKey
  cases path with
  | nil => exact String.intercalate_singleton.symm
  | cons first rest =>
    rw [if_neg (by simp), String.intercalate_append_of_ne_nil (by simp) (by simp),
      String.intercalate_singleton]
    rfl

end EnvLoader.KeyNames
