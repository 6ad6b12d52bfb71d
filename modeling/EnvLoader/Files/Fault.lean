/-! Why access to a file fails. -/
namespace EnvLoader.Files

/-- Why a file or directory cannot be used. -/
inductive Fault where
  | notFound
  /-- A file stands where the path goes on. -/
  | notDirectory
  /-- A directory stands where a file is asked for. -/
  | isDirectory
  /-- A path has a NUL in it. -/
  | hasNul
  | nameTooLong
  /-- Links lead to links without end. -/
  | linkLoop
  /-- A path leads out of the directory it has to stay in. -/
  | outside
  /-- A file holds bytes that are no text. -/
  | notText
  /-- The name of a file is no text. -/
  | nameNotText
  /-- A path does not end with a name. -/
  | noFileName
  deriving DecidableEq, Repr, Inhabited

/-- What is said about a fault. -/
def Fault.message : Fault → String
  | .notFound => "No such file or directory (os error 2)"
  | .notDirectory => "Not a directory (os error 20)"
  | .isDirectory => "Is a directory (os error 21)"
  | .hasNul => "file name contained an unexpected NUL byte"
  | .nameTooLong => "File name too long (os error 36)"
  | .linkLoop => "Too many levels of symbolic links (os error 40)"
  | .outside => "a path led outside of the filesystem"
  | .notText => "stream did not contain valid UTF-8"
  | .nameNotText => "Invalid or incomplete multibyte or wide character (os error 84)"
  | .noFileName => "path has no file name"

end EnvLoader.Files
