import EnvLoader.Source.Fragment

/-! The functions of a generated loader that read one variable each and convert it. -/
namespace EnvLoader.Loader
open Source

/-- How the text of a variable becomes a value. -/
inductive Conversion where
  | text
  | path
  | bool
  | int
  | float
  | duration
  deriving DecidableEq, Repr, Inhabited

/-- A call that hands the cause of a failed conversion to an error. -/
def mapError (error case : String) : List Token :=
  code ". map_err" ++
    inParens (code "| source |" ++ member error case ++ code "(key . to_owned () , source)")

/-- The arms that tell the spellings of truth values apart. -/
def boolArms (error : String) : List Token :=
  code "\"y\" | \"yes\" | \"true\" | \"t\" | \"1\" | \"on\" => Ok (true) ," ++
    code "\"n\" | \"no\" | \"false\" | \"f\" | \"0\" | \"off\" => Ok (false) ," ++
    code "_ => Err" ++
    inParens (member error "InvalidBool" ++
      inParens (code "format ! (\"\x7bkey\x7d=\x7braw\x7d\")")) ++ mark ","

/-- The expression that converts the text `raw` of the variable `key`. -/
def Conversion.tokens (type : List Token) (error : String) : Conversion → List Token
  | .text => code "Ok (raw)"
  | .path => code "Ok (PathBuf :: from (raw))"
  | .bool => code "match raw . trim () . to_ascii_lowercase () . as_str ()" ++
    inBraces (boolArms error)
  | .int => code "raw . trim () . parse :: <" ++ type ++ code "> ()" ++ mapError error "InvalidInt"
  | .float => code "raw . trim () . parse :: <" ++ type ++ code "> ()" ++
    mapError error "InvalidFloat"
  | .duration =>
    code "humantime :: parse_duration (raw . trim ())" ++ mapError error "InvalidDuration"

/-- A function that reads a variable. One that requires it fails where it is unset; any
other takes a default and falls back to it. -/
structure ParserFn where
  name : String
  type : TypeExpr
  isList : Bool
  isRequired : Bool
  conversion : Conversion

/-- The type of the value that is read. -/
def ParserFn.valueType (parser : ParserFn) : List Token :=
  if parser.isList then applied "Vec" [parser.type.tokens] else parser.type.tokens

/-- The conversion of a whole list, item by item: blank items are left out. -/
def listConversion (value : List Token) (error : String) (convert : List Token) : List Token :=
  code "raw . split (',') . map (str :: trim) . filter (| item | ! item . is_empty ()) . map" ++
    inParens (code "| item |" ++ inBraces (code "let raw = item . to_owned () ;" ++ convert)) ++
    code ". collect :: < Result <" ++ value ++ mark "," ++ word error ++ code ">> ()"

/-- The expression that converts what was read. -/
def ParserFn.convert (parser : ParserFn) (error : String) : List Token :=
  let item := parser.conversion.tokens parser.type.tokens error
  if parser.isList then listConversion parser.valueType error item else item

/-- The statement that reads the variable, given what happens where it is unset. -/
def readVariable (error : String) (unset : List Token) : List Token :=
  code "let raw = match env :: var (key)" ++
    inBraces (code "Ok (raw) => raw , Err (env :: VarError :: NotPresent) =>" ++ inBraces unset ++
      code "Err (env :: VarError :: NotUnicode (_)) => return Err" ++
      inParens (member error "NotUnicode" ++ code "(key . to_owned ())") ++ mark ",") ++ mark ";"

/-- The tokens of the function. -/
def ParserFn.tokens (parser : ParserFn) (error : String) : List Token :=
  let value := parser.valueType
  let shown := String.ofList ((textOf value).toList.filter (· ≠ ' '))
  if parser.isRequired then
    docTokens s!" Reads `key` as a required `{shown}`." ++ word "fn" ++ word parser.name ++
      code "(key : & str) ->" ++ applied "Result" [value, word error] ++
      inBraces (readVariable error (code "return Err" ++
        inParens (member error "KeyNotFound" ++ code "(key . to_owned ())") ++ mark ";") ++
        parser.convert error)
  else
    docTokens s!" Reads `key` as an optional `{shown}`, falling back to `default`." ++
      word "fn" ++ word parser.name ++ code "(default : Option < & str > , key : & str) ->" ++
      applied "Result" [applied "Option" [value], word error] ++
      inBraces (readVariable error
          (code "let Some (default) = default else" ++ inBraces (code "return Ok (None) ;") ++
            mark ";" ++ code "default . to_owned ()") ++
        code "let value :" ++ applied "Result" [value, word error] ++ mark "=" ++
        parser.convert error ++ mark ";" ++ code "value . map (Some)")

end EnvLoader.Loader
