import EnvLoader.Layout.Types
import EnvLoader.Source.Pattern

/-! Layout of patterns. -/
namespace EnvLoader.Layout
open Source

/-- Whether alternatives may share lines. -/
def isSmallCase : Pattern → Bool
  | .literal _ | .wild => true
  | _ => false

/-- Alternatives, a bar before each but the first. -/
def barred : List (List Doc) → List Doc
  | [] => []
  | [last] => last
  | item :: rest => item ++ space ++ word "| " ++ barred rest

/-- Whether a pattern starts with the dots of a range. -/
def startsWithDots : Pattern → Bool
  | .range [] _ _ => true
  | .oneOf _ (.range [] _ _ :: _) => true
  | _ => false

/-- The path of a record or of a choice in a pattern. The type that it starts at is not
written. -/
def recordPathDoc (embedded : Embedded) : TypeExpr → List Doc
  | .qualified _ none segments => segmentsDoc embedded true true segments
  | .qualified _ (some path) segments =>
    segmentsDoc embedded true path.leading (path.segments ++ segments)
  | other => placeDoc embedded other

mutual
/-- Layout of a pattern. -/
def patternDoc (embedded : Embedded) : Pattern → List Doc
  | .attributed attributes (.range low isClosed high) =>
    outerDocs embedded attributes ++ word "(" ++ patternDoc embedded (.range low isClosed high) ++
      word ")"
  | .attributed attributes pattern => outerDocs embedded attributes ++ patternDoc embedded pattern
  | .wild => word "_"
  | .rest => word ".."
  | .name isRef isMut name subpattern =>
    optWord isRef "ref" ++ optWord isMut "mut" ++ word name ++
      (match subpattern with
      | some inner => word " @ " ++ patternDoc embedded inner
      | none => [])
  | .literal tokens => literalDoc tokens
  | .constant tokens => embedded tokens
  | .path place => placeDoc embedded place
  | .macroCall path delimiter body => macroDoc (modulePathDoc path) delimiter body
  | .record place fields rest =>
    cbox step (recordPathDoc embedded place ++ word " \x7b" ++
      shifted (spaceIfMore ++ fieldPatternsDoc embedded rest.isSome fields ++
        (match rest with
        | some attributes => outerDocs embedded attributes ++ word ".." ++ space
        | none => []))) ++ word "\x7d"
  | .tupleRecord place elements =>
    recordPathDoc embedded place ++ bracketed "(" (patternsDocs embedded elements) ")"
  | .tuple elements trailing =>
    (match patternsDocs embedded elements with
    | [item] =>
      word "(" ++
        cbox step (zeroGap ++ item ++ (if trailing then word "," else []) ++ shifted zeroGap) ++
        word ")"
    | items => bracketed "(" items ")")
  | .paren inner => word "(" ++ patternDoc embedded inner ++ word ")"
  | .slice elements => word "[" ++ commaItems (patternsDocs embedded elements) ++ word "]"
  | .reference isMut target => word "&" ++ optWord isMut "mut" ++ patternDoc embedded target
  | .oneOf _ cases =>
    boxed (cases.any (!isSmallCase ·)) 0 (barred (patternsDocs embedded cases))
  | .range low isClosed high =>
    (if low.isEmpty then [] else embedded low) ++ word (rangeMark isClosed) ++
      (if high.isEmpty then [] else embedded high)
  | .typed pattern type => patternDoc embedded pattern ++ word ": " ++ typeDoc embedded type
  | .verbatim tokens => word (textOf tokens)

/-- Layout of each pattern. -/
def patternsDocs (embedded : Embedded) : List Pattern → List (List Doc)
  | [] => []
  | pattern :: rest => patternDoc embedded pattern :: patternsDocs embedded rest

/-- Layout of the fields of a record pattern. `hasRest` says whether dots follow them. -/
def fieldPatternsDoc (embedded : Embedded) (hasRest : Bool) : List FieldPattern → List Doc
  | [] => []
  | field :: rest =>
    fieldPatternDoc embedded field ++ commaOrSpace (rest.isEmpty && !hasRest) ++
      fieldPatternsDoc embedded hasRest rest

/-- Layout of a field within a record pattern. -/
def fieldPatternDoc (embedded : Embedded) : FieldPattern → List Doc
  | .mk attributes field pattern =>
    outerDocs embedded attributes ++
      (match field with
      | some name => word (name ++ ": ")
      | none => []) ++ patternDoc embedded pattern
end

end EnvLoader.Layout
