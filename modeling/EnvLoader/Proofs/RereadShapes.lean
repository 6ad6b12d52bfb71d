import EnvLoader.Proofs.PathReading

/-! What a type is classified as, and the name of that read again. A joined name is read as a path of its
segments, by itself and as the argument of a wrapper, so that it has the shape it came from. The one
exception is a name that begins with `try`, which is a segment only behind a leading mark. -/
namespace EnvLoader.RereadShapes
open Source Text NameTokens WordedTypes TypeShapes PathReading

/-- Tokens that stand at some place of others: what follows it there, up to the end of a group. -/
inductive Within (part : List Token) : List Token → Prop
  | here : Within part part
  | behind {token : Token} {rest : List Token} (within : Within part rest) : Within part (token :: rest)
  | inside {delimiter : Delimiter} {body rest : List Token} (within : Within part body) :
      Within part (.group delimiter body :: rest)

/-- A type that is read at some place of some text. -/
def Written (type : TypeExpr) : Prop :=
  ∃ source tokens before after, lex? source = some tokens ∧ Within before.input tokens ∧
    ∃ depth allowPlus, ((grammarOfDepth depth).type allowPlus).run before = some (type, after)

/-- The text of a type that has a shape. -/
def shapeText : Shape → String
  | .named name => name
  | .qualified name => name
  | .optional name => "Option" ++ "<" ++ name ++ ">"
  | .sequence name => "Vec" ++ "<" ++ name ++ ">"
  | .unrecognized text => text

/-- A path begins with the word that is a segment only behind a leading mark. -/
def BeginsWithTry (path : Path) : Prop := path.segments.head?.map (·.name) = some "try"

/-- What is known of the classification of a type. -/
structure Settled (type : TypeExpr) : Prop where
  /-- Brackets around a type do not matter. -/
  stripped : classify type = classify (strip type)
  /-- A type is classified by the path that it is, or by the one in a wrapper. -/
  shaped : ∀ shape, (∀ text, shape ≠ .unrecognized text) →
    (classify type = shape ↔ ∃ path, HasShape (strip type) path shape)
  /-- Every other type is classified as its text. -/
  shapeless : (∀ path shape, ¬HasShape (strip type) path shape) →
    classify type = .unrecognized (strip type).text
  /-- The name of a shape is read again as a type of that shape. -/
  reread : Written type → ∀ path shape, HasShape (strip type) path shape → ¬BeginsWithTry path →
    ∃ again, typeOfText? (shapeText shape) = some again ∧ classify again = shape
  /-- A name that begins with `try` is not read again. -/
  refused : Written type → ∀ path shape, HasShape (strip type) path shape → BeginsWithTry path →
    typeOfText? (shapeText shape) = none

/-- The text of segments behind a first one. -/
def furtherText (names : List String) : List Char := names.flatMap fun name => ':' :: ':' :: name.toList

variable {first wrapper : String} {further names : List String} {rest : List Char}
  {tokens more : List Token} {type : TypeExpr}

/-! ### Texts -/

theorem toList_joined (first : String) (further : List String) :
    ("::".intercalate (first :: further)).toList = first.toList ++ furtherText further := by
  rw [String.toList_intercalate, List.map_cons]
  induction further generalizing first with
  | nil => simp [furtherText, List.intercalate_singleton]
  | cons name names ih =>
    rw [List.map_cons, List.intercalate_cons_cons, ih]
    simp [furtherText]

theorem lexes_word (spelled : Spelled first.toList) (ends : Ends rest) (lexes : Lexes rest tokens) :
    Lexes (first.toList ++ rest) (.ident first :: tokens) := by
  have word := Lexes.word spelled ends lexes
  rwa [String.ofList_toList] at word

/-- Before a word a mark stands by itself. -/
theorem lexes_alone {c : Char} {text : List Char} (isMark : c ∈ pathMarks)
    (lexes : Lexes text (.ident first :: tokens)) :
    Lexes (c :: text) (.punct c .alone :: .ident first :: tokens) := by
  have alone : punctStart text = false := by
    generalize isWord : Token.ident first :: tokens = whole at lexes
    cases lexes with
    | nil => exact nomatch isWord
    | word spelled =>
      obtain ⟨start, others, rfl, starts⟩ := spelled_start spelled
      exact punctStart_start starts
    | mark => exact nomatch isWord
  have mark := Lexes.mark isMark lexes
  rwa [alone] at mark

theorem ends_nil : Ends [] := by
  intro c isHead
  exact nomatch isHead

theorem ends_mark {c : Char} (isMark : c ∈ pathMarks) : Ends (c :: rest) := by
  intro d isHead
  cases isHead
  exact isMark

theorem lexes_further (spelled : ∀ name ∈ names, Spelled name.toList) (ends : Ends rest)
    (lexes : Lexes rest more) : Ends (furtherText names ++ rest) ∧
      Lexes (furtherText names ++ rest) (furtherTokens names ++ more) := by
  induction names with
  | nil => exact ⟨ends, lexes⟩
  | cons name names ih =>
    have isColon : ':' ∈ pathMarks := by decide
    obtain ⟨isSpelled, others⟩ := List.forall_mem_cons.mp spelled
    obtain ⟨endsBehind, behind⟩ := ih others
    have joint : ∀ text, punctStart (':' :: text) = true := fun _ => rfl
    have colons := Lexes.mark isColon (lexes_alone isColon (lexes_word isSpelled endsBehind behind))
    refine ⟨ends_mark isColon, ?_⟩
    simpa [joint, furtherText, furtherTokens] using colons

/-- The tokens of a joined name. -/
theorem lexes_joined (words : ∀ name ∈ first :: further, PathWord name) (ends : Ends rest)
    (lexes : Lexes rest more) : Lexes (("::".intercalate (first :: further)).toList ++ rest)
      (.ident first :: (furtherTokens further ++ more)) := by
  obtain ⟨word, others⟩ := List.forall_mem_cons.mp words
  obtain ⟨endsBehind, behind⟩ := lexes_further (fun name among => (others name among).1) ends lexes
  rw [toList_joined, List.append_assoc]
  exact lexes_word word.1 endsBehind behind

theorem lex?_joined (words : ∀ name ∈ first :: further, PathWord name) :
    lex? ("::".intercalate (first :: further)) = some (.ident first :: furtherTokens further) := by
  have lexes := lex?_lexes (lexes_joined words ends_nil .nil)
  rwa [List.append_nil, List.append_nil, String.ofList_toList] at lexes

theorem lex?_wrapped (isWrapper : wrapper = "Option" ∨ wrapper = "Vec")
    (words : ∀ name ∈ first :: further, PathWord name) :
    lex? (wrapper ++ "<" ++ "::".intercalate (first :: further) ++ ">") =
      some (.ident wrapper :: .punct '<' .alone ::
        .ident first :: (furtherTokens further ++ [.punct '>' .alone])) := by
  have opens : '<' ∈ pathMarks := by decide
  have closes : '>' ∈ pathMarks := by decide
  have last : Lexes ['>'] [.punct '>' .alone] := .mark closes .nil
  have name := lexes_joined words (ends_mark closes) last
  have opened := lexes_alone opens name
  have lexes := lex?_lexes (lexes_word (wrapper_word isWrapper).1.1 (ends_mark opens) opened)
  have text : wrapper ++ "<" ++ "::".intercalate (first :: further) ++ ">" = String.ofList
      (wrapper.toList ++ '<' :: (("::".intercalate (first :: further)).toList ++ ['>'])) := by
    simp [← String.toList_inj]
  rw [text, lexes]

/-! ### Types -/

theorem joinedName_namedPath (first : String) (further : List String) :
    joinedName (namedPath first further) = "::".intercalate (first :: further) := by
  simp [joinedName, namedPath, Path.segments, Segment.name, Function.comp_def]

theorem argumentFree_namedPath (first : String) (further : List String) :
    ArgumentFree (namedPath first further) := by
  simp [ArgumentFree, namedPath, Path.segments, Segment.arguments]

theorem typeOf?_reads (reads : ∀ depth, Reads ((grammarOfDepth (depth + 4)).type true) tokens [] type) :
    typeOf? tokens = some type := by
  obtain ⟨after, read⟩ := reads (4 * countOf tokens + 12) []
  simp [typeOf?, parse?, readAll?, depthFor, read]

theorem typeOf?_fails (fails : ∀ depth, ((grammarOfDepth (depth + 4)).type true).run ⟨tokens, []⟩ = none) :
    typeOf? tokens = none := by
  simp [typeOf?, parse?, readAll?, depthFor, fails (4 * countOf tokens + 12)]

/-- A joined name is read as the path with these segments, unless it begins with `try`. -/
theorem typeOfText?_joined (words : ∀ name ∈ first :: further, PathWord name) :
    typeOfText? (joinedName (namedPath first further)) =
      if first = "try" then none else some (.path (namedPath first further)) := by
  rw [joinedName_namedPath, typeOfText?, lex?_joined words]
  split
  · rename_i isTry
    subst isTry
    change typeOf? (.ident "try" :: furtherTokens further) = none
    exact typeOf?_fails fun depth => anyType_try []
  · rename_i noTry
    refine typeOf?_reads fun depth => ?_
    have reads := @named_reads [] first further (depth + 2) (.inl rfl) words noTry
    rwa [List.append_nil] at reads

theorem wrapped_try {depth : Nat} (isWrapper : wrapper = "Option" ∨ wrapper = "Vec") (taken : List Token) :
    ((grammarOfDepth (depth + 4)).type true).run
      ⟨.ident wrapper :: .punct '<' .alone :: .ident "try" :: tokens, taken⟩ = none := by
  rcases isWrapper with rfl | rfl
  · rfl
  · rfl

/-- And with a wrapper around it as that. -/
theorem typeOfText?_wrapped (isWrapper : wrapper = "Option" ∨ wrapper = "Vec")
    (words : ∀ name ∈ first :: further, PathWord name) :
    typeOfText? (wrapper ++ "<" ++ joinedName (namedPath first further) ++ ">") =
      if first = "try" then none else some (.path (.mk false
        [.mk wrapper (.angle false [.type (.path (namedPath first further))] false)])) := by
  rw [joinedName_namedPath, typeOfText?, lex?_wrapped isWrapper words]
  split
  · rename_i isTry
    subst isTry
    change typeOf? (.ident wrapper :: _ :: .ident "try" :: _) = none
    exact typeOf?_fails fun depth => wrapped_try isWrapper []
  · rename_i noTry
    exact typeOf?_reads fun depth => wrapped_reads isWrapper words noTry

/-! ### Shapes -/

theorem within_worded {part : List Token} (within : Within part tokens) (isWorded : Worded tokens) :
    Worded part := by
  induction within with
  | here => exact isWorded
  | behind within ih => exact ih (worded_tail isWorded)
  | inside within ih => exact ih (worded_body isWorded)

theorem written_deep (written : Written type) : DeepType type := by
  obtain ⟨source, tokens, before, after, lexed, within, depth, allowPlus, read⟩ := written
  exact deepType_read (within_worded within (lex?_worded lexed)) read

theorem typeOfText?_written {source : String} (read : typeOfText? source = some type) : Written type := by
  simp only [typeOfText?, typeOf?, parse?, readAll?, Option.bind_eq_bind, Option.bind_eq_some_iff] at read
  obtain ⟨tokens, lexed, ⟨given, after⟩, run, whole⟩ := read
  obtain ⟨-, rfl⟩ : after.input.isEmpty = true ∧ given = type := by simpa using whole
  exact ⟨source, tokens, ⟨tokens, []⟩, after, lexed, .here, _, true, run⟩

theorem wraps_worded {path inner : Path} (deep : DeeplyWorded path) (wraps : Wraps wrapper path inner) :
    WordedPath inner := by
  cases wraps with
  | mk stripped plain =>
    have last := deep.segments _ (List.mem_append_right _ (List.mem_singleton_self _))
    exact last.sole _ rfl inner stripped

/-- The path by which a type of words has its shape is one of words. -/
theorem hasShape_worded {path : Path} {shape : Shape} (deep : DeepType type)
    (has : HasShape (strip type) path shape) : WordedPath path := by
  generalize isStripped : strip type = stripped at has
  cases has with
  | named => exact wordedPath_of_deep (deep _ isStripped)
  | qualified => exact wordedPath_of_deep (deep _ isStripped)
  | optional wraps => exact wraps_worded (deep _ isStripped) wraps
  | sequence wraps => exact wraps_worded (deep _ isStripped) wraps

/-- The path of a wrapper around a path of names wraps that. -/
theorem wraps_namedPath (wrapper first : String) (further : List String) : Wraps wrapper
    (.mk false [.mk wrapper (.angle false [.type (.path (namedPath first further))] false)])
    (namedPath first further) :=
  @Wraps.mk wrapper false false false [] _ _ rfl (argumentFree_namedPath first further)

/-- The text of a shape is read as a type of that shape, unless the name begins with `try`. -/
theorem shapeText_read {path : Path} {shape : Shape} (has : HasShape type path shape)
    (words : ∀ name ∈ first :: further, PathWord name)
    (names : path.segments.map (·.name) = first :: further) :
    ∃ again, (∃ named, HasShape again named shape) ∧
      typeOfText? (shapeText shape) = if first = "try" then none else some again := by
  have free := argumentFree_namedPath first further
  have name : joinedName path = joinedName (namedPath first further) := by
    rw [joinedName_namedPath, joinedName, names]
  have count : (namedPath first further).segments.length = path.segments.length := by
    simpa [namedPath, Path.segments] using (congrArg List.length names).symm
  cases has with
  | named plain single =>
    rw [name]
    exact ⟨_, ⟨_, .named free (count.trans single)⟩, typeOfText?_joined words⟩
  | qualified plain several =>
    rw [name]
    exact ⟨_, ⟨_, .qualified free (several.trans_eq count.symm)⟩, typeOfText?_joined words⟩
  | optional wraps =>
    rw [name]
    exact ⟨_, ⟨_, .optional (wraps_namedPath "Option" first further)⟩,
      typeOfText?_wrapped (.inl rfl) words⟩
  | sequence wraps =>
    rw [name]
    exact ⟨_, ⟨_, .sequence (wraps_namedPath "Vec" first further)⟩,
      typeOfText?_wrapped (.inr rfl) words⟩

/-- A type that was read, with a shape: its name is read again, if it does not begin with `try`. -/
theorem written_reread {path : Path} {shape : Shape} (written : Written type)
    (has : HasShape (strip type) path shape) : ∃ again, classify again = shape ∧
      (¬BeginsWithTry path → typeOfText? (shapeText shape) = some again) ∧
      (BeginsWithTry path → typeOfText? (shapeText shape) = none) := by
  obtain ⟨nonempty, words⟩ := hasShape_worded (written_deep written) has
  cases names : path.segments.map (·.name) with
  | nil => exact absurd (List.map_eq_nil_iff.mp names) nonempty
  | cons first further =>
    have isTry : BeginsWithTry path ↔ first = "try" := by
      rw [BeginsWithTry, ← List.head?_map, names, List.head?_cons, Option.some_inj]
    have allWords : ∀ name ∈ first :: further, PathWord name := by
      rw [← names]
      exact List.forall_mem_map.mpr words
    obtain ⟨again, ⟨named, isShape⟩, read⟩ := shapeText_read has allWords names
    rw [isTry, read]
    exact ⟨again, hasShape_classify isShape, fun noTry => if_neg noTry, fun isFirst => if_pos isFirst⟩

/-- What a type is classified as, and what its name is read as again. -/
theorem classify_settled (type : TypeExpr) : Settled type where
  stripped := classify_strip type
  shaped _ recognized := classify_iff recognized
  shapeless none := (classify_shape type).resolve_left fun ⟨path, has⟩ => none path _ has
  reread written path shape has noTry := by
    obtain ⟨again, same, read, -⟩ := written_reread written has
    exact ⟨again, read noTry, same⟩
  refused written path shape has isTry := by
    obtain ⟨-, -, -, refused⟩ := written_reread written has
    exact refused isTry

/-- Behind a leading mark `try` is the name of a shape, but by itself it is no type. -/
theorem leadingTry_lost : ∃ type path, Written type ∧ HasShape (strip type) path (.named "try") ∧
    ¬∃ again, typeOfText? (shapeText (.named "try")) = some again ∧ classify again = .named "try" := by
  have behind : (typeOfText? "::try").map classify = some (.named "try") := by decide +kernel
  have alone : (typeOfText? "try").isNone = true := by decide +kernel
  obtain ⟨type, read, isTry⟩ := Option.map_eq_some_iff.mp behind
  have recognized : ∀ text, Shape.named "try" ≠ .unrecognized text := by simp
  obtain ⟨path, has⟩ := (classify_iff recognized).mp isTry
  refine ⟨type, path, typeOfText?_written read, has, fun ⟨again, readAgain, _⟩ => ?_⟩
  rw [shapeText, Option.isNone_iff_eq_none.mp alone] at readAgain
  exact nomatch readAgain

end EnvLoader.RereadShapes
