import Mathlib
import EnvLoader.Source.Grammar
import EnvLoader.Proofs.NameTokens
import EnvLoader.Proofs.TypeShapes

/-! The words in what is read as a type. Every reader of the grammar leaves a rest of its tokens, so
identifiers stay spelled like identifiers. And the segments of a path are such identifiers, or the words
that a path may have in their place. -/
namespace EnvLoader.WordedTypes
open Source NameTokens TypeShapes Std.Do

set_option mvcgen.warning false

/-- Words that are no names, but may stand in a path. -/
def pathKeywords : List String := ["super", "self", "crate", "try", "Self"]

/-- A word that may be a segment of a path. -/
def PathWord (word : String) : Prop := Spelled word.toList ∧ (isName word ∨ word ∈ pathKeywords)

/-- A path of words. -/
structure WordedPath (path : Path) : Prop where
  nonempty : path.segments ≠ []
  words : ∀ segment ∈ path.segments, PathWord segment.name

/-- A type that is, brackets aside, a path of words if it is a path. -/
def WordedType (type : TypeExpr) : Prop := ∀ path, strip type = .path path → WordedPath path

/-- Arguments of which a type is one of words if it is the only one. -/
def WordedSole (arguments : Arguments) : Prop :=
  ∀ type, soleArgument? arguments = some type → WordedType type

/-- A word with such arguments. -/
structure WordedSegment (segment : Segment) : Prop where
  word : PathWord segment.name
  sole : WordedSole segment.arguments

/-- A path of such segments. -/
structure DeeplyWorded (path : Path) : Prop where
  nonempty : path.segments ≠ []
  segments : ∀ segment ∈ path.segments, WordedSegment segment

/-- A type that is, brackets aside, such a path if it is a path. -/
def DeepType (type : TypeExpr) : Prop := ∀ path, strip type = .path path → DeeplyWorded path

variable {α : Type} {tokens rest body : List Token} {token : Token} {name : String}
  {delimiter : Delimiter} {type : TypeExpr} {path : Path}

/-- What assertions about readers are about: the state, and that nothing may be read. -/
abbrev Reading : PostShape := .arg ReadState (.except PUnit .pure)

/-- What is still to read is worded. -/
abbrev worded : Assertion Reading := fun state => ⌜Worded state.input⌝

/-- If anything is read, then what is given has a property and what is still to read is worded. -/
abbrev gives (result : α → Prop) : PostCond α Reading :=
  ⇓? value => fun state => ⌜Worded state.input ∧ result value⌝

/-! ### Tokens -/

@[grind →] theorem worded_tail (isWorded : Worded (token :: rest)) : Worded rest :=
  fun word among => isWorded word (List.mem_append_right _ among)

@[grind →] theorem worded_body (isWorded : Worded (.group delimiter body :: rest)) : Worded body :=
  fun word among => isWorded word (List.mem_append_left _ among)

@[grind →] theorem worded_ident (isWorded : Worded (.ident name :: rest)) : Spelled name.toList :=
  isWorded name (List.mem_append_left _ (List.mem_singleton_self name))

@[grind →] theorem afterMark?_worded {chars : List Char} (after : afterMark? chars tokens = some rest)
    (isWorded : Worded tokens) : Worded rest := by
  fun_induction afterMark? chars tokens with
  | case1 =>
    cases after
    exact isWorded
  | case2 =>
    cases after
    exact worded_tail isWorded
  | case3 => exact nomatch after
  | case4 _ _ _ _ ih => exact ih after (worded_tail isWorded)
  | case5 => exact nomatch after
  | case6 => exact nomatch after

@[grind →] theorem pathWord_of_atWord (isWord : atWord "Self" (.ident name :: rest) = true)
    (isWorded : Worded (.ident name :: rest)) : PathWord name := by
  obtain rfl : name = "Self" := by simpa [atWord] using isWord
  exact ⟨worded_ident isWorded, .inr (by decide)⟩

@[grind →] theorem pathWord_of_atWordOf
    (isWord : atWordOf ["super", "self", "crate", "try"] (.ident name :: rest) = true)
    (isWorded : Worded (.ident name :: rest)) : PathWord name := by
  refine ⟨worded_ident isWorded, .inr ?_⟩
  have isWord : name = "super" ∨ name = "self" ∨ name = "crate" ∨ name = "try" := by
    simpa [atWordOf, atWord] using isWord
  rcases isWord with rfl | rfl | rfl | rfl <;> decide

/-! ### Types -/

theorem wordedPath_of_deep (deep : DeeplyWorded path) : WordedPath path :=
  ⟨deep.nonempty, fun segment among => (deep.segments segment among).word⟩

@[grind →] theorem wordedType_of_deep (deep : DeepType type) : WordedType type :=
  fun path isPath => wordedPath_of_deep (deep path isPath)

/-- What is no path, brackets aside, has nothing to be shown of it. -/
theorem pathless_deep (pathless : ∀ path, strip type ≠ .path path) : DeepType type :=
  fun path isPath => absurd isPath (pathless path)

@[grind .] theorem deeplyWorded_mk {leading : Bool} {first : Segment} {more : List Segment}
    (isFirst : WordedSegment first) (isMore : ∀ segment ∈ more, WordedSegment segment) :
    DeeplyWorded (.mk leading (first :: more)) :=
  ⟨List.cons_ne_nil _ _, List.forall_mem_cons.mpr ⟨isFirst, isMore⟩⟩

@[grind .] theorem wordedSole_none : WordedSole .none := nofun

@[grind .] theorem wordedSole_angle {turbofish trailing : Bool} {arguments : List Argument}
    (isWorded : ∀ argument ∈ arguments, ∀ type, argument = .type type → WordedType type) :
    WordedSole (.angle turbofish arguments trailing) := by
  intro type sole
  obtain ⟨_, _, same⟩ := soleArgument?_iff.mp sole
  cases same
  exact isWorded _ (List.mem_singleton_self _) type rfl

@[grind .] theorem wordedSegment_mk {arguments : Arguments} (word : PathWord name)
    (sole : WordedSole arguments) : WordedSegment (.mk name arguments) := ⟨word, sole⟩

/-! ### Readers of tokens -/

@[spec] theorem option_gives (value? : Option α) : ⦃⌜True⌝⦄ value? ⦃⇓? value => ⌜value? = some value⌝⦄ := by
  cases value? with
  | none => exact fun _ => trivial
  | some value => exact fun _ => rfl

@[spec] theorem failure_gives {post : PostCond α Reading} (mayFail : ∀ failed, (post.2.1 failed).down) :
    ⦃⌜True⌝⦄ (failure : Reader α) ⦃post⦄ :=
  fun _ _ => mayFail PUnit.unit

@[spec] theorem advance_keeps (rest normal : List Token) :
    ⦃fun _ => ⌜Worded rest⌝⦄ advance rest normal ⦃⇓? _ => worded⦄ := by
  mvcgen [advance]

@[spec] theorem passOn_keeps (tokens : List Token) : ⦃worded⦄ passOn tokens ⦃⇓? _ => worded⦄ := by
  mvcgen [passOn]

@[spec] theorem ahead_keeps (test : Ahead) : ⦃worded⦄ ahead test ⦃⇓? _ => worded⦄ := by
  mvcgen [ahead]

@[spec] theorem require_keeps (condition : Bool) : ⦃worded⦄ require condition ⦃⇓? _ => worded⦄ := by
  mvcgen [require]

@[spec] theorem takeMark_keeps (text : String) : ⦃worded⦄ takeMark text ⦃⇓? _ => worded⦄ := by
  mvcgen [takeMark] with grind

@[spec] theorem optMark_keeps (text : String) : ⦃worded⦄ optMark text ⦃⇓? _ => worded⦄ := by
  mvcgen [optMark] with grind

@[spec] theorem optMarkIf_keeps (condition : Bool) (text : String) :
    ⦃worded⦄ optMarkIf condition text ⦃⇓? _ => worded⦄ := by
  mvcgen [optMarkIf]

@[spec] theorem takeWord_keeps (word : String) : ⦃worded⦄ takeWord word ⦃⇓? _ => worded⦄ := by
  mvcgen [takeWord] with grind

@[spec] theorem optWord_keeps (word : String) : ⦃worded⦄ optWord word ⦃⇓? _ => worded⦄ := by
  mvcgen [optWord]

@[spec] theorem anyWord_gives : ⦃worded⦄ anyWord ⦃gives fun name => Spelled name.toList⦄ := by
  mvcgen [anyWord] with grind

@[spec] theorem takeName_gives : ⦃worded⦄ takeName ⦃gives PathWord⦄ := by
  mvcgen [takeName, ahead, require, anyWord] with grind [atName, PathWord]

@[spec] theorem takeLifetime_keeps : ⦃worded⦄ takeLifetime ⦃⇓? _ => worded⦄ := by
  mvcgen [takeLifetime] with grind

@[spec] theorem optLifetime_keeps : ⦃worded⦄ optLifetime ⦃⇓? _ => worded⦄ := by
  mvcgen [optLifetime]

@[spec] theorem takeLiteral_keeps : ⦃worded⦄ takeLiteral ⦃⇓? _ => worded⦄ := by
  mvcgen [takeLiteral] with grind

@[spec] theorem anyTree_keeps : ⦃worded⦄ anyTree ⦃⇓? _ => worded⦄ := by
  mvcgen [anyTree] with grind

@[spec] theorem anyGroup_keeps : ⦃worded⦄ anyGroup ⦃⇓? _ => worded⦄ := by
  mvcgen [anyGroup]

/-! ### Readers made of readers -/

section
variable {reader : Reader α} {result : α → Prop} {stop test : Ahead} {separator : String}

theorem holds_of_run {post : α → ReadState → Prop} {before : ReadState} {read : α × ReadState}
    (holds : ⦃worded⦄ reader ⦃⇓? value => fun state => ⌜post value state⌝⦄)
    (run : reader before = some read) (isWorded : Worded before.input) : post read.1 read.2 := by
  have outcome := holds before isWorded
  change (wp⟦reader before⟧ (fun read => ⌜post read.1 read.2⌝, ExceptConds.true)).down at outcome
  rw [run] at outcome
  exact outcome

theorem triple_at {post : PostCond α Reading} {state : ReadState} (holds : ⦃worded⦄ reader ⦃post⦄)
    (isWorded : Worded state.input) : (wp⟦reader⟧ post state).down := holds state isWorded

theorem gives_true (keeps : ⦃worded⦄ reader ⦃⇓? _ => worded⦄) :
    ⦃worded⦄ reader ⦃gives fun _ => True⦄ := by
  mvcgen [keeps] with grind

theorem inGroup_gives (inside : ⦃worded⦄ reader ⦃⇓? value => ⌜result value⌝⦄) :
    ⦃worded⦄ inGroup delimiter reader ⦃gives result⦄ := by
  mvcgen [inGroup, require] with grind [holds_of_run inside]

/-- Of a reader that is not known nothing is claimed. -/
theorem runs_anyhow (reader : Reader α) : ⦃⌜True⌝⦄ reader ⦃⇓? _ => ⌜True⌝⦄ := by
  intro state _
  change (wp⟦reader state⟧ (fun _ => ⌜True⌝, ExceptConds.true)).down
  cases reader state with
  | none => trivial
  | some read => trivial

/-- Whatever is read inside brackets, behind them the reading goes on with the tokens that follow. -/
@[spec] theorem inGroup_keeps : ⦃worded⦄ inGroup delimiter reader ⦃⇓? _ => worded⦄ := by
  mvcgen [inGroup, require] with grind

theorem apart_gives (inside : ⦃worded⦄ reader ⦃gives result⦄) :
    ⦃worded⦄ apart reader ⦃gives fun given => result given.1⦄ := by
  mvcgen [apart]
  exact holds_of_run inside ‹_› ‹_›

theorem rewriting_gives {change : α → List Token → List Token} (inside : ⦃worded⦄ reader ⦃gives result⦄) :
    ⦃worded⦄ rewriting change reader ⦃gives result⦄ := by
  have given := apart_gives inside
  mvcgen [rewriting, given]

theorem orWritten_gives {keep : List Token → α} {reader : Reader (Option α)}
    (inside : ⦃worded⦄ reader ⦃gives fun value? => ∀ value ∈ value?, result value⦄)
    (kept : ∀ tokens, result (keep tokens)) : ⦃worded⦄ orWritten keep reader ⦃gives result⦄ := by
  have given := apart_gives inside
  mvcgen [orWritten, given] with grind

theorem whileAhead_gives (inside : ⦃worded⦄ reader ⦃gives result⦄) :
    ⦃worded⦄ whileAhead test reader ⦃gives fun items => ∀ item ∈ items, result item⦄ := by
  have go : ∀ fuel, ⦃worded⦄ whileAhead.go test reader fuel
      ⦃gives fun items => ∀ item ∈ items, result item⦄ := by
    intro fuel
    induction fuel with
    | zero =>
      mvcgen [whileAhead.go]
      all_goals grind
    | succ fuel ih =>
      mvcgen [whileAhead.go, inside, ih]
      all_goals grind
  mvcgen [whileAhead, go]

theorem listUntil_gives (inside : ⦃worded⦄ reader ⦃gives result⦄) :
    ⦃worded⦄ listUntil stop separator reader ⦃gives fun items => ∀ item ∈ items.1, result item⦄ := by
  have go : ∀ fuel separated, ⦃worded⦄ listUntil.go stop separator reader fuel separated
      ⦃gives fun items => ∀ item ∈ items.1, result item⦄ := by
    intro fuel separated
    induction fuel generalizing separated with
    | zero => mvcgen [listUntil.go]
    | succ fuel ih =>
      mvcgen [listUntil.go, inside, ih]
      all_goals grind
  mvcgen [listUntil, go]

variable (keeps : ⦃worded⦄ reader ⦃⇓? _ => worded⦄)
include keeps

@[spec] theorem captured_keeps : ⦃worded⦄ captured reader ⦃⇓? _ => worded⦄ := by
  have given := apart_gives (gives_true keeps)
  mvcgen [captured, given] with grind

@[spec] theorem normalized_keeps {write : α → List Token} :
    ⦃worded⦄ normalized write reader ⦃⇓? _ => worded⦄ := by
  have given := apart_gives (gives_true keeps)
  mvcgen [normalized, rewriting, given] with grind

@[spec] theorem whileAhead_keeps : ⦃worded⦄ whileAhead test reader ⦃⇓? _ => worded⦄ := by
  have given := @whileAhead_gives _ _ _ test (gives_true keeps)
  mvcgen [given] with grind

@[spec] theorem listUntil_keeps : ⦃worded⦄ listUntil stop separator reader ⦃⇓? _ => worded⦄ := by
  have given := @listUntil_gives _ _ _ stop separator (gives_true keeps)
  mvcgen [given] with grind

@[spec] theorem listWhile_keeps : ⦃worded⦄ listWhile stop separator reader ⦃⇓? _ => worded⦄ := by
  have go : ∀ fuel separated, ⦃worded⦄ listWhile.go stop separator reader fuel separated
      ⦃⇓? _ => worded⦄ := by
    intro fuel separated
    induction fuel generalizing separated with
    | zero => mvcgen [listWhile.go]
    | succ fuel ih => mvcgen [listWhile.go, keeps, ih]
  mvcgen [listWhile, go]

end

@[spec] theorem orWritten_keeps {keep : List Token → α} {reader : Reader (Option α)}
    (keeps : ⦃worded⦄ reader ⦃⇓? _ => worded⦄) : ⦃worded⦄ orWritten keep reader ⦃⇓? _ => worded⦄ := by
  have given := apart_gives (gives_true keeps)
  mvcgen [orWritten, given] with grind

/-! ### Readers of types -/

@[spec] theorem captureList_keeps : ⦃worded⦄ captureList ⦃⇓? _ => worded⦄ := by
  mvcgen [captureList] with grind

@[spec] theorem optAbi_keeps : ⦃worded⦄ optAbi ⦃⇓? _ => worded⦄ := by
  mvcgen [optAbi]

@[spec] theorem builtin_keeps : ⦃worded⦄ builtin ⦃⇓? _ => worded⦄ := by
  mvcgen [builtin, written] with grind

/-- A grammar whose readers leave rests of their tokens and give types of words. Expressions stand in
brackets wherever types nest them, so of these nothing needs to be known. -/
class WordedGrammar (grammar : TypeGrammar) : Prop where
  type (allowPlus : Bool) : ⦃worded⦄ grammar.type allowPlus ⦃gives DeepType⦄
  path (inExpression : Bool) : ⦃worded⦄ grammar.path inExpression ⦃gives DeeplyWorded⦄
  param : ⦃worded⦄ grammar.param ⦃⇓? _ => worded⦄
  block : ⦃worded⦄ grammar.block ⦃⇓? _ => worded⦄

attribute [spec] WordedGrammar.type WordedGrammar.path WordedGrammar.param WordedGrammar.block

section
variable {grammar : TypeGrammar}

@[spec] theorem attributes_keeps : ⦃worded⦄ grammar.attributes ⦃⇓? _ => worded⦄ := by
  mvcgen [TypeGrammar.attributes, outerAttributes, outerAttribute]

variable [WordedGrammar grammar] {allowPlus inExpression : Bool}

@[spec] theorem constantArgument_keeps : ⦃worded⦄ grammar.constantArgument ⦃⇓? _ => worded⦄ := by
  mvcgen [TypeGrammar.constantArgument] with grind

@[spec] theorem binder_keeps : ⦃worded⦄ grammar.binder ⦃⇓? _ => worded⦄ := by
  mvcgen [TypeGrammar.binder]

@[spec] theorem optBinder_keeps : ⦃worded⦄ grammar.optBinder ⦃⇓? _ => worded⦄ := by
  mvcgen [TypeGrammar.optBinder]

@[spec] theorem output_keeps : ⦃worded⦄ grammar.output allowPlus ⦃⇓? _ => worded⦄ := by
  mvcgen [TypeGrammar.output] with grind

@[spec] theorem inputArguments_keeps : ⦃worded⦄ grammar.inputArguments ⦃⇓? _ => worded⦄ := by
  mvcgen [TypeGrammar.inputArguments]

@[spec] theorem withInputs_keeps : ⦃worded⦄ grammar.withInputs path ⦃⇓? _ => worded⦄ := by
  mvcgen [TypeGrammar.withInputs]

@[spec] theorem traitBound?_keeps {allowConst isParen : Bool} :
    ⦃worded⦄ grammar.traitBound? allowConst isParen ⦃⇓? _ => worded⦄ := by
  mvcgen [TypeGrammar.traitBound?] with grind

@[spec] theorem bound_keeps {allowCapture allowConst : Bool} :
    ⦃worded⦄ grammar.bound allowCapture allowConst ⦃⇓? _ => worded⦄ := by
  mvcgen [TypeGrammar.bound]

@[spec] theorem boundsUntil_keeps {stop : Ahead} : ⦃worded⦄ grammar.boundsUntil stop ⦃⇓? _ => worded⦄ := by
  mvcgen [TypeGrammar.boundsUntil]

@[spec] theorem typeBounds_keeps {isOpaque : Bool} :
    ⦃worded⦄ grammar.typeBounds allowPlus isOpaque ⦃⇓? _ => worded⦄ := by
  mvcgen [TypeGrammar.typeBounds]

@[spec] theorem furtherBounds_keeps : ⦃worded⦄ grammar.furtherBounds ⦃⇓? _ => worded⦄ := by
  mvcgen [TypeGrammar.furtherBounds]

@[spec] theorem genericParam_keeps : ⦃worded⦄ grammar.genericParam ⦃⇓? _ => worded⦄ := by
  mvcgen [TypeGrammar.genericParam, lifetimesUntil] with grind

theorem argument_gives : ⦃worded⦄ grammar.argument ⦃gives fun argument =>
    ∀ type, argument = .type type → WordedType type⦄ := by
  mvcgen [TypeGrammar.argument]
  -- a name without arguments in round brackets may turn out to be that of an associated item
  case vc8.post.success.isFalse.post.success.isFalse.post.success.h_1 =>
    rename_i isInputs
    intro state isWorded deep
    clear_value isInputs
    refine triple_at ?_ isWorded
    split
    · mvcgen with grind
    · mvcgen with grind
  all_goals grind

theorem angleArguments_gives {turbofish : Bool} :
    ⦃worded⦄ grammar.angleArguments turbofish ⦃gives WordedSole⦄ := by
  have arguments := @listUntil_gives _ _ _ (atMark ">") "," (@argument_gives grammar _)
  mvcgen [TypeGrammar.angleArguments, arguments, -listUntil_keeps] with grind

/-- A segment is a keyword or a name: what comes next decides that, so the tests are opened here. -/
theorem segment_gives : ⦃worded⦄ grammar.segment inExpression ⦃gives WordedSegment⦄ := by
  have arguments := @angleArguments_gives grammar _
  mvcgen [TypeGrammar.segment, ahead, anyWord, arguments]
  all_goals grind

theorem wholePath_gives : ⦃worded⦄ grammar.wholePath inExpression ⦃gives DeeplyWorded⦄ := by
  have segment := @segment_gives grammar _ inExpression
  have further : ⦃worded⦄ (do takeMark "::"; grammar.segment inExpression) ⦃gives WordedSegment⦄ := by
    mvcgen [segment]
  have rest (test : Ahead) := @whileAhead_gives _ _ _ test further
  unfold TypeGrammar.wholePath normalized
  refine rewriting_gives ?_
  mvcgen [segment, rest, -whileAhead_keeps] with grind

theorem qualifiedPath_gives : ⦃worded⦄ grammar.qualifiedPath inExpression ⦃gives DeepType⦄ := by
  have segment := @segment_gives grammar _ inExpression
  unfold TypeGrammar.qualifiedPath normalized
  refine rewriting_gives ?_
  mvcgen [segment] with grind [DeepType, strip]

theorem functionPointer_gives {binder : Option Binder} :
    ⦃worded⦄ grammar.functionPointer binder ⦃gives DeepType⦄ := by
  mvcgen [TypeGrammar.functionPointer] with grind [DeepType, strip]

theorem dynType_gives : ⦃worded⦄ grammar.dynType allowPlus ⦃gives DeepType⦄ := by
  refine orWritten_gives ?_ (fun _ => pathless_deep nofun)
  mvcgen with grind [DeepType, strip]

theorem pathType_gives {binder : Option Binder} :
    ⦃worded⦄ grammar.pathType binder allowPlus ⦃gives DeepType⦄ := by
  have qualified := @qualifiedPath_gives grammar _ false
  mvcgen [TypeGrammar.pathType, qualified] with grind [DeepType, strip]

theorem insideParens_gives : ⦃worded⦄ grammar.insideParens
    ⦃gives fun inside => ∀ type, inside = .inl type → DeepType type⦄ := by
  mvcgen [TypeGrammar.insideParens, commaList] with grind [DeepType, strip]

theorem parenthesised_gives : ⦃worded⦄ grammar.parenthesised allowPlus ⦃gives DeepType⦄ := by
  have inside := @insideParens_gives grammar _
  have group : ⦃worded⦄ inGroup .paren grammar.insideParens
      ⦃gives fun inside => ∀ type, inside = .inl type → DeepType type⦄ := by
    refine inGroup_gives ?_
    mvcgen [inside] with grind
  mvcgen [TypeGrammar.parenthesised, group, -inGroup_keeps] with grind [DeepType, strip]

/-- The inside of square brackets. What the length is does not matter, as nothing follows it. -/
theorem element_gives : ⦃worded⦄ inGroup .bracket (do
    let element ← grammar.type true
    if ← optMark ";" then return .array element (← captured grammar.expression)
    else return .slice element) ⦃gives DeepType⦄ := by
  have length := runs_anyhow (captured grammar.expression)
  refine inGroup_gives ?_
  mvcgen [length, -captured_keeps] with grind [DeepType, strip]

theorem anyType_gives : ⦃worded⦄ grammar.anyType allowPlus ⦃gives DeepType⦄ := by
  have parenthesised := @parenthesised_gives grammar _ allowPlus
  have functionPointer (binder) := @functionPointer_gives grammar _ binder
  have pathType (binder) := @pathType_gives grammar _ allowPlus binder
  have dynType := @dynType_gives grammar _ allowPlus
  have element := @element_gives grammar _
  unfold TypeGrammar.anyType normalized
  refine rewriting_gives ?_
  mvcgen [parenthesised, functionPointer, pathType, dynType, element, -inGroup_keeps] with
    grind [DeepType, strip]

end

instance emptyGrammar_worded : WordedGrammar CodeGrammar.empty.toTypeGrammar where
  type _ := fun _ _ => trivial
  path _ := fun _ _ => trivial
  param := fun _ _ => trivial
  block := fun _ _ => trivial

instance layer_worded (grammar : CodeGrammar) [WordedGrammar grammar.toTypeGrammar] :
    WordedGrammar grammar.layer.toTypeGrammar where
  type _ := anyType_gives
  path _ := wholePath_gives
  param := genericParam_keeps
  block := by
    change ⦃worded⦄ (do let _ ← grammar.blockBody) ⦃⇓? _ => worded⦄
    mvcgen [CodeGrammar.blockBody]

instance grammarOfDepth_worded (depth : Nat) : WordedGrammar (grammarOfDepth depth).toTypeGrammar := by
  induction depth with
  | zero => exact emptyGrammar_worded
  | succ depth ih => exact @layer_worded (grammarOfDepth depth) ih

/-- What is read as a type from worded tokens is a type of words. -/
theorem deepType_read {depth : Nat} {allowPlus : Bool} {before after : ReadState}
    (isWorded : Worded before.input)
    (read : ((grammarOfDepth depth).type allowPlus).run before = some (type, after)) : DeepType type :=
  (holds_of_run (WordedGrammar.type allowPlus) read isWorded).2

end EnvLoader.WordedTypes
