import EnvLoader.LoadMessage
import EnvLoader.Loader.ErrorCode
import EnvLoader.Proofs.KeyNames
import EnvLoader.Proofs.Requests
import EnvLoader.Proofs.StringLiterals
import EnvLoader.Proofs.VariantUse
import Mathlib.Data.List.Basic

/-! The error enumeration of a loader, as code. Its tokens are read back as one variant for each name
that was asked for and two methods that go through the variants. Both have an arm for every value, and
none in vain; a value is shown by its message, and its source is what it was caused by. -/
namespace EnvLoader.DeclaredErrors
open Loader Source Outcomes VariantUse

/-- Variants that can be declared together. Their names are identifiers, of which no two differ only
by a mark that makes them raw, and their sources are types. -/
structure Declarable (variants : List ErrorVariant) : Prop where
  named : ∀ variant ∈ variants, nameOfText? variant.name = some variant.name
  apart : ∀ first ∈ variants, ∀ second ∈ variants,
    sameName first.name second.name → first.name = second.name
  typed : ∀ variant ∈ variants, ∀ source ∈ variant.source, (typeOfText? source).isSome

/-- The arms of a match take all values, and each of them some value that none before it takes. -/
structure Covering (Holds : ErrorValue → Prop) (arms : List MatchArm) : Prop where
  exhaustive : ∀ value, Holds value → ∃ arm ∈ arms, arm.takes value
  reachable : ∀ front arm rest, arms = front ++ arm :: rest →
    ∃ value, Holds value ∧ arm.takes value ∧ ∀ earlier ∈ front, ¬ earlier.takes value

/-- The code of an enumeration declares variants that were asked for. -/
structure Declares (variants : List ErrorVariant) (name : String) (error : ErrorCode) : Prop where
  name : error.name = name
  /-- Each name is declared once, in the order in which they were asked for. -/
  names : error.variants.map (·.name) = (variants.map (·.name)).eraseDups
  /-- What counts is what a name was first asked for with. -/
  first : ∀ declared ∈ error.variants, ∃ variant, ∃ type : Option TypeExpr,
    variants.find? (·.name = declared.name) = some variant ∧
      declared.doc = " " ++ variant.message ++ "." ∧
      variant.source.map typeOfText? = type.map some ∧
      declared.source = type.map TypeExpr.tokens
  shown : ∀ value, error.Holds value → ∃ variant,
    variants.find? (·.name = value.variant) = some variant ∧
      error.shown? value = some (failureMessage variant value.context value.cause)
  caused : ∀ value, error.Holds value → error.source? value = some value.cause
  covering : ∀ arms, error.display = .matching arms ∨ error.source = .matching arms →
    Covering error.Holds arms

variable {front rest body : List Token} {items : List (List Token)} {name : String}
  {case : ErrorCase} {cases : List ErrorCase} {variant : ErrorVariant} {variants : List ErrorVariant}
  {value : ErrorValue}

/-! ### Cutting code -/

/-- Whether a token is no group in curly brackets. -/
def isBraceless : Token → Bool
  | .group .brace _ => false
  | _ => true

theorem cutBraces?_front (braceless : ∀ token ∈ front, isBraceless token = true) :
    cutBraces? (front ++ .group .brace body :: rest) = some (front, body, rest) := by
  induction front with
  | nil => rfl
  | cons token front ih =>
    obtain ⟨first, others⟩ := List.forall_mem_cons.mp braceless
    rw [List.cons_append, cutBraces?, ih others]
    · rfl
    · rintro inner rfl
      exact nomatch first

theorem cutArrow?_front (arrowless : ∀ token ∈ front, token ≠ .punct '=' .joint) :
    cutArrow? (front ++ mark "=>" ++ body) = some (front, body) := by
  induction front with
  | nil => rfl
  | cons token front ih =>
    obtain ⟨first, others⟩ := List.forall_mem_cons.mp arrowless
    rw [List.cons_append, List.cons_append, cutArrow?, ih others]
    · rfl
    · rintro inner rfl
      exact absurd rfl first

theorem commaParts_comma (plain : ∀ item ∈ items, ∀ token ∈ item, isComma token = false) :
    commaParts (commaTokens true items) = items := by
  have split : (commaTokens true items).splitOnP isComma = items ++ [[]] := by
    induction items with
    | nil => rfl
    | cons item items ih =>
      obtain ⟨first, others⟩ := List.forall_mem_cons.mp plain
      have cut : (item ++ mark "," ++ commaTokens true items).splitOnP isComma =
          item :: (items ++ [[]]) := by
        rw [List.append_assoc, ← ih others]
        exact List.splitOnP_append_cons_of_forall_mem first _ rfl _
      cases items with
      | nil => simpa [commaTokens_nil, commaTokens_last] using cut
      | cons next items => exact cut
  simp [commaParts, split]

theorem spelledAlike_self (tokens : List Token) : spelledAlike tokens tokens = true :=
  beq_self_eq_true _

theorem nameBehind?_name (before front : List Token) (name : String) :
    nameBehind? front (before ++ front ++ word name) = some name := by
  simp [nameBehind?, word, spelledAlike_self]

/-- Emitted one after another, each with a comma behind it, items stand between commas. -/
theorem commaTokens_flatten (items : List (List Token)) :
    commaTokens true items = (items.map (· ++ mark ",")).flatten := by
  induction items with
  | nil => rfl
  | cons item items ih =>
    cases items with
    | nil => simp [commaTokens_last]
    | cons next items =>
      rw [List.map_cons, List.flatten_cons, ← ih]
      rfl

/-- What is read from each of several pieces of code is read from all of them. -/
theorem mapM_read {α β ι : Type} {items : List ι} {emit : ι → α} {read : α → Option β}
    {code : ι → β} (each : ∀ item ∈ items, read (emit item) = some (code item)) :
    (items.map emit).mapM read = some (items.map code) := by
  induction items with
  | nil => rfl
  | cons item items ih =>
    obtain ⟨first, others⟩ := List.forall_mem_cons.mp each
    rw [List.map_cons, List.mapM_cons, first, ih others]
    rfl

/-! ### Reading what is emitted -/

/-- The names that an arm gives to the fields of a case. -/
def fieldNames (context : String) (case : ErrorCase) : List String :=
  context :: if case.source.isSome then ["source"] else []

/-- An arm as it is emitted. -/
def armTokens (case : ErrorCase) (fields body : List Token) : List Token :=
  member "Self" case.name ++ inParens fields ++ mark "=>" ++ body

/-- The code of a case's declaration. -/
def variantCode (case : ErrorCase) : VariantCode :=
  ⟨" " ++ case.message ++ ".", case.name, case.source.map TypeExpr.tokens⟩

/-- An arm for a case, which gives its fields names. -/
def armFor (context : String) (body : ErrorCase → List Token) (case : ErrorCase) : MatchArm :=
  ⟨.variant case.name (fieldNames context case), body case⟩

/-- The code that shows a case. -/
def showing (case : ErrorCase) : List Token :=
  code "write !" ++ inParens (word "f" ++ mark "," ++ quoted case.displayFormat)

/-- The code that gives the source of a case. -/
def giving (case : ErrorCase) : List Token :=
  word "Some" ++ inParens (code (if case.source.any isBoxed then "& * * source" else "source"))

/-- The arm that shows a case. -/
def displayCode : ErrorCase → MatchArm := armFor "context" showing

/-- The arm that gives the source of a case. -/
def sourceCode : ErrorCase → MatchArm := armFor "_" giving

/-- That arm as it is emitted. -/
def sourceTokens (case : ErrorCase) : List Token :=
  armTokens case (code "_ , source") (giving case)

/-- The arm for all cases without a source. -/
def sourceless : MatchArm := ⟨.any, word "None"⟩

/-- The arms that give the source of a case. -/
def sourceArms (cases : List ErrorCase) : List MatchArm :=
  (cases.filter (·.source.isSome)).map sourceCode ++
    if cases.all (·.source.isSome) then [] else [sourceless]

/-- The code of an enumeration. -/
def codeOf (error : ErrorEnum) : ErrorCode where
  name := error.name
  variants := error.cases.map variantCode
  display := .matching (error.cases.map displayCode)
  source :=
    if error.cases.any (·.source.isSome) then .matching (sourceArms error.cases)
    else .plain (word "None")

theorem variantCode?_declaration (case : ErrorCase) :
    variantCode? case.declaration = some (variantCode case) := by
  have isMark : mark "#" = [.punct '#' .alone] ∧ mark "=" = [.punct '=' .alone] ∧
      mark "," = [.punct ',' .alone] := ⟨rfl, rfl, rfl⟩
  unfold ErrorCase.declaration variantCode
  cases case.source with
  | none => simp [docTokens, inParens, word, quoted, isMark, variantCode?]
  | some type => simp [docTokens, inParens, word, quoted, isMark, variantCode?]

theorem armTokens_pattern (case : ErrorCase) (fields : List Token) :
    member "Self" case.name ++ inParens fields =
      [.ident "Self", .punct ':' .joint, .punct ':' .alone, .ident case.name,
        .group .paren fields] := by
  rw [member_eq]
  rfl

/-- An arm is read as its pattern and its body. -/
theorem matchArm?_case {context : String} {fields : List Token}
    (named : namesBetween? fields = some (fieldNames context case)) :
    matchArm? (armTokens case fields body) =
      some ⟨.variant case.name (fieldNames context case), body⟩ := by
  rw [matchArm?, armTokens, armTokens_pattern, cutArrow?_front (by simp)]
  simp [armPattern?, named]

theorem armTokens_commaless {fields : List Token} (plain : ∀ token ∈ body, isComma token = false) :
    ∀ token ∈ armTokens case fields body, isComma token = false := by
  rw [armTokens, armTokens_pattern]
  intro token listed
  have arrow : mark "=>" = [.punct '=' .joint, .punct '>' .alone] := rfl
  simp only [arrow, List.cons_append, List.nil_append, List.mem_cons] at listed
  rcases listed with rfl | rfl | rfl | rfl | rfl | rfl | rfl | listed
  all_goals first | rfl | exact plain token listed

theorem displayArm_eq (case : ErrorCase) : case.displayArm =
    armTokens case (code (if case.source.isSome then "context , source" else "context"))
      (showing case) := by
  simp [ErrorCase.displayArm, armTokens, showing]

theorem matchArm?_display (case : ErrorCase) : matchArm? case.displayArm = some (displayCode case) := by
  rw [displayArm_eq, matchArm?_case]
  · rfl
  · unfold fieldNames
    split <;> rfl

theorem sourceArm?_eq (case : ErrorCase) : case.sourceArm? =
    if case.source.isSome then some (sourceTokens case ++ mark ",") else none := by
  unfold ErrorCase.sourceArm?
  cases sourced : case.source with
  | none => rfl
  | some type => simp [sourceTokens, armTokens, giving, sourced]

theorem matchArm?_source (sourced : case.source.isSome = true) :
    matchArm? (sourceTokens case) = some (sourceCode case) := by
  have named : namesBetween? (code "_ , source") = some (fieldNames "_" case) := by
    rw [fieldNames, if_pos sourced]
    rfl
  exact matchArm?_case named

/-- A match with arms is read arm by arm. -/
theorem methodCode?_match {arms : List MatchArm} (nonempty : items ≠ [])
    (plain : ∀ item ∈ items, ∀ token ∈ item, isComma token = false)
    (read : items.mapM matchArm? = some arms) :
    methodCode? (code "match self" ++ inBraces (commaTokens true items)) = some (.matching arms) := by
  have more : (commaTokens true items).isEmpty = false := by
    rw [commaTokens_flatten]
    cases items with
    | nil => exact absurd rfl nonempty
    | cons item items => simp [mark, mark.go]
  have head : code "match self" = [.ident "match", .ident "self"] := rfl
  simp [head, inBraces, methodCode?, more, commaParts_comma plain, read]

theorem methodCode?_display (error : ErrorEnum) :
    methodCode? error.displayBody = some (.matching (error.cases.map displayCode)) := by
  unfold ErrorEnum.displayBody
  split
  · rename_i empty
    rw [List.isEmpty_iff.mp empty]
    rfl
  · rename_i nonempty
    refine methodCode?_match (by simpa using nonempty) ?_
      (mapM_read fun case _ => matchArm?_display case)
    intro item listed
    obtain ⟨case, -, rfl⟩ := List.mem_map.mp listed
    rw [displayArm_eq]
    have head : code "write !" = [.ident "write", .punct '!' .alone] := rfl
    exact armTokens_commaless (by simp [showing, head, inParens, isComma])

theorem sourceTokens_commaless (case : ErrorCase) :
    ∀ token ∈ sourceTokens case, isComma token = false :=
  armTokens_commaless (by simp [giving, word, inParens, isComma])

theorem sourceArms_emitted (cases : List ErrorCase) : cases.filterMap (·.sourceArm?) =
    ((cases.filter (·.source.isSome)).map sourceTokens).map (· ++ mark ",") := by
  induction cases with
  | nil => rfl
  | cons case cases ih =>
    rw [List.filterMap_cons, List.filter_cons, sourceArm?_eq]
    cases case.source.isSome with
    | false => exact ih
    | true => exact congrArg _ ih

theorem methodCode?_source (error : ErrorEnum) :
    methodCode? error.sourceBody = some (codeOf error).source := by
  have isFallback : code "_ => None ," = (word "_" ++ mark "=>" ++ word "None") ++ mark "," := rfl
  have read : ∀ case ∈ error.cases.filter (·.source.isSome),
      matchArm? (sourceTokens case) = some (sourceCode case) :=
    fun case listed => matchArm?_source (List.mem_filter.mp listed).2
  simp only [ErrorEnum.sourceBody, codeOf, sourceArms_emitted, List.length_map, List.isEmpty_map]
  by_cases sourced : error.cases.any (·.source.isSome)
  · have nonempty : error.cases.filter (·.source.isSome) ≠ [] := by
      simpa [List.filter_eq_nil_iff, Option.isSome_iff_ne_none] using sourced
    rw [if_pos sourced, if_neg (by simpa using nonempty)]
    unfold sourceArms
    by_cases all : error.cases.all (·.source.isSome)
    · have whole : (error.cases.filter (·.source.isSome)).length = error.cases.length :=
        List.length_filter_eq_length_iff.mpr (List.all_eq_true.mp all)
      rw [if_pos all, if_pos whole, List.append_nil, List.append_nil, ← commaTokens_flatten]
      exact methodCode?_match (mt List.map_eq_nil_iff.mp nonempty)
        (List.forall_mem_map.mpr fun case _ => sourceTokens_commaless case) (mapM_read read)
    · have part : (error.cases.filter (·.source.isSome)).length ≠ error.cases.length :=
        fun whole => all (List.all_eq_true.mpr (List.length_filter_eq_length_iff.mp whole))
      have arms : ((error.cases.filter (·.source.isSome)).map sourceTokens).map (· ++ mark ",") ++
          [word "_" ++ mark "=>" ++ word "None" ++ mark ","] =
            ((error.cases.filter (·.source.isSome)).map sourceTokens ++
              [word "_" ++ mark "=>" ++ word "None"]).map (· ++ mark ",") := by
        rw [List.map_append, List.map_singleton]
      rw [if_neg all, if_neg part, isFallback, ← List.flatten_concat, arms, ← commaTokens_flatten]
      refine methodCode?_match (by simp) ?_ ?_
      · refine List.forall_mem_append.mpr
          ⟨List.forall_mem_map.mpr fun case _ => sourceTokens_commaless case, ?_⟩
        simp [word, mark, mark.go, isComma]
      · rw [List.mapM_append, mapM_read read]
        rfl
  · rw [if_neg sourced, if_pos]
    · rfl
    · simpa using sourced

theorem methodOf?_emitted {trait head method : List Token} {read : MethodCode}
    (braceless : ∀ token ∈ head, isBraceless token = true) (isMethod : methodCode? method = some read) :
    methodOf? trait name head (trait ++ word name) (head ++ inBraces method) = some read := by
  have cut := @cutBraces?_front head [] method braceless
  have named := nameBehind?_name [] trait name
  rw [List.nil_append] at named
  simp [methodOf?, inBraces, cut, named, spelledAlike_self, isMethod]

theorem braceless_name (front : List Token) (name : String)
    (braceless : front.all isBraceless = true) :
    ∀ token ∈ front ++ word name, isBraceless token = true :=
  List.forall_mem_append.mpr ⟨List.all_eq_true.mp braceless, by simp [word, isBraceless]⟩

/-- What stands in front of the name of an enumeration. -/
def enumHead : List Token :=
  rawDocTokens " Errors returned while loading configuration from the environment." ++
    code "# [derive (Debug)] pub enum"

theorem enumHead_name (name : String) : nameBehind? (word "enum") (enumHead ++ word name) = some name := by
  have split : enumHead =
      rawDocTokens " Errors returned while loading configuration from the environment." ++
        code "# [derive (Debug)] pub" ++ word "enum" := rfl
  rw [split, nameBehind?_name]

/-- The tokens of an enumeration are read as its code. -/
theorem errorCode?_tokens (error : ErrorEnum) : errorCode? error.tokens = some (codeOf error) := by
  have parts : error.tokens = (enumHead ++ word error.name) ++
      .group .brace (commaTokens true (error.cases.map (·.declaration))) ::
        ((code "impl :: std :: fmt :: Display for" ++ word error.name) ++
          .group .brace (displayHead ++ inBraces error.displayBody) ::
            ((code "impl :: std :: error :: Error for" ++ word error.name) ++
              .group .brace (sourceHead ++ inBraces error.sourceBody) :: [])) := by
    simp [ErrorEnum.tokens, enumHead, displayHead, sourceHead, inBraces]
  have plain : ∀ item ∈ error.cases.map (·.declaration), ∀ token ∈ item, isComma token = false := by
    refine List.forall_mem_map.mpr fun case _ => ?_
    simp [ErrorCase.declaration, docTokens, mark, mark.go, word, inParens, isComma]
  have display := @methodOf?_emitted error.name (code "impl :: std :: fmt :: Display for")
    displayHead _ _ (List.all_eq_true.mp (by decide +kernel)) (methodCode?_display error)
  have source := @methodOf?_emitted error.name (code "impl :: std :: error :: Error for")
    sourceHead _ _ (List.all_eq_true.mp (by decide +kernel)) (methodCode?_source error)
  rw [errorCode?, parts, cutBraces?_front (braceless_name _ _ (by decide))]
  simp only [Option.bind_eq_bind, Option.bind_some, enumHead_name, commaParts_comma plain,
    mapM_read fun case _ => variantCode?_declaration case]
  rw [cutBraces?_front (braceless_name _ _ (by decide))]
  simp only [Option.bind_some, display]
  rw [cutBraces?_front (braceless_name _ _ (by decide))]
  simp only [Option.bind_some, source]
  rfl

/-! ### What was asked for -/

/-- The variants that are registered when several are asked for. -/
def registered (variants : List ErrorVariant) : ErrorVariants := variants.foldl ErrorVariants.require {}

theorem registered_concat (variants : List ErrorVariant) (variant : ErrorVariant) :
    registered (variants ++ [variant]) = (registered variants).require variant := by
  rw [registered, List.foldl_append]
  rfl

theorem registered_distinct (variants : List ErrorVariant) : (registered variants).names.Nodup := by
  have folded := @Requests.registered_fold ErrorVariant {} []
    (variants.map fun variant => (variant.name, variant)) Requests.registered_empty
  rw [List.foldl_map] at folded
  exact folded.distinct

theorem contains_names {registry : ErrorVariants} :
    registry.contains name = true ↔ name ∈ registry.names := by
  simp [Registry.contains, Registry.names]

/-- Each name is registered once. -/
theorem registered_names (variants : List ErrorVariant) :
    (registered variants).names = (variants.map (·.name)).eraseDups := by
  induction variants using List.reverseRecOn with
  | nil => rfl
  | append_singleton variants variant ih =>
    rw [registered_concat, List.map_append, List.eraseDups_append, ← ih, ErrorVariants.require,
      Registry.add]
    have known : (registered variants).contains variant.name = true ↔
        variant.name ∈ variants.map (·.name) := by
      rw [contains_names, ih, List.mem_eraseDups]
    split
    · rename_i before
      have removed : [variant.name].removeAll (variants.map (·.name)) = [] := by
        simpa [List.removeAll] using known.mp before
      simp [removed]
    · rename_i new
      have kept : [variant.name].removeAll (variants.map (·.name)) = [variant.name] := by
        simpa [List.removeAll] using mt known.mpr new
      rw [List.map_singleton, kept]
      simp [Registry.names, List.eraseDups_cons]

/-- What is registered under a name is what it was first asked for with. -/
theorem registered_first (variants : List ErrorVariant) : ∀ entry ∈ (registered variants).entries,
    entry.1 = entry.2.name ∧ variants.find? (·.name = entry.1) = some entry.2 := by
  induction variants using List.reverseRecOn with
  | nil => exact nofun
  | append_singleton variants variant ih =>
    intro entry listed
    rw [List.find?_append]
    have earlier : entry ∈ (registered variants).entries → entry.1 = entry.2.name ∧
        (variants.find? (·.name = entry.1)).or ([variant].find? (·.name = entry.1)) = some entry.2 := by
      intro before
      obtain ⟨isName, first⟩ := ih entry before
      exact ⟨isName, by rw [first]; rfl⟩
    rw [registered_concat, ErrorVariants.require, Registry.add] at listed
    split at listed
    · exact earlier listed
    · rename_i new
      rcases List.mem_append.mp listed with before | last
      · exact earlier before
      · rw [List.mem_singleton.mp last]
        have unknown : variants.find? (·.name = variant.name) = none := by
          rw [contains_names, registered_names, List.mem_eraseDups] at new
          simpa using new
        simp [unknown]

/-- The case of a variant whose source is a type. -/
def caseOf (variant : ErrorVariant) : ErrorCase :=
  ⟨variant.name, variant.message, variant.source.bind typeOfText?⟩

theorem case_made (declarable : Declarable variants) (listed : variant ∈ variants) :
    variant.case = .ok (caseOf variant) := by
  have named : nameFor .errorVariant variant.name = .ok variant.name := by
    rw [nameFor, declarable.named variant listed]
    rfl
  have typed := declarable.typed variant listed
  unfold ErrorVariant.case caseOf
  rw [named]
  cases given : variant.source with
  | none => rfl
  | some source =>
    obtain ⟨type, isType⟩ := Option.isSome_iff_exists.mp (typed source given)
    have made : typeFor .errorSourceType source = .ok type := by
      rw [typeFor, isType]
      rfl
    simp [isType, made]
    rfl

theorem enumeration_made (declarable : Declarable variants) (name : String) :
    (registered variants).enumeration name =
      .ok ⟨name, (registered variants).values.map caseOf⟩ := by
  have made : ∀ variant ∈ (registered variants).values, variant.case = .ok (caseOf variant) := by
    intro variant kept
    obtain ⟨entry, listed, rfl⟩ := List.mem_map.mp kept
    exact case_made declarable (List.mem_of_find?_eq_some (registered_first variants entry listed).2)
  rw [ErrorVariants.enumeration, mapM_congr made]
  exact congrArg (· >>= _) List.mapM_pure

/-! ### Running what is emitted -/

/-- A value is of a case. -/
def Belongs (value : ErrorValue) (case : ErrorCase) : Prop :=
  value.variant = case.name ∧ value.cause.isSome = case.source.isSome

theorem holds_codeOf {error : ErrorEnum} :
    (codeOf error).Holds value ↔ ∃ case ∈ error.cases, Belongs value case := by
  simp [ErrorCode.Holds, codeOf, Belongs, variantCode]

/-- The format string of a case shows its message, then what its variables stand for. -/
theorem formatWith_display {value? : String → Option String} {context : String} {cause : Option String}
    (isMessage : case.message = variant.message) (sourced : case.source.isSome = cause.isSome)
    (isContext : value? "context" = some context)
    (isSource : ∀ text ∈ cause, value? "source" = some text) :
    formatWith value? case.displayFormat = some (failureMessage variant context cause) := by
  have contextHole : (": " ++ placeholder "context").toList =
      [':', ' ', '\x7b', 'c', 'o', 'n', 't', 'e', 'x', 't', '\x7d'] := by decide
  have sourceHole : (": " ++ placeholder "source").toList =
      [':', ' ', '\x7b', 's', 'o', 'u', 'r', 'c', 'e', '\x7d'] := by decide
  have colon : ∀ text : String, ":" ++ (" " ++ text) = ": " ++ text :=
    fun text => String.append_assoc.symm
  have isFormat : case.displayFormat.toList = (escapeBraces variant.message).toList ++
      ((": " ++ placeholder "context").toList ++
        (if cause.isSome then ": " ++ placeholder "source" else "").toList) := by
    rw [ErrorCase.displayFormat, sourced, isMessage]
    simp only [String.toList_append, List.append_assoc]
  rw [formatWith, isFormat, contextHole, escapeBraces, String.toList_ofList,
    KeyNames.fillFormat_text]
  cases cause with
  | none => simp [fillFormat, isContext, failureMessage, String.append_assoc, colon]
  | some text =>
    have isText := isSource text rfl
    simp [fillFormat, sourceHole, isContext, isText, failureMessage, String.append_assoc, colon]

/-- A case's value is shown by the message of the case. -/
theorem written?_display (isMessage : case.message = variant.message) (belongs : Belongs value case) :
    written? ((fieldNames "context" case).zip value.fields) (showing case) =
      some (failureMessage variant value.context value.cause) := by
  have head : code "write !" = [.ident "write", .punct '!' .alone] := rfl
  have comma : mark "," = [.punct ',' .alone] := rfl
  simp only [showing, head, comma, inParens, word, quoted, List.cons_append, List.nil_append,
    written?, StringLiterals.stringValue?_stringLiteral, Option.bind_eq_bind, Option.bind_some]
  refine formatWith_display isMessage belongs.2.symm rfl fun text given => ?_
  have sourced : case.source.isSome = true := belongs.2 ▸ Option.isSome_of_mem given
  rw [fieldNames, if_pos sourced, ErrorValue.fields, Option.mem_def.mp given]
  rfl

/-- What the arm for a source gives is what caused the value. -/
theorem given?_source (belongs : Belongs value case) (sourced : case.source.isSome = true) :
    given? ((fieldNames "_" case).zip value.fields) (giving case) = some value.cause := by
  obtain ⟨text, given⟩ := Option.isSome_iff_exists.mp (belongs.2.trans sourced)
  rw [fieldNames, if_pos sourced, ErrorValue.fields, given, giving]
  split <;> rfl

/-! ### Arms -/

/-- The names of cases tell them apart. -/
def Apart (cases : List ErrorCase) : Prop :=
  cases.Pairwise fun first second => sameName first.name second.name = false

section Arms
variable {context : String} {emit : ErrorCase → List Token} {more : List MatchArm}

/-- The arm for a case takes the values of the case. -/
theorem takes_arm : (armFor context emit case).takes value = true ↔
    sameName case.name value.variant = true ∧ case.source.isSome = value.cause.isSome := by
  have length : (fieldNames context case).length = value.fields.length ↔
      case.source.isSome = value.cause.isSome := by
    unfold fieldNames ErrorValue.fields
    cases case.source.isSome <;> cases value.cause <;> simp
  simp [MatchArm.takes, armFor, ArmPattern.captured?, length]

theorem takes_belongs (belongs : Belongs value case) : (armFor context emit case).takes value = true :=
  takes_arm.mpr ⟨belongs.1 ▸ beq_self_eq_true _, belongs.2.symm⟩

theorem captured?_belongs (belongs : Belongs value case) :
    (armFor context emit case).pattern.captured? value =
      some ((fieldNames context case).zip value.fields) := by
  have takes : (armFor context emit case).takes value = true := takes_belongs belongs
  unfold MatchArm.takes at takes
  simp only [armFor, ArmPattern.captured?] at takes ⊢
  split
  · rfl
  · rename_i other
    rw [if_neg other] at takes
    exact nomatch takes

theorem captured?_none {arm : MatchArm} (passes : ¬ arm.takes value = true) :
    arm.pattern.captured? value = none := by
  simpa [MatchArm.takes] using passes

/-- A match goes on with the arm of the case that a value is of. -/
theorem body?_case (apart : Apart cases) (listed : case ∈ cases) (belongs : Belongs value case) :
    MethodCode.body? value (.matching (cases.map (armFor context emit) ++ more)) =
      some ((fieldNames context case).zip value.fields, emit case) := by
  induction cases with
  | nil => exact nomatch listed
  | cons first cases ih =>
    obtain ⟨others, apart⟩ := List.pairwise_cons.mp apart
    rw [MethodCode.body?, List.map_cons, List.cons_append, List.findSome?_cons]
    rcases List.mem_cons.mp listed with rfl | later
    · rw [captured?_belongs belongs]
      rfl
    · have passes : ¬ (armFor context emit first).takes value = true := by
        rw [takes_arm, belongs.1, others case later]
        exact fun taken => nomatch taken.1
      rw [captured?_none passes]
      exact ih apart later

/-- The arms for cases are all reached. -/
theorem reachable_cases {front rest : List MatchArm} {arm : MatchArm} (apart : Apart cases)
    (split : cases.map (armFor context emit) = front ++ arm :: rest) : ∃ case ∈ cases, ∃ value,
      Belongs value case ∧ arm.takes value ∧ ∀ earlier ∈ front, ¬ earlier.takes value := by
  obtain ⟨before, behind, rfl, rfl, isRest⟩ := List.map_eq_append_iff.mp split
  obtain ⟨case, after, rfl, rfl, -⟩ := List.map_eq_cons_iff.mp isRest
  have belongs : Belongs ⟨case.name, "", case.source.map fun _ => ""⟩ case :=
    ⟨rfl, Option.isSome_map⟩
  refine ⟨case, by simp, _, belongs, takes_belongs belongs, ?_⟩
  intro earlier listed
  obtain ⟨other, among, rfl⟩ := List.mem_map.mp listed
  have differs := (List.pairwise_append.mp apart).2.2 other among case List.mem_cons_self
  rw [takes_arm, differs]
  exact fun taken => nomatch taken.1

end Arms

theorem covering_display (apart : Apart cases) :
    Covering (fun value => ∃ case ∈ cases, Belongs value case) (cases.map displayCode) where
  exhaustive := fun _ ⟨case, listed, belongs⟩ =>
    ⟨displayCode case, List.mem_map_of_mem listed, takes_belongs belongs⟩
  reachable front arm rest split := by
    obtain ⟨case, listed, value, belongs, first⟩ := reachable_cases apart split
    exact ⟨value, ⟨case, listed, belongs⟩, first⟩

/-- A case without a source is taken by none of the arms for cases with one. -/
theorem sourced_passes (belongs : Belongs value case) (sourced : ¬ case.source.isSome = true) :
    ∀ arm ∈ (cases.filter (·.source.isSome)).map sourceCode, ¬ arm.takes value = true := by
  intro arm listed
  obtain ⟨other, among, rfl⟩ := List.mem_map.mp listed
  rw [sourceCode, takes_arm, belongs.2, (List.mem_filter.mp among).2]
  exact fun taken => sourced taken.2.symm

theorem covering_source (apart : Apart cases) :
    Covering (fun value => ∃ case ∈ cases, Belongs value case) (sourceArms cases) where
  exhaustive := by
    rintro value ⟨case, listed, belongs⟩
    by_cases sourced : case.source.isSome = true
    · exact ⟨sourceCode case, List.mem_append_left _
        (List.mem_map_of_mem (List.mem_filter.mpr ⟨listed, sourced⟩)), takes_belongs belongs⟩
    · have some : ¬ cases.all (·.source.isSome) = true :=
        fun all => sourced (List.all_eq_true.mp all case listed)
      exact ⟨sourceless, by simp [sourceArms, some], rfl⟩
  reachable front arm rest parts := by
    have sourcedApart : Apart (cases.filter (·.source.isSome)) := apart.filter _
    have reached : ∀ {rest}, (cases.filter (·.source.isSome)).map sourceCode = front ++ arm :: rest →
        ∃ value, (∃ case ∈ cases, Belongs value case) ∧ arm.takes value ∧
          ∀ earlier ∈ front, ¬ earlier.takes value := by
      intro rest parts
      obtain ⟨case, listed, value, belongs, first⟩ := reachable_cases sourcedApart parts
      exact ⟨value, ⟨case, (List.mem_filter.mp listed).1, belongs⟩, first⟩
    unfold sourceArms at parts
    split at parts
    · exact reached ((List.append_nil _).symm.trans parts)
    · rename_i some
      -- The last arm is reached by a case without a source.
      obtain ⟨case, listed, sourceless⟩ : ∃ case ∈ cases, ¬ case.source.isSome = true := by
        simpa using some
      have belongs : Belongs ⟨case.name, "", none⟩ case := ⟨rfl, by simpa using sourceless⟩
      rcases List.append_eq_append_iff.mp parts with ⟨more, rfl, behind⟩ | ⟨more, before, behind⟩
      · obtain ⟨rfl, rfl, rfl⟩ : more = [] ∧ arm = DeclaredErrors.sourceless ∧ rest = [] := by
          simpa [List.singleton_eq_append_iff] using behind
        rw [List.append_nil]
        exact ⟨_, ⟨case, listed, belongs⟩, rfl, sourced_passes belongs sourceless⟩
      · cases more with
        | nil =>
          cases behind
          rw [List.append_nil] at before
          exact ⟨_, ⟨case, listed, belongs⟩, rfl, before ▸ sourced_passes belongs sourceless⟩
        | cons first more =>
          cases behind
          exact reached before

theorem shown_case {error : ErrorEnum} (apart : Apart error.cases) (listed : case ∈ error.cases)
    (isMessage : case.message = variant.message) (belongs : Belongs value case) :
    (codeOf error).shown? value = some (failureMessage variant value.context value.cause) := by
  have body := @body?_case case _ value "context" showing [] apart listed belongs
  rw [List.append_nil] at body
  simp only [ErrorCode.shown?, codeOf, displayCode, body, Option.bind_eq_bind, Option.bind_some,
    written?_display isMessage belongs]

theorem source_case {error : ErrorEnum} (apart : Apart error.cases) (listed : case ∈ error.cases)
    (belongs : Belongs value case) : (codeOf error).source? value = some value.cause := by
  simp only [ErrorCode.source?, codeOf]
  by_cases sourced : case.source.isSome = true
  · have some : error.cases.any (·.source.isSome) = true := List.any_eq_true.mpr ⟨case, listed, sourced⟩
    have among : case ∈ error.cases.filter (·.source.isSome) := List.mem_filter.mpr ⟨listed, sourced⟩
    have body := fun more => @body?_case case _ value "_" giving more (apart.filter _) among belongs
    simp only [if_pos some, sourceArms, sourceCode, body, Option.bind_eq_bind, Option.bind_some,
      given?_source belongs sourced]
  · have uncaused : value.cause = none := by
      simpa using belongs.2.trans (Bool.eq_false_iff.mpr sourced)
    rw [uncaused]
    split
    · have notAll : ¬ error.cases.all (·.source.isSome) = true :=
        fun all => sourced (List.all_eq_true.mp all case listed)
      have passed : ((error.cases.filter (·.source.isSome)).map sourceCode).findSome?
          (fun arm => (arm.pattern.captured? value).map (·, arm.body)) = none := by
        refine List.findSome?_eq_none_iff.mpr fun arm listed => ?_
        rw [captured?_none (sourced_passes belongs sourced arm listed), Option.map_none]
      rw [sourceArms, if_neg notAll, MethodCode.body?, List.findSome?_append, passed]
      rfl
    · rfl

/-! ### Enumerations -/

theorem find?_registered (kept : variant ∈ (registered variants).values) :
    variants.find? (·.name = variant.name) = some variant := by
  obtain ⟨entry, listed, rfl⟩ := List.mem_map.mp kept
  obtain ⟨isName, first⟩ := registered_first variants entry listed
  exact isName ▸ first

theorem values_names (variants : List ErrorVariant) :
    (registered variants).values.map (·.name) = (registered variants).names := by
  rw [Registry.values, Registry.names, List.map_map]
  exact List.map_congr_left fun entry listed => (registered_first variants entry listed).1.symm

theorem cases_apart (declarable : Declarable variants) :
    Apart ((registered variants).values.map caseOf) := by
  have distinct := registered_distinct variants
  rw [← values_names, List.Nodup, List.pairwise_map] at distinct
  refine List.pairwise_map.mpr (distinct.imp_of_mem fun first second differ => ?_)
  have asked := fun {variant} kept =>
    List.mem_of_find?_eq_some (@find?_registered variant variants kept)
  exact Bool.eq_false_iff.mpr (mt (declarable.apart _ (asked first) _ (asked second)) differ)

/-- For every sequence of variants that can be declared together there is an enumeration, and its tokens
are the code of one that declares them. -/
theorem enumeration_declares (declarable : Declarable variants) (name : String) : ∃ error code,
    (variants.foldl ErrorVariants.require {}).enumeration name = .ok error ∧
      errorCode? error.tokens = some code ∧ Declares variants name code := by
  have apart := cases_apart declarable
  refine ⟨_, _, enumeration_made declarable name, errorCode?_tokens _, ?_⟩
  have known : ∀ {value case}, case ∈ (registered variants).values.map caseOf → Belongs value case →
      ∃ variant, variants.find? (·.name = value.variant) = some variant ∧ case = caseOf variant := by
    intro value case listed belongs
    obtain ⟨variant, kept, rfl⟩ := List.mem_map.mp listed
    exact ⟨variant, belongs.1 ▸ find?_registered kept, rfl⟩
  have holds : (codeOf ⟨name, (registered variants).values.map caseOf⟩).Holds =
      fun value => ∃ case ∈ (registered variants).values.map caseOf, Belongs value case :=
    funext fun value => propext holds_codeOf
  refine
    { name := rfl
      names := ?_
      first := ?_
      shown := ?_
      caused := ?_
      covering := ?_ }
  · rw [← registered_names, ← values_names]
    simp [codeOf, variantCode, caseOf]
  · intro declared listed
    obtain ⟨case, among, rfl⟩ := List.mem_map.mp listed
    obtain ⟨variant, kept, rfl⟩ := List.mem_map.mp among
    have first := find?_registered kept
    refine ⟨variant, variant.source.bind typeOfText?, first, rfl, ?_, rfl⟩
    cases given : variant.source with
    | none => rfl
    | some source =>
      have typed := declarable.typed variant (List.mem_of_find?_eq_some first) source given
      obtain ⟨type, isType⟩ := Option.isSome_iff_exists.mp typed
      simp [isType]
  · intro value isValue
    obtain ⟨case, listed, belongs⟩ := holds_codeOf.mp isValue
    obtain ⟨variant, first, rfl⟩ := known listed belongs
    exact ⟨variant, first, shown_case apart listed rfl belongs⟩
  · intro value isValue
    obtain ⟨case, listed, belongs⟩ := holds_codeOf.mp isValue
    exact source_case apart listed belongs
  · rw [holds]
    rintro arms (display | source)
    · cases display
      exact covering_display apart
    · rw [codeOf] at source
      split at source
      · cases source
        exact covering_source apart
      · exact nomatch source

/-- A name that is asked for twice, and a source behind a pointer. -/
def repeatedName : List ErrorVariant :=
  [⟨"Missing", "no \x7bkey\x7d", none⟩, .build, ⟨"Missing", "gone", some "std::io::Error"⟩]

theorem repeatedName_declared : Declarable repeatedName ∧ ∃ error code,
    (repeatedName.foldl ErrorVariants.require {}).enumeration "EnvError" = .ok error ∧
      errorCode? error.tokens = some code ∧ Declares repeatedName "EnvError" code := by
  have declarable : Declarable repeatedName :=
    { named := by decide +kernel
      apart := by decide +kernel
      typed := by decide +kernel }
  exact ⟨declarable, enumeration_declares declarable "EnvError"⟩

end EnvLoader.DeclaredErrors
