import EnvLoader.Proofs.ChosenCandidate
import EnvLoader.Proofs.RequestNames
import EnvLoader.Proofs.VariantUse
import Mathlib.Algebra.Ring.Nat

/-! The literal that a constructor ends in, said of the fields of its record. It has one member for
each field: first those that are read within it, in declared order, and last the selector's, into which
the variable is moved that was bound before. What was selected is compared by the members of the
candidates only, each with its own key, so never after it was moved. -/
namespace EnvLoader.StructLiterals
open Outcomes RecordWriting SchemaNesting WrittenRecords DirectReading LoaderRuns ChosenCandidate
open VariantUse WordNames Source Loader

/-! ### Comparisons and bindings -/

/-- Tokens begin with a comparison of what was selected. -/
def startsComparison : List Token → Bool
  | .ident name :: .punct first spacing :: .punct second _ :: _ =>
    name = selectedName ∧ first = '=' ∧ spacing = .joint ∧ second = '='
  | _ => false

mutual
/-- The number of comparisons of what was selected in a token. -/
def comparisonsIn : Token → Nat
  | .group _ body => comparisons body
  | _ => 0

/-- The number of comparisons of what was selected in tokens, at any depth. -/
def comparisons : List Token → Nat
  | [] => 0
  | token :: rest =>
    (if startsComparison (token :: rest) then 1 else 0) + comparisonsIn token + comparisons rest
end

/-- The number of statements in tokens that bind a variable. -/
def bindings (tokens : List Token) : Nat := (identifiers tokens).count "let"

mutual
/-- The characters in a token that are joined to the next one. -/
def joinedIn : Token → List Char
  | .punct char .joint => [char]
  | .group _ body => joined body
  | _ => []

/-- The characters in tokens that are joined to the next one. -/
def joined : List Token → List Char
  | [] => []
  | token :: rest => joinedIn token ++ joined rest
end

/-- Tokens bind nothing, and have no mark that starts with an equals sign and goes on. -/
structure Plain (tokens : List Token) : Prop where
  binds : "let" ∉ identifiers tokens
  joins : '=' ∉ joined tokens

/-! ### The code of a record -/

/-- A field is a candidate: it nests a record in a record with a selector. -/
def isCandidate (schema : Schema) (record : Record) (field : Field) : Bool :=
  record.fields.any isSelecting && (nestedName? schema field).isSome

/-- A value that is there only if what was selected is a certain label. -/
def comparison (label : String) (value : List Token) : List Token :=
  word "if" ++ word selectedName ++ mark "==" ++ quoted label ++
    inBraces (word "Some" ++ inParens value) ++ word "else" ++ inBraces (word "None")

/-- A member of a literal. -/
def literalMember (name : MemberName) (value : List Token) : List Token :=
  name.tokens ++ mark ":" ++ value

/-- The member of a field that is read within the literal. It binds nothing, and compares what was
selected once if the field is a candidate, with the key of the field, and never otherwise. -/
structure ReadMember (schema : Schema) (record : Record) (field : Field) (item : List Token) :
    Prop where
  names : ∃ name value, fieldMember? field = some name ∧ item = literalMember name value ∧
    (isCandidate schema record field = true →
      ∃ key inner, KeyOf field key ∧ value = comparison key inner)
  binds : bindings item = 0
  compares : comparisons item = if isCandidate schema record field then 1 else 0

/-- The parts of a constructor: what stands before its body, the statements before the literal, the
members that are read within the literal, and those into which something is moved. -/
structure ConstructorParts where
  head : List Token
  before : List Token
  read : List (List Token)
  moved : List (List Token)

/-- The body of a constructor. -/
def ConstructorParts.body (parts : ConstructorParts) : List Token :=
  parts.before ++ word "Ok" ++
    inParens (word "Self" ++ inBraces (commaTokens true (parts.read ++ parts.moved)))

/-- The tokens of a constructor. -/
def ConstructorParts.tokens (parts : ConstructorParts) : List Token :=
  parts.head ++ inBraces parts.body

/-- The constructor of a record. -/
structure ConstructorOf (schema : Schema) (record : Record) (parts : ConstructorParts) : Prop where
  /-- The fields beside the selector are read in declared order. -/
  read : List.Forall₂ (ReadMember schema record) (record.fields.filter (!isSelecting ·)) parts.read
  /-- The selector is bound before the literal and moved into it behind all that is read. -/
  selector : match record.fields.find? isSelecting with
    | none => parts.before = [] ∧ parts.moved = []
    | some field => ∃ value name,
      parts.before = word "let" ++ word selectedName ++ mark "=" ++ value ++ mark ";" ∧
        fieldMember? field = some name ∧ parts.moved = [literalMember name (word selectedName)]
  /-- No field is dropped, and none is there twice. -/
  each : (record.fields.filter (!isSelecting ·) ++ (record.fields.find? isSelecting).toList).Perm
    record.fields
  bound : bindings parts.body = if record.fields.any isSelecting then 1 else 0
  /-- All that compares what was selected are members that are read within the literal. -/
  compared : comparisons parts.tokens = (parts.read.map comparisons).sum

/-- The arm of a dispatcher for a candidate. -/
def ArmOf (dispatcher : Dispatcher) (error : String) (field : Field) (arm : List Token) : Prop :=
  ∃ choice, KeyOf field choice.label ∧ fieldMember? field = some choice.member ∧
    nameOfText? (field.options.buildWith.getD defaultBuildMethod) = some choice.method ∧
    arm = dispatcher.arm error choice

/-- The dispatcher of a record, which is there if the record has a selector: it has one arm for each
candidate, in declared order, and one for everything else. -/
def DispatcherOf (schema : Schema) (record : Record) (error : String) (tokens : List Token) : Prop :=
  match record.fields.find? isSelecting with
  | none => tokens = []
  | some field => ∃ dispatcher head arms, fieldMember? field = some dispatcher.selectorMember ∧
      tokens = head ++ inBraces (code "match self ." ++ dispatcher.selectorMember.tokens ++
        code ". as_str ()" ++ inBraces (commaTokens true arms ++ code "other => Err" ++
          inParens (member error "InvalidChoice" ++ code "(other . to_owned ())") ++ mark ",")) ∧
      List.Forall₂ (ArmOf dispatcher error) (record.fields.filter (isCandidate schema record)) arms

variable {tokens first second body : List Token} {name : String} {delimiter : Delimiter}
  {schema : Schema} {converters writing : Converters} {session after : Session} {record : Record}
  {plan : RecordPlan} {implementation : Implementation} {field : Field} {setting : Setting}
  {entry : MemberName × ValueExpr} {isRoot : Bool} {found : MemberName}

/-! ### Counting -/

@[simp] theorem joined_append : joined (first ++ second) = joined first ++ joined second := by
  induction first with
  | nil => rfl
  | cons token rest ih => simp [joined, ih]

@[simp] theorem joined_mark (chars : String) : joined (mark chars) = chars.toList.dropLast := by
  unfold mark
  induction chars.toList using mark.go.induct with
  | case1 => rfl
  | case2 last => rfl
  | case3 char rest more ih =>
    cases rest with
    | nil => exact absurd rfl more
    | cons next rest => simpa [mark.go, joined, joinedIn] using ih

@[simp] theorem joined_word : joined (word name) = [] := rfl

@[simp] theorem joined_quoted : joined (quoted name) = [] := rfl

@[simp] theorem joined_inParens : joined (inParens body) = joined body := by
  simp [inParens, joined, joinedIn]

theorem startsComparison_joined (starts : startsComparison tokens = true) : '=' ∈ joined tokens := by
  unfold startsComparison at starts
  split at starts
  · obtain ⟨-, isEqual, isJoint, -⟩ := of_decide_eq_true starts
    rw [isEqual, isJoint]
    exact List.mem_cons_self
  · exact nomatch starts

mutual
theorem comparisonsIn_zero : ∀ token, '=' ∉ joinedIn token → comparisonsIn token = 0
  | .group _ body, joins => by
    rw [joinedIn] at joins
    rw [comparisonsIn, comparisons_zero body joins]
  | .ident _, _ | .punct _ _, _ | .literal _, _ => rfl

/-- Without a mark that starts with an equals sign and goes on there is no comparison. -/
theorem comparisons_zero : ∀ tokens, '=' ∉ joined tokens → comparisons tokens = 0
  | [], _ => rfl
  | token :: rest, joins => by
    have starts : startsComparison (token :: rest) = false := by
      rw [Bool.eq_false_iff]
      exact fun starts => joins (startsComparison_joined starts)
    rw [joined, List.mem_append, not_or] at joins
    rw [comparisons, starts, comparisonsIn_zero token joins.1, comparisons_zero rest joins.2]
    rfl
end

/-- Tokens begin with an equals sign. -/
def startsEqual : List Token → Bool
  | .punct char _ :: _ => char = '='
  | _ => false

theorem startsComparison_append (apart : startsEqual second = false) (token : Token)
    (rest : List Token) :
    startsComparison (token :: rest ++ second) = startsComparison (token :: rest) := by
  rcases rest with _ | ⟨next, _ | ⟨more, rest⟩⟩
  · rcases second with _ | ⟨next, second⟩
    · rfl
    · cases token <;> cases next <;> rcases second with _ | ⟨other, _⟩ <;> try rfl
      all_goals cases other <;> simp_all [startsComparison, startsEqual]
  · rcases second with _ | ⟨other, _⟩
    · rfl
    · cases token <;> cases next <;> cases other <;> simp_all [startsComparison, startsEqual]
  · cases token <;> cases next <;> cases more <;> rfl

theorem comparisons_append (apart : startsEqual second = false) :
    comparisons (first ++ second) = comparisons first + comparisons second := by
  induction first with
  | nil => simp [comparisons]
  | cons token rest ih =>
    have starts := startsComparison_append apart token rest
    rw [List.cons_append] at starts ⊢
    rw [comparisons, comparisons, starts, ih]
    omega

theorem bindings_append : bindings (first ++ second) = bindings first + bindings second := by
  simp [bindings]

@[simp] theorem comparisons_punct {char : Char} {spacing : Spacing} {rest : List Token} :
    comparisons (.punct char spacing :: rest) = comparisons rest := by
  have starts : startsComparison (.punct char spacing :: rest) = false := rfl
  rw [comparisons, starts, comparisonsIn]
  · simp
  · exact nofun

/-- What adds up over commas adds up over the items of a list. -/
theorem comma_sum {measure : List Token → Nat} (nothing : measure [] = 0)
    (adds : ∀ first rest, measure (first ++ (mark "," ++ rest)) = measure first + measure rest)
    (items : List (List Token)) :
    measure (commaTokens true items) = (items.map measure).sum := by
  induction items with
  | nil => exact nothing
  | cons first rest ih =>
    cases rest with
    | nil =>
      have single := adds first []
      rw [List.append_nil, nothing] at single
      simpa [commaTokens_last] using single
    | cons second rest =>
      rw [commaTokens_cons, List.append_assoc, adds, ih, ← List.sum_cons, ← List.map_cons]

theorem comparisons_comma (items : List (List Token)) :
    comparisons (commaTokens true items) = (items.map comparisons).sum := by
  refine comma_sum rfl (fun first rest => ?_) items
  rw [comparisons_append rfl]
  exact congrArg _ comparisons_punct

theorem bindings_comma (items : List (List Token)) :
    bindings (commaTokens true items) = (items.map bindings).sum := by
  refine comma_sum rfl (fun first rest => ?_) items
  simp [bindings]

/-! ### Plain code -/

theorem plain_append (head : Plain first) (tail : Plain second) : Plain (first ++ second) where
  binds := by simpa using ⟨head.binds, tail.binds⟩
  joins := by simpa using ⟨head.joins, tail.joins⟩

theorem plain_mark {chars : String} (single : '=' ∉ chars.toList.dropLast) : Plain (mark chars) where
  binds := by simp
  joins := by simpa using single

theorem plain_word (other : name ≠ "let") : Plain (word name) where
  binds := by simpa using other.symm
  joins := by simp

theorem plain_quoted (text : String) : Plain (quoted text) where
  binds := by simp
  joins := by simp

theorem plain_inParens (inner : Plain body) : Plain (inParens body) where
  binds := by simpa using inner.binds
  joins := by simpa using inner.joins

theorem plain_comparisons (plain : Plain tokens) : comparisons tokens = 0 :=
  comparisons_zero tokens plain.joins

theorem plain_bindings (plain : Plain tokens) : bindings tokens = 0 :=
  List.count_eq_zero.mpr plain.binds

theorem key_plain (key : KeyExpr) : Plain key.tokens := by
  cases key with
  | literal text => exact plain_quoted text
  | formatted format =>
    exact plain_append ⟨by decide +kernel, by decide +kernel⟩ (plain_inParens (plain_quoted format))

theorem optionalText_plain (text : Option String) : Plain (optionalText text) := by
  cases text with
  | none => exact plain_word (by decide)
  | some text => exact plain_append (plain_word (by decide)) (plain_inParens (plain_quoted text))

/-- A name that a text is can be told from the keyword of a binding. -/
theorem named_plain {text : String} (named : nameOfText? text = some name) : Plain (word name) := by
  refine plain_word ?_
  rintro rfl
  exact absurd (nameOfText?_isName named) (by decide)

theorem called_plain {setting : Setting} {isRoot : Bool} (called : Plain (word name)) :
    Plain (calledValue setting isRoot name).tokens := by
  have key := key_plain (setting.keyExpr isRoot)
  have attempt : Plain (mark "?") := plain_mark (by decide)
  have arguments : Plain (inParens (optionalText setting.default ++ mark "," ++
      (setting.keyExpr isRoot).tokens)) :=
    plain_inParens (plain_append (plain_append (optionalText_plain _) (plain_mark (by decide))) key)
  have read := plain_append (plain_append called arguments) attempt
  unfold calledValue
  dsimp only
  split
  · exact plain_append (plain_append called (plain_inParens key)) attempt
  · split
    · exact read
    · exact plain_append read ⟨by decide +kernel, by decide +kernel⟩

theorem nested_plain {key : KeyExpr} (named : Plain (word name)) :
    Plain (ValueExpr.nested name key).tokens := by
  have function : Plain (member name "from_env_with_prefix") :=
    plain_append (plain_append named (plain_mark (by decide))) (plain_word (by decide))
  exact plain_append (plain_append function (plain_inParens (key_plain key))) (plain_mark (by decide))

theorem member_plain (isMember : fieldMember? field = some found) :
    Plain found.tokens := by
  unfold fieldMember? at isMember
  cases declared : field.name with
  | none =>
    rw [declared] at isMember
    cases isMember
    exact ⟨by simp [MemberName.tokens, identifiers, identifiersIn],
      by simp [MemberName.tokens, joined, joinedIn]⟩
  | some text =>
    rw [declared] at isMember
    obtain ⟨name, named, rfl⟩ := Option.map_eq_some_iff.mp isMember
    exact named_plain named

/-! ### Members -/

theorem comparisons_member (found : MemberName) (value : List Token) :
    comparisons (literalMember found value) = comparisons value := by
  have named : comparisons found.tokens = 0 := by cases found <;> rfl
  have colon : startsEqual (mark ":" ++ value) = false := rfl
  rw [literalMember, List.append_assoc, comparisons_append colon, named, Nat.zero_add]
  exact comparisons_punct

theorem bindings_member {value : List Token} (isMember : fieldMember? field = some found) :
    bindings (literalMember found value) = bindings value := by
  have plain := plain_bindings (plain_append (member_plain isMember)
    (plain_mark (by decide) : Plain (mark ":")))
  rw [literalMember, bindings_append, plain, Nat.zero_add]

/-- A comparison is one more than there are in the value. -/
theorem comparisons_comparison (label : String) (value : List Token) :
    comparisons (comparison label value) = 1 + comparisons value := by
  simp [comparison, word, quoted, inBraces, inParens, mark, mark.go, comparisons, comparisonsIn,
    startsComparison]

theorem bindings_comparison (label : String) (value : List Token) :
    bindings (comparison label value) = bindings value := by
  simp [comparison, bindings, selectedName]

/-- What is guarded are the candidates. -/
theorem setting_guarded
    (analysed : Analysed schema converters (record.fields.any isSelecting) field setting) :
    setting.isGuarded = isCandidate schema record field := by
  obtain ⟨traits, isSetting⟩ := setting_for analysed
  rw [isSetting.isGuarded, isCandidate, nestedName?_analysed analysed]
  cases setting.isNested <;> rfl

theorem flat_plain {value : ValueExpr} (flat : setting.isNested = false)
    (valued : valueOf writing name isRoot setting = .ok value) : Plain value.tokens := by
  rcases valueOf_ok valued with ⟨nested, -⟩ | ⟨request, parser, -, isParser, isValue⟩
  · exact nomatch flat.symm.trans nested
  · rw [isValue]
    exact called_plain (named_plain isParser)

/-- What is read for a field is compared if the field is a candidate, and plain otherwise. -/
theorem value_guarded
    (analysed : Analysed schema converters (record.fields.any isSelecting) field setting)
    {value : ValueExpr} (valued : valueOf writing name isRoot setting = .ok value) :
    if isCandidate schema record field then
      ∃ key inner, KeyOf field key ∧ value.tokens = comparison key inner ∧ Plain inner
    else Plain value.tokens := by
  have guarded := setting_guarded analysed
  obtain ⟨traits, isSetting⟩ := setting_for analysed
  cases nested : setting.isNested with
  | false =>
    have other : isCandidate schema record field = false := by
      rw [← guarded, isSetting.isGuarded, nested, Bool.and_false]
    rw [other]
    exact flat_plain nested valued
  | true =>
    rcases valueOf_ok valued with ⟨-, ident, isIdent, isValue⟩ | ⟨request, parser, asks, -, -⟩
    · have plain := @nested_plain ident (setting.keyExpr isRoot) (named_plain isIdent)
      rw [isValue, nestedValue, guarded]
      cases isCandidate schema record field with
      | true => exact ⟨_, _, ⟨traits, isSetting.shape, isSetting.key⟩, rfl, plain⟩
      | false =>
        cases setting.isOptional with
        | true => exact plain_append (plain_word (by decide)) (plain_inParens plain)
        | false => exact plain
    · simp [request?, nested] at asks

/-- The member that is read for a field. -/
theorem entry_read
    (analysed : Analysed schema converters (record.fields.any isSelecting) field setting)
    (made : memberOf writing plan setting = .ok entry) :
    ReadMember schema record field (literalMember entry.1 entry.2.tokens) := by
  obtain ⟨named, valued⟩ := memberOf_ok.mp made
  have isMember := memberName_analysed analysed named
  have value := value_guarded analysed valued
  cases candidate : isCandidate schema record field with
  | true =>
    rw [candidate, if_pos rfl] at value
    obtain ⟨key, inner, isKey, isValue, plain⟩ := value
    refine ⟨⟨entry.1, _, isMember, rfl, fun _ => ⟨key, inner, isKey, isValue⟩⟩, ?_, ?_⟩
    · rw [bindings_member isMember, isValue, bindings_comparison, plain_bindings plain]
    · rw [comparisons_member, isValue, comparisons_comparison, plain_comparisons plain, candidate]
      rfl
  | false =>
    rw [candidate, if_neg nofun] at value
    refine ⟨⟨entry.1, _, isMember, rfl, fun also => nomatch candidate.symm.trans also⟩, ?_, ?_⟩
    · rw [bindings_member isMember, plain_bindings value]
    · rw [comparisons_member, plain_comparisons value, candidate]
      rfl

/-- The selector nests nothing, so what is read for it is plain. -/
theorem selector_read (planned : PlanOf schema converters record isRoot plan)
    (declared : field ∈ record.fields) (selecting : isSelecting field = true)
    (analysed : Analysed schema converters (record.fields.any isSelecting) field setting)
    (made : memberOf writing plan setting = .ok entry) :
    fieldMember? field = some entry.1 ∧ Plain entry.2.tokens := by
  obtain ⟨named, valued⟩ := memberOf_ok.mp made
  have flat := selector_flat planned declared selecting
  rw [nestedName?_analysed analysed] at flat
  exact ⟨memberName_analysed analysed named, flat_plain (by simpa using flat) valued⟩

/-- The fields beside the selector, and the selector, are all fields. -/
theorem fields_split {fields : List Field} (single : (fields.filter isSelecting).length ≤ 1) :
    (fields.filter (!isSelecting ·) ++ (fields.find? isSelecting).toList).Perm fields := by
  have selecting : (fields.find? isSelecting).toList = fields.filter isSelecting := by
    rw [← List.head?_filter]
    match found : fields.filter isSelecting with
    | [] => rfl
    | [selector] => rfl
    | _ :: _ :: _ => simp [found] at single
  rw [selecting]
  exact List.perm_append_comm.trans (List.filter_append_perm isSelecting fields)

/-! ### The constructor and the dispatcher -/

@[simp] theorem joined_docTokens (text : String) : joined (docTokens text) = [] := by
  simp [docTokens, joined, joinedIn]

/-- A constructor's body stands behind code without comparisons. -/
theorem constructor_head (constructor : Constructor) (error : String) :
    ∃ head, constructor.tokens error = head ++ inBraces (constructor.prelude ++ word "Ok" ++
        inParens (word "Self" ++ inBraces constructor.literal)) ∧ comparisons head = 0 := by
  refine ⟨_, rfl, comparisons_zero _ ?_⟩
  have errors : joined (rawDocLines constructorErrors) = [] := by decide +kernel
  have signature : joined (code ": & str") = [] := by decide +kernel
  cases constructor.isRoot <;> cases constructor.isConst <;>
    simp [errors, signature, applied, commaTokens, separatedBy, wordIf, joined, joinedIn]

/-- The parts of a constructor. -/
def partsOf (constructor : Constructor) (head : List Token) : ConstructorParts where
  head := head
  before := constructor.prelude
  read := constructor.members.map fun (name, value) => literalMember name value.tokens
  moved := (constructor.selector.map fun (name, _) => literalMember name (word selectedName)).toList

theorem body_parts (constructor : Constructor) (head : List Token) :
    constructor.prelude ++ word "Ok" ++ inParens (word "Self" ++ inBraces constructor.literal) =
      (partsOf constructor head).body := by
  unfold ConstructorParts.body partsOf Constructor.literal
  cases constructor.selector <;> rfl

/-- What a body binds and compares, it does before the literal or in its members. -/
theorem body_bindings (parts : ConstructorParts) : bindings parts.body =
    bindings parts.before + (parts.read.map bindings).sum + (parts.moved.map bindings).sum := by
  have literal := bindings_comma (parts.read ++ parts.moved)
  unfold bindings at literal ⊢
  simp only [ConstructorParts.body, identifiers_append, identifiers_word, identifiers_inParens,
    identifiers_inBraces, List.count_append, literal]
  simp [Nat.add_assoc]

theorem comparisons_group : comparisons [.group delimiter body] = comparisons body := by
  simp [comparisons, comparisonsIn, startsComparison]

theorem comparisons_word (name : String) : comparisons (word name) = 0 := rfl

theorem body_comparisons (parts : ConstructorParts) : comparisons parts.body =
    comparisons parts.before + (parts.read.map comparisons).sum +
      (parts.moved.map comparisons).sum := by
  have literal := comparisons_comma (parts.read ++ parts.moved)
  unfold ConstructorParts.body
  rw [comparisons_append rfl, comparisons_append rfl, inParens, comparisons_group,
    comparisons_append rfl, inBraces, comparisons_group, literal, comparisons_word, comparisons_word]
  simp [Nat.add_assoc]

/-- The binding of the selector. -/
theorem binding_counts {value : List Token} (plain : Plain value) :
    bindings (word "let" ++ word selectedName ++ mark "=" ++ value ++ mark ";") = 1 ∧
      comparisons (word "let" ++ word selectedName ++ mark "=" ++ value ++ mark ";") = 0 := by
  constructor
  · have none := plain_bindings plain
    unfold bindings at none ⊢
    simp [none, selectedName]
  · refine comparisons_zero _ ?_
    simpa using plain.joins

/-- What becomes of the selector, if there is one: it is bound before the literal, and moved. -/
theorem selector_parts (planned : PlanOf schema converters record isRoot plan)
    {constructor : Constructor} (head : List Token)
    (isSelector : Option.Rel (fun field entry => ∃ setting,
      Analysed schema converters (record.fields.any isSelecting) field setting ∧
        memberOf writing plan setting = .ok entry)
      (record.fields.find? isSelecting) constructor.selector) :
    (match record.fields.find? isSelecting with
      | none => (partsOf constructor head).before = [] ∧ (partsOf constructor head).moved = []
      | some field => ∃ value name, (partsOf constructor head).before =
          word "let" ++ word selectedName ++ mark "=" ++ value ++ mark ";" ∧
        fieldMember? field = some name ∧
        (partsOf constructor head).moved = [literalMember name (word selectedName)]) ∧
      bindings (partsOf constructor head).before = (if record.fields.any isSelecting then 1 else 0) ∧
      comparisons (partsOf constructor head).before = 0 ∧
      ((partsOf constructor head).moved.map bindings).sum = 0 ∧
      ((partsOf constructor head).moved.map comparisons).sum = 0 := by
  unfold partsOf Constructor.prelude
  dsimp only
  cases found : record.fields.find? isSelecting with
  | none =>
    have flat : record.fields.any isSelecting = false :=
      List.any_eq_false.mpr (List.find?_eq_none.mp found)
    rw [found] at isSelector
    generalize constructor.selector = selector at isSelector
    cases isSelector
    rw [flat]
    exact ⟨⟨rfl, rfl⟩, rfl, rfl, rfl, rfl⟩
  | some field =>
    have declared := List.mem_of_find?_eq_some found
    have selecting := List.find?_some found
    have selects : record.fields.any isSelecting = true :=
      List.any_eq_true.mpr ⟨field, declared, selecting⟩
    rw [found] at isSelector
    generalize constructor.selector = selector at isSelector
    obtain ⟨setting, analysed, made⟩ := isSelector
    rename_i entry
    obtain ⟨isMember, plain⟩ := selector_read planned declared selecting analysed made
    obtain ⟨bound, compared⟩ := binding_counts plain
    have moves : Plain (word selectedName) := plain_word (by decide)
    have movedBinds := (bindings_member isMember).trans (plain_bindings moves)
    have movedCompares := (comparisons_member entry.1 _).trans (plain_comparisons moves)
    rw [selects]
    refine ⟨⟨entry.2.tokens, entry.1, rfl, isMember, rfl⟩, bound, compared, ?_, ?_⟩
    · simpa using movedBinds
    · simpa using movedCompares

/-- What is written for the fields of a record is its constructor. -/
theorem constructor_of (planned : PlanOf schema converters record isRoot plan)
    {members : List (MemberName × ValueExpr)} {head : List Token}
    (each : List.Forall₂ (fun field entry => ∃ setting,
      Analysed schema converters (record.fields.any isSelecting) field setting ∧
        memberOf writing plan setting = .ok entry) record.fields members)
    (opening : comparisons head = 0) :
    ConstructorOf schema record (partsOf (constructorOf plan members) head) := by
  obtain ⟨isSelector, isRead⟩ := split_members planned each
  obtain ⟨selector, binds, compares, movedBinds, movedCompares⟩ :=
    selector_parts planned head isSelector
  generalize constructorOf plan members = constructor at *
  have read : List.Forall₂ (ReadMember schema record) (record.fields.filter (!isSelecting ·))
      (partsOf constructor head).read := by
    unfold partsOf
    rw [List.forall₂_map_right_iff]
    refine isRead.imp ?_
    rintro field entry ⟨setting, analysed, made⟩
    exact entry_read analysed made
  have unbound : ((partsOf constructor head).read.map bindings).sum = 0 := by
    refine List.sum_eq_zero_iff_forall_eq_nat.mpr fun count listed => ?_
    obtain ⟨item, isItem, rfl⟩ := List.mem_map.mp listed
    obtain ⟨field, -, isMember⟩ := related_mem read.flip isItem
    exact isMember.binds
  refine ⟨read, selector, fields_split planned.single, ?_, ?_⟩
  · rw [body_bindings, binds, unbound, movedBinds]
    rfl
  · have isHead : comparisons (partsOf constructor head).head = 0 := opening
    rw [ConstructorParts.tokens, comparisons_append rfl, isHead, inBraces, comparisons_group,
      body_comparisons, compares, movedCompares]
    simp

/-! ### Dispatchers -/

/-- The candidates of a plan are the settings of the fields that are candidates. -/
theorem candidates_of (planned : PlanOf schema converters record isRoot plan) :
    List.Forall₂ (Analysed schema converters (record.fields.any isSelecting))
      (record.fields.filter (isCandidate schema record)) plan.candidates := by
  refine List.rel_filter ?_ planned.settings
  intro field setting analysed
  simp only [setting_guarded analysed]

/-- The dispatcher of a plan is that of its record. -/
theorem dispatcher_of (planned : PlanOf schema converters record isRoot plan)
    {found : Option Dispatcher} (dispatched : dispatcherOf plan = .ok found) (error : String) :
    DispatcherOf schema record error (found.elim [] (·.tokens error)) := by
  have selects := selector_setting planned
  have written := dispatcher_written planned dispatched
  unfold DispatcherOf
  generalize plan.selector? = selector at selects written
  cases search : record.fields.find? isSelecting with
  | none =>
    rw [search] at selects
    cases selects
    cases written
    rfl
  | some field =>
    rw [search] at selects
    obtain ⟨analysed⟩ := selects
    cases written with
    | @some _ dispatcher both =>
      obtain ⟨isMember, choices⟩ := both
      refine ⟨dispatcher, _, dispatcher.choices.map (dispatcher.arm error),
        memberName_analysed analysed isMember, rfl, ?_⟩
      rw [List.forall₂_map_right_iff]
      refine (related_trans (candidates_of planned) choices).imp ?_
      rintro field choice ⟨candidate, analysed, made⟩
      obtain ⟨isLabel, isMember, isMethod⟩ := choiceOf_ok.mp made
      have isChoice := memberName_analysed analysed isMember
      obtain ⟨traits, shape, rfl, -⟩ := analysed
      exact ⟨choice, ⟨traits, shape, isLabel⟩, isChoice, isMethod, rfl⟩

/-- What is written for an analysed record: a constructor that ends in a literal with all fields, and a
dispatcher if the record has a selector. -/
theorem literal_of_fields
    (analysed : RecordPlan.ofRecord record isRoot schema converters = .ok plan)
    (written : (Session.implement plan).run session = (.ok implementation, after))
    (error : String) :
    ∃ (parts : ConstructorParts) (dispatcher : List Token),
      implementation.tokens error = word "impl" ++ word implementation.record ++
        inBraces (parts.tokens ++ dispatcher) ∧
      implementation.constructor.tokens error = parts.tokens ∧
      ConstructorOf schema record parts ∧ DispatcherOf schema record error dispatcher := by
  have planned := ofRecord_ok analysed
  obtain ⟨implemented, -⟩ := gives_ran (implement_gives plan) written
  obtain ⟨ident, named, rest⟩ := bind_ok.mp implemented
  obtain ⟨members, valued, rest⟩ := bind_ok.mp rest
  obtain ⟨found, dispatched, made⟩ := bind_ok.mp rest
  cases pure_ok.mp made
  obtain ⟨head, opens, opening⟩ := constructor_head (constructorOf plan members) error
  have constructor := constructor_of planned
    (related_trans planned.settings (mapM_ok.mp valued)) opening
  rw [body_parts _ head] at opens
  refine ⟨partsOf (constructorOf plan members) head, found.elim [] (·.tokens error), ?_, opens,
    constructor, dispatcher_of planned dispatched error⟩
  unfold Implementation.tokens
  rw [opens]
  cases found <;> rfl

/-- The constructor of a record with a selector binds one variable. -/
theorem chosenStore_literal : ∃ plan implementation after, ∃ parts : ConstructorParts,
    (Session.implement plan).run rootSession = (.ok implementation, after) ∧
      implementation.constructor.tokens "EnvError" = parts.tokens ∧ bindings parts.body = 1 := by
  obtain ⟨record, plan, selector, candidate, implementation, after, parsers, value, analysed, selects,
    -, -, written, -⟩ := chosenStore_loads
  obtain ⟨parts, dispatcher, -, isConstructor, constructor, -⟩ :=
    literal_of_fields analysed written "EnvError"
  have selecting := selector_isSome (ofRecord_ok analysed)
  rw [selects] at selecting
  refine ⟨plan, implementation, after, parts, written, isConstructor, ?_⟩
  rw [constructor.bound, ← selecting]
  rfl

end EnvLoader.StructLiterals
