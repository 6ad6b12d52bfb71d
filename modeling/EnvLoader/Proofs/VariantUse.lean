import EnvLoader.Loader.Program
import Mathlib.Data.Fintype.EquivFin

/-! Which variants of the error enumeration generated code constructs. The code is written for
an enumeration of a given name, and constructs a variant if it has the path to it whatever
that name is. So a type that happens to be spelled like such a path does not count. -/
namespace EnvLoader.VariantUse
open Source Loader

/-- Tokens name a variant of an enumeration, at any depth. -/
inductive Names (enumeration variant : String) : List Token → Prop where
  | path {rest : List Token} : Names enumeration variant
      (.ident enumeration :: .punct ':' .joint :: .punct ':' .alone :: .ident variant :: rest)
  | inside {delimiter : Delimiter} {body rest : List Token} (named : Names enumeration variant body) :
      Names enumeration variant (.group delimiter body :: rest)
  | later {token : Token} {rest : List Token} (named : Names enumeration variant rest) :
      Names enumeration variant (token :: rest)

/-- Code, given for the name of the enumeration, constructs a variant. -/
def Constructs (emit : String → List Token) (variant : String) : Prop :=
  ∀ enumeration, Names enumeration variant (emit enumeration)

mutual
/-- The identifiers in a token. -/
def identifiersIn : Token → List String
  | .ident name => [name]
  | .group _ body => identifiers body
  | .punct _ _ => []
  | .literal _ => []

/-- The identifiers in tokens. -/
def identifiers : List Token → List String
  | [] => []
  | token :: rest => identifiersIn token ++ identifiers rest
end

variable {enumeration variant name : String} {tokens first second body : List Token}
  {variants more : List String} {delimiter : Delimiter}

/-! ### Identifiers, paths and lists with commas -/

@[simp] theorem identifiersIn_ident (name : String) : identifiersIn (.ident name) = [name] := rfl

@[simp] theorem identifiersIn_punct (char : Char) (spacing : Spacing) :
    identifiersIn (.punct char spacing) = [] := rfl

@[simp] theorem identifiersIn_group (delimiter : Delimiter) (body : List Token) :
    identifiersIn (.group delimiter body) = identifiers body := rfl

@[simp] theorem identifiers_nil : identifiers [] = [] := rfl

@[simp] theorem identifiers_cons (token : Token) (rest : List Token) :
    identifiers (token :: rest) = identifiersIn token ++ identifiers rest := rfl

theorem member_eq (base name : String) :
    member base name = [.ident base, .punct ':' .joint, .punct ':' .alone, .ident name] := rfl

theorem commaTokens_nil (trailing : Bool) : commaTokens trailing [] = [] := rfl

theorem commaTokens_last (trailing : Bool) (last : List Token) :
    commaTokens trailing [last] = last ++ if trailing then mark "," else [] := rfl

theorem commaTokens_cons (trailing : Bool) (first second : List Token) (rest : List (List Token)) :
    commaTokens trailing (first :: second :: rest) =
      first ++ mark "," ++ commaTokens trailing (second :: rest) := rfl

@[simp] theorem identifiers_append :
    identifiers (first ++ second) = identifiers first ++ identifiers second := by
  induction first with
  | nil => rfl
  | cons token rest ih => simp [ih]

theorem names_right (named : Names enumeration variant second) :
    Names enumeration variant (first ++ second) := by
  induction first with
  | nil => exact named
  | cons token rest ih => exact .later ih

theorem names_left (named : Names enumeration variant first) :
    Names enumeration variant (first ++ second) := by
  induction named with
  | path => exact .path
  | inside named => exact .inside named
  | later _ ih => exact .later ih

theorem mem_identifiers (named : Names enumeration variant tokens) :
    enumeration ∈ identifiers tokens := by
  induction named with
  | path => simp
  | inside _ ih => exact List.mem_append_left _ ih
  | later _ ih => exact List.mem_append_right _ ih

/-- Tokens name certain variants only, and do not end within the path to another. -/
def Only (enumeration : String) (variants : List String) (tokens : List Token) : Prop :=
  ∀ variant rest, Names enumeration variant (tokens ++ rest) →
    variant ∈ variants ∨ Names enumeration variant rest

theorem only_names (only : Only enumeration variants tokens)
    (named : Names enumeration variant tokens) : variant ∈ variants := by
  rcases only variant [] (by simpa using named) with found | nothing
  · exact found
  · exact nomatch mem_identifiers nothing

theorem only_append (head : Only enumeration variants first)
    (tail : Only enumeration variants second) : Only enumeration variants (first ++ second) := by
  intro variant rest named
  rw [List.append_assoc] at named
  exact (head variant _ named).elim .inl (tail variant rest)

/-- Tokens without the enumeration's name name none of its variants. -/
theorem only_plain (avoids : enumeration ∉ identifiers tokens) :
    Only enumeration variants tokens := by
  intro variant rest named
  right
  induction tokens with
  | nil => exact named
  | cons token tokens ih =>
    simp only [identifiers_cons, List.mem_append, not_or] at avoids
    refine ih avoids.2 ?_
    rw [List.cons_append] at named
    generalize follows : token :: (tokens ++ rest) = all at named
    cases named with
    | path =>
      obtain ⟨rfl, -⟩ := List.cons.inj follows
      simp at avoids
    | inside named =>
      cases follows
      exact absurd (mem_identifiers named) avoids.1
    | later named =>
      cases follows
      exact named

/-- A path to a variant names that variant. -/
theorem only_member (listed : variant ∈ variants) (other : variant ≠ enumeration) :
    Only enumeration variants (member enumeration variant) := by
  intro found rest named
  rw [member_eq] at named
  generalize follows : [Token.ident enumeration, .punct ':' .joint, .punct ':' .alone,
    .ident variant] ++ rest = all at named
  cases named with
  | path =>
    cases follows
    exact .inl listed
  | inside named => exact nomatch follows
  | later named =>
    cases follows
    have plain : Only enumeration variants [.punct ':' .joint, .punct ':' .alone, .ident variant] :=
      only_plain (by simpa using other.symm)
    exact plain found rest named

theorem only_group (only : Only enumeration variants body) :
    Only enumeration variants [.group delimiter body] := by
  intro variant rest named
  generalize follows : [.group delimiter body] ++ rest = all at named
  cases named with
  | path => exact nomatch follows
  | inside named =>
    cases follows
    exact .inl (only_names only named)
  | later named =>
    cases follows
    exact .inr named

/-- The enumeration's name alone, with another mark than a colon behind it. -/
theorem only_word {token : Token} (separate : token ≠ .punct ':' .joint)
    (avoids : enumeration ∉ identifiersIn token) :
    Only enumeration variants [.ident enumeration, token] := by
  intro variant rest named
  generalize follows : [.ident enumeration, token] ++ rest = all at named
  cases named with
  | path =>
    cases follows
    exact absurd rfl separate
  | inside named => exact nomatch follows
  | later named =>
    cases follows
    have plain : Only enumeration variants [token] := only_plain (by simpa using avoids)
    exact plain variant rest named

@[simp] theorem identifiers_mark (chars : String) : identifiers (mark chars) = [] := by
  change identifiers (mark.go chars.toList) = []
  induction chars.toList with
  | nil => rfl
  | cons first rest ih =>
    cases rest with
    | nil => rfl
    | cons second rest => exact ih

@[simp] theorem identifiers_word (name : String) : identifiers (word name) = [name] := rfl

@[simp] theorem identifiers_quoted (text : String) : identifiers (quoted text) = [] := rfl

@[simp] theorem identifiers_group : identifiers [.group delimiter body] = identifiers body :=
  List.append_nil _

@[simp] theorem identifiers_inParens : identifiers (inParens body) = identifiers body :=
  identifiers_group

@[simp] theorem identifiers_inBraces : identifiers (inBraces body) = identifiers body :=
  identifiers_group

/-- A result type with the enumeration as its error. -/
theorem only_result {value : List Token} {type : String}
    (avoids : enumeration ∉ identifiers (applied type [value, word ""])) :
    Only enumeration variants (applied type [value, word enumeration]) := by
  have split : applied type [value, word enumeration] =
      (word type ++ mark "<" ++ value ++ mark ",") ++ [.ident enumeration, .punct '>' .alone] := by
    simp only [applied, commaTokens_cons, commaTokens_last, List.append_assoc]
    rfl
  have before : enumeration ∉ identifiers (word type ++ mark "<" ++ value ++ mark ",") := by
    simp only [applied, commaTokens_cons, commaTokens_last, identifiers_append, List.mem_append,
      not_or] at avoids
    obtain ⟨⟨⟨isType, opens⟩, ⟨isValue, comma⟩, -⟩, -⟩ := avoids
    simp only [identifiers_append, List.mem_append, not_or]
    exact ⟨⟨⟨isType, opens⟩, isValue⟩, comma⟩
  rw [split]
  exact only_append (only_plain before) (only_word (by simp) (by simp))

@[simp] theorem identifiers_member (base : String) : identifiers (member base name) = [base, name] := rfl

theorem identifiers_comma {trailing : Bool} {items : List (List Token)} (listed : tokens ∈ items) :
    identifiers tokens ⊆ identifiers (commaTokens trailing items) := by
  induction items with
  | nil => exact nomatch listed
  | cons first rest ih =>
    cases rest with
    | nil =>
      rw [List.mem_singleton.mp listed, commaTokens_last, identifiers_append]
      exact List.subset_append_left _ _
    | cons second rest =>
      rw [commaTokens_cons, identifiers_append, identifiers_append]
      rcases List.mem_cons.mp listed with rfl | listed
      · exact fun _ member => List.mem_append_left _ (List.mem_append_left _ member)
      · exact fun _ member => List.mem_append_right _ (ih listed member)

theorem only_comma {trailing : Bool} {items : List (List Token)}
    (each : ∀ item ∈ items, Only enumeration variants item) :
    Only enumeration variants (commaTokens trailing items) := by
  have comma : Only enumeration variants (mark ",") := only_plain (by simp)
  induction items with
  | nil => exact only_plain (by simp [commaTokens_nil])
  | cons first rest ih =>
    cases rest with
    | nil =>
      rw [commaTokens_last]
      refine only_append (each first (by simp)) ?_
      cases trailing
      · exact only_plain (by simp)
      · exact comma
    | cons second rest =>
      rw [commaTokens_cons]
      exact only_append (only_append (each first (by simp)) comma)
        (ih fun item listed => each item (List.mem_cons_of_mem _ listed))

theorem names_comma {trailing : Bool} {items : List (List Token)} (listed : tokens ∈ items)
    (named : Names enumeration variant tokens) :
    Names enumeration variant (commaTokens trailing items) := by
  induction items with
  | nil => exact nomatch listed
  | cons first rest ih =>
    cases rest with
    | nil =>
      cases List.mem_singleton.mp listed
      exact names_left named
    | cons second rest =>
      rw [commaTokens_cons]
      rcases List.mem_cons.mp listed with rfl | listed
      · exact names_left (names_left named)
      · exact names_right (ih listed)

theorem names_member : Names enumeration variant (member enumeration variant) := by
  rw [member_eq]
  exact .path

/-! ### Dispatchers -/

/-- The variants that a dispatcher constructs. -/
def dispatcherVariants : List String := ["InvalidChoice", "Build"]

private theorem arm_only {dispatcher : Dispatcher} {choice : Choice}
    (fresh : enumeration ∉ identifiers (dispatcher.arm "" choice)) :
    Only enumeration dispatcherVariants (dispatcher.arm enumeration choice) := by
  simp only [Dispatcher.arm, identifiers_append, identifiers_inParens, identifiers_member,
    identifiers_quoted, identifiers_mark, identifiers_word, List.mem_append, List.mem_cons,
    List.not_mem_nil, not_or, false_or, or_false] at fresh
  obtain ⟨⟨⟨⟨⟨⟨opens, choiceMember⟩, asks⟩, ⟨-, notChoice⟩, clone⟩, method⟩, maps⟩,
    ⟨takes, -, notBuild⟩, again, gives⟩ := fresh
  have opening : Only enumeration dispatcherVariants (quoted choice.label ++ mark "=>" ++
      code "self ." ++ choice.member.tokens ++ code ". as_ref () . ok_or_else") :=
    only_plain (by simp [opens, choiceMember, asks])
  have absent : Only enumeration dispatcherVariants (inParens (mark "||" ++
      member enumeration "InvalidChoice" ++ inParens dispatcher.selectorClone)) :=
    only_group (only_append (only_append (only_plain (by simp))
      (only_member (by simp [dispatcherVariants]) (Ne.symm notChoice))) (only_plain (by simp [clone])))
  have calling : Only enumeration dispatcherVariants (mark "?" ++ mark "." ++ word choice.method ++
      code "() . map (Into :: into) . map_err") := only_plain (by simp [method, maps])
  have failed : Only enumeration dispatcherVariants (inParens (code "| source |" ++
      member enumeration "Build" ++ inParens (dispatcher.selectorClone ++ code ", source . into ()"))) :=
    only_group (only_append (only_append (only_plain (by simp [takes]))
      (only_member (by simp [dispatcherVariants]) (Ne.symm notBuild)))
      (only_plain (by simp [again, gives])))
  have whole := only_append (only_append (only_append opening absent) calling) failed
  simpa only [Dispatcher.arm, List.append_assoc] using whole

/-- A dispatcher with a choice constructs the variants of a wrong choice and of a failed build. -/
theorem dispatcher_constructs {dispatcher : Dispatcher} (chooses : dispatcher.choices ≠ []) :
    Constructs dispatcher.tokens variant ↔ variant ∈ dispatcherVariants := by
  constructor
  · intro constructs
    obtain ⟨enumeration, fresh⟩ :=
      Infinite.exists_notMem_finset (identifiers (dispatcher.tokens "")).toFinset
    rw [List.mem_toFinset] at fresh
    refine only_names ?_ (constructs enumeration)
    simp only [Dispatcher.tokens, identifiers_append, identifiers_inParens, identifiers_inBraces,
      identifiers_member, identifiers_mark, List.mem_append, List.mem_cons, List.not_mem_nil, not_or,
      or_false] at fresh
    obtain ⟨⟨⟨⟨docs, errorDocs⟩, head⟩, typed⟩, ⟨⟨matching, selector⟩, text⟩,
      ⟨⟨arms, others⟩, ⟨-, notChoice⟩, owned⟩⟩ := fresh
    have opening : Only enumeration dispatcherVariants
        (docTokens s!" Builds the `{dispatcher.targetText}` named by `{dispatcher.selector}`." ++
          rawDocLines dispatcherErrors ++ code "pub fn build (& self) ->") :=
      only_plain (by simp [docs, errorDocs, head])
    have choosing : Only enumeration dispatcherVariants
        (commaTokens true (dispatcher.choices.map (dispatcher.arm enumeration))) := by
      refine only_comma fun tokens listed => ?_
      obtain ⟨choice, member, rfl⟩ := List.mem_map.mp listed
      exact arm_only fun found => arms (identifiers_comma (List.mem_map_of_mem member) found)
    have otherwise : Only enumeration dispatcherVariants (inParens
        (EnvLoader.Source.member enumeration "InvalidChoice" ++ code "(other . to_owned ())")) :=
      only_group (only_append (only_member (by simp [dispatcherVariants]) (Ne.symm notChoice))
        (only_plain owned))
    have body : Only enumeration dispatcherVariants (inBraces (code "match self ." ++
        dispatcher.selectorMember.tokens ++ code ". as_str ()" ++
        inBraces (commaTokens true (dispatcher.choices.map (dispatcher.arm enumeration)) ++
          code "other => Err" ++ inParens (EnvLoader.Source.member enumeration "InvalidChoice" ++
            code "(other . to_owned ())") ++ mark ","))) :=
      only_group (only_append (only_plain (by simp [matching, selector, text]))
        (only_group (only_append (only_append (only_append choosing (only_plain others)) otherwise)
          (only_plain (by simp)))))
    exact only_append (only_append opening (only_result typed)) body
  · intro listed enumeration
    rw [dispatcherVariants, List.mem_pair] at listed
    unfold Dispatcher.tokens
    refine names_right (.inside (names_right (.inside ?_)))
    rcases listed with rfl | rfl
    · refine names_left (names_right (.inside (names_left names_member)))
    · obtain ⟨choice, rest, first⟩ := List.exists_cons_of_ne_nil chooses
      refine names_left (names_left (names_left (names_comma (List.mem_map_of_mem
        (first ▸ List.mem_cons_self : choice ∈ dispatcher.choices)) ?_)))
      exact names_right (.inside (names_left (names_right names_member)))

/-! ### Parser functions -/

/-- The variants that a conversion constructs. -/
def conversionVariants : Conversion → List String
  | .text | .path => []
  | .bool => ["InvalidBool"]
  | .int => ["InvalidInt"]
  | .float => ["InvalidFloat"]
  | .duration => ["InvalidDuration"]

/-- The variants that a parser function constructs. -/
def parserVariants (parser : ParserFn) : List String :=
  conversionVariants parser.conversion ++ "NotUnicode" ::
    if parser.isRequired then ["KeyNotFound"] else []

/-- A handed-over cause names the variant that it is handed to. -/
private theorem mapError_only (listed : variant ∈ variants)
    (fresh : enumeration ∉ identifiers (mapError "" variant)) :
    Only enumeration variants (mapError enumeration variant) := by
  simp only [mapError, identifiers_append, identifiers_inParens, identifiers_member,
    List.mem_append, List.mem_cons, List.not_mem_nil, not_or, or_false] at fresh
  obtain ⟨maps, ⟨takes, -, other⟩, gives⟩ := fresh
  exact only_append (only_plain maps) (only_group (only_append (only_append (only_plain takes)
    (only_member listed (Ne.symm other))) (only_plain gives)))

private theorem conversion_only {conversion : Conversion} {type : List Token}
    (included : conversionVariants conversion ⊆ variants)
    (fresh : enumeration ∉ identifiers (conversion.tokens type "")) :
    Only enumeration variants (conversion.tokens type enumeration) := by
  cases conversion with
  | text | path => exact only_plain fresh
  | bool =>
    simp only [Conversion.tokens, boolArms, identifiers_append, identifiers_inParens,
      identifiers_inBraces, identifiers_member, identifiers_mark, List.mem_append, List.mem_cons,
      List.not_mem_nil, not_or, or_false] at fresh
    obtain ⟨matching, ⟨⟨truths, falsehoods⟩, others⟩, ⟨-, other⟩, shown⟩ := fresh
    have failed : Only enumeration variants (inParens (member enumeration "InvalidBool" ++
        inParens (code "format ! (\"\x7bkey\x7d=\x7braw\x7d\")"))) :=
      only_group (only_append (only_member (included (by simp [conversionVariants])) (Ne.symm other))
        (only_plain (by simpa using shown)))
    have arms : Only enumeration variants
        (code "\"y\" | \"yes\" | \"true\" | \"t\" | \"1\" | \"on\" => Ok (true) ," ++
        code "\"n\" | \"no\" | \"false\" | \"f\" | \"0\" | \"off\" => Ok (false) ," ++ code "_ => Err") :=
      only_plain (by simp [truths, falsehoods, others])
    exact only_append (only_plain matching)
      (only_group (only_append (only_append arms failed) (only_plain (by simp))))
  | int | float =>
    simp only [Conversion.tokens, identifiers_append, List.mem_append, not_or] at fresh
    obtain ⟨⟨⟨parses, typed⟩, called⟩, maps⟩ := fresh
    refine only_append (only_plain ?_) (mapError_only (included (by simp [conversionVariants])) maps)
    simp [parses, typed, called]
  | duration =>
    simp only [Conversion.tokens, identifiers_append, List.mem_append, not_or] at fresh
    exact only_append (only_plain fresh.1)
      (mapError_only (included (by simp [conversionVariants])) fresh.2)

/-- Tokens begin with the first half of a pair of closing angle brackets. -/
private def startsJoint : List Token → Bool
  | .punct '>' .joint :: _ => true
  | _ => false

private theorem startsJoint_cons {tokens : List Token} (starts : startsJoint tokens = true) :
    ∃ rest, tokens = .punct '>' .joint :: rest := by
  unfold startsJoint at starts
  split at starts
  · exact ⟨_, rfl⟩
  · exact absurd starts Bool.false_ne_true

/-- What stands behind the enumeration's name in the type of a list. -/
private theorem collected_only (fresh : enumeration ∉ identifiers (code ">> ()")) :
    Only enumeration variants (word enumeration ++ code ">> ()") := by
  obtain ⟨rest, starts⟩ := startsJoint_cons (show startsJoint (code ">> ()") = true by decide)
  rw [starts] at fresh ⊢
  simp only [identifiers_cons, identifiersIn_punct, List.nil_append] at fresh
  have named : Only enumeration variants [.ident enumeration, .punct '>' .joint] :=
    only_word (by simp) (by simp)
  have whole : Only enumeration variants ([.ident enumeration, .punct '>' .joint] ++ rest) :=
    only_append named (only_plain fresh)
  exact whole

private theorem convert_only {parser : ParserFn}
    (included : conversionVariants parser.conversion ⊆ variants)
    (fresh : enumeration ∉ identifiers (parser.convert "")) :
    Only enumeration variants (parser.convert enumeration) := by
  cases list : parser.isList with
  | false =>
    simp only [ParserFn.convert, list, Bool.false_eq_true, ↓reduceIte] at fresh ⊢
    exact conversion_only included fresh
  | true =>
    simp only [ParserFn.convert, list, listConversion, ↓reduceIte, identifiers_append,
      identifiers_inParens, identifiers_inBraces, identifiers_mark, List.mem_append,
      List.not_mem_nil, not_or] at fresh
    obtain ⟨⟨⟨⟨⟨⟨splits, item, raw, converts⟩, collects⟩, value⟩, -⟩, -⟩, closes⟩ := fresh
    simp only [ParserFn.convert, list, listConversion, ↓reduceIte]
    have each : Only enumeration variants (inParens (code "| item |" ++
        inBraces (code "let raw = item . to_owned () ;" ++
          parser.conversion.tokens parser.type.tokens enumeration))) :=
      only_group (only_append (only_plain item) (only_group (only_append (only_plain raw)
        (conversion_only included converts))))
    have typed : Only enumeration variants
        (code ". collect :: < Result <" ++ parser.valueType ++ mark ",") :=
      only_plain (by simp [collects, value])
    have whole := only_append (only_append (only_append (only_plain splits) each) typed)
      (collected_only closes)
    simpa only [List.append_assoc] using whole

private theorem readVariable_only (unset : String → List Token)
    (listed : "NotUnicode" ∈ variants)
    (only : enumeration ∉ identifiers (unset "") → Only enumeration variants (unset enumeration))
    (fresh : enumeration ∉ identifiers (readVariable "" (unset ""))) :
    Only enumeration variants (readVariable enumeration (unset enumeration)) := by
  simp only [readVariable, identifiers_append, identifiers_inParens, identifiers_inBraces,
    identifiers_member, identifiers_mark, List.mem_append, List.mem_cons, List.not_mem_nil, not_or,
    or_false] at fresh
  obtain ⟨matching, ⟨⟨found, absent⟩, raw⟩, ⟨-, other⟩, owned⟩ := fresh
  have failed : Only enumeration variants
      (inParens (member enumeration "NotUnicode" ++ code "(key . to_owned ())")) :=
    only_group (only_append (only_member listed (Ne.symm other)) (only_plain owned))
  have arms : Only enumeration variants
      (code "Ok (raw) => raw , Err (env :: VarError :: NotPresent) =>" ++ inBraces (unset enumeration) ++
        code "Err (env :: VarError :: NotUnicode (_)) => return Err" ++
        inParens (member enumeration "NotUnicode" ++ code "(key . to_owned ())") ++ mark ",") :=
    only_append (only_append (only_append (only_append (only_plain found) (only_group (only absent)))
      (only_plain raw)) failed) (only_plain (by simp))
  exact only_append (only_append (only_plain matching) (only_group arms)) (only_plain (by simp))

/-- What a required parser function does where the variable is unset. -/
private def missing (enumeration : String) : List Token :=
  code "return Err" ++ inParens (member enumeration "KeyNotFound" ++ code "(key . to_owned ())") ++
    mark ";"

private theorem missing_only (listed : "KeyNotFound" ∈ variants)
    (fresh : enumeration ∉ identifiers (missing "")) :
    Only enumeration variants (missing enumeration) := by
  simp only [missing, identifiers_append, identifiers_inParens, identifiers_member, identifiers_mark,
    List.mem_append, List.mem_cons, List.not_mem_nil, not_or, or_false] at fresh
  obtain ⟨returns, ⟨-, other⟩, owned⟩ := fresh
  exact only_append (only_append (only_plain returns) (only_group (only_append
    (only_member listed (Ne.symm other)) (only_plain owned)))) (only_plain (by simp))

private theorem required_only {parser : ParserFn} (required : parser.isRequired = true)
    (fresh : enumeration ∉ identifiers (parser.tokens "")) :
    Only enumeration (parserVariants parser) (parser.tokens enumeration) := by
  have listed : "KeyNotFound" ∈ parserVariants parser := by simp [parserVariants, required]
  have unicode : "NotUnicode" ∈ parserVariants parser := by simp [parserVariants]
  simp only [ParserFn.tokens, required, ↓reduceIte, identifiers_append, identifiers_inBraces, List.mem_append,
    not_or] at fresh ⊢
  obtain ⟨⟨⟨⟨⟨docs, function⟩, name⟩, head⟩, typed⟩, reads, converts⟩ := fresh
  refine only_append (only_append (only_plain ?_) (only_result typed))
    (only_group (only_append ?_ (convert_only (List.subset_append_left _ _) converts)))
  · simp only [identifiers_append, List.mem_append, not_or]
    exact ⟨⟨⟨docs, function⟩, name⟩, head⟩
  · exact readVariable_only missing unicode (missing_only listed) reads

private theorem optional_only {parser : ParserFn} (required : parser.isRequired = false)
    (fresh : enumeration ∉ identifiers (parser.tokens "")) :
    Only enumeration (parserVariants parser) (parser.tokens enumeration) := by
  have unicode : "NotUnicode" ∈ parserVariants parser := by simp [parserVariants]
  simp only [ParserFn.tokens, required, Bool.false_eq_true, ↓reduceIte, identifiers_append,
    identifiers_inBraces, List.mem_append, not_or] at fresh ⊢
  obtain ⟨⟨⟨⟨⟨docs, function⟩, name⟩, head⟩, typed⟩,
    ⟨⟨⟨⟨⟨reads, value⟩, result⟩, assigns⟩, converts⟩, ends⟩, maps⟩ := fresh
  have before : Only enumeration (parserVariants parser) (readVariable enumeration
      (code "let Some (default) = default else" ++ inBraces (code "return Ok (None) ;") ++ mark ";" ++
        code "default . to_owned ()")) :=
    readVariable_only (fun _ => _) unicode (fun plain => only_plain plain) reads
  refine only_append (only_append (only_plain ?_) (only_result typed)) (only_group ?_)
  · simp only [identifiers_append, List.mem_append, not_or]
    exact ⟨⟨⟨docs, function⟩, name⟩, head⟩
  · refine only_append (only_append (only_append (only_append (only_append (only_append ?_
      (only_plain value)) (only_result result)) (only_plain assigns))
      (convert_only (List.subset_append_left _ _) converts)) (only_plain ends)) (only_plain maps)
    exact before

private theorem mapError_names : Names enumeration variant (mapError enumeration variant) :=
  names_right (.inside (names_left (names_right names_member)))

private theorem conversion_names {conversion : Conversion} {type : List Token}
    (listed : variant ∈ conversionVariants conversion) :
    Names enumeration variant (conversion.tokens type enumeration) := by
  cases conversion with
  | text | path => exact nomatch listed
  | bool =>
    cases List.mem_singleton.mp listed
    exact names_right (.inside (names_left (names_right (.inside (names_left names_member)))))
  | int | float | duration =>
    cases List.mem_singleton.mp listed
    exact names_right mapError_names

private theorem convert_names {parser : ParserFn}
    (listed : variant ∈ conversionVariants parser.conversion) :
    Names enumeration variant (parser.convert enumeration) := by
  have item := @conversion_names enumeration variant parser.conversion parser.type.tokens listed
  cases list : parser.isList with
  | false => simpa only [ParserFn.convert, list, Bool.false_eq_true, ↓reduceIte] using item
  | true =>
    simp only [ParserFn.convert, list, listConversion, ↓reduceIte]
    exact names_left (names_left (names_left (names_left (names_left (names_right
      (.inside (names_right (.inside (names_right item)))))))))

private theorem readVariable_names {unset : List Token} :
    Names enumeration "NotUnicode" (readVariable enumeration unset) :=
  names_left (names_right (.inside (names_left (names_right (.inside (names_left names_member))))))

private theorem unset_names {unset : List Token} (named : Names enumeration variant unset) :
    Names enumeration variant (readVariable enumeration unset) :=
  names_left (names_right (.inside (names_left (names_left (names_left (names_right
    (.inside named)))))))

/-- A parser function constructs the variants of its conversion, of a value that is no text, and
of a variable that is required and unset. -/
theorem parser_constructs (parser : ParserFn) :
    Constructs parser.tokens variant ↔ variant ∈ parserVariants parser := by
  constructor
  · intro constructs
    obtain ⟨enumeration, fresh⟩ :=
      Infinite.exists_notMem_finset (identifiers (parser.tokens "")).toFinset
    rw [List.mem_toFinset] at fresh
    refine only_names ?_ (constructs enumeration)
    cases required : parser.isRequired with
    | true => exact required_only required fresh
    | false => exact optional_only required fresh
  · intro listed enumeration
    unfold ParserFn.tokens
    cases required : parser.isRequired with
    | true =>
      simp only [parserVariants, required, ↓reduceIte, List.mem_append, List.mem_pair] at listed ⊢
      refine names_right (.inside ?_)
      rcases listed with converted | rfl | rfl
      · exact names_right (convert_names converted)
      · exact names_left readVariable_names
      · exact names_left (unset_names (names_left (names_right (.inside (names_left names_member)))))
    | false =>
      simp only [parserVariants, required, Bool.false_eq_true, ↓reduceIte, List.mem_append,
        List.mem_singleton] at listed ⊢
      refine names_right (.inside ?_)
      rcases listed with converted | rfl
      · exact names_left (names_left (names_right (convert_names converted)))
      · exact names_left (names_left (names_left (names_left (names_left (names_left
          readVariable_names)))))

end EnvLoader.VariantUse
