import EnvLoader.Schema.Options
import EnvLoader.Proofs.Outcomes

/-! The options of a field, read from lists of them in its attributes. What is read is a function of
the options alone: of their paths and values in the order in which they stand, not of the attributes
they are grouped in, of the attributes between those, or of how closely the source was set. The lists
are accepted if each option sets something and nothing is set twice, and then not even the order
matters. -/
namespace EnvLoader.OptionLists
open Source Outcomes

/-! ### Written options -/

/-- A literal, as the value of an option. -/
inductive OptionValue where
  | token (text : String)
  | truth (holds : Bool)
  | negative (number : String)

/-- The text of a value that is a string. -/
def OptionValue.text? : OptionValue → Option String
  | .token text => stringValue? text
  | .truth _ | .negative _ => none

/-- The tokens of a value in normal form. -/
def OptionValue.tokens : OptionValue → List Token
  | .token text => [.literal text]
  | .truth holds => [.ident (if holds then "true" else "false")]
  | .negative number => [.punct '-' .alone, .literal number]

/-- An option as it is given: a path and a literal. -/
structure GivenOption where
  path : ModulePath
  value : OptionValue

/-- The tokens of a value as they may be written. -/
inductive ValueTokens : OptionValue → List Token → Prop where
  | token (text : String) : ValueTokens (.token text) [.literal text]
  | truth (holds : Bool) : ValueTokens (.truth holds) [.ident (if holds then "true" else "false")]
  | negative (number : String) (spacing : Spacing) (isNumber : isNumber number = true) :
      ValueTokens (.negative number) [.punct '-' spacing, .literal number]

/-- The tokens of the words behind the first one of a path. -/
inductive WordsTokens : List String → List Token → Prop where
  | nil : WordsTokens [] []
  | cons (word : String) (spacing : Spacing) {words : List String} {tokens : List Token}
      (more : WordsTokens words tokens) :
      WordsTokens (word :: words)
        (.punct ':' .joint :: .punct ':' spacing :: .ident word :: tokens)

/-- The tokens of a path. -/
inductive PathTokens : ModulePath → List Token → Prop where
  | relative (first : String) {words : List String} {tokens : List Token}
      (more : WordsTokens words tokens) :
      PathTokens ⟨false, first :: words⟩ (.ident first :: tokens)
  | leading {first : String} {words : List String} {tokens : List Token}
      (all : WordsTokens (first :: words) tokens) : PathTokens ⟨true, first :: words⟩ tokens

/-- The tokens of an option: a path, an equals sign and a literal. -/
inductive OptionTokens : GivenOption → List Token → Prop where
  | mk {option : GivenOption} {path value : List Token} (spacing : Spacing)
      (named : PathTokens option.path path) (valued : ValueTokens option.value value) :
      OptionTokens option (path ++ .punct '=' spacing :: value)

/-- The tokens of a list of options with commas, the last of which is optional. -/
inductive ListTokens : List GivenOption → List Token → Prop where
  | nil : ListTokens [] []
  | last {option : GivenOption} {tokens : List Token} (first : OptionTokens option tokens) :
      ListTokens [option] tokens
  | comma {option : GivenOption} {tokens rest : List Token} {options : List GivenOption}
      (first : OptionTokens option tokens) (spacing : Spacing) (more : ListTokens options rest) :
      ListTokens (option :: options) (tokens ++ .punct ',' spacing :: rest)

/-- The options that attributes give together: those of the parenthesised lists of the attributes
for options, in order. Other attributes give none. -/
inductive Gives : List Attribute → List GivenOption → Prop where
  | nil : Gives [] []
  | foreign {attr : Attribute} {attributes : List Attribute} {options : List GivenOption}
      (named : attr.isNamed optionAttribute = false) (more : Gives attributes options) :
      Gives (attr :: attributes) options
  | listed {attr : Attribute} {attributes : List Attribute} {body : List Token}
      {options others : List GivenOption} (named : attr.isNamed optionAttribute = true)
      (input : attr.input = .list .paren body) (first : ListTokens options body)
      (more : Gives attributes others) : Gives (attr :: attributes) (options ++ others)

/-! ### What an option sets -/

/-- An option sets a value: its path is the name of an option alone, and its value is a string,
which is empty at most for a default. -/
structure Sets (option : GivenOption) (name : OptionName) (value : String) : Prop where
  named : option.path = ModulePath.ofWord name.word
  valued : option.value.text? = some value
  nonempty : value = "" → name = .default

/-- Options that are accepted: each sets a value, and no two have the same name. -/
structure Acceptable (options : List GivenOption) : Prop where
  set : ∀ option ∈ options, ∃ name value, Sets option name value
  once : (options.map (·.path)).Nodup

/-- The options with one more, as far as that can be added. -/
def addGiven (options : Options) (option : GivenOption) : Except OptionFault Options := do
  let some word := option.path.word? | throw .notAName
  let some name := OptionName.ofWord? word | throw (.unknown word)
  if (options.get? name).isSome then throw (.duplicate name)
  let some value := option.value.text? | throw (.notAString name)
  if value.isEmpty && name != .default then throw (.empty name)
  return options.set name value

variable {option : GivenOption} {options others : List GivenOption} {start result : Options}
  {attributes : List Attribute} {tokens rest taken : List Token} {name : OptionName}
  {value : String}

/-! ### Reading -/

/-- One more item is read if the test holds. -/
theorem go_succ {α : Type} {test : Ahead} {item : Reader α} {fuel : Nat} {state : ReadState} :
    (whileAhead.go test item (fuel + 1)).run state =
      if test state.input then (item.run state).bind fun (first, state) =>
        ((whileAhead.go test item fuel).run state).map fun (rest, state) => (first :: rest, state)
      else some ([], state) := by
  cases holds : test state.input with
  | true => cases read : item.run state <;> simp [whileAhead.go, ahead, holds, read]
  | false => simp [whileAhead.go, ahead, holds]

theorem words_read {words : List String} (written : WordsTokens words tokens)
    (stop : atMark "::" rest = false) {fuel : Nat} (enough : words.length ≤ fuel) :
    ∃ after, (whileAhead.go (atMark "::") (do takeMark "::"; anyWord) fuel).run
      ⟨tokens ++ rest, taken⟩ = some (words, ⟨rest, after⟩) := by
  induction written generalizing fuel taken with
  | nil =>
    cases fuel with
    | zero => simp [whileAhead.go, ahead, require, stop]
    | succ fuel => simp [go_succ, stop]
  | @cons word spacing words tokens more ih =>
    cases fuel with
    | zero => exact absurd enough (by simp)
    | succ fuel =>
      obtain ⟨after, read⟩ := @ih (.ident word :: ((mark "::").reverse ++ taken)) fuel
        (Nat.le_of_succ_le_succ enough)
      refine ⟨after, ?_⟩
      have comes : atMark "::" (.punct ':' .joint :: .punct ':' spacing :: .ident word ::
          (tokens ++ rest)) = true := rfl
      have item : (do takeMark "::"; anyWord : Reader String).run
          ⟨.punct ':' .joint :: .punct ':' spacing :: .ident word :: (tokens ++ rest), taken⟩ =
            some (word, ⟨tokens ++ rest, .ident word :: ((mark "::").reverse ++ taken)⟩) := rfl
      rw [go_succ]
      simp only [List.cons_append, comes, item]
      simp [read]

theorem words_length {words : List String} (written : WordsTokens words tokens) :
    words.length ≤ tokens.length := by
  induction written with
  | nil => exact Nat.le_refl 0
  | cons word spacing more ih =>
    simp only [List.length_cons]
    omega

theorem path_read {path : ModulePath} (written : PathTokens path tokens)
    (stop : atMark "::" rest = false) :
    ∃ after, optionPath.run ⟨tokens ++ rest, []⟩ = some (path, ⟨rest, after⟩) := by
  have word_read : ∀ first tokens taken, anyWord.run ⟨.ident first :: tokens, taken⟩ =
      some (first, ⟨tokens, .ident first :: taken⟩) := fun _ _ _ => rfl
  have behind : ∀ taken {words tokens}, WordsTokens words tokens →
      ∃ after, (whileAhead (atMark "::") (do takeMark "::"; anyWord)).run ⟨tokens ++ rest, taken⟩ =
        some (words, ⟨rest, after⟩) := by
    intro taken words tokens more
    have enough : words.length ≤ (tokens ++ rest).length := by
      have shorter := words_length more
      simp only [List.length_append]
      omega
    exact words_read more stop enough
  cases written with
  | relative first more =>
    obtain ⟨after, read⟩ := behind [.ident first] more
    refine ⟨after, ?_⟩
    have noMark : ∀ tokens, (optMark "::").run ⟨.ident first :: tokens, []⟩ =
        some (false, ⟨.ident first :: tokens, []⟩) := fun _ => rfl
    simp only [optionPath, StateT.run_bind, List.cons_append, noMark, word_read,
      Option.bind_eq_bind, Option.bind_some, read]
    rfl
  | @leading first words tokens all =>
    cases all with
    | cons _ spacing more =>
      obtain ⟨after, read⟩ := behind (.ident first :: (mark "::").reverse) more
      refine ⟨after, ?_⟩
      have colons : ∀ tokens, (optMark "::").run
          ⟨.punct ':' .joint :: .punct ':' spacing :: tokens, []⟩ =
            some (true, ⟨tokens, (mark "::").reverse⟩) := fun _ => rfl
      simp only [optionPath, StateT.run_bind, List.cons_append, colons, word_read,
        Option.bind_eq_bind, Option.bind_some, read]
      rfl

theorem value_read {given : OptionValue} (written : ValueTokens given tokens) (spacing : Spacing) :
    ∃ after, optionValue.run ⟨.punct '=' spacing :: (tokens ++ rest), taken⟩ =
      some (given.tokens, ⟨rest, after⟩) := by
  cases written with
  | token text => exact ⟨_, rfl⟩
  | truth holds => cases holds <;> exact ⟨_, rfl⟩
  | negative number sign isNumber =>
    have equals : (takeMark "=").run
        ⟨.punct '=' spacing :: .punct '-' sign :: .literal number :: rest, taken⟩ =
          some ((), ⟨.punct '-' sign :: .literal number :: rest, .punct '=' .alone :: taken⟩) := rfl
    have comes : atLiteral (.punct '-' sign :: .literal number :: rest) = true := isNumber
    refine ⟨.literal number :: .punct '-' .alone :: .punct '=' .alone :: taken, ?_⟩
    simp [optionValue, equals, takeLiteral, ahead, comes, require, advance, OptionValue.tokens]

/-- An option is read as what it adds, whatever follows it. -/
theorem readOption_given (written : OptionTokens option tokens) :
    readOption start (tokens ++ rest) = (addGiven start option).map (·, rest) := by
  obtain ⟨spacing, named, valued⟩ := written
  rename_i path value
  have stop : atMark "::" (.punct '=' spacing :: (value ++ rest)) = false := by
    cases spacing <;> rfl
  obtain ⟨after, pathRead⟩ := path_read named stop
  obtain ⟨_, valueRead⟩ := @value_read value rest after _ valued spacing
  unfold readOption addGiven
  simp only [List.append_assoc, List.cons_append, pathRead]
  cases option.path.word? with
  | none => rfl
  | some word =>
    dsimp only
    cases OptionName.ofWord? word with
    | none => rfl
    | some name =>
      dsimp only
      cases (start.get? name).isSome with
      | true => rfl
      | false =>
        simp only [valueRead]
        cases option.value with
        | truth holds | negative number => rfl
        | token text =>
          dsimp only [OptionValue.tokens, OptionValue.text?]
          cases stringValue? text with
          | none => rfl
          | some value =>
            dsimp only
            cases value.isEmpty && name != .default <;> rfl

theorem option_nonempty (written : OptionTokens option tokens) : tokens ≠ [] := by
  obtain ⟨spacing, named, valued⟩ := written
  simp

theorem list_nil (written : ListTokens options tokens) : tokens = [] ↔ options = [] := by
  cases written with
  | nil => simp
  | last first => simp [option_nonempty first]
  | comma first spacing more => simp

theorem readOptions_given (written : ListTokens options tokens) (some : options ≠ []) {fuel : Nat}
    (enough : tokens.length < fuel) :
    readOptions fuel start tokens = options.foldlM addGiven start := by
  induction written generalizing start fuel with
  | nil => exact absurd rfl some
  | @last option tokens first =>
    cases fuel with
    | zero => exact absurd enough (by simp)
    | succ fuel =>
      have read := @readOption_given option start tokens [] first
      rw [List.append_nil] at read
      rw [readOptions, read, List.foldlM_cons]
      cases addGiven start option <;> rfl
  | @comma option tokens rest options first spacing more ih =>
    cases fuel with
    | zero => exact absurd enough (by simp)
    | succ fuel =>
      rw [readOptions, readOption_given first, List.foldlM_cons]
      cases added : addGiven start option with
      | error fault => rfl
      | ok next =>
        have separated : afterMark? [','] (.punct ',' spacing :: rest) = Option.some rest := rfl
        simp only [Except.map, bind, Except.bind, List.isEmpty_cons, Bool.false_eq_true, ↓reduceIte,
          separated]
        cases rest with
        | nil =>
          rw [(list_nil more).mp rfl]
          rfl
        | cons token rest =>
          have others : options ≠ [] := fun none => nomatch (list_nil more).mpr none
          refine ih others ?_
          simp only [List.length_append, List.length_cons] at enough ⊢
          omega

theorem addOptions_given {attr : Attribute} {body : List Token}
    (input : attr.input = .list .paren body) (written : ListTokens options body) :
    addOptions start attr = options.foldlM addGiven start := by
  unfold addOptions
  rw [input]
  cases body with
  | nil =>
    rw [(list_nil written).mp rfl]
    rfl
  | cons token body =>
    have some : options ≠ [] := fun none => nomatch (list_nil written).mpr none
    exact readOptions_given written some (Nat.lt_succ_self _)

/-- The options of a field are those that its attributes give, added one after another. -/
theorem fieldOptions_gives (gives : Gives attributes options) :
    fieldOptions attributes = options.foldlM addGiven {} := by
  unfold fieldOptions
  generalize ({} : Options) = start
  induction gives generalizing start with
  | nil => rfl
  | foreign named more ih =>
    simp only [List.filter_cons, named]
    exact ih start
  | listed named input first more ih =>
    simp only [List.filter_cons, named, if_true, List.foldlM_cons, List.foldlM_append]
    rw [addOptions_given input first]
    exact bind_congr ih

/-! ### Adding -/

theorem word_eq {path : ModulePath} {word : String} :
    path.word? = some word ↔ path = ModulePath.ofWord word := by
  obtain ⟨leading, words⟩ := path
  unfold ModulePath.word? ModulePath.ofWord
  cases leading <;> rcases words with _ | ⟨first, _ | ⟨second, words⟩⟩ <;> simp

theorem ofWord?_eq {word : String} : OptionName.ofWord? word = some name ↔ word = name.word := by
  constructor
  · intro found
    have same := List.find?_some found
    exact (of_decide_eq_true same).symm
  · rintro rfl
    cases name <;> rfl

theorem word_injective : Function.Injective OptionName.word := by
  intro name other same
  have found := ofWord?_eq.mpr same
  rw [ofWord?_eq.mpr rfl] at found
  exact (Option.some.inj found)

@[simp] theorem get?_set (options : Options) (name other : OptionName) (value : String) :
    (options.set name value).get? other =
      if other = name then some value else options.get? other := by
  cases name <;> cases other <;> rfl

/-- Options are what they have for each name. -/
theorem options_ext {options others : Options} (same : ∀ name, options.get? name = others.get? name) :
    options = others := by
  have default := same .default
  have key := same .key
  have build := same .build
  have buildWith := same .buildWith
  cases options
  cases others
  simp_all [Options.get?]

/-- Options with one path set the value of one name. -/
theorem name_of_path {other : GivenOption} {otherName : OptionName} {otherValue : String}
    (sets : Sets option name value) (also : Sets other otherName otherValue)
    (same : other.path = option.path) : otherName = name := by
  have named : ModulePath.ofWord otherName.word = ModulePath.ofWord name.word := by
    rw [← also.named, ← sets.named, same]
  have words : [otherName.word] = [name.word] := congrArg ModulePath.words named
  exact word_injective (List.singleton_inj.mp words)

/-- An option sets one value at most. -/
theorem sets_iff {other : OptionName} {otherValue : String} (sets : Sets option name value) :
    Sets option other otherValue ↔ other = name ∧ otherValue = value := by
  constructor
  · intro also
    have valued := also.valued.symm.trans sets.valued
    exact ⟨name_of_path sets also rfl, Option.some.inj valued⟩
  · rintro ⟨rfl, rfl⟩
    exact sets

/-- An option is added if it sets a value that is not there yet. -/
theorem addGiven_ok : addGiven start option = .ok result ↔ ∃ name value, Sets option name value ∧
    start.get? name = none ∧ result = start.set name value := by
  constructor
  · intro added
    unfold addGiven at added
    cases path : option.path.word? with
    | none =>
      rw [path] at added
      exact nomatch added
    | some word =>
      cases known : OptionName.ofWord? word with
      | none =>
        simp only [path, known] at added
        exact nomatch added
      | some name =>
        cases slot : start.get? name with
        | some before =>
          simp only [path, known, slot] at added
          exact nomatch added
        | none =>
          cases text : option.value.text? with
          | none =>
            simp only [path, known, slot, text] at added
            exact nomatch added
          | some value =>
            simp only [path, known, slot, text] at added
            cases empty : value.isEmpty && name != .default with
            | true =>
              rw [empty] at added
              exact nomatch added
            | false =>
              rw [empty] at added
              cases added
              rw [ofWord?_eq.mp known] at path
              refine ⟨name, value, ⟨word_eq.mp path, text, ?_⟩, slot, rfl⟩
              rintro rfl
              simpa using empty
  · rintro ⟨name, value, sets, free, rfl⟩
    have empty : (value.isEmpty && name != .default) = false := by
      by_cases isEmpty : value = ""
      · rw [sets.nonempty isEmpty]
        simp
      · simp [isEmpty]
    unfold addGiven
    simp only [word_eq.mpr sets.named, ofWord?_eq.mpr rfl, free, sets.valued, empty]
    rfl

/-- What options that were all added have set, and what was there before. -/
theorem collected_ok (collected : options.foldlM addGiven start = .ok result) :
    (∀ option ∈ options, ∃ name value, Sets option name value ∧ start.get? name = none) ∧
      (options.map (·.path)).Nodup ∧
      ∀ name value, result.get? name = some value ↔
        start.get? name = some value ∨ ∃ option ∈ options, Sets option name value := by
  induction options generalizing start with
  | nil =>
    cases collected
    simp
  | cons first options ih =>
    rw [List.foldlM_cons] at collected
    obtain ⟨next, added, collected⟩ := bind_ok.mp collected
    obtain ⟨name, value, sets, free, rfl⟩ := addGiven_ok.mp added
    obtain ⟨each, once, slots⟩ := ih collected
    -- The others set other names, for this one is taken by now.
    have others : ∀ option ∈ options, ∃ other value, Sets option other value ∧ other ≠ name ∧
        start.get? other = none := by
      intro option among
      obtain ⟨other, value, setsOther, unset⟩ := each option among
      rw [get?_set] at unset
      split at unset
      · exact nomatch unset
      · rename_i different
        exact ⟨other, value, setsOther, different, unset⟩
    refine ⟨?_, ?_, ?_⟩
    · intro option among
      rcases List.mem_cons.mp among with rfl | among
      · exact ⟨name, value, sets, free⟩
      · obtain ⟨other, value, setsOther, -, unset⟩ := others option among
        exact ⟨other, value, setsOther, unset⟩
    · rw [List.map_cons, List.nodup_cons]
      refine ⟨?_, once⟩
      intro again
      obtain ⟨option, among, path⟩ := List.mem_map.mp again
      obtain ⟨other, value, setsOther, different, -⟩ := others option among
      exact different (name_of_path sets setsOther path)
    · intro other otherValue
      rw [slots, get?_set, List.exists_mem_cons_iff, sets_iff sets, ← or_assoc]
      apply or_congr_left
      by_cases same : other = name
      · subst same
        simp [free, eq_comm]
      · simp [same]

/-- Acceptable options are all added where none of them was there before. -/
theorem collected_of (acceptable : Acceptable options)
    (free : ∀ option ∈ options, ∀ name value, Sets option name value → start.get? name = none) :
    ∃ result, options.foldlM addGiven start = .ok result := by
  induction options generalizing start with
  | nil => exact ⟨start, rfl⟩
  | cons first options ih =>
    obtain ⟨once, others⟩ := List.nodup_cons.mp acceptable.once
    obtain ⟨name, value, sets⟩ := acceptable.set first List.mem_cons_self
    have unset := free first List.mem_cons_self name value sets
    have added : addGiven start first = .ok (start.set name value) :=
      addGiven_ok.mpr ⟨name, value, sets, unset, rfl⟩
    rw [List.foldlM_cons, added]
    refine ih ⟨fun option among => acceptable.set option (List.mem_cons_of_mem first among), others⟩ ?_
    intro option among other otherValue setsOther
    have different : other ≠ name := by
      rintro rfl
      have path : option.path = first.path := setsOther.named.trans sets.named.symm
      exact once (List.mem_map.mpr ⟨option, among, path⟩)
    rw [get?_set, if_neg different]
    exact free option (List.mem_cons_of_mem first among) other otherValue setsOther

/-- Options are accepted together if they are acceptable. -/
theorem collected_iff :
    (∃ result, options.foldlM addGiven {} = .ok result) ↔ Acceptable options := by
  constructor
  · rintro ⟨result, collected⟩
    obtain ⟨each, once, -⟩ := collected_ok collected
    refine ⟨?_, once⟩
    intro option among
    obtain ⟨name, value, sets, -⟩ := each option among
    exact ⟨name, value, sets⟩
  · intro acceptable
    refine collected_of acceptable ?_
    intro option among name value sets
    cases name <;> rfl

/-- What acceptable options give together is what each of them sets. -/
theorem collected_get? (collected : options.foldlM addGiven {} = .ok result) :
    ∀ name value, result.get? name = some value ↔ ∃ option ∈ options, Sets option name value := by
  obtain ⟨-, -, slots⟩ := collected_ok collected
  intro name value
  have nothing : ({} : Options).get? name = none := by cases name <;> rfl
  rw [slots, nothing]
  simp

theorem acceptable_perm {permuted : List GivenOption} (acceptable : Acceptable options)
    (same : permuted.Perm options) : Acceptable permuted where
  set option among := acceptable.set option (same.mem_iff.mp among)
  once := ((same.map (·.path)).nodup_iff).mpr acceptable.once

/-! ### The options of a field -/

/-- What the options of a field are depends only on the options that its attributes give. They are
read exactly if each sets something and nothing is set twice; then each name has the value that is
given for it, whatever the order of the options. -/
theorem options_settled (gives : Gives attributes options) :
    (∀ others, Gives others options → fieldOptions others = fieldOptions attributes) ∧
    ((∃ result, fieldOptions attributes = .ok result) ↔ Acceptable options) ∧
    ∀ result, fieldOptions attributes = .ok result →
      (∀ name value, result.get? name = some value ↔
        ∃ option ∈ options, Sets option name value) ∧
      ∀ others permuted, permuted.Perm options → Gives others permuted →
        fieldOptions others = .ok result := by
  rw [fieldOptions_gives gives]
  refine ⟨fun others given => fieldOptions_gives given, collected_iff, ?_⟩
  intro result collected
  refine ⟨collected_get? collected, ?_⟩
  intro others permuted same given
  rw [fieldOptions_gives given]
  have acceptable := acceptable_perm (collected_iff.mp ⟨result, collected⟩) same
  obtain ⟨other, alsoCollected⟩ := collected_iff.mpr acceptable
  have slots : ∀ name value, other.get? name = some value ↔ result.get? name = some value := by
    intro name value
    rw [collected_get? alsoCollected, collected_get? collected]
    simp only [same.mem_iff]
  have alike : other = result := options_ext fun name => Option.ext (slots name)
  rw [alsoCollected, alike]

/-- An option with a text. -/
def textOption (name : OptionName) (literal : String) : GivenOption :=
  ⟨ModulePath.ofWord name.word, .token literal⟩

/-- The tokens of an option with a text. -/
def textTokens (name : OptionName) (literal : String) : List Token :=
  [.ident name.word, .punct '=' .alone, .literal literal]

theorem textTokens_given (name : OptionName) (literal : String) :
    OptionTokens (textOption name literal) (textTokens name literal) :=
  @OptionTokens.mk (textOption name literal) [_] [_] .alone (.relative name.word .nil) (.token literal)

/-- An attribute with options. -/
def optionsAttribute (body : List Token) : Attribute :=
  ⟨false, ModulePath.ofWord optionAttribute, .list .paren body⟩

/-- Two options in one list, and one more behind another attribute. -/
def groupedAttributes : List Attribute :=
  [optionsAttribute (textTokens .default "\"localhost\"" ++
      .punct ',' .alone :: textTokens .key "\"HOST\""),
    ⟨false, ModulePath.ofWord "serde", .list .paren [.ident "default"]⟩,
    optionsAttribute (textTokens .buildWith "\"open\"")]

/-- The same options in a single list, which ends with a comma, and in another order. -/
def listedAttributes : List Attribute :=
  [optionsAttribute (textTokens .buildWith "\"open\"" ++ .punct ',' .alone ::
    (textTokens .default "\"localhost\"" ++ .punct ',' .alone ::
      (textTokens .key "\"HOST\"" ++ [.punct ',' .alone])))]

theorem optionsAttribute_gives {body : List Token} (written : ListTokens options body)
    (more : Gives attributes others) : Gives (optionsAttribute body :: attributes) (options ++ others) :=
  .listed rfl rfl written more

theorem groupedAttributes_give : Gives groupedAttributes
    [textOption .default "\"localhost\"", textOption .key "\"HOST\"",
      textOption .buildWith "\"open\""] := by
  have first := ListTokens.comma (textTokens_given .default "\"localhost\"") .alone
    (.last (textTokens_given .key "\"HOST\""))
  have second := ListTokens.last (textTokens_given .buildWith "\"open\"")
  exact optionsAttribute_gives first (.foreign rfl (optionsAttribute_gives second .nil))

theorem listedAttributes_give : Gives listedAttributes
    [textOption .buildWith "\"open\"", textOption .default "\"localhost\"",
      textOption .key "\"HOST\""] := by
  have last := ListTokens.comma (textTokens_given .key "\"HOST\"") .alone .nil
  have more := ListTokens.comma (textTokens_given .default "\"localhost\"") .alone last
  have all := ListTokens.comma (textTokens_given .buildWith "\"open\"") .alone more
  exact optionsAttribute_gives all .nil

/-- Options that are grouped and ordered otherwise are the same. -/
theorem groupedAttributes_settled :
    fieldOptions groupedAttributes =
        .ok { default := some "localhost", key := some "HOST", buildWith := some "open" } ∧
      fieldOptions listedAttributes = fieldOptions groupedAttributes := by
  obtain ⟨-, -, settled⟩ := options_settled groupedAttributes_give
  have read : fieldOptions groupedAttributes =
      .ok { default := some "localhost", key := some "HOST", buildWith := some "open" } := by
    rfl
  refine ⟨read, ?_⟩
  obtain ⟨-, reordered⟩ := settled _ read
  rw [read]
  refine reordered listedAttributes _ ?_ listedAttributes_give
  exact @List.perm_append_comm _ [_] [_, _]

end EnvLoader.OptionLists
