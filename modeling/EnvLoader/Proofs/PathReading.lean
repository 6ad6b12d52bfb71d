import EnvLoader.Proofs.OptionLists
import EnvLoader.Proofs.WordedTypes

/-! Reading paths. Words with marks between them are read as the path with these segments, and a wrapper
with such a path in its brackets as the path of the wrapper, whatever was read before. -/
namespace EnvLoader.PathReading
open Source Text NameTokens WordedTypes TypeShapes

/-- The tokens of segments behind a first one. -/
def furtherTokens : List String → List Token
  | [] => []
  | name :: names => .punct ':' .joint :: .punct ':' .alone :: .ident name :: furtherTokens names

/-- The path with given names and without arguments. -/
def namedPath (first : String) (further : List String) : Path :=
  .mk false (.mk first .none :: further.map (.mk · .none))

/-- What may follow a path: nothing, or the end of the brackets around it. -/
def PathEnds (rest : List Token) : Prop := rest = [] ∨ rest = [.punct '>' .alone]

/-- From given tokens a reader gives a value and leaves a rest, whatever it took before. -/
def Reads {α : Type} (reader : Reader α) (tokens rest : List Token) (value : α) : Prop :=
  ∀ taken, ∃ after, reader.run ⟨tokens, taken⟩ = some (value, ⟨rest, after⟩)

variable {α β : Type} {reader : Reader α} {value : α} {tokens middle rest : List Token}
  {first name : String} {further names : List String} {test : Ahead} {holds : Bool}

/-! ### Readers -/

theorem reads_pure (value : α) : Reads (pure value) tokens tokens value := fun taken => ⟨taken, rfl⟩

theorem reads_bind {next : α → Reader β} {result : β} (start : Reads reader tokens middle value)
    (goOn : Reads (next value) middle rest result) : Reads (reader >>= next) tokens rest result := by
  intro taken
  obtain ⟨between, started⟩ := start taken
  obtain ⟨after, wentOn⟩ := goOn between
  exact ⟨after, by rw [StateT.run_bind, started]; exact wentOn⟩

theorem reads_ahead (comes : test tokens = holds) : Reads (ahead test) tokens tokens holds :=
  fun taken => ⟨taken, by rw [← comes]; rfl⟩

theorem reads_then {yes no : Reader α} (comes : test tokens = true) (reads : Reads yes tokens rest value) :
    Reads (do if ← ahead test then yes else no) tokens rest value :=
  reads_bind (reads_ahead comes) reads

theorem reads_else {yes no : Reader α} (comes : test tokens = false) (reads : Reads no tokens rest value) :
    Reads (do if ← ahead test then yes else no) tokens rest value :=
  reads_bind (reads_ahead comes) reads

theorem reads_takeMark {text : String} (comes : afterMark? text.toList tokens = some rest) :
    Reads (takeMark text) tokens rest () := by
  intro taken
  refine ⟨(mark text).reverse ++ taken, ?_⟩
  simp [takeMark, comes, advance]

theorem reads_unmarked {text : String} (missing : afterMark? text.toList tokens = none) :
    Reads (optMark text) tokens tokens false := by
  intro taken
  refine ⟨taken, ?_⟩
  simp [optMark, missing]

theorem reads_anyWord : Reads anyWord (.ident name :: rest) rest name := fun _ => ⟨_, rfl⟩

theorem reads_takeName (isWord : isName name = true) : Reads takeName (.ident name :: rest) rest name := by
  intro taken
  refine ⟨.ident name :: taken, ?_⟩
  simp [takeName, ahead, atName, isWord, require, anyWord, advance]

theorem reads_normalized {write : α → List Token} (reads : Reads reader tokens rest value) :
    Reads (normalized write reader) tokens rest value := by
  intro taken
  obtain ⟨after, read⟩ := reads []
  refine ⟨(write value).reverse ++ taken, ?_⟩
  simp [normalized, rewriting, apart, passOn, read]

theorem reads_go_nil {fuel : Nat} (comes : test tokens = false) :
    Reads (whileAhead.go test reader fuel) tokens tokens [] := by
  intro taken
  refine ⟨taken, ?_⟩
  cases fuel with
  | zero => simp [whileAhead.go, ahead, require, comes]
  | succ fuel => simp [OptionLists.go_succ, comes]

theorem reads_go_cons {fuel : Nat} {values : List α} (comes : test tokens = true)
    (item : Reads reader tokens middle value)
    (others : Reads (whileAhead.go test reader fuel) middle rest values) :
    Reads (whileAhead.go test reader (fuel + 1)) tokens rest (value :: values) := by
  intro taken
  obtain ⟨between, itemRead⟩ := item taken
  obtain ⟨after, othersRead⟩ := others between
  exact ⟨after, by simp [OptionLists.go_succ, comes, itemRead, othersRead]⟩

theorem reads_single {stop : Ahead} {separator : String} (starts : stop tokens = false)
    (item : Reads reader tokens rest value) (stops : stop rest = true) :
    Reads (listUntil stop separator reader) tokens rest ([value], false) := by
  intro taken
  obtain ⟨after, itemRead⟩ := item taken
  exact ⟨after, by simp [listUntil, listUntil.go, ahead, starts, itemRead, stops]⟩

/-! ### Words and ends -/

theorem afterMark?_ident {c : Char} {chars : List Char} :
    afterMark? (c :: chars) (.ident name :: rest) = none := by
  cases chars <;> rfl

/-- A word of a path is none of the other reserved words. -/
theorem pathWord_other {other : String} (word : PathWord name) (reserved : other ∈ reservedWords)
    (noKeyword : other ∉ pathKeywords) : name ≠ other := by
  rintro rfl
  rcases word.2 with free | keyword
  · exact absurd (List.contains_iff_mem.mpr reserved) (by simpa [isName] using free)
  · exact noKeyword keyword

theorem atWord_other {other : String} (word : PathWord name) (reserved : other ∈ reservedWords)
    (noKeyword : other ∉ pathKeywords) : atWord other (.ident name :: rest) = false :=
  beq_false_of_ne (pathWord_other word reserved noKeyword)

/-- What follows a segment: the end of the path, or another segment. -/
theorem further_cases (ends : PathEnds rest) (names : List String) :
    PathEnds (furtherTokens names ++ rest) ∨ ∃ name tokens,
      furtherTokens names ++ rest = .punct ':' .joint :: .punct ':' .alone :: .ident name :: tokens := by
  cases names with
  | nil => exact .inl ends
  | cons name names => exact .inr ⟨name, _, rfl⟩

/-- Behind a segment neither arguments follow nor the sign of the compiler's own constructs. -/
theorem further_plain (ends : PathEnds rest) (names : List String) :
    atMark "<" (furtherTokens names ++ rest) = false ∧
      third (atMark "<") (furtherTokens names ++ rest) = false ∧
      atMark "#" (furtherTokens names ++ rest) = false := by
  rcases further_cases ends names with (none | bracket) | ⟨name, tokens, colons⟩
  · rw [none]
    exact ⟨rfl, rfl, rfl⟩
  · rw [bracket]
    exact ⟨rfl, rfl, rfl⟩
  · rw [colons]
    exact ⟨rfl, rfl, rfl⟩

/-! ### Paths -/

section
variable {grammar : TypeGrammar} {allowPlus : Bool}

theorem segment_reads (word : PathWord name) (noAngle : atMark "<" rest = false)
    (noTurbofish : third (atMark "<") rest = false) :
    Reads (grammar.segment false) (.ident name :: rest) rest (.mk name .none) := by
  have behind : Reads (do
      if !false && (← ahead fun tokens => atMark "<" tokens && !atMarkOf ["<=", "<<="] tokens) then
        return Segment.mk name (← grammar.angleArguments false)
      else if ← ahead fun tokens => atMark "::" tokens && third (atMark "<") tokens then
        takeMark "::"
        return .mk name (← grammar.angleArguments true)
      else return .mk name .none) rest rest (.mk name .none) := by
    have noArguments : (atMark "<" rest && !atMarkOf ["<=", "<<="] rest) = false := by rw [noAngle]; rfl
    have noMore : (atMark "::" rest && third (atMark "<") rest) = false := by
      rw [noTurbofish, Bool.and_false]
    exact reads_bind (@reads_ahead _ _ false noArguments) (reads_else noMore (reads_pure _))
  -- a keyword is read as it is, `Self` and names alike up to what may follow them
  unfold TypeGrammar.segment
  cases keyword : atWordOf ["super", "self", "crate", "try"] (.ident name :: rest) with
  | true => exact reads_then keyword (reads_bind reads_anyWord (reads_pure _))
  | false =>
    refine reads_else keyword ?_
    cases itself : atWord "Self" (.ident name :: rest) with
    | true => exact reads_then itself (reads_bind reads_anyWord behind)
    | false =>
      have free : isName name = true := by
        refine word.2.resolve_right fun among => ?_
        simp only [atWordOf, atWord, List.any_cons, List.any_nil, Bool.or_false, Bool.or_eq_false_iff,
          beq_eq_false_iff_ne] at keyword itself
        simp [pathKeywords, keyword, itself] at among
      exact reads_else itself (reads_bind (reads_takeName free) behind)

theorem further_reads (ends : PathEnds rest) (words : ∀ name ∈ names, PathWord name) {fuel : Nat}
    (enough : names.length ≤ fuel) :
    Reads (whileAhead.go (fun tokens => atMark "::" tokens && !third (atGroup .paren) tokens)
      (do takeMark "::"; grammar.segment false) fuel) (furtherTokens names ++ rest) rest
      (names.map (.mk · .none)) := by
  induction names generalizing fuel with
  | nil =>
    refine reads_go_nil ?_
    rcases ends with rfl | rfl <;> rfl
  | cons name names ih =>
    obtain ⟨fuel, rfl⟩ := Nat.exists_eq_succ_of_ne_zero (Nat.ne_zero_of_lt enough)
    obtain ⟨word, others⟩ := List.forall_mem_cons.mp words
    obtain ⟨noAngle, noTurbofish, -⟩ := further_plain ends names
    refine reads_go_cons rfl ?_ (ih others (Nat.le_of_succ_le_succ enough))
    exact reads_bind (reads_takeMark rfl) (segment_reads word noAngle noTurbofish)

theorem furtherTokens_length (names : List String) : names.length ≤ (furtherTokens names).length := by
  induction names with
  | nil => exact Nat.le_refl 0
  | cons name names ih =>
    simp only [furtherTokens, List.length_cons]
    omega

/-- A path is read from the words of its segments. -/
theorem path_reads (ends : PathEnds rest) (words : ∀ name ∈ first :: further, PathWord name) :
    Reads (grammar.wholePath false) (.ident first :: (furtherTokens further ++ rest)) rest
      (namedPath first further) := by
  obtain ⟨word, others⟩ := List.forall_mem_cons.mp words
  obtain ⟨noAngle, noTurbofish, -⟩ := further_plain ends further
  refine reads_normalized (reads_bind (reads_unmarked afterMark?_ident)
    (reads_bind (segment_reads word noAngle noTurbofish) (reads_bind ?_ (reads_pure _))))
  intro taken
  have enough : further.length ≤ (furtherTokens further ++ rest).length := by
    rw [List.length_append]
    exact Nat.le_add_right_of_le (furtherTokens_length further)
  exact further_reads ends others enough taken

/-! ### Types -/

theorem atWordOf_other {words : List String} (word : PathWord name)
    (reserved : ∀ other ∈ words, other ∈ reservedWords ∧ other ∉ pathKeywords) :
    atWordOf words (.ident name :: rest) = false := by
  refine List.any_eq_false.mpr fun other among isWord => ?_
  obtain ⟨isReserved, noKeyword⟩ := reserved other among
  rw [atWord_other word isReserved noKeyword] at isWord
  exact nomatch isWord

theorem pathType_reads {path : Path} (ends : PathEnds rest)
    (reads : Reads (grammar.path false) (.ident name :: tokens) rest path) :
    Reads (grammar.pathType none allowPlus) (.ident name :: tokens) rest (.path path) := by
  have noCall : (atMark "!" rest && !atMark "!=" rest) = false := by rcases ends with rfl | rfl <;> rfl
  have noSum : Reads (optMarkIf allowPlus "+") rest rest false := by
    cases allowPlus with
    | true => exact reads_unmarked (by rcases ends with rfl | rfl <;> rfl)
    | false => exact reads_pure false
  exact reads_else rfl (reads_bind reads (reads_bind (@reads_ahead _ _ false noCall)
    (reads_bind noSum (reads_pure _))))

/-- Where no bracket stands, a word of a path other than `try` begins a path. -/
theorem anyType_reads {path : Path} (ends : PathEnds rest) (word : PathWord name) (noTry : name ≠ "try")
    (noSign : atMark "#" tokens = false)
    (reads : Reads (grammar.path false) (.ident name :: tokens) rest path) :
    Reads (grammar.anyType allowPlus) (.ident name :: tokens) rest (.path path) := by
  have isPath : (atName (.ident name :: tokens) ||
      atWordOf ["super", "self", "Self", "crate"] (.ident name :: tokens) ||
        atMarkOf ["::", "<"] (.ident name :: tokens)) = true := by
    rcases word.2 with free | keyword
    · simp [atName, free]
    · have among : name = "super" ∨ name = "self" ∨ name = "crate" ∨ name = "Self" := by
        simpa [pathKeywords, noTry] using keyword
      rcases among with rfl | rfl | rfl | rfl <;> rfl
  have noBuiltin : atBuiltin (.ident name :: tokens) = false := by
    rw [atBuiltin, Source.second, skipOne, noSign, Bool.and_false]
    intro lifetime others quote
    cases quote
  refine reads_normalized (reads_bind
    (reads_else (atWord_other word (by decide) (by decide)) (reads_pure none)) ?_)
  refine reads_else rfl (reads_else (atWordOf_other word (by decide)) (reads_else noBuiltin ?_))
  exact reads_then isPath (pathType_reads ends reads)

/-- No type begins with `try`. -/
theorem anyType_try (taken : List Token) :
    (grammar.anyType allowPlus).run ⟨.ident "try" :: tokens, taken⟩ = none := by
  rfl

/-! ### Arguments -/

theorem argument_reads (ends : PathEnds rest) (word : PathWord name)
    (reads : Reads (grammar.type true) (.ident name :: tokens) rest (.path (namedPath first further))) :
    Reads grammar.argument (.ident name :: tokens) rest (.type (.path (namedPath first further))) := by
  have noLiteral : (atLiteral (.ident name :: tokens) || atGroup .brace (.ident name :: tokens)) = false := by
    have noTrue : name ≠ "true" := pathWord_other word (by decide) (by decide)
    have noFalse : name ≠ "false" := pathWord_other word (by decide) (by decide)
    simp [atLiteral, atGroup, noTrue, noFalse]
  refine @reads_else _ _ _ _ _ _ _ rfl (reads_else noLiteral (reads_bind reads ?_))
  cases further with
  | nil =>
    have noEqual : afterMark? "=".toList rest = none := by rcases ends with rfl | rfl <;> rfl
    have noBound : afterMark? ":".toList rest = none := by rcases ends with rfl | rfl <;> rfl
    exact reads_bind (reads_unmarked noEqual) (reads_bind (reads_unmarked noBound) (reads_pure _))
  | cons => exact reads_pure _

/-- The argument of a wrapper, between its brackets. -/
theorem angleArguments_reads {bracket : Token} (isBracket : bracket = .punct '>' .alone)
    (word : PathWord name)
    (reads : Reads (grammar.type true) (.ident name :: tokens) [bracket] (.path (namedPath first further))) :
    Reads (grammar.angleArguments false) (.punct '<' .alone :: .ident name :: tokens) []
      (.angle false [.type (.path (namedPath first further))] false) := by
  subst isBracket
  have item := argument_reads (.inr rfl) word reads
  exact reads_bind (reads_takeMark rfl) (reads_bind (reads_single rfl item rfl)
    (reads_bind (reads_takeMark rfl) (reads_pure _)))

/-- A wrapper is a path of one segment, which has the arguments. -/
theorem wrapper_reads {wrapper : String} {arguments : Arguments}
    (isWrapper : wrapper = "Option" ∨ wrapper = "Vec")
    (reads : Reads (grammar.angleArguments false) (.punct '<' .alone :: .ident name :: tokens) [] arguments) :
    Reads (grammar.wholePath false) (.ident wrapper :: .punct '<' .alone :: .ident name :: tokens) []
      (.mk false [.mk wrapper arguments]) := by
  have segment : Reads (grammar.segment false)
      (.ident wrapper :: .punct '<' .alone :: .ident name :: tokens) [] (.mk wrapper arguments) := by
    have behind : Reads (do return Segment.mk wrapper (← grammar.angleArguments false))
        (.punct '<' .alone :: .ident name :: tokens) [] (.mk wrapper arguments) :=
      reads_bind reads (reads_pure _)
    rcases isWrapper with rfl | rfl
    · exact reads_else rfl (reads_else rfl (reads_bind (reads_takeName rfl)
        (reads_bind (@reads_ahead _ _ true rfl) behind)))
    · exact reads_else rfl (reads_else rfl (reads_bind (reads_takeName rfl)
        (reads_bind (@reads_ahead _ _ true rfl) behind)))
  have alone : Reads (whileAhead (fun tokens => atMark "::" tokens && !third (atGroup .paren) tokens)
      (do takeMark "::"; grammar.segment false)) [] [] [] := fun taken => reads_go_nil rfl taken
  exact reads_normalized (reads_bind (reads_unmarked afterMark?_ident)
    (reads_bind segment (reads_bind alone (reads_pure _))))

end

/-! ### Names -/

/-- Two layers of the grammar read the words of a path as that path. -/
theorem named_reads {depth : Nat} (ends : PathEnds rest) (words : ∀ name ∈ first :: further, PathWord name)
    (noTry : first ≠ "try") :
    Reads ((grammarOfDepth (depth + 2)).type true) (.ident first :: (furtherTokens further ++ rest)) rest
      (.path (namedPath first further)) := by
  have path : Reads ((grammarOfDepth depth).wholePath false)
      (.ident first :: (furtherTokens further ++ rest)) rest (namedPath first further) :=
    path_reads ends words
  change Reads ((grammarOfDepth (depth + 1)).anyType true) _ _ _
  exact anyType_reads ends (words first List.mem_cons_self) noTry (further_plain ends further).2.2 path

theorem wrapper_word {wrapper : String} (isWrapper : wrapper = "Option" ∨ wrapper = "Vec") :
    PathWord wrapper ∧ wrapper ≠ "try" := by
  rcases isWrapper with rfl | rfl
  · exact ⟨⟨.plain (by decide) (List.all_eq_true.mp rfl), .inl rfl⟩, by decide⟩
  · exact ⟨⟨.plain (by decide) (List.all_eq_true.mp rfl), .inl rfl⟩, by decide⟩

/-- Two more read a wrapper around them. -/
theorem wrapped_reads {depth : Nat} {wrapper : String} (isWrapper : wrapper = "Option" ∨ wrapper = "Vec")
    (words : ∀ name ∈ first :: further, PathWord name) (noTry : first ≠ "try") :
    Reads ((grammarOfDepth (depth + 4)).type true) (.ident wrapper :: .punct '<' .alone ::
        .ident first :: (furtherTokens further ++ [.punct '>' .alone])) []
      (.path (.mk false [.mk wrapper (.angle false [.type (.path (namedPath first further))] false)])) := by
  have inner := @named_reads _ _ _ depth (.inr rfl) words noTry
  have path : Reads ((grammarOfDepth (depth + 2)).wholePath false) _ [] _ :=
    wrapper_reads isWrapper (angleArguments_reads rfl (words first List.mem_cons_self) inner)
  obtain ⟨word, proper⟩ := wrapper_word isWrapper
  change Reads ((grammarOfDepth (depth + 3)).anyType true) _ _ _
  exact anyType_reads (.inl rfl) word proper rfl path

end EnvLoader.PathReading
