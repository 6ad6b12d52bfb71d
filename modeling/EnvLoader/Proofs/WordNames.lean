import EnvLoader.Source.Grammar
import Mathlib.Data.List.Infix

/-! The name that a text is. The text may have white space and comments around the name, so that
another text can be the same name. That is all: a text that starts with a letter, has no two slashes
in a row and does not end like a comment or with white space is no name but itself. -/
namespace EnvLoader.WordNames
open Source

variable {text rest : List Char} {name : String}

/-! ### White space and comments -/

theorem after?_eq_some {beginning : List Char} :
    after? beginning text = some rest ↔ text = beginning ++ rest := by
  induction beginning generalizing text with
  | nil => simp [after?]
  | cons expected beginning ih =>
    cases text with
    | nil => simp [after?]
    | cons c text =>
      by_cases same : expected = c
      · simp [after?, same, ih]
      · simp [after?, same, Ne.symm same]

theorem startsWith_iff {beginning : String} :
    startsWith beginning text = true ↔ ∃ rest, text = beginning.toList ++ rest := by
  unfold startsWith
  rw [Option.isSome_iff_exists]
  exact exists_congr fun rest => after?_eq_some

/-- A block comment is a beginning of the text and ends with a slash. -/
theorem cutComment_ends {depth : Nat} {body after : List Char}
    (found : cutComment depth text = some (body, after)) :
    ∃ inside, body = inside ++ ['/'] ∧ text = body ++ after := by
  fun_induction cutComment depth text generalizing body after with
  | case1 depth rest ih =>
    obtain ⟨⟨inner, tail⟩, cut, made⟩ := Option.map_eq_some_iff.mp found
    cases made
    obtain ⟨inside, rfl, rfl⟩ := ih cut
    exact ⟨'/' :: '*' :: inside, rfl, rfl⟩
  | case2 depth rest last =>
    cases found
    exact ⟨['*'], rfl, rfl⟩
  | case3 depth rest more ih =>
    obtain ⟨⟨inner, tail⟩, cut, made⟩ := Option.map_eq_some_iff.mp found
    cases made
    obtain ⟨inside, rfl, rfl⟩ := ih cut
    exact ⟨'*' :: '/' :: inside, rfl, rfl⟩
  | case4 depth c rest _ _ ih =>
    obtain ⟨⟨inner, tail⟩, cut, made⟩ := Option.map_eq_some_iff.mp found
    cases made
    obtain ⟨inside, rfl, rfl⟩ := ih cut
    exact ⟨c :: inside, rfl, rfl⟩
  | case5 => exact nomatch found

/-- A text that nothing between tokens can end with, and that has no line comment in it. -/
structure EndsInToken (text : List Char) : Prop where
  noComment : ¬ ['/', '/'] <:+: text
  last : ∀ before c, text = before ++ [c] → isTokenBlank c = false ∧ c ≠ '/'

theorem endsInToken_suffix (ends : EndsInToken text) (suffix : rest <:+ text) :
    EndsInToken rest := by
  refine ⟨fun inside => ends.noComment (inside.trans suffix.isInfix), ?_⟩
  obtain ⟨skipped, rfl⟩ := suffix
  rintro before last rfl
  exact ends.last (skipped ++ before) last (by simp)

/-- The rest behind what was skipped ends like the whole, so there is a rest. -/
theorem endsInToken_rest {skipped : List Char} {c : Char}
    (ends : EndsInToken (skipped ++ [c] ++ rest)) (skips : isTokenBlank c = true ∨ c = '/') :
    EndsInToken rest ∧ rest ≠ [] := by
  constructor
  · exact endsInToken_suffix ends (List.suffix_append _ _)
  · rintro rfl
    obtain ⟨blank, slash⟩ := ends.last skipped c (by simp)
    rcases skips with isBlank | isSlash
    · rw [isBlank] at blank
      exact nomatch blank
    · exact slash isSlash

/-- White space and comments do not make up all of such a text. -/
theorem skipBlanks_ne_nil {fuel : Nat} (ends : EndsInToken text) (nonempty : text ≠ []) :
    skipBlanks fuel text ≠ [] := by
  induction fuel generalizing text with
  | zero => exact nonempty
  | succ fuel ih =>
    have further : ∀ skipped c rest, text = skipped ++ [c] ++ rest →
        (isTokenBlank c = true ∨ c = '/') → skipBlanks fuel rest ≠ [] := by
      rintro skipped c rest rfl skips
      obtain ⟨restEnds, more⟩ := endsInToken_rest ends skips
      exact ih restEnds more
    unfold skipBlanks
    split
    · rename_i line
      simp only [Bool.and_eq_true] at line
      obtain ⟨rest, rfl⟩ := startsWith_iff.mp line.1.1
      exact absurd (List.prefix_append ['/', '/'] rest).isInfix ends.noComment
    · split
      · rename_i empty
        obtain ⟨rest, rfl⟩ := startsWith_iff.mp empty
        exact further ['/', '*', '*'] '/' rest rfl (.inr rfl)
      · split
        · cases cut : cutComment 0 text with
          | none => exact nonempty
          | some found =>
            obtain ⟨inside, isBody, isText⟩ := cutComment_ends cut
            rw [isBody] at isText
            exact further inside '/' found.2 isText (.inr rfl)
        · cases text with
          | nil => exact absurd rfl nonempty
          | cons c rest =>
            dsimp only
            split
            · rename_i blank
              exact further [] c rest rfl (.inl blank)
            · exact nonempty

/-! ### Tokens -/

/-- The number of tokens outside of all groups, once the open ones are closed. -/
def outside : List (Delimiter × List Token) → Nat → Nat
  | [], done => done
  | (_, before) :: outer, _ => outside outer (before.length + 1)

theorem outside_mono {outer : List (Delimiter × List Token)} {fewer more : Nat} (le : fewer ≤ more) :
    outside outer fewer ≤ outside outer more := by
  cases outer with
  | nil => exact le
  | cons group outer => exact Nat.le_refl _

/-- Matching brackets loses no token. -/
theorem nest?_keeps {outer : List (Delimiter × List Token)} {done tokens : List Token}
    {lexemes : List Lexeme} (nested : nest? outer done lexemes = some tokens) :
    outside outer done.length ≤ tokens.length := by
  fun_induction nest? outer done lexemes with
  | case1 done =>
    cases nested
    simp [outside]
  | case2 => exact nomatch nested
  | case3 outer done token rest ih => exact (outside_mono (by simp)).trans (ih nested)
  | case4 outer done isInner text rest ih => exact (outside_mono (by simp)).trans (ih nested)
  | case5 outer done delimiter rest ih => exact (outside_mono (by simp)).trans (ih nested)
  | case6 => exact nomatch nested
  | case7 done rest before outer delimiter ih => exact ih nested
  | case8 => exact nomatch nested

/-- Only a token by itself is read as one token. -/
theorem nest?_single {token other : Token} {lexemes : List Lexeme}
    (nested : nest? [] [] (.leaf token :: lexemes) = some [other]) :
    lexemes = [] ∧ token = other := by
  rw [nest?] at nested
  cases lexemes with
  | nil =>
    cases nested
    exact ⟨rfl, rfl⟩
  | cons lexeme lexemes =>
    have more : ∃ outer done, nest? outer done lexemes = some [other] ∧
        2 ≤ outside outer done.length := by
      cases lexeme with
      | leaf next => exact ⟨[], _, nested, by simp [outside]⟩
      | doc isInner text => exact ⟨[], _, nested, by simp [outside, docAttribute]⟩
      | opening delimiter => exact ⟨[(delimiter, [token])], [], nested, by simp [outside]⟩
      | closing delimiter => exact nomatch nested
    obtain ⟨outer, done, nested, two⟩ := more
    exact absurd (two.trans (nest?_keeps nested)) (by simp)

theorem readAll?_ident {word : String} {more : List Token} :
    readAll? takeName (.ident word :: more) =
      if isName word = true ∧ more = [] then some word else none := by
  have ran : takeName.run ⟨.ident word :: more, []⟩ =
      ((require (isName word)).run ⟨.ident word :: more, []⟩).bind fun (_, state) =>
        anyWord.run state := rfl
  unfold readAll?
  rw [ran]
  cases isName word <;> cases more <;> rfl

/-- A name is read from a single token, which is no reserved word. -/
theorem readAll?_takeName {tokens : List Token} (read : readAll? takeName tokens = some name) :
    tokens = [.ident name] ∧ isName name = true := by
  cases tokens with
  | nil => exact nomatch read
  | cons token more =>
    cases token with
    | ident word =>
      rw [readAll?_ident] at read
      split at read
      · rename_i both
        cases read
        rw [both.2]
        exact ⟨rfl, both.1⟩
      · exact nomatch read
    | punct | literal | group => exact nomatch read

/-! ### Names -/

/-- A text that starts with a letter starts with an identifier. -/
theorem lexeme?_letter : lexeme? ('p' :: rest) =
    some (.leaf (.ident (String.ofList ('p' :: rest.takeWhile Text.isIdentContinue))),
      rest.dropWhile Text.isIdentContinue) := by
  have noDoc : docComment? ('p' :: rest) = none := rfl
  have noLiteral : skipLiteral ('p' :: rest) = none := rfl
  have noMark : punct? ('p' :: rest) = none := rfl
  have noOpening : literalOpenings.any (startsWith · ('p' :: rest)) = false := rfl
  have starts : Text.isIdentStart 'p' = true := by decide
  have isWord : ident? ('p' :: rest) = some (String.ofList ('p' :: rest.takeWhile Text.isIdentContinue),
      rest.dropWhile Text.isIdentContinue) := by
    rw [ident?, noOpening]
    simp [anyIdent?, after?, plainIdent?, starts]
  have noError : startsWith errorLiteral ('p' :: rest) = false := rfl
  have noGroup : openingOf? 'p' = none ∧ closingOf? 'p' = none := ⟨rfl, rfl⟩
  unfold lexeme?
  rw [noDoc]
  dsimp only
  rw [noError, noGroup.1, noGroup.2, noLiteral, noMark, isWord]
  rfl

/-- The name that a text is is no reserved word. -/
theorem nameOfText?_isName {text : String} (named : nameOfText? text = some name) :
    isName name = true := by
  obtain ⟨tokens, -, read⟩ := Option.bind_eq_some_iff.mp named
  exact (readAll?_takeName read).2

theorem nameOfText?_self (ends : EndsInToken ('p' :: rest))
    (named : nameOfText? (String.ofList ('p' :: rest)) = some name) :
    name = String.ofList ('p' :: rest) := by
  obtain ⟨tokens, lexed, read⟩ := Option.bind_eq_some_iff.mp named
  obtain ⟨rfl, -⟩ := readAll?_takeName read
  obtain ⟨lexemes, cut, nested⟩ := Option.bind_eq_some_iff.mp lexed
  rw [String.toList_ofList] at cut
  change lexemes? (('p' :: rest).length + 1) ('p' :: rest) = some lexemes at cut
  have start : skipBlanks ('p' :: rest).length ('p' :: rest) = 'p' :: rest := rfl
  rw [lexemes?, start] at cut
  obtain ⟨⟨lexeme, after⟩, first, cut⟩ := Option.bind_eq_some_iff.mp cut
  cases lexeme?_letter.symm.trans first
  obtain ⟨more, others, made⟩ := Option.bind_eq_some_iff.mp cut
  cases made
  obtain ⟨alone, isName⟩ := nest?_single nested
  cases isName
  rw [alone] at others
  cases left : rest.dropWhile Text.isIdentContinue with
  | nil =>
    have whole := List.takeWhile_append_dropWhile (p := Text.isIdentContinue) (l := rest)
    rw [left, List.append_nil] at whole
    rw [whole]
  | cons c behind =>
    rw [left] at others
    have restEnds : EndsInToken (c :: behind) := by
      refine endsInToken_suffix ends ?_
      rw [← left]
      exact (List.dropWhile_suffix _).trans (List.suffix_cons _ _)
    have more := @skipBlanks_ne_nil (c :: behind) rest.length restEnds (List.cons_ne_nil _ _)
    change lexemes? (rest.length + 1) (c :: behind) = some [] at others
    unfold lexemes? at others
    split at others
    · rename_i empty
      exact absurd empty more
    · obtain ⟨_, -, others⟩ := Option.bind_eq_some_iff.mp others
      obtain ⟨_, -, made⟩ := Option.bind_eq_some_iff.mp others
      exact nomatch made

end EnvLoader.WordNames
