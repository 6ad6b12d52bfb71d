import EnvLoader.Proofs.VariantUse
import EnvLoader.Proofs.WordNames
import Mathlib.Data.List.TakeWhile

/-! Identifiers in a text. What is read as an identifier is spelled like one, so that it is read as one
again wherever a mark or the end of the text follows it. -/
namespace EnvLoader.NameTokens
open Source Text VariantUse WordNames

/-- The spelling of an identifier: letters and the like, which a mark may make raw. -/
inductive Spelled : List Char → Prop
  | plain {c : Char} {rest : List Char} (starts : isIdentStart c = true)
      (continues : ∀ d ∈ rest, isIdentContinue d = true) : Spelled (c :: rest)
  | raw {c : Char} {rest : List Char} (starts : isIdentStart c = true)
      (continues : ∀ d ∈ rest, isIdentContinue d = true)
      (rawable : unrawable.contains (String.ofList (c :: rest)) = false) :
      Spelled ('r' :: '#' :: c :: rest)

/-- Tokens whose identifiers are spelled like identifiers. -/
def Worded (tokens : List Token) : Prop := ∀ word ∈ identifiers tokens, Spelled word.toList

/-- The marks that paths and their arguments are written with. -/
def pathMarks : List Char := [':', '<', '>']

/-- A text that an identifier can end before: the end of it all, or a mark. -/
def Ends (text : List Char) : Prop := ∀ c ∈ text.head?, c ∈ pathMarks

/-- A text of identifiers and marks, with its tokens. -/
inductive Lexes : List Char → List Token → Prop
  | nil : Lexes [] []
  | word {word rest : List Char} {tokens : List Token} (spelled : Spelled word) (ends : Ends rest)
      (more : Lexes rest tokens) : Lexes (word ++ rest) (.ident (String.ofList word) :: tokens)
  | mark {c : Char} {rest : List Char} {tokens : List Token} (isMark : c ∈ pathMarks)
      (more : Lexes rest tokens) :
      Lexes (c :: rest) (.punct c (if punctStart rest then .joint else .alone) :: tokens)

variable {c : Char} {text rest word : List Char} {tokens more : List Token} {name : String}

/-! ### Characters -/

/-- Brackets, quotes and marks, none of which an identifier has in it. -/
def specials : List Char := "~!@#$%^&*-=+|;:,<.>/?'\"()[]\\".toList ++ ['\x7b', '\x7d']

/-- The code points of white space beyond ASCII, and that of the byte order mark. -/
def blankCodes : List Nat :=
  [0x85, 0xa0, 0x1680, 0x2000, 0x2001, 0x2002, 0x2003, 0x2004, 0x2005, 0x2006, 0x2007, 0x2008, 0x2009,
    0x200a, 0x200e, 0x200f, 0x2028, 0x2029, 0x202f, 0x205f, 0x3000, 0xfeff]

theorem isTokenBlank_code (blank : isTokenBlank c = true) : c.toNat < 0x21 ∨ c.toNat ∈ blankCodes := by
  simp only [isTokenBlank, isBlank, Bool.or_eq_true, Bool.and_eq_true, decide_eq_true_eq,
    beq_iff_eq] at blank
  simp only [blankCodes, List.mem_cons]
  omega

theorem contains_foldl (set : CodePointSet) (c : Char) : set.contains c =
    set.flips.toList.foldl (fun inside flip => if flip ≤ c.toNat then !inside else inside) false := by
  rw [CodePointSet.contains, Array.foldl_toList]

theorem start_code (starts : isIdentStart c = true) : c.toNat ∉ blankCodes := by
  have outside : ∀ code ∈ blankCodes, isAscii (Char.ofNat code) = false ∧
      xidStartSet.contains (Char.ofNat code) = false := by
    simp only [contains_foldl]
    decide +kernel
  intro listed
  obtain ⟨notAscii, notStart⟩ := outside c.toNat listed
  rw [Char.ofNat_toNat] at notAscii notStart
  have isUnderscore : c = '_' := by simpa [isIdentStart, notAscii, notStart] using starts
  rw [isUnderscore] at listed
  exact absurd listed (by decide)

theorem start_blank (starts : isIdentStart c = true) : isTokenBlank c = false := by
  have low : ∀ code < 0x21, isIdentStart (Char.ofNat code) = false := by decide
  refine Bool.eq_false_iff.mpr fun blank => ?_
  rcases isTokenBlank_code blank with inLow | listed
  · have other := low c.toNat inLow
    rw [Char.ofNat_toNat, starts] at other
    exact nomatch other
  · exact start_code starts listed

theorem start_special (starts : isIdentStart c = true) : c ∉ specials := by
  have none : ∀ c ∈ specials, isIdentStart c = false := by decide
  intro listed
  rw [none c listed] at starts
  exact nomatch starts

theorem start_other {d : Char} (starts : isIdentStart c = true) (special : d ∈ specials) : d ≠ c := by
  rintro rfl
  exact start_special starts special

theorem continue_special (continues : isIdentContinue c = true) : c ∉ specials := by
  have none : ∀ c ∈ specials, isIdentContinue c = false := by decide
  intro listed
  rw [none c listed] at continues
  exact nomatch continues

theorem start_digit (starts : isIdentStart c = true) : isDigit c = false := by
  refine Bool.eq_false_iff.mpr fun digit => ?_
  have bounds : '0' ≤ c ∧ c ≤ '9' := by simpa [isDigit] using digit
  have code : c.toNat < 0x3a := Nat.lt_succ_of_le (UInt32.le_iff_toNat_le.mp bounds.2)
  have low : ∀ code < 0x3a, isIdentStart (Char.ofNat code) = false := by decide
  have other := low c.toNat code
  rw [Char.ofNat_toNat, starts] at other
  exact nomatch other

theorem mark_special (isMark : c ∈ pathMarks) : isIdentStart c = false ∧ isIdentContinue c = false := by
  revert c
  decide

/-! ### White space -/

theorem startsWith_other {beginning : String} {first : Char} {others : List Char}
    (begins : beginning.toList = first :: others) (differs : first ≠ c) :
    startsWith beginning (c :: rest) = false := by
  simp [startsWith, begins, after?, differs]

/-- White space and comments begin with white space or a slash. -/
theorem skipBlanks_solid {fuel : Nat} (solid : isTokenBlank c = false) (noSlash : c ≠ '/') :
    skipBlanks fuel (c :: rest) = c :: rest := by
  cases fuel with
  | zero => rfl
  | succ fuel =>
    have line : startsWith "//" (c :: rest) = false := startsWith_other rfl noSlash.symm
    have empty : startsWith "/**/" (c :: rest) = false := startsWith_other rfl noSlash.symm
    have block : startsWith "/*" (c :: rest) = false := startsWith_other rfl noSlash.symm
    simp [skipBlanks, line, empty, block, solid]

theorem docComment?_solid (noSlash : c ≠ '/') : docComment? (c :: rest) = none := by
  have inner : startsWith "//!" (c :: rest) = false := startsWith_other rfl noSlash.symm
  have innerBlock : startsWith "/*!" (c :: rest) = false := startsWith_other rfl noSlash.symm
  have outer : startsWith "///" (c :: rest) = false := startsWith_other rfl noSlash.symm
  have outerBlock : startsWith "/**" (c :: rest) = false := startsWith_other rfl noSlash.symm
  simp [docComment?, inner, innerBlock, outer, outerBlock]

/-! ### Words in front of a text -/

/-- What may follow within a word: more of it, or a text that a word can end before. -/
def WordTail (text : List Char) : Prop :=
  ∃ more rest, text = more ++ rest ∧ (∀ d ∈ more, isIdentContinue d = true) ∧ Ends rest

theorem wordTail_cons (tail : WordTail (c :: text)) (special : c ∈ specials) : c ∈ pathMarks := by
  obtain ⟨more, rest, parts, continues, ends⟩ := tail
  cases more with
  | nil => exact ends c (by rw [← List.nil_append rest, ← parts]; rfl)
  | cons d more =>
    cases parts
    exact absurd special (continue_special (continues c List.mem_cons_self))

theorem wordTail_tail (tail : WordTail (c :: text)) (other : c ∉ pathMarks) : WordTail text := by
  obtain ⟨more, rest, parts, continues, ends⟩ := tail
  cases more with
  | nil => exact absurd (ends c (by rw [← List.nil_append rest, ← parts]; rfl)) other
  | cons d more =>
    cases parts
    exact ⟨more, rest, rfl, fun d among => continues d (List.mem_cons_of_mem _ among), ends⟩

/-- The quotes and signs of which the openings of literals have at least one behind a letter. -/
def quotes : List Char := ['"', '\'', '#']

theorem wordTail_quote {quote : Char} (isQuote : quote ∈ quotes) : ¬ WordTail (quote :: text) := by
  have special : ∀ quote ∈ quotes, quote ∈ specials ∧ quote ∉ pathMarks := by decide
  obtain ⟨isSpecial, noMark⟩ := special quote isQuote
  exact fun tail => noMark (wordTail_cons tail isSpecial)

theorem rawQuoted?_word {kind : StringKind} (tail : WordTail text) : rawQuoted? kind text = none := by
  cases text with
  | nil => rfl
  | cons c text =>
    have noQuote : c ≠ '"' := by
      rintro rfl
      exact wordTail_quote (by decide) tail
    have noSign : c ≠ '#' := by
      rintro rfl
      exact wordTail_quote (by decide) tail
    simp [rawQuoted?, noQuote, noSign]

theorem skipString_word (starts : isIdentStart c = true) (tail : WordTail text) :
    skipString (c :: text) = none := by
  have noMark : 'r' ∉ pathMarks := by decide
  unfold skipString
  split
  · rename_i isText
    cases isText
    exact absurd (start_special starts) (by decide)
  · rename_i isText
    cases isText
    simp [rawQuoted?_word tail]
  · rename_i isText
    cases isText
    exact absurd tail (wordTail_quote (by decide))
  · rename_i isText
    cases isText
    simp [rawQuoted?_word (wordTail_tail tail noMark)]
  · rename_i isText
    cases isText
    exact absurd tail (wordTail_quote (by decide))
  · rename_i isText
    cases isText
    simp [rawQuoted?_word (wordTail_tail tail noMark)]
  · rfl

theorem hexValue?_letter {value : Nat} (noDigit : isDigit c = false) (isValue : hexValue? c = some value) :
    10 ≤ value := by
  unfold hexValue? at isValue
  rw [noDigit] at isValue
  simp only [Bool.false_eq_true, if_false] at isValue
  split at isValue
  · rename_i small
    have low : 97 ≤ c.toNat := UInt32.le_iff_toNat_le.mp small.1
    cases isValue
    exact Nat.le_sub_of_add_le (Nat.add_le_add_left low 10)
  split at isValue
  · rename_i capital
    have low : 65 ≤ c.toNat := UInt32.le_iff_toNat_le.mp capital.1
    cases isValue
    exact Nat.le_sub_of_add_le (Nat.add_le_add_left low 10)
  · exact nomatch isValue

/-- What starts like a word is no number. -/
theorem skipInt_start (starts : isIdentStart c = true) : skipInt (c :: text) = none := by
  have noDigit := start_digit starts
  have noDigits : skipIntDigits 10 true (c :: text) = none := by
    unfold skipIntDigits
    split
    · rfl
    · split
      · rename_i value isValue
        rw [if_neg (Nat.not_lt.mpr (hexValue?_letter noDigit isValue))]
        simp
      · rfl
  unfold skipInt
  split
  · rename_i isText
    cases isText
    exact absurd noDigit (by decide)
  · rename_i isText
    cases isText
    exact absurd noDigit (by decide)
  · rename_i isText
    cases isText
    exact absurd noDigit (by decide)
  · rw [noDigits]
    rfl

theorem skipFloatDigits_start (starts : isIdentStart c = true) : skipFloatDigits (c :: text) = none := by
  simp [skipFloatDigits, start_digit starts]

theorem skipLiteral_word (starts : isIdentStart c = true) (noString : skipString (c :: text) = none)
    (quoteless : text.head? ≠ some '\'') : skipLiteral (c :: text) = none := by
  unfold skipLiteral
  rw [noString, skipFloatDigits_start starts, skipInt_start starts]
  split
  · rename_i isText
    cases isText
    exact absurd rfl quoteless
  · split
    · rename_i isText
      cases isText
      exact absurd (start_special starts) (by decide)
    · rfl

theorem punctStart_start (starts : isIdentStart c = true) : punctStart (c :: text) = false := by
  have among : ∀ d ∈ punctuation, d ∈ specials := by decide
  simp [punctStart, mt (among c) (start_special starts)]

theorem punct?_start (starts : isIdentStart c = true) : punct? (c :: text) = none := by
  unfold punct?
  split
  · rename_i isText
    cases isText
    exact absurd (start_special starts) (by decide)
  · rename_i isText
    cases isText
    rw [punctStart_start starts]
    rfl
  · rfl

theorem takeWhile_word (continues : ∀ d ∈ word, isIdentContinue d = true) (ends : Ends rest) :
    (word ++ rest).takeWhile isIdentContinue = word ∧ (word ++ rest).dropWhile isIdentContinue = rest := by
  rw [List.takeWhile_append_of_pos continues, List.dropWhile_append_of_pos continues]
  cases rest with
  | nil => simp
  | cons c rest => simp [(mark_special (ends c rfl)).2]

theorem plainIdent?_word (starts : isIdentStart c = true)
    (continues : ∀ d ∈ word, isIdentContinue d = true) (ends : Ends rest) :
    plainIdent? (c :: (word ++ rest)) = some (c :: word, rest) := by
  obtain ⟨taken, left⟩ := takeWhile_word continues ends
  simp [plainIdent?, starts, taken, left]

/-- Whether a text has a quote or sign in the second place, or in the third behind an `r`. -/
def opensLiteral : List Char → Bool
  | _ :: 'r' :: quote :: _ => quotes.contains quote
  | _ :: quote :: _ => quotes.contains quote
  | _ => false

theorem literalOpenings_plain (tail : WordTail text) :
    literalOpenings.any (startsWith · (c :: text)) = false := by
  have shape : ∀ opening ∈ literalOpenings, opensLiteral opening.toList = true := by decide
  refine List.any_eq_false.mpr fun opening listed begins => ?_
  have opens := shape opening listed
  obtain ⟨behind, parts⟩ := startsWith_iff.mp begins
  generalize opening.toList = letters at opens parts
  unfold opensLiteral at opens
  split at opens
  · cases parts
    exact wordTail_quote (List.contains_iff_mem.mp opens) (wordTail_tail tail (by decide))
  · cases parts
    exact wordTail_quote (List.contains_iff_mem.mp opens) tail
  · exact nomatch opens

theorem literalOpenings_raw (starts : isIdentStart c = true) :
    literalOpenings.any (startsWith · ('r' :: '#' :: c :: text)) = false := by
  have noQuote : '"' ≠ c := start_other starts (by decide)
  have noSign : '#' ≠ c := start_other starts (by decide)
  simp [literalOpenings, startsWith, after?, noQuote, noSign]

theorem ident?_plain (starts : isIdentStart c = true) (continues : ∀ d ∈ word, isIdentContinue d = true)
    (ends : Ends rest) : ident? (c :: (word ++ rest)) = some (String.ofList (c :: word), rest) := by
  have tail : WordTail (word ++ rest) := ⟨word, rest, rfl, continues, ends⟩
  have notRaw : after? ['r', '#'] (c :: (word ++ rest)) = none := by
    refine Option.eq_none_iff_forall_ne_some.mpr fun behind isRaw => ?_
    have parts : word ++ rest = '#' :: behind := (List.cons.inj (after?_eq_some.mp isRaw)).2
    exact wordTail_quote (by decide) (parts ▸ tail)
  rw [ident?, literalOpenings_plain tail, anyIdent?, notRaw, plainIdent?_word starts continues ends]
  rfl

theorem ident?_raw (starts : isIdentStart c = true) (continues : ∀ d ∈ word, isIdentContinue d = true)
    (rawable : unrawable.contains (String.ofList (c :: word)) = false) (ends : Ends rest) :
    ident? ('r' :: '#' :: c :: (word ++ rest)) =
      some (String.ofList ('r' :: '#' :: c :: word), rest) := by
  have isRaw : after? ['r', '#'] ('r' :: '#' :: c :: (word ++ rest)) = some (c :: (word ++ rest)) := rfl
  have spelled : "r#" ++ String.ofList (c :: word) = String.ofList ('r' :: '#' :: c :: word) := by
    simp [← String.toList_inj]
  rw [ident?, literalOpenings_raw starts, anyIdent?, isRaw]
  simp only [Bool.false_eq_true, if_false, plainIdent?_word starts continues ends,
    Option.bind_eq_bind, Option.bind_some, rawable, spelled]

theorem spelled_start (spelled : Spelled word) :
    ∃ first others, word = first :: others ∧ isIdentStart first = true := by
  cases spelled with
  | plain starts => exact ⟨_, _, rfl, starts⟩
  | raw => exact ⟨_, _, rfl, by decide⟩

theorem ident?_word (spelled : Spelled word) (ends : Ends rest) :
    ident? (word ++ rest) = some (String.ofList word, rest) := by
  cases spelled with
  | plain starts continues => exact ident?_plain starts continues ends
  | raw starts continues rawable => exact ident?_raw starts continues rawable ends

theorem skipLiteral_spelled (spelled : Spelled word) (ends : Ends rest) :
    skipLiteral (word ++ rest) = none := by
  cases spelled with
  | @plain c others starts continues =>
    have tail : WordTail (others ++ rest) := ⟨others, rest, rfl, continues, ends⟩
    refine skipLiteral_word starts (skipString_word starts tail) fun quote => ?_
    obtain ⟨more, parts⟩ := List.head?_eq_some_iff.mp quote
    have tail : WordTail ('\'' :: more) := parts ▸ tail
    exact wordTail_quote (by decide) tail
  | @raw c others starts =>
    have noQuote : c ≠ '"' := (start_other starts (by decide)).symm
    have noSign : c ≠ '#' := (start_other starts (by decide)).symm
    have noString : skipString ('r' :: '#' :: c :: (others ++ rest)) = none := by
      simp [skipString, rawQuoted?, noQuote, noSign]
    exact skipLiteral_word (by decide) noString nofun

theorem brackets_start (starts : isIdentStart c = true) : openingOf? c = none ∧ closingOf? c = none := by
  have special := start_special starts
  constructor
  · unfold openingOf?
    split
    all_goals first | rfl | exact absurd (by decide) special
  · unfold closingOf?
    split
    all_goals first | rfl | exact absurd (by decide) special

/-- A word is read as an identifier wherever it can end. -/
theorem lexeme?_word (spelled : Spelled word) (ends : Ends rest) :
    lexeme? (word ++ rest) = some (.leaf (.ident (String.ofList word)), rest) := by
  have isWord := ident?_word spelled ends
  have noLiteral := skipLiteral_spelled spelled ends
  obtain ⟨first, others, rfl, starts⟩ := spelled_start spelled
  rw [List.cons_append] at isWord noLiteral ⊢
  have noDoc : docComment? (first :: (others ++ rest)) = none :=
    docComment?_solid (start_other starts (by decide)).symm
  have noError : startsWith errorLiteral (first :: (others ++ rest)) = false :=
    startsWith_other rfl (start_other starts (by decide))
  obtain ⟨noOpening, noClosing⟩ := brackets_start starts
  unfold lexeme?
  simp only [noDoc, noError, noOpening, noClosing, noLiteral, punct?_start starts, isWord]
  rfl

theorem lexeme?_mark (isMark : c ∈ pathMarks) : lexeme? (c :: rest) =
    some (.leaf (.punct c (if punctStart rest then .joint else .alone)), rest) := by
  simp only [pathMarks, List.mem_cons, List.not_mem_nil, or_false] at isMark
  rcases isMark with rfl | rfl | rfl <;> rfl

/-- What begins with an identifier or a mark begins with neither white space nor a comment. -/
theorem lexes_solid (lexes : Lexes (c :: text) tokens) :
    isTokenBlank c = false ∧ c ≠ '/' ∧ c ≠ '\ufeff' := by
  generalize whole : c :: text = letters at lexes
  cases lexes with
  | nil => exact nomatch whole
  | word spelled =>
    obtain ⟨first, others, rfl, starts⟩ := spelled_start spelled
    obtain ⟨rfl, -⟩ := List.cons.inj whole
    refine ⟨start_blank starts, (start_other starts (by decide)).symm, ?_⟩
    rintro rfl
    exact start_code starts (by decide)
  | mark isMark =>
    obtain ⟨rfl, -⟩ := List.cons.inj whole
    have solid : ∀ d ∈ pathMarks, isTokenBlank d = false ∧ d ≠ '/' ∧ d ≠ '\ufeff' := by decide
    exact solid c isMark

/-- One lexeme more is cut off. -/
theorem lexemes?_step {fuel : Nat} {lexeme : Lexeme} {lexemes : List Lexeme}
    (solid : skipBlanks fuel text = text) (nonempty : text ≠ [])
    (first : lexeme? text = some (lexeme, rest)) (others : lexemes? fuel rest = some lexemes) :
    lexemes? (fuel + 1) text = some (lexeme :: lexemes) := by
  rw [lexemes?, solid]
  cases text with
  | nil => exact absurd rfl nonempty
  | cons c text => simp [first, others]

theorem skipBlanks_lexes {fuel : Nat} (lexes : Lexes text tokens) : skipBlanks fuel text = text := by
  cases text with
  | nil => cases fuel <;> rfl
  | cons c text =>
    obtain ⟨solid, noSlash, -⟩ := lexes_solid lexes
    exact skipBlanks_solid solid noSlash

theorem lexemes?_lexes {fuel : Nat} (lexes : Lexes text tokens) (enough : text.length < fuel) :
    lexemes? fuel text = some (tokens.map .leaf) := by
  have solid : ∀ fuel, skipBlanks fuel text = text := fun fuel => skipBlanks_lexes lexes
  induction lexes generalizing fuel with
  | nil =>
    obtain ⟨fuel, rfl⟩ := Nat.exists_eq_succ_of_ne_zero (Nat.ne_of_gt enough)
    rw [lexemes?, solid]
    rfl
  | @word word rest tokens spelled ends more ih =>
    obtain ⟨fuel, rfl⟩ := Nat.exists_eq_succ_of_ne_zero (Nat.ne_zero_of_lt enough)
    obtain ⟨first, others, isWord, -⟩ := spelled_start spelled
    have shorter : rest.length < fuel := by
      rw [isWord, List.length_append, List.length_cons] at enough
      omega
    refine lexemes?_step (solid fuel) ?_ (lexeme?_word spelled ends)
      (ih shorter fun fuel => skipBlanks_lexes more)
    rw [isWord]
    exact List.cons_ne_nil _ _
  | @mark c rest tokens isMark more ih =>
    obtain ⟨fuel, rfl⟩ := Nat.exists_eq_succ_of_ne_zero (Nat.ne_zero_of_lt enough)
    exact lexemes?_step (solid fuel) (List.cons_ne_nil _ _) (lexeme?_mark isMark)
      (ih (Nat.lt_of_succ_lt_succ enough) fun fuel => skipBlanks_lexes more)

theorem nest?_leaves (done tokens : List Token) :
    nest? [] done (tokens.map .leaf) = some (done.reverse ++ tokens) := by
  induction tokens generalizing done with
  | nil => simp [nest?]
  | cons token tokens ih => simp [nest?, ih]

/-- A text of identifiers and marks is read as its tokens. -/
theorem lex?_lexes (lexes : Lexes text tokens) : lex? (String.ofList text) = some tokens := by
  have noMark : withoutMark text = text := by
    unfold withoutMark
    split
    · exact absurd rfl (lexes_solid lexes).2.2
    · rfl
  rw [lex?, String.toList_ofList, noMark, lexemes?_lexes lexes (Nat.lt_succ_self _)]
  simpa using nest?_leaves [] tokens

/-! ### Tokens of a text -/

theorem identifiers_flatMap (tokens : List Token) : identifiers tokens = tokens.flatMap identifiersIn := by
  induction tokens with
  | nil => rfl
  | cons token tokens ih => rw [identifiers, ih, List.flatMap_cons]

theorem worded_append : Worded (tokens ++ more) ↔ Worded tokens ∧ Worded more := by
  simp only [Worded, identifiers_append, List.mem_append, or_imp, forall_and]

theorem worded_reverse : Worded tokens.reverse ↔ Worded tokens := by
  simp only [Worded, identifiers_flatMap, List.mem_flatMap, List.mem_reverse]

theorem worded_cons {token : Token} : Worded (token :: tokens) ↔ Worded [token] ∧ Worded tokens :=
  @worded_append [token] tokens

theorem worded_group {delimiter : Delimiter} {body : List Token} (isWorded : Worded body) :
    Worded [.group delimiter body] := by
  rwa [Worded, identifiers_group]

theorem docAttribute_worded (isInner : Bool) (text : String) : Worded (docAttribute isInner text) := by
  have isWord : Spelled "doc".toList := .plain (by decide) (List.all_eq_true.mp rfl)
  cases isInner <;> simpa [Worded, docAttribute, identifiers, identifiersIn] using isWord

theorem plainIdent?_spelled {letters : List Char} (read : plainIdent? text = some (letters, rest)) :
    ∃ c others, letters = c :: others ∧ isIdentStart c = true ∧
      ∀ d ∈ others, isIdentContinue d = true := by
  unfold plainIdent? at read
  split at read
  · split at read
    · rename_i starts
      cases read
      exact ⟨_, _, rfl, starts, fun d among => List.mem_takeWhile_imp among⟩
    · exact nomatch read
  · exact nomatch read

theorem ident?_spelled (read : ident? text = some (name, rest)) : Spelled name.toList := by
  unfold ident? anyIdent? at read
  split at read
  · exact nomatch read
  split at read
  · simp only [Option.bind_eq_bind, Option.bind_eq_some_iff] at read
    obtain ⟨⟨letters, after⟩, plain, read⟩ := read
    split at read
    · exact nomatch read
    · rename_i rawable
      obtain ⟨c, others, rfl, starts, continues⟩ := plainIdent?_spelled plain
      cases read
      have isRaw := Spelled.raw starts continues (Bool.eq_false_iff.mpr rawable)
      simpa [String.toList_append] using isRaw
  · obtain ⟨⟨letters, after⟩, plain, same⟩ := Option.map_eq_some_iff.mp read
    obtain ⟨c, others, rfl, starts, continues⟩ := plainIdent?_spelled plain
    cases same
    rw [String.toList_ofList]
    exact .plain starts continues

/-- If a lexeme is a token, then that is worded. -/
def WordedLexeme (lexeme : Lexeme) : Prop := ∀ token, lexeme = .leaf token → Worded [token]

theorem docComment?_worded {lexeme : Lexeme} (read : docComment? text = some (lexeme, rest)) :
    WordedLexeme lexeme := by
  rintro token rfl
  grind [docComment?, Option.bind_eq_some_iff]

theorem punct?_worded {token : Token} (read : punct? text = some (token, rest)) : Worded [token] := by
  have isPunct : ∃ c spacing, token = .punct c spacing := by
    unfold punct? at read
    split at read
    · simp only [Option.bind_eq_bind, Option.bind_eq_some_iff] at read
      obtain ⟨word, -, read⟩ := read
      split at read
      · exact nomatch read
      · split at read
        · cases read
          exact ⟨_, _, rfl⟩
        · exact nomatch read
      · cases read
        exact ⟨_, _, rfl⟩
    · split at read
      · cases read
        exact ⟨_, _, rfl⟩
      · exact nomatch read
    · exact nomatch read
  obtain ⟨c, spacing, rfl⟩ := isPunct
  exact fun word among => absurd among List.not_mem_nil

theorem lexeme?_worded {lexeme : Lexeme} (read : lexeme? text = some (lexeme, rest)) :
    WordedLexeme lexeme := by
  have literal (literal : String) : WordedLexeme (.leaf (.literal literal)) := by
    rintro token ⟨⟩ word among
    exact absurd among List.not_mem_nil
  unfold lexeme? at read
  split at read
  · rename_i found isDoc
    cases read
    exact docComment?_worded isDoc
  split at read
  · exact nomatch read
  split at read
  · cases read
    exact literal _
  split at read
  · cases read
    exact nofun
  · cases read
    exact nofun
  split at read
  · cases read
    exact literal _
  split at read
  · rename_i isPunct
    cases read
    rintro token ⟨⟩
    exact punct?_worded isPunct
  · obtain ⟨⟨name, after⟩, isIdent, same⟩ := Option.map_eq_some_iff.mp read
    cases same
    rintro token ⟨⟩ word among
    cases List.mem_singleton.mp among
    exact ident?_spelled isIdent

theorem lexemes?_worded {fuel : Nat} {lexemes : List Lexeme} (read : lexemes? fuel text = some lexemes) :
    ∀ lexeme ∈ lexemes, WordedLexeme lexeme := by
  induction fuel generalizing text lexemes with
  | zero => exact nomatch read
  | succ fuel ih =>
    rw [lexemes?] at read
    split at read
    · cases read
      exact fun lexeme among => absurd among List.not_mem_nil
    · simp only [Option.bind_eq_bind, Option.bind_eq_some_iff] at read
      obtain ⟨⟨first, after⟩, isFirst, others, isOthers, same⟩ := read
      cases same
      exact List.forall_mem_cons.mpr ⟨lexeme?_worded isFirst, ih isOthers⟩

/-- Matching brackets keeps tokens worded. -/
theorem nest?_worded {outer : List (Delimiter × List Token)} {done : List Token} {lexemes : List Lexeme}
    (nested : nest? outer done lexemes = some tokens) (before : ∀ group ∈ outer, Worded group.2)
    (isDone : Worded done) (each : ∀ lexeme ∈ lexemes, WordedLexeme lexeme) : Worded tokens := by
  fun_induction nest? outer done lexemes with
  | case1 done =>
    cases nested
    exact worded_reverse.mpr isDone
  | case2 => cases nested
  | case3 outer done token rest ih =>
    obtain ⟨isFirst, others⟩ := List.forall_mem_cons.mp each
    exact ih nested before (worded_cons.mpr ⟨isFirst token rfl, isDone⟩) others
  | case4 outer done isInner text rest ih =>
    obtain ⟨-, others⟩ := List.forall_mem_cons.mp each
    have isDoc := worded_reverse.mpr (docAttribute_worded isInner text)
    exact ih nested before (worded_append.mpr ⟨isDoc, isDone⟩) others
  | case5 outer done delimiter rest ih =>
    obtain ⟨-, others⟩ := List.forall_mem_cons.mp each
    exact ih nested (List.forall_mem_cons.mpr ⟨isDone, before⟩)
      (fun word among => absurd among List.not_mem_nil) others
  | case6 => cases nested
  | case7 done rest inner outer delimiter ih =>
    obtain ⟨isInner, isOuter⟩ := List.forall_mem_cons.mp before
    obtain ⟨-, others⟩ := List.forall_mem_cons.mp each
    exact ih nested isOuter
      (worded_cons.mpr ⟨worded_group (worded_reverse.mpr isDone), isInner⟩) others
  | case8 => cases nested

/-- The identifiers of a text are spelled like identifiers. -/
theorem lex?_worded {source : String} (read : lex? source = some tokens) : Worded tokens := by
  simp only [lex?, Option.bind_eq_bind, Option.bind_eq_some_iff] at read
  obtain ⟨lexemes, isLexemes, nested⟩ := read
  exact nest?_worded nested nofun (fun word among => absurd among List.not_mem_nil)
    (lexemes?_worded isLexemes)

end EnvLoader.NameTokens
