import EnvLoader.Key
import Mathlib.Data.List.Infix

/-! The key that a name gives rise to. The name's last segment is cut into words, at everything that
is no letter or digit and at changes of letter case, and the words are put together in upper case with
underscores between them. So a key has no character that the segment does not have, lacks none of its
letters and digits, and is a name that gives rise to itself. -/
namespace EnvLoader.DerivedKeys
open Text

/-! ### What a key is made of -/

/-- A part of a name is the last of its segments, which `::` separates. -/
inductive LastSegment : List Char → List Char → Prop
  | whole {name : List Char} (single : ¬ [':', ':'] <:+: name) : LastSegment name name
  | behind {front part : List Char} (last : ¬ [':', ':'] <:+: ':' :: part) :
      LastSegment (front ++ [':', ':'] ++ part) part

/-- An identifier is another one without the mark that makes it raw, if it has that mark. -/
inductive Unmarked : List Char → List Char → Prop
  | raw {base : List Char} : Unmarked ('r' :: '#' :: base) base
  | plain {base : List Char} (unmarked : ¬ ['r', '#'] <+: base) : Unmarked base base

/-- The letters and digits of a text, in upper case. -/
def capitals (text : List Char) : List Char := (text.filter Char.isAlphanum).map Char.toUpper

/-- A text without its underscores. -/
def joined (key : List Char) : List Char := key.filter (· ≠ '_')

/-- A word of a key. -/
structure KeyWord (word : List Char) : Prop where
  nonempty : word ≠ []
  chars : ∀ c ∈ word, c.isUpper = true ∨ c.isDigit = true

/-- A key is made of a text: it is words with single underscores between them, which are the letters
and digits of the text, and wherever something else separates two of those, an underscore does. -/
structure MadeOf (key base : List Char) : Prop where
  worded : ∃ words, key = ['_'].intercalate words ∧ ∀ word ∈ words, KeyWord word
  letters : joined key = capitals base
  parted : ∀ front first gap second rest, base = front ++ [first] ++ gap ++ second :: rest →
    first.isAlphanum = true → second.isAlphanum = true →
      gap ≠ [] → (∀ c ∈ gap, c.isAlphanum = false) →
        ∃ left right, key = left ++ '_' :: right ∧
          joined left = capitals (front ++ [first]) ∧ joined right = capitals (second :: rest)

variable {name front rest text word gap : List Char} {c : Char} {mode : CaseMode}

/-! ### The last segment -/

theorem colons_cons (apart : ∀ others, c = ':' → rest = ':' :: others → False)
    (begins : front <+: rest) (single : ¬ [':', ':'] <:+: front) : ¬ [':', ':'] <:+: c :: front := by
  rw [List.infix_cons_iff, not_or]
  refine ⟨?_, single⟩
  rintro ⟨more, starts⟩
  obtain ⟨isColon, rfl⟩ := List.cons.inj starts
  obtain ⟨others, rfl⟩ := begins
  exact apart (more ++ others) isColon.symm rfl

/-- What stands before the first `::` of a text is all of it, or what it begins with up to there. -/
theorem beforeColons_spec (text : List Char) :
    (beforeColons text = text ∧ ¬ [':', ':'] <:+: text) ∨
      ∃ rest, text = beforeColons text ++ ':' :: ':' :: rest ∧
        ¬ [':', ':'] <:+: beforeColons text ++ [':'] := by
  fun_induction beforeColons text with
  | case1 rest => exact .inr ⟨rest, rfl, fun inside => absurd inside.length_le (by simp)⟩
  | case2 c rest apart ih =>
    rcases ih with ⟨whole, single⟩ | ⟨others, split, single⟩
    · exact .inl ⟨by rw [whole], colons_cons apart (List.prefix_refl rest) single⟩
    · have begins : beforeColons rest ++ [':'] <+: rest :=
        ⟨':' :: others, by rw [List.append_assoc]; exact split.symm⟩
      exact .inr ⟨others, by rw [List.cons_append, ← split], colons_cons apart begins single⟩
  | case3 => exact .inl ⟨rfl, fun inside => absurd inside.length_le (by simp)⟩

theorem lastSegment_last (name : List Char) : LastSegment name (lastSegment name) := by
  have turned : ∀ text, [':', ':'] <:+: text.reverse ↔ [':', ':'] <:+: text := fun _ =>
    @List.reverse_infix _ [':', ':'] _
  unfold lastSegment
  rcases beforeColons_spec name.reverse with ⟨whole, single⟩ | ⟨others, split, single⟩
  · rw [whole, List.reverse_reverse]
    exact .whole (mt (turned name).mpr single)
  · have isName : name =
        others.reverse ++ [':', ':'] ++ (beforeColons name.reverse).reverse := by
      rw [← List.reverse_inj]
      simpa using split
    have last : ¬ [':', ':'] <:+: ':' :: (beforeColons name.reverse).reverse := by
      rw [← turned]
      simpa using single
    generalize (beforeColons name.reverse).reverse = part at isName last ⊢
    rw [isName]
    exact .behind last

theorem withoutRawMark_unmarked (name : List Char) : Unmarked name (withoutRawMark name) := by
  unfold withoutRawMark
  split
  · exact .raw
  · rename_i unmarked
    refine .plain ?_
    rintro ⟨rest, rfl⟩
    exact unmarked rest rfl

theorem lastSegment_suffix {part : List Char} (last : LastSegment name part) : part <:+ name := by
  cases last with
  | whole => exact List.suffix_refl _
  | behind => exact List.suffix_append _ _

theorem unmarked_suffix {base : List Char} (unmarked : Unmarked name base) : base <:+ name := by
  cases unmarked with
  | raw => exact List.suffix_append ['r', '#'] _
  | plain => exact List.suffix_refl _

theorem keyBase_suffix (name : String) : keyBase name <:+ name.toList :=
  (unmarked_suffix (withoutRawMark_unmarked _)).trans (lastSegment_suffix (lastSegment_last _))

/-! ### Words -/

theorem alphanumericRuns_split (text : List Char) :
    alphanumericRuns text = text.splitOnP (!isAlphanumeric ·) := by
  induction text with
  | nil => rfl
  | cons c rest ih =>
    rw [alphanumericRuns, List.splitOnP_cons_eq_if_modifyHead, ih]
    cases isAlphanumeric c with
    | false => rfl
    | true => cases split : rest.splitOnP (!isAlphanumeric ·) <;> simp_all

/-- Words do not reach across what is no letter or digit. -/
theorem words_separated (separates : isAlphanumeric c = false) :
    words (front ++ c :: rest) = words front ++ words rest := by
  simp only [words, alphanumericRuns_split]
  rw [List.splitOnP_append_cons front rest (by simp [separates]), List.flatMap_append]

theorem words_gap (nonempty : gap ≠ []) (separates : ∀ c ∈ gap, isAlphanumeric c = false) :
    words (front ++ gap ++ rest) = words front ++ words rest := by
  induction gap generalizing front with
  | nil => exact absurd rfl nonempty
  | cons c gap ih =>
    obtain ⟨first, others⟩ := List.forall_mem_cons.mp separates
    rw [List.append_assoc, List.cons_append, words_separated first]
    congr 1
    cases gap with
    | nil => rfl
    | cons d gap => exact @ih [] (List.cons_ne_nil _ _) others

/-- Cutting at changes of case loses nothing. -/
theorem cutAtCase_flatten (nonempty : text ≠ []) : (cutAtCase mode word text).flatten = word ++ text := by
  fun_induction cutAtCase mode word text with
  | case1 => exact absurd rfl nonempty
  | case2 => simp
  | case3 _ _ _ _ _ _ ih => simp [ih]
  | case4 _ _ _ _ _ _ _ ih => simp [ih]
  | case5 _ _ _ _ _ _ _ ih => simp [ih]

/-- It leaves no empty words: a capital is only seen within a word. -/
theorem cutAtCase_nonempty (within : mode = .upper → word ≠ []) :
    ∀ cut ∈ cutAtCase mode word text, cut ≠ [] := by
  fun_induction cutAtCase mode word text with
  | case1 => simp
  | case2 => simp
  | case3 _ _ _ _ _ _ ih => simpa using ih nofun
  | case4 _ _ _ _ _ _ capital ih => simpa using ⟨within capital.1, ih nofun⟩
  | case5 _ _ _ _ _ _ _ ih => exact ih (by simp)

theorem after_ne_lower (plain : isLower c = false) (notLower : mode ≠ .lower) :
    mode.after c ≠ .lower := by
  unfold CaseMode.after
  rw [plain]
  cases isUpper c with
  | true => exact nofun
  | false => exact notLower

/-- A text without small letters is not cut. -/
theorem cutAtCase_whole (plain : ∀ c ∈ text, isLower c = false) (notLower : mode ≠ .lower)
    (nonempty : text ≠ []) : cutAtCase mode word text = [word ++ text] := by
  fun_induction cutAtCase mode word text with
  | case1 => exact absurd rfl nonempty
  | case2 => rfl
  | case3 mode word c next rest cut ih =>
    exact absurd cut.1 (after_ne_lower (plain c List.mem_cons_self) notLower)
  | case4 mode word c next rest _ cut ih =>
    have small : isLower next = false := plain next (List.mem_cons_of_mem _ List.mem_cons_self)
    rw [small] at cut
    exact nomatch cut.2.2
  | case5 mode word c next rest _ _ ih =>
    obtain ⟨first, others⟩ := List.forall_mem_cons.mp plain
    rw [ih others (after_ne_lower first notLower) (List.cons_ne_nil _ _), List.append_assoc]
    rfl

theorem runs_flatten (text : List Char) :
    (text.splitOnP (!isAlphanumeric ·)).flatten = text.filter isAlphanumeric := by
  induction text with
  | nil => rfl
  | cons c rest ih =>
    rw [List.splitOnP_cons_eq_if_modifyHead, List.filter_cons, ← ih]
    cases isAlphanumeric c with
    | false => rfl
    | true =>
      cases split : rest.splitOnP (!isAlphanumeric ·) with
      | nil => exact absurd split (List.splitOnP_ne_nil _ _)
      | cons run runs => rfl

theorem words_flatten (text : List Char) : (words text).flatten = text.filter isAlphanumeric := by
  rw [words, alphanumericRuns_split, ← runs_flatten]
  induction text.splitOnP (!isAlphanumeric ·) with
  | nil => rfl
  | cons run runs ih =>
    rw [List.flatMap_cons, List.flatten_append, ih, List.flatten_cons]
    cases run with
    | nil => rfl
    | cons c run => rw [cutAtCase_flatten (List.cons_ne_nil _ _), List.nil_append]

theorem words_nonempty : ∀ word ∈ words text, word ≠ [] := by
  intro word listed
  obtain ⟨run, -, cut⟩ := List.mem_flatMap.mp listed
  have within : CaseMode.boundary = .upper → ([] : List Char) ≠ [] := nofun
  exact cutAtCase_nonempty within word cut

theorem words_alphanumeric (listed : word ∈ words text) : ∀ c ∈ word, c ∈ text.filter isAlphanumeric := by
  intro c among
  rw [← words_flatten]
  exact List.mem_flatten_of_mem listed among

/-! ### Characters -/

/-- What holds of the first characters holds of every ASCII character. -/
theorem ascii_of (holds : Char → Prop) (each : ∀ code < 128, holds (Char.ofNat code))
    (ascii : isAscii c = true) : holds c := by
  have inRange : c.toNat < 128 := by simpa [isAscii] using ascii
  have turned := each c.toNat inRange
  rwa [Char.ofNat_toNat] at turned

theorem isAlphanumeric_ascii (ascii : isAscii c = true) : isAlphanumeric c = c.isAlphanum :=
  ascii_of (fun c => isAlphanumeric c = c.isAlphanum) (by decide) ascii

theorem upperCase_ascii (ascii : isAscii c = true) : upperCase c = [c.toUpper] :=
  ascii_of (fun c => upperCase c = [c.toUpper]) (by decide) ascii

theorem toUpper_keyChar (ascii : isAscii c = true) (alphanumeric : c.isAlphanum = true) :
    c.toUpper.isUpper = true ∨ c.toUpper.isDigit = true :=
  ascii_of (fun c => c.isAlphanum = true → c.toUpper.isUpper = true ∨ c.toUpper.isDigit = true)
    (by decide) ascii alphanumeric

/-- The characters of a key's words: capital letters and digits of ASCII. -/
theorem keyChar_ascii (keyChar : c.isUpper = true ∨ c.isDigit = true) : isAscii c = true := by
  have upper : c.isUpper = true ↔ 'A'.val ≤ c.val ∧ c.val ≤ 'Z'.val := decide_eq_true_iff
  simp only [upper, Char.isDigit, Bool.and_eq_true, decide_eq_true_eq, ge_iff_le,
    UInt32.le_iff_toNat_le] at keyChar
  simp only [isAscii, decide_eq_true_eq]
  have isCode : c.toNat = c.val.toNat := rfl
  rcases keyChar with ⟨-, upper⟩ | ⟨-, upper⟩
  · exact isCode ▸ Nat.lt_of_le_of_lt upper (by decide)
  · exact isCode ▸ Nat.lt_of_le_of_lt upper (by decide)

/-- They are letters or digits that are no small letters, are their own upper case, and stand neither
for a separator nor in the mark of a raw identifier. -/
theorem keyChar_plain (keyChar : c.isUpper = true ∨ c.isDigit = true) :
    isAlphanumeric c = true ∧ isLower c = false ∧ upperCase c = [c] ∧ c ∉ ['_', ':', 'r'] :=
  ascii_of (fun c => c.isUpper = true ∨ c.isDigit = true →
    isAlphanumeric c = true ∧ isLower c = false ∧ upperCase c = [c] ∧ c ∉ ['_', ':', 'r'])
    (by decide) (keyChar_ascii keyChar) keyChar

/-- No character vanishes in upper case. -/
theorem upperCase_ne_nil (c : Char) : upperCase c ≠ [] := by
  have expanded : ∀ entry ∈ upperExpansions, entry.2 ≠ [] := by decide
  unfold upperCase
  split
  · exact List.cons_ne_nil _ _
  split
  · rename_i code codes found
    exact mt List.map_eq_nil_iff.mp (expanded _ (List.mem_of_find?_eq_some found))
  split
  · exact List.cons_ne_nil _ _
  · exact List.cons_ne_nil _ _

/-! ### Keys of texts -/

theorem intercalate_append {separator : Char} {first second : List (List Char)} (left : first ≠ [])
    (right : second ≠ []) : [separator].intercalate (first ++ second) =
      [separator].intercalate first ++ separator :: [separator].intercalate second := by
  induction first with
  | nil => exact absurd rfl left
  | cons word first ih =>
    rw [List.cons_append, List.intercalate_cons_of_ne_nil (by simp [right])]
    cases first with
    | nil => simp
    | cons next first =>
      rw [ih (List.cons_ne_nil _ _)]
      simp

theorem intercalate_nil {separator : List Char} {words : List (List Char)}
    (nonempty : ∀ word ∈ words, word ≠ []) : separator.intercalate words = [] ↔ words = [] := by
  refine ⟨fun empty => ?_, fun none => by rw [none, List.intercalate_nil]⟩
  cases words with
  | nil => rfl
  | cons word words =>
    cases word with
    | nil => exact absurd rfl (nonempty [] List.mem_cons_self)
    | cons c word => exact nomatch (List.intercalate_cons_cons_left.symm.trans empty)

theorem words_nil : words text = [] ↔ ∀ c ∈ text, isAlphanumeric c = false := by
  have isFilter := words_flatten text
  have noLetters : text.filter isAlphanumeric = [] ↔ ∀ c ∈ text, isAlphanumeric c = false := by
    simp [List.filter_eq_nil_iff]
  rw [← noLetters, ← isFilter, List.flatten_eq_nil_iff]
  refine ⟨fun none => by simp [none], fun empty => ?_⟩
  rw [List.eq_nil_iff_forall_not_mem]
  exact fun word listed => words_nonempty word listed (empty word listed)

theorem words_ne_nil (among : c ∈ text) (alphanumeric : isAlphanumeric c = true) : words text ≠ [] := by
  intro none
  rw [words_nil.mp none c among] at alphanumeric
  exact nomatch alphanumeric

/-- A text has no key exactly if it has neither letters nor digits. -/
theorem shoutySnake_nil : shoutySnake text = [] ↔ ∀ c ∈ text, isAlphanumeric c = false := by
  have nonempty : ∀ upper ∈ (words text).map (·.flatMap upperCase), upper ≠ [] := by
    intro upper listed
    obtain ⟨word, among, rfl⟩ := List.mem_map.mp listed
    obtain ⟨c, rest, rfl⟩ := List.exists_cons_of_ne_nil (words_nonempty word among)
    rw [List.flatMap_cons]
    exact List.append_ne_nil_of_left_ne_nil (upperCase_ne_nil c) _
  rw [shoutySnake, intercalate_nil nonempty, List.map_eq_nil_iff, words_nil]

/-- Without its underscores a key is its words one after another. -/
theorem joined_words {words : List (List Char)} (each : ∀ word ∈ words, KeyWord word) :
    joined (['_'].intercalate words) = words.flatten := by
  induction words with
  | nil => rfl
  | cons word words ih =>
    obtain ⟨first, others⟩ := List.forall_mem_cons.mp each
    have kept : joined word = word := by
      refine List.filter_eq_self.mpr fun c among => decide_eq_true ?_
      rintro rfl
      exact (keyChar_plain (first.chars _ among)).2.2.2 List.mem_cons_self
    cases words with
    | nil => simpa using kept
    | cons next words =>
      rw [List.intercalate_cons_cons, joined, List.filter_append, List.filter_append]
      rw [joined] at kept ih
      rw [kept, ih others, List.flatten_cons, List.append_assoc]
      rfl

section Ascii
variable (ascii : ∀ c ∈ text, isAscii c = true)
include ascii

theorem word_upper (listed : word ∈ words text) : word.flatMap upperCase = word.map Char.toUpper := by
  rw [List.map_eq_flatMap]
  refine List.flatMap_congr fun c among => upperCase_ascii (ascii c ?_)
  exact List.mem_of_mem_filter (words_alphanumeric listed c among)

theorem words_capitals : ((words text).map (·.flatMap upperCase)).flatten = capitals text := by
  have alike : text.filter isAlphanumeric = text.filter Char.isAlphanum :=
    List.filter_congr fun c among => isAlphanumeric_ascii (ascii c among)
  rw [List.map_congr_left fun word listed => word_upper ascii listed, ← List.map_flatten, words_flatten,
    alike, capitals]

theorem upper_keyWord : ∀ upper ∈ (words text).map (·.flatMap upperCase), KeyWord upper := by
  intro upper listed
  obtain ⟨word, among, rfl⟩ := List.mem_map.mp listed
  rw [word_upper ascii among]
  refine ⟨mt List.map_eq_nil_iff.mp (words_nonempty word among), ?_⟩
  intro upperChar isUpper
  obtain ⟨c, inWord, rfl⟩ := List.mem_map.mp isUpper
  obtain ⟨inText, alphanumeric⟩ := List.mem_filter.mp (words_alphanumeric among c inWord)
  rw [isAlphanumeric_ascii (ascii c inText)] at alphanumeric
  exact toUpper_keyChar (ascii c inText) alphanumeric

theorem shoutySnake_joined : joined (shoutySnake text) = capitals text := by
  rw [shoutySnake, joined_words (upper_keyWord ascii), words_capitals ascii]

end Ascii

/-- The key of ASCII text is made of the text. -/
theorem shoutySnake_madeOf (ascii : ∀ c ∈ text, isAscii c = true) :
    MadeOf (shoutySnake text) text where
  worded := ⟨_, rfl, upper_keyWord ascii⟩
  letters := shoutySnake_joined ascii
  parted := by
    rintro front first gap second rest rfl isFirst isSecond nonempty separates
    have inFront : ∀ c ∈ front ++ [first], isAscii c = true := fun c among =>
      ascii c (List.mem_append_left _ (List.mem_append_left _ among))
    have inRest : ∀ c ∈ second :: rest, isAscii c = true := fun c among =>
      ascii c (List.mem_append_right _ among)
    have inGap : ∀ c ∈ gap, isAlphanumeric c = false := by
      intro c among
      rw [isAlphanumeric_ascii (ascii c (List.mem_append_left _ (List.mem_append_right _ among)))]
      exact separates c among
    have left : words (front ++ [first]) ≠ [] := by
      have last : first ∈ front ++ [first] := List.mem_append_right _ List.mem_cons_self
      exact words_ne_nil last ((isAlphanumeric_ascii (inFront first last)).trans isFirst)
    have right : words (second :: rest) ≠ [] := by
      have head : second ∈ second :: rest := List.mem_cons_self
      exact words_ne_nil head ((isAlphanumeric_ascii (inRest second head)).trans isSecond)
    refine ⟨shoutySnake (front ++ [first]), shoutySnake (second :: rest), ?_,
      shoutySnake_joined inFront, shoutySnake_joined inRest⟩
    simp only [shoutySnake]
    rw [words_gap nonempty inGap, List.map_append, intercalate_append]
    · simpa using left
    · simpa using right

/-! ### Keys of keys -/

theorem words_keyWord (isWord : KeyWord word) : words word = [word] := by
  have run : word.splitOnP (!isAlphanumeric ·) = [word] := List.splitOnP_eq_singleton fun c among => by
    simp [(keyChar_plain (isWord.chars c among)).1]
  rw [words, alphanumericRuns_split, run, List.flatMap_singleton]
  exact cutAtCase_whole (fun c among => (keyChar_plain (isWord.chars c among)).2.1) nofun isWord.nonempty

theorem words_intercalate {words : List (List Char)} (each : ∀ word ∈ words, KeyWord word) :
    Text.words (['_'].intercalate words) = words := by
  induction words with
  | nil => rfl
  | cons word words ih =>
    obtain ⟨first, others⟩ := List.forall_mem_cons.mp each
    cases words with
    | nil => rw [List.intercalate_singleton, words_keyWord first]
    | cons next words =>
      rw [List.intercalate_cons_cons, List.append_assoc, List.singleton_append, words_separated (by decide),
        words_keyWord first, ih others, List.singleton_append]

theorem shoutySnake_intercalate {words : List (List Char)} (each : ∀ word ∈ words, KeyWord word) :
    shoutySnake (['_'].intercalate words) = ['_'].intercalate words := by
  have upper : ∀ word ∈ words, word.flatMap upperCase = word := by
    intro word listed
    have single : word.flatMap upperCase = word.flatMap fun c => [c] :=
      List.flatMap_congr fun c among => (keyChar_plain ((each word listed).chars c among)).2.2.1
    rw [single, List.flatMap_singleton']
  rw [shoutySnake, words_intercalate each, List.map_congr_left upper, List.map_id']

/-- The whole of a key counts: it has neither segments nor a mark. -/
theorem keyBase_key {key : String} {words : List (List Char)}
    (isKey : key.toList = ['_'].intercalate words) (each : ∀ word ∈ words, KeyWord word) :
    keyBase key = key.toList := by
  have plain : ∀ c ∈ key.toList, c ≠ ':' ∧ c ≠ 'r' := by
    intro c among
    by_cases mark : c = '_'
    · subst mark
      exact ⟨by decide, by decide⟩
    · have kept : c ∈ joined key.toList := List.mem_filter.mpr ⟨among, decide_eq_true mark⟩
      rw [isKey, joined_words each] at kept
      obtain ⟨word, listed, inWord⟩ := List.mem_flatten.mp kept
      have others := (keyChar_plain ((each word listed).chars c inWord)).2.2.2
      simp only [List.mem_cons, not_or] at others
      exact ⟨others.2.1, others.2.2.1⟩
  have segment : lastSegment key.toList = key.toList := by
    rcases beforeColons_spec key.toList.reverse with ⟨whole, -⟩ | ⟨rest, split, -⟩
    · rw [lastSegment, whole, List.reverse_reverse]
    · have colon : ':' ∈ key.toList.reverse := by
        rw [split]
        simp
      exact absurd rfl (plain ':' (List.mem_reverse.mp colon)).1
  have unmarked := withoutRawMark_unmarked key.toList
  rw [keyBase, segment]
  generalize key.toList = chars at plain unmarked ⊢
  generalize withoutRawMark chars = base at unmarked ⊢
  cases unmarked with
  | raw => exact absurd rfl (plain 'r' List.mem_cons_self).2
  | plain => rfl

/-- The key of an ASCII name is made of its last segment without the mark of a raw identifier. There
is no key exactly if that has neither letters nor digits, and a key is its own key. -/
theorem derived_key_made (name : String) (ascii : ∀ c ∈ name.toList, isAscii c = true) :
    ∃ segment base, LastSegment name.toList segment ∧ Unmarked segment base ∧
      MadeOf (deriveKey name).toList base ∧
      (deriveKey name = "" ↔ ∀ c ∈ base, c.isAlphanum = false) ∧
      deriveKey (deriveKey name) = deriveKey name := by
  have isKey : (deriveKey name).toList = shoutySnake (keyBase name) := String.toList_ofList
  have inBase : ∀ c ∈ keyBase name, isAscii c = true := fun c among =>
    ascii c ((keyBase_suffix name).subset among)
  have made := shoutySnake_madeOf inBase
  refine ⟨lastSegment name.toList, keyBase name, lastSegment_last _, withoutRawMark_unmarked _, ?_, ?_, ?_⟩
  · rw [isKey]
    exact made
  · rw [← String.toList_eq_nil_iff, isKey, shoutySnake_nil]
    exact forall₂_congr fun c among => by rw [isAlphanumeric_ascii (inBase c among)]
  · obtain ⟨words, worded, each⟩ := made.worded
    have whole := keyBase_key (isKey.trans worded) each
    rw [deriveKey, whole, isKey, worded, shoutySnake_intercalate each, ← worded, ← isKey,
      String.ofList_toList]

/-- A raw name below a module, with capitals in a row, a digit and underscores. -/
theorem maxConnections_key :
    (∀ c ∈ "net::r#HTTPServer2__maxConns".toList, isAscii c = true) ∧
      deriveKey "net::r#HTTPServer2__maxConns" = "HTTP_SERVER2_MAX_CONNS" ∧
      deriveKey "HTTP_SERVER2_MAX_CONNS" = "HTTP_SERVER2_MAX_CONNS" := by
  have ascii : ∀ c ∈ "net::r#HTTPServer2__maxConns".toList, isAscii c = true := by decide
  have key : deriveKey "net::r#HTTPServer2__maxConns" = "HTTP_SERVER2_MAX_CONNS" := by decide +kernel
  obtain ⟨_, _, -, -, -, -, again⟩ := derived_key_made _ ascii
  rw [key] at again
  exact ⟨ascii, key, again⟩

end EnvLoader.DerivedKeys
