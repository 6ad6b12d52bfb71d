import EnvLoader.Proofs.Outcomes
import EnvLoader.Proofs.RequestLines
import EnvLoader.Proofs.TrimmedText

/-! Every line is read in just one of four ways: as a request of one of two forms, as a request for
a known method that has neither form, or as one for a method that is not known. The forms are said
of what is left of the line without the white space around it, and what is answered is said in full,
with the text for a line that is no request. -/
namespace EnvLoader.RequestForms
open Outcomes KeyValue Text TrimmedText RequestLines

/-- A text is a word for the method `GET`, a space and a key. -/
def GetForm (text : List Char) (key : String) : Prop :=
  ∃ word, text = word ++ ' ' :: key.toList ∧ Spells word .get ∧ key ≠ "" ∧ ' ' ∉ key.toList

/-- A text is a word for the method `PUT`, a space, a key, a space and a value, which may have
spaces in it. -/
def PutForm (text : List Char) (key value : String) : Prop :=
  ∃ word, text = word ++ ' ' :: (key.toList ++ ' ' :: value.toList) ∧ Spells word .put ∧
    key ≠ "" ∧ ' ' ∉ key.toList

/-- What stands before the first space. -/
def firstWord (text : List Char) : List Char := text.takeWhile (· ≠ ' ')

/-- A text begins with a word for a method, but has neither form. -/
def Malformed (text : List Char) (method : Method) : Prop :=
  Spells (firstWord text) method ∧ (∀ key, ¬ GetForm text key) ∧
    ∀ key value, ¬ PutForm text key value

/-- What is made of a line: a request, or what is said about it. -/
def reading (line : String) : Except String Request :=
  (Request.ofLine line).mapError RequestFault.message

/-- What is said about a method that is not known: its name in upper case, quoted. -/
def unknownText (word : List Char) : String :=
  "unknown method " ++ String.ofList (quote (word.map asciiUpper))

variable {text word : List Char} {method other : Method} {line key value : String}

/-! ### The first word -/

theorem firstWord_free (free : ' ' ∉ word) : firstWord word = word :=
  List.takeWhile_eq_self_iff.mpr fun c member => by
    simp only [ne_eq, decide_eq_true_eq]
    rintro rfl
    exact free member

theorem firstWord_space (free : ' ' ∉ word) (rest : List Char) :
    firstWord (word ++ ' ' :: rest) = word := by
  have front : ∀ c ∈ word, decide (c ≠ ' ') = true := fun c member => by
    simp only [ne_eq, decide_eq_true_eq]
    rintro rfl
    exact free member
  unfold firstWord
  rw [List.takeWhile_append_of_pos front, List.takeWhile_cons_of_neg (by simp), List.append_nil]

/-- The first word of a line is the piece that is taken for its method. -/
theorem method_firstWord (text : List Char) : (LinePieces.ofLine text).method = firstWord text := by
  have pieced : Pieced text (LinePieces.ofLine text) := pieced_iff.mp rfl
  generalize LinePieces.ofLine text = pieces at pieced
  cases pieced with
  | bare free => exact (firstWord_free free).symm
  | keyed free keyFree => exact (firstWord_space free _).symm
  | valued free keyFree => exact (firstWord_space free _).symm

/-! ### What is said about a line -/

/-- Behind a word for a method, a line is a request or is told to be a malformed one. -/
theorem ofTrimmed_spelled (spells : Spells (firstWord text) method) :
    (∃ request, Request.ofTrimmed text = .ok request) ∨
      Request.ofTrimmed text = .error (.malformed method) := by
  rw [← method_firstWord] at spells
  unfold Request.ofTrimmed
  simp only [ofName?_iff.mpr spells]
  split
  · exact .inl ⟨_, rfl⟩
  · exact .inl ⟨_, rfl⟩
  · exact .inr rfl

/-- Any other word is told not to be a known method. -/
theorem ofTrimmed_unspelled (strange : ∀ method, ¬ Spells (firstWord text) method) :
    Request.ofTrimmed text =
      .error (.unknownMethod (String.ofList ((firstWord text).map asciiUpper))) := by
  have unknown : Method.ofName? (firstWord text) = none :=
    Option.eq_none_iff_forall_ne_some.mpr fun method found => strange method (ofName?_iff.mp found)
  unfold Request.ofTrimmed
  simp only [method_firstWord, unknown]
  rfl

theorem malformed_spells (read : Request.ofTrimmed text = .error (.malformed method)) :
    Spells (firstWord text) method := by
  by_cases strange : ∀ method, ¬ Spells (firstWord text) method
  · exact nomatch read.symm.trans (ofTrimmed_unspelled strange)
  · obtain ⟨other, spells⟩ := not_forall_not.mp strange
    rcases ofTrimmed_spelled spells with ⟨request, isRequest⟩ | malformed
    · exact nomatch read.symm.trans isRequest
    · cases read.symm.trans malformed
      exact spells

theorem unknownMethod_message (name : String) : (RequestFault.unknownMethod name).message =
    "unknown method " ++ String.ofList (quote name.toList) := rfl

/-- The text about a malformed request is never one about an unknown method. -/
theorem malformedText_apart {name : String} :
    (RequestFault.malformed method).message ≠ (RequestFault.unknownMethod name).message := by
  intro same
  have first : (RequestFault.malformed method).message.toList.head? = some 'm' := by
    cases method <;> decide
  rw [same, unknownMethod_message, String.toList_append] at first
  simp at first

/-- It tells the method. -/
theorem malformedText_method
    (same : (RequestFault.malformed other).message = (RequestFault.malformed method).message) :
    other = method := by
  cases other <;> cases method
  · rfl
  · exact absurd same (by decide)
  · exact absurd same (by decide)
  · rfl

theorem malformedText (method : Method) :
    (RequestFault.malformed method).message = "malformed " ++ method.name ++ " request" := rfl

theorem unknownText_message (word : List Char) :
    (RequestFault.unknownMethod (String.ofList (word.map asciiUpper))).message = unknownText word := by
  rw [unknownMethod_message, String.toList_ofList]
  rfl

theorem reading_malformed : reading line = .error ("malformed " ++ method.name ++ " request") ↔
    Request.ofLine line = .error (.malformed method) := by
  rw [reading, mapError_error, ← malformedText]
  constructor
  · rintro ⟨fault, read, same⟩
    cases fault with
    | malformed other =>
      cases malformedText_method same
      exact read
    | unknownMethod name => exact absurd same.symm malformedText_apart
  · exact fun read => ⟨_, read, rfl⟩

/-! ### Lines -/

/-- What is left of a line is read by its form, and by its first word if it has none. -/
structure ReadByForm (text : List Char) (line : String) : Prop where
  get : ∀ key, reading line = .ok (.get key) ↔ GetForm text key
  put : ∀ key value, reading line = .ok (.put key value) ↔ PutForm text key value
  malformed : ∀ method, reading line = .error ("malformed " ++ method.name ++ " request") ↔
    Malformed text method
  unknown : reading line = .error (unknownText (firstWord text)) ↔
    (∀ key, ¬ GetForm text key) ∧ (∀ key value, ¬ PutForm text key value) ∧
      ∀ method, ¬ Malformed text method

theorem line_readByForm (line : String) : ReadByForm (trim line.toList) line := by
  have get : ∀ key, reading line = .ok (.get key) ↔ GetForm (trim line.toList) key :=
    fun key => mapError_ok.trans ofLine_get
  have put : ∀ key value, reading line = .ok (.put key value) ↔
      PutForm (trim line.toList) key value :=
    fun key value => mapError_ok.trans ofLine_put
  have malformed : ∀ method, reading line = .error ("malformed " ++ method.name ++ " request") ↔
      Malformed (trim line.toList) method := by
    intro method
    rw [reading_malformed]
    constructor
    · intro read
      have noGet : ∀ key, ¬ GetForm (trim line.toList) key := fun key isGet =>
        nomatch read.symm.trans (ofLine_get.mpr isGet)
      have noPut : ∀ key value, ¬ PutForm (trim line.toList) key value := fun key value isPut =>
        nomatch read.symm.trans (ofLine_put.mpr isPut)
      exact ⟨malformed_spells read, noGet, noPut⟩
    · rintro ⟨spells, noGet, noPut⟩
      rcases ofTrimmed_spelled spells with ⟨request, isRequest⟩ | read
      · cases request with
        | get key => exact absurd (ofLine_get.mp isRequest) (noGet key)
        | put key value => exact absurd (ofLine_put.mp isRequest) (noPut key value)
      · exact read
  refine ⟨get, put, malformed, ?_⟩
  constructor
  · intro read
    refine ⟨fun key isGet => ?_, fun key value isPut => ?_, fun method isMalformed => ?_⟩
    · exact nomatch read.symm.trans ((get key).mpr isGet)
    · exact nomatch read.symm.trans ((put key value).mpr isPut)
    · have same := read.symm.trans ((malformed method).mpr isMalformed)
      rw [← malformedText, ← unknownText_message] at same
      exact absurd (Except.error.inj same).symm malformedText_apart
  · rintro ⟨noGet, noPut, noMalformed⟩
    have strange : ∀ method, ¬ Spells (firstWord (trim line.toList)) method :=
      fun method spells => noMalformed method ⟨spells, noGet, noPut⟩
    rw [reading, mapError_error]
    exact ⟨_, ofTrimmed_unspelled strange, unknownText_message _⟩

theorem bare_put {last : Char} {front : List Char} (solid : isBlank last = false) :
    Bare ('P' :: (front ++ [last])) := by
  constructor
  · intro c first
    cases first
    decide
  · intro c ends
    rw [← List.cons_append, List.getLast?_concat] at ends
    cases ends
    exact solid

/-- Every line is read by the form of what is left of it without the white space around it: as a
request to get, or to put, as a malformed request for a known method, or with a text that names the
method that is not known. So a request to put a value that does not end in white space is read as
just this request. -/
theorem requests_by_form :
    (∀ line : String, ∃ text, Around line.toList text ∧ Bare text ∧ ReadByForm text line) ∧
      ∀ key value : String, key ≠ "" → ' ' ∉ key.toList → value ≠ "" →
        (∀ c, value.toList.getLast? = some c → isBlank c = false) →
        reading ("PUT " ++ key ++ " " ++ value) = .ok (.put key value) := by
  refine ⟨fun line => ?_, fun key value named free filled solid => ?_⟩
  · obtain ⟨around, bare⟩ := trim_iff.mp (rfl : trim line.toList = _)
    exact ⟨_, around, bare, line_readByForm line⟩
  · have isText : ("PUT " ++ key ++ " " ++ value).toList =
        "PUT".toList ++ ' ' :: (key.toList ++ ' ' :: value.toList) := by
      simp
    have some : value.toList ≠ [] := by simpa using filled
    have bare : Bare ("PUT".toList ++ ' ' :: (key.toList ++ ' ' :: value.toList)) := by
      have ends := List.dropLast_append_getLast some
      have last := solid _ (List.getLast?_eq_some_getLast some)
      rw [← ends]
      have shaped := @bare_put _ ("UT".toList ++ ' ' :: (key.toList ++ ' ' :: value.toList.dropLast)) last
      simpa using shaped
    have trimmed : trim ("PUT " ++ key ++ " " ++ value).toList = _ :=
      trim_iff.mpr ⟨⟨[], [], by rw [isText]; simp, nofun, nofun⟩, bare⟩
    have byForm := line_readByForm ("PUT " ++ key ++ " " ++ value)
    rw [trimmed] at byForm
    exact (byForm.put key value).mpr ⟨"PUT".toList, rfl, by unfold Spells; decide, named, free⟩

theorem requests_by_form_spaced :
    reading ("PUT " ++ "key" ++ " " ++ " hello  world") = .ok (.put "key" " hello  world") := by
  have last : " hello  world".toList.getLast? = some 'd' := by decide
  refine requests_by_form.2 "key" " hello  world" (by decide) (by decide) (by decide) fun c ends => ?_
  cases last.symm.trans ends
  decide

end EnvLoader.RequestForms
