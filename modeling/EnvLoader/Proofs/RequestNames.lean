import EnvLoader.Session
import EnvLoader.Proofs.WordNames

/-! The names of parser functions. A name is made of the converter's name and of marks for the traits.
It tells requests apart, except that the converter of another one's name with `_slice` behind it is
read singly under the name under which the other is read as a list. And a name is read as it is
written, unless the converter's name has a comment in it. -/
namespace EnvLoader.RequestNames
open Source WordNames

variable {first second request : ParserRequest} {name : String} {text more : List Char}

/-! ### Names tell requests apart -/

theorem name_chars (request : ParserRequest) : request.name.toList =
    "parse_".toList ++ (request.converter.name.toList ++
      (if request.isList then "_slice".toList else []) ++
      (if request.isRequired then "_required".toList else "_optional".toList)) := by
  unfold ParserRequest.name
  cases request.isList <;> cases request.isRequired <;> simp [List.append_assoc]

/-- One request is for lists of a converter, the other for single values of the converter that is
named like the lists. -/
def Mistakable (lists single : ParserRequest) : Prop :=
  lists.isList = true ∧ single.isList = false ∧
    single.converter.name = lists.converter.name ++ "_slice"

instance (lists single : ParserRequest) : Decidable (Mistakable lists single) :=
  inferInstanceAs (Decidable (_ ∧ _ ∧ _))

/-- Two requests go by one name if they agree, as far as names go, or can be mistaken. -/
theorem name_eq_iff : first.name = second.name ↔ first.isRequired = second.isRequired ∧
    (first.converter.name = second.converter.name ∧ first.isList = second.isList ∨
      Mistakable first second ∨ Mistakable second first) := by
  have parts : first.name = second.name ↔
      first.converter.name.toList ++ (if first.isList then "_slice".toList else []) =
          second.converter.name.toList ++ (if second.isList then "_slice".toList else []) ∧
        first.isRequired = second.isRequired := by
    rw [← String.toList_inj, name_chars, name_chars, List.append_cancel_left_eq]
    constructor
    · intro same
      have ends : ∀ isRequired : Bool,
          (if isRequired then "_required".toList else "_optional".toList).length = 9 := by decide
      obtain ⟨before, last⟩ := List.append_inj' same (by rw [ends, ends])
      refine ⟨before, ?_⟩
      revert last
      cases first.isRequired <;> cases second.isRequired <;> decide
    · rintro ⟨before, last⟩
      rw [before, last]
  have slices : ∀ one other : String, one.toList = other.toList ++ "_slice".toList ↔
      one = other ++ "_slice" := by
    intro one other
    rw [← String.toList_append, String.toList_inj]
  rw [parts, and_comm, and_congr_right_iff]
  rintro -
  unfold Mistakable
  cases first.isList <;> cases second.isList
  · simp [String.toList_inj]
  · simpa using slices first.converter.name second.converter.name
  · simpa [eq_comm] using slices second.converter.name first.converter.name
  · simp [String.toList_inj]

/-! ### Names are read as they are written -/

theorem slashes_append (free : '/' ∉ more) :
    ['/', '/'] <:+: text ++ more → ['/', '/'] <:+: text := by
  rintro ⟨before, after, split⟩
  rcases List.append_eq_append_iff.mp split with ⟨rest, isText, -⟩ | ⟨rest, isBefore, isMore⟩
  · exact ⟨before, rest, isText.symm⟩
  · cases rest using List.reverseRecOn with
    | nil =>
      rw [List.append_nil] at isBefore
      exact ⟨before, [], by simpa using isBefore⟩
    | append_singleton rest c =>
      have last : '/' = c := by
        have same := congrArg List.getLast? isBefore
        simpa using same
      refine absurd ?_ free
      rw [isMore, ← last]
      simp

theorem slashes_between {before : List Char} (first : '/' ∉ before) (last : '/' ∉ more)
    (slashes : ['/', '/'] <:+: before ++ (text ++ more)) : ['/', '/'] <:+: text := by
  rw [← List.append_assoc] at slashes
  have front := slashes_append last slashes
  rw [← List.reverse_infix, List.reverse_append] at front
  have back := slashes_append (by simpa using first) front
  rw [← List.reverse_infix]
  simpa using back

/-- What stands behind the converter's name in the name of a parser function. -/
def traitMarks (request : ParserRequest) : List Char :=
  (if request.isList then "_slice".toList else []) ++
    (if request.isRequired then "_required".toList else "_optional".toList)

theorem traitMarks_ends (request : ParserRequest) : '/' ∉ traitMarks request ∧
    ∃ marks c, traitMarks request = marks ++ [c] ∧ isTokenBlank c = false ∧ c ≠ '/' := by
  unfold traitMarks
  cases request.isList <;> cases request.isRequired
  · exact ⟨by decide, "_optiona".toList, 'l', by decide⟩
  · exact ⟨by decide, "_require".toList, 'd', by decide⟩
  · exact ⟨by decide, "_slice_optiona".toList, 'l', by decide⟩
  · exact ⟨by decide, "_slice_require".toList, 'd', by decide⟩

theorem name_endsInToken (plain : ¬ "//".toList <:+: request.converter.name.toList) :
    EndsInToken request.name.toList := by
  obtain ⟨free, marks, c, isMarks, notBlank, notSlash⟩ := traitMarks_ends request
  have chars : request.name.toList =
      "parse_".toList ++ (request.converter.name.toList ++ traitMarks request) := by
    rw [name_chars, traitMarks, List.append_assoc]
  constructor
  · intro slashes
    rw [chars] at slashes
    exact plain (slashes_between (by decide) free slashes)
  · intro before last isText
    rw [chars, isMarks, ← List.append_assoc, ← List.append_assoc] at isText
    obtain ⟨-, same⟩ := List.append_inj' isText rfl
    cases same
    exact ⟨notBlank, notSlash⟩

/-- The name of a parser function is itself, if the converter's name has no comment in it. -/
theorem name_read (plain : ¬ "//".toList <:+: request.converter.name.toList)
    (named : nameOfText? request.name = some name) : name = request.name := by
  have ends := name_endsInToken plain
  obtain ⟨rest, starts⟩ : ∃ rest, request.name.toList = 'p' :: rest := by
    rw [name_chars]
    exact ⟨_, rfl⟩
  have isText : request.name = String.ofList ('p' :: rest) := by
    rw [← starts, String.ofList_toList]
  rw [starts] at ends
  rw [isText] at named
  rw [isText, nameOfText?_self ends named]

/-- A comment in it hides a part of the function's name, which then is that of another function. -/
example : nameOfText? (ParserRequest.name ⟨{ Converter.string with name := "string_required//" },
    false, true⟩) = some "parse_string_required" := by decide

end EnvLoader.RequestNames
