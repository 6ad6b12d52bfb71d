import EnvLoader.Schema.Shape
import Mathlib.Data.List.Basic

/-! The shape of a type, from the type without the brackets around it. A path without arguments is a
name, and so is, inside an option or a list, one that is the only argument of the path's last segment.
Everything else has no shape but its own text. -/
namespace EnvLoader.TypeShapes
open Source

/-- A type without the brackets around it. -/
def strip : TypeExpr → TypeExpr
  | .paren inner => strip inner
  | .grouped inner => strip inner
  | type => type

/-- No segment of a path has arguments. -/
def ArgumentFree (path : Path) : Prop := ∀ segment ∈ path.segments, segment.arguments = .none

/-- The names of a path's segments, joined. -/
def joinedName (path : Path) : String := "::".intercalate (path.segments.map (·.name))

/-- The last segment of a path is a wrapper, and its only argument is, brackets aside, a path without
arguments. -/
inductive Wraps (wrapper : String) : Path → Path → Prop
  | mk {leading turbofish trailing : Bool} {front : List Segment} {type : TypeExpr} {inner : Path}
      (stripped : strip type = .path inner) (plain : ArgumentFree inner) :
      Wraps wrapper (.mk leading (front ++ [.mk wrapper (.angle turbofish [.type type] trailing)])) inner

/-- A type has a shape by the path that it is without its brackets, and is named by that path or by the
one inside. -/
inductive HasShape : TypeExpr → Path → Shape → Prop
  | named {path : Path} (plain : ArgumentFree path) (single : path.segments.length = 1) :
      HasShape (.path path) path (.named (joinedName path))
  | qualified {path : Path} (plain : ArgumentFree path) (several : 1 < path.segments.length) :
      HasShape (.path path) path (.qualified (joinedName path))
  | optional {path inner : Path} (wraps : Wraps "Option" path inner) :
      HasShape (.path path) inner (.optional (joinedName inner))
  | sequence {path inner : Path} (wraps : Wraps "Vec" path inner) :
      HasShape (.path path) inner (.sequence (joinedName inner))

variable {type : TypeExpr} {path inner : Path} {shape : Shape} {name wrapper : String}

theorem isPlain_iff : path.isPlain = true ↔ ArgumentFree path := by
  have isNone : ∀ arguments : Arguments, arguments.isNone = true ↔ arguments = .none := by
    intro arguments
    cases arguments <;> simp [Arguments.isNone]
  simp [Path.isPlain, ArgumentFree, isNone]

theorem joinedName?_iff : joinedName? path = some name ↔ ArgumentFree path ∧ name = joinedName path := by
  unfold joinedName? joinedName
  rw [← isPlain_iff]
  split
  · rename_i plain
    simp [plain, eq_comm]
  · rename_i plain
    simp [plain]

theorem strip_eq (notParen : ∀ inner, type ≠ .paren inner) (notGrouped : ∀ inner, type ≠ .grouped inner) :
    strip type = type := by
  unfold strip
  split
  · exact absurd rfl (notParen _)
  · exact absurd rfl (notGrouped _)
  · rfl

theorem plainName?_iff : plainName? type = some name ↔
    ∃ inner, strip type = .path inner ∧ ArgumentFree inner ∧ name = joinedName inner := by
  fun_induction plainName? type with
  | case1 inner ih => exact ih
  | case2 inner ih => exact ih
  | case3 path => simp [strip, joinedName?_iff]
  | case4 type notParen notGrouped notPath =>
    rw [strip_eq notParen notGrouped]
    exact ⟨nofun, fun ⟨inner, isPath, _⟩ => absurd isPath (notPath inner)⟩

theorem soleArgument?_iff {arguments : Arguments} : soleArgument? arguments = some type ↔
    ∃ turbofish trailing, arguments = .angle turbofish [.type type] trailing := by
  unfold soleArgument?
  split
  · simp [eq_comm]
  · rename_i other
    exact ⟨nofun, fun ⟨turbofish, trailing, isArgument⟩ => absurd isArgument (other turbofish type trailing)⟩

/-- A path that wraps a name has the wrapper's shape. -/
theorem shapeOfPath_wraps (wraps : Wraps wrapper path inner) : shapeOfPath path =
    if wrapper = "Option" then .optional (joinedName inner)
    else if wrapper = "Vec" then .sequence (joinedName inner)
    else .unrecognized (textOf path.tokens) := by
  cases wraps with
  | mk stripped plain =>
    have named := plainName?_iff.mpr ⟨inner, stripped, plain, rfl⟩
    simp only [shapeOfPath, Path.segments, List.getLast?_concat, Segment.arguments, soleArgument?, named]
    rfl

/-- A path without arguments is a name. -/
theorem shapeOfPath_plain (plain : ArgumentFree path) (nonempty : path.segments ≠ []) :
    shapeOfPath path = if path.segments.length = 1 then .named (joinedName path)
      else .qualified (joinedName path) := by
  have last := plain _ (List.getLast_mem nonempty)
  simp only [shapeOfPath, List.getLast?_eq_some_getLast nonempty, last, soleArgument?,
    joinedName?_iff.mpr ⟨plain, rfl⟩]

theorem shapeOfPath_shape (path : Path) :
    (∃ named, HasShape (.path path) named (shapeOfPath path)) ∨
      shapeOfPath path = .unrecognized (textOf path.tokens) := by
  obtain ⟨leading, segments⟩ := path
  rcases List.eq_nil_or_concat' segments with rfl | ⟨front, ⟨wrapper, arguments⟩, rfl⟩
  · exact .inr rfl
  cases sole : soleArgument? arguments with
  | some type =>
    obtain ⟨turbofish, trailing, rfl⟩ := soleArgument?_iff.mp sole
    cases named : plainName? type with
    | some name =>
      obtain ⟨inner, stripped, plain, rfl⟩ := plainName?_iff.mp named
      have wraps : Wraps wrapper _ inner := @Wraps.mk _ leading turbofish trailing front _ _ stripped plain
      rw [shapeOfPath_wraps wraps]
      split
      · rename_i isOption
        exact .inl ⟨inner, .optional (isOption ▸ wraps)⟩
      split
      · rename_i isVec
        exact .inl ⟨inner, .sequence (isVec ▸ wraps)⟩
      · exact .inr rfl
    | none =>
      right
      simp only [shapeOfPath, Path.segments, List.getLast?_concat, Segment.arguments, soleArgument?, named]
  | none =>
    cases joined : joinedName? (.mk leading (front ++ [.mk wrapper arguments])) with
    | some name =>
      obtain ⟨plain, -⟩ := joinedName?_iff.mp joined
      have nonempty : (Source.Path.mk leading (front ++ [.mk wrapper arguments])).segments ≠ [] :=
        List.append_ne_nil_of_right_ne_nil _ (List.cons_ne_nil _ _)
      rw [shapeOfPath_plain plain nonempty]
      split
      · rename_i single
        exact .inl ⟨_, .named plain single⟩
      · rename_i several
        exact .inl ⟨_, .qualified plain
          (Nat.lt_of_le_of_ne (List.length_pos_iff.mpr nonempty) (Ne.symm several))⟩
    | none =>
      right
      simp only [shapeOfPath, Path.segments, List.getLast?_concat, Segment.arguments, sole, joined]

/-- Brackets do not change a shape. -/
theorem classify_strip (type : TypeExpr) : classify type = classify (strip type) := by
  fun_induction strip type with
  | case1 inner ih => exact ih
  | case2 inner ih => exact ih
  | case3 => rfl

theorem hasShape_classify (has : HasShape type path shape) : classify type = shape := by
  cases has with
  | named plain single =>
    rw [classify, shapeOfPath_plain plain (List.ne_nil_of_length_pos (single ▸ Nat.one_pos)),
      if_pos single]
  | qualified plain several =>
    rw [classify, shapeOfPath_plain plain (List.ne_nil_of_length_pos (Nat.zero_lt_of_lt several)),
      if_neg (Nat.ne_of_gt several)]
  | optional wraps => exact shapeOfPath_wraps wraps
  | sequence wraps => exact shapeOfPath_wraps wraps

/-- A type has a shape, or it is classified as its text. -/
theorem classify_shape (type : TypeExpr) :
    (∃ path, HasShape (strip type) path (classify type)) ∨
      classify type = .unrecognized (strip type).text := by
  fun_induction strip type with
  | case1 inner ih => exact ih
  | case2 inner ih => exact ih
  | case3 type notParen notGrouped =>
    unfold classify
    split
    · exact absurd rfl (notParen _)
    · exact absurd rfl (notGrouped _)
    · exact shapeOfPath_shape _
    · exact .inr rfl

theorem classify_iff (recognized : ∀ text, shape ≠ .unrecognized text) :
    classify type = shape ↔ ∃ path, HasShape (strip type) path shape := by
  constructor
  · rintro rfl
    exact (classify_shape type).resolve_right (recognized _)
  · rintro ⟨path, has⟩
    rw [classify_strip, hasShape_classify has]

end EnvLoader.TypeShapes
