import EnvLoader.Text.CharClass
import Mathlib.Data.List.DropRight
import Mathlib.Data.List.TakeWhile

/-! What is left of a text without the white space around it, said of the text as a whole: it has
white space at neither end, and there is nothing but white space before and after it. -/
namespace EnvLoader.TrimmedText
open Text

variable {text inner before after : List Char}

/-- A text is white space and nothing else. -/
def Blank (text : List Char) : Prop := ∀ c ∈ text, isBlank c = true

/-- A text has white space at neither end. -/
structure Bare (text : List Char) : Prop where
  first : ∀ c, text.head? = some c → isBlank c = false
  last : ∀ c, text.getLast? = some c → isBlank c = false

/-- A text is another one with white space around it. -/
def Around (text inner : List Char) : Prop :=
  ∃ before after, text = before ++ inner ++ after ∧ Blank before ∧ Blank after

theorem bare_nil : Bare [] := ⟨nofun, nofun⟩

theorem dropWhile_blank (blank : Blank before) :
    (before ++ text).dropWhile isBlank = text.dropWhile isBlank :=
  List.dropWhile_append_of_pos blank

theorem trimEnd_blank (blank : Blank after) : trimEnd (text ++ after) = trimEnd text := by
  unfold trimEnd
  rw [List.reverse_append, dropWhile_blank fun c member => blank c (List.mem_reverse.mp member)]

theorem trimStart_bare (bare : Bare inner) (filled : inner ≠ []) :
    trimStart (inner ++ text) = inner ++ text := by
  obtain ⟨c, rest, rfl⟩ := List.exists_cons_of_ne_nil filled
  exact List.dropWhile_cons_of_neg (by simp [bare.first c rfl])

theorem trimEnd_bare (bare : Bare inner) : trimEnd inner = inner := by
  cases inner using List.reverseRecOn with
  | nil => rfl
  | append_singleton rest c =>
    unfold trimEnd
    rw [List.reverse_concat, List.dropWhile_cons_of_neg (by simp [bare.last c (by simp)]),
      ← List.reverse_concat, List.reverse_reverse]

/-- Trimming leaves what stands between the white space at the ends. -/
theorem trim_around (around : Around text inner) (bare : Bare inner) : trim text = inner := by
  obtain ⟨before, after, rfl, front, behind⟩ := around
  unfold trim
  by_cases filled : inner = []
  · subst filled
    have blank : Blank (before ++ [] ++ after) := by
      simpa [Blank, or_imp, forall_and] using And.intro front behind
    rw [trimStart, List.dropWhile_eq_nil_iff.mpr blank]
    rfl
  · rw [List.append_assoc, trimStart, dropWhile_blank front]
    change trimEnd (trimStart (inner ++ after)) = inner
    rw [trimStart_bare bare filled, trimEnd_blank behind, trimEnd_bare bare]

theorem trimStart_around (text : List Char) :
    ∃ before, text = before ++ trimStart text ∧ Blank before :=
  ⟨text.takeWhile isBlank, List.takeWhile_append_dropWhile.symm,
    fun _ member => List.mem_takeWhile_imp member⟩

theorem trimEnd_around (text : List Char) :
    ∃ after, text = trimEnd text ++ after ∧ Blank after :=
  ⟨text.rtakeWhile isBlank, List.rdropWhile_append_rtakeWhile.symm,
    fun _ member => List.mem_rtakeWhile_imp member⟩

theorem trim_bare (text : List Char) : Bare (trim text) := by
  constructor
  · intro c first
    obtain ⟨after, split, -⟩ := trimEnd_around (trimStart text)
    have front : (trimStart text).head? = some c := by
      rw [split, List.head?_append, show (trimEnd (trimStart text)).head? = some c from first]
      rfl
    have stops := List.head?_dropWhile_not isBlank text
    rw [show (text.dropWhile isBlank).head? = some c from front] at stops
    simpa using stops
  · intro c last
    have stops := List.head?_dropWhile_not isBlank (trimStart text).reverse
    rw [trim, trimEnd, List.getLast?_reverse] at last
    rw [last] at stops
    simpa using stops

/-- Trimming takes white space away at both ends, and all that is there. -/
theorem trim_iff : trim text = inner ↔ Around text inner ∧ Bare inner := by
  constructor
  · rintro rfl
    refine ⟨?_, trim_bare text⟩
    obtain ⟨before, front, isBefore⟩ := trimStart_around text
    obtain ⟨after, behind, isAfter⟩ := trimEnd_around (trimStart text)
    refine ⟨before, after, ?_, isBefore, isAfter⟩
    rw [List.append_assoc]
    exact front.trans (congrArg (before ++ ·) behind)
  · rintro ⟨around, bare⟩
    exact trim_around around bare

end EnvLoader.TrimmedText
