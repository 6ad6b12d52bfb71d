import EnvLoader.KeyValue.Request
import EnvLoader.Proofs.StoreReplay

/-! Which lines are requests, said of the line as a whole and not of the pieces it is cut into:
without the white space around it, it is a word for the method, a space and the key, and in one
that stores a value another space and the value. The key has characters, but no space. -/
namespace EnvLoader.RequestLines
open KeyValue Text

variable {separator : Char} {text before after word : List Char} {line key value : String}

theorem splitOnce_none : splitOnce separator text = none ↔ separator ∉ text := by
  induction text with
  | nil => simp [splitOnce]
  | cons c rest ih =>
    by_cases same : c = separator
    · simp [splitOnce, same]
    · have apart : separator ≠ c := fun other => same other.symm
      simp [splitOnce, same, apart, ih]

theorem splitOnce_some : splitOnce separator text = some (before, after) ↔
    text = before ++ separator :: after ∧ separator ∉ before := by
  constructor
  · intro split
    induction text generalizing before with
    | nil => exact nomatch split
    | cons c rest ih =>
      by_cases same : c = separator
      · simp only [splitOnce, same, ↓reduceIte, Option.some.injEq, Prod.mk.injEq] at split
        obtain ⟨rfl, rfl⟩ := split
        exact ⟨by simp [same], by simp⟩
      · simp only [splitOnce, same, ↓reduceIte, Option.map_eq_some_iff, Prod.mk.injEq] at split
        obtain ⟨⟨inner, _⟩, split, rfl, rfl⟩ := split
        obtain ⟨rfl, free⟩ := ih split
        have apart : separator ≠ c := fun other => same other.symm
        exact ⟨rfl, by simp [apart, free]⟩
  · rintro ⟨rfl, free⟩
    exact StoreReplay.splitOnce_key free

/-- A word is the name of a method, in any letter case. -/
def Spells (word : List Char) (method : Method) : Prop :=
  word.map asciiUpper = method.name.toList

theorem ofName?_iff {method : Method} : Method.ofName? word = some method ↔ Spells word method := by
  have spelled : ∀ name : String,
      String.ofList (word.map asciiUpper) = name ↔ word.map asciiUpper = name.toList :=
    fun name => ⟨fun same => by rw [← same, String.toList_ofList],
      fun same => by rw [same, String.ofList_toList]⟩
  unfold Method.ofName? Spells
  simp only [spelled]
  by_cases get : word.map asciiUpper = "GET".toList
  · cases method <;> simp [get, Method.name]
  · by_cases put : word.map asciiUpper = "PUT".toList
    · cases method <;> simp [put, Method.name]
    · cases method <;> simp_all [Method.name]

theorem spells_unspaced {method : Method} (spells : Spells word method) : ' ' ∉ word := by
  intro member
  have upper : ' ' ∈ word.map asciiUpper := List.mem_map.mpr ⟨' ', member, by decide⟩
  rw [spells] at upper
  cases method <;> exact absurd upper (by decide)

/-- A line asks for the value of a key. -/
def IsGet (line key : String) : Prop :=
  ∃ word, trim line.toList = word ++ ' ' :: key.toList ∧ Spells word .get ∧
    key ≠ "" ∧ ' ' ∉ key.toList

/-- A line asks to store a value under a key. -/
def IsPut (line key value : String) : Prop :=
  ∃ word, trim line.toList = word ++ ' ' :: (key.toList ++ ' ' :: value.toList) ∧
    Spells word .put ∧ key ≠ "" ∧ ' ' ∉ key.toList

/-! ### The pieces of a line -/

/-- A line is a word, a word and a key, or these with a value behind the key. -/
inductive Pieced : List Char → LinePieces → Prop
  | bare {word : List Char} (free : ' ' ∉ word) : Pieced word ⟨word, none, none⟩
  | keyed {word key : List Char} (free : ' ' ∉ word) (keyFree : ' ' ∉ key) :
      Pieced (word ++ ' ' :: key) ⟨word, some key, none⟩
  | valued {word key value : List Char} (free : ' ' ∉ word) (keyFree : ' ' ∉ key) :
      Pieced (word ++ ' ' :: (key ++ ' ' :: value)) ⟨word, some key, some value⟩

theorem pieced_iff {pieces : LinePieces} : LinePieces.ofLine text = pieces ↔ Pieced text pieces := by
  constructor
  · rintro rfl
    unfold LinePieces.ofLine
    cases cut : splitOnce ' ' text with
    | none => exact .bare (splitOnce_none.mp cut)
    | some halves =>
      obtain ⟨rfl, free⟩ := splitOnce_some.mp cut
      cases cutToo : splitOnce ' ' halves.2 with
      | none =>
        simp only [cutToo]
        exact .keyed free (splitOnce_none.mp cutToo)
      | some more =>
        obtain ⟨rest, keyFree⟩ := splitOnce_some.mp cutToo
        simp only [cutToo]
        rw [rest]
        exact .valued free keyFree
  · intro pieced
    unfold LinePieces.ofLine
    cases pieced with
    | bare free => rw [splitOnce_none.mpr free]
    | keyed free keyFree =>
      rw [splitOnce_some.mpr ⟨rfl, free⟩]
      simp only [splitOnce_none.mpr keyFree]
    | valued free keyFree =>
      rw [splitOnce_some.mpr ⟨rfl, free⟩]
      simp only [splitOnce_some.mpr ⟨rfl, keyFree⟩]

/-! ### Requests -/

variable {request : Request} {keyText valueText : List Char}

theorem read_get (pieced : Pieced text ⟨word, some keyText, none⟩) (spells : Spells word .get)
    (named : keyText ≠ []) : Request.ofTrimmed text = .ok (.get (String.ofList keyText)) := by
  have filled : (some keyText).filter (!·.isEmpty) = some keyText := by simp [named]
  unfold Request.ofTrimmed
  simp only [pieced_iff.mpr pieced, ofName?_iff.mpr spells, filled]
  rfl

theorem read_put (pieced : Pieced text ⟨word, some keyText, some valueText⟩)
    (spells : Spells word .put) (named : keyText ≠ []) :
    Request.ofTrimmed text = .ok (.put (String.ofList keyText) (String.ofList valueText)) := by
  have filled : (some keyText).filter (!·.isEmpty) = some keyText := by simp [named]
  unfold Request.ofTrimmed
  simp only [pieced_iff.mpr pieced, ofName?_iff.mpr spells, filled]
  rfl

/-- A request that is read has the pieces it is made of. -/
theorem read_pieces (read : Request.ofTrimmed text = .ok request) : ∃ word keyText,
    Spells word request.method ∧ keyText ≠ [] ∧
      (Pieced text ⟨word, some keyText, none⟩ ∧ request = .get (String.ofList keyText) ∨
        ∃ valueText, Pieced text ⟨word, some keyText, some valueText⟩ ∧
          request = .put (String.ofList keyText) (String.ofList valueText)) := by
  have pieced : Pieced text (LinePieces.ofLine text) := pieced_iff.mp rfl
  unfold Request.ofTrimmed at read
  generalize LinePieces.ofLine text = pieces at pieced read
  obtain ⟨word, key, value⟩ := pieces
  dsimp only at read
  split at read
  · exact nomatch read
  · rename_i method spelled
    have spells := ofName?_iff.mp spelled
    split at read
    · rename_i keyText filled
      obtain ⟨rfl, named⟩ := Option.filter_eq_some_iff.mp filled
      cases read
      exact ⟨word, keyText, spells, by simpa using named, .inl ⟨pieced, rfl⟩⟩
    · rename_i keyText valueText filled
      obtain ⟨rfl, named⟩ := Option.filter_eq_some_iff.mp filled
      cases read
      exact ⟨word, keyText, spells, by simpa using named, .inr ⟨valueText, pieced, rfl⟩⟩
    · exact nomatch read

theorem ofLine_get : Request.ofLine line = .ok (.get key) ↔ IsGet line key := by
  unfold Request.ofLine IsGet
  generalize trim line.toList = text
  constructor
  · intro read
    obtain ⟨word, keyText, spells, named, ⟨pieced, same⟩ | ⟨_, _, impossible⟩⟩ := read_pieces read
    · cases same
      cases pieced with
      | keyed free keyFree =>
        rw [String.toList_ofList]
        exact ⟨word, rfl, spells, by simpa using named, keyFree⟩
    · exact nomatch impossible
  · rintro ⟨word, rfl, spells, named, keyFree⟩
    have read := read_get (.keyed (spells_unspaced spells) keyFree) spells
      (by simpa using named)
    rwa [String.ofList_toList] at read

theorem ofLine_put : Request.ofLine line = .ok (.put key value) ↔ IsPut line key value := by
  unfold Request.ofLine IsPut
  generalize trim line.toList = text
  constructor
  · intro read
    obtain ⟨word, keyText, spells, named, ⟨_, impossible⟩ | ⟨valueText, pieced, same⟩⟩ :=
      read_pieces read
    · exact nomatch impossible
    · cases same
      cases pieced with
      | valued free keyFree =>
        rw [String.toList_ofList, String.toList_ofList]
        exact ⟨word, rfl, spells, by simpa using named, keyFree⟩
  · rintro ⟨word, rfl, spells, named, keyFree⟩
    have pieced : Pieced _ ⟨word, some key.toList, some value.toList⟩ :=
      .valued (spells_unspaced spells) keyFree
    have read := read_put pieced spells (by simpa using named)
    rwa [String.ofList_toList, String.ofList_toList] at read

end EnvLoader.RequestLines
