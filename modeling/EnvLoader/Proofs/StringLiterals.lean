import EnvLoader.Source.Literal

/-! The string literal of a text is read as the text: every escape stands for the character that it
was written for, and a quote that ends the literal is never one of the text. -/
namespace EnvLoader.StringLiterals
open Source Text

variable {c : Char} {seen value digit : Nat} {text rest : List Char}

/-! ### Escapes by code point -/

theorem codePointDigits?_digit (short : seen < 6) (isDigit : digit < 16) :
    codePointDigits? seen value (Nat.digitChar digit :: rest) =
      codePointDigits? (seen + 1) (16 * value + digit) rest := by
  have digits : ∀ digit < 16, hexValue? (Nat.digitChar digit) = some digit ∧
      Nat.digitChar digit ≠ '_' ∧ Nat.digitChar digit ≠ '\x7d' := by decide
  obtain ⟨isValue, notBlank, notClosing⟩ := digits digit isDigit
  rw [codePointDigits?, if_neg (fun blank => notBlank blank.1),
    if_neg (fun closing => notClosing closing.1), isValue]
  exact if_neg (Nat.ne_of_lt short)

/-- The digits of a number are read as the number. -/
theorem codePointDigits?_digits (short : (Nat.toDigits 16 value).length ≤ 6) :
    codePointDigits? 0 0 (Nat.toDigits 16 value ++ rest) =
      codePointDigits? (Nat.toDigits 16 value).length value rest := by
  induction value using Nat.strongRecOn generalizing rest with
  | ind value ih =>
    by_cases single : value < 16
    · rw [Nat.toDigits_of_lt_base single]
      have first := @codePointDigits?_digit 0 0 value rest (by decide) single
      simpa using first
    · have more : Nat.toDigits 16 value =
          Nat.toDigits 16 (value / 16) ++ [Nat.digitChar (value % 16)] :=
        Nat.toDigits_of_base_le (by decide) (Nat.not_lt.mp single)
      rw [more, List.length_append, List.length_singleton] at short
      rw [more, List.append_assoc, ih (value / 16) (by omega) (by omega), List.singleton_append,
        codePointDigits?_digit (by omega) (Nat.mod_lt _ (by decide)), Nat.div_add_mod,
        List.length_append, List.length_singleton]

theorem codePointEscape?_escape (c : Char) :
    codePointEscape? ('\x7b' :: (Nat.toDigits 16 c.toNat ++ '\x7d' :: rest)) = some (c, rest) := by
  have inRange := c.valid
  have isCode : c.val.toNat = c.toNat := rfl
  have short : (Nat.toDigits 16 c.toNat).length ≤ 6 :=
    (Nat.length_toDigits_le_iff (by decide) (by decide)).mpr (by
      simp only [UInt32.isValidChar, Nat.isValidChar, isCode] at inRange
      omega)
  have read : codePointDigits? 0 0 (Nat.toDigits 16 c.toNat ++ '\x7d' :: rest) =
      some (c.toNat, rest) := by
    rw [codePointDigits?_digits short, codePointDigits?, if_neg (by simp),
      if_pos ⟨rfl, Nat.length_toDigits_pos⟩]
  have valid : c.toNat < 0xd800 ∨ 0xdfff < c.toNat ∧ c.toNat < 0x110000 := by
    simpa only [UInt32.isValidChar, Nat.isValidChar, isCode] using inRange
  simp only [codePointEscape?, read, Option.bind_eq_bind, Option.bind_some, if_pos valid,
    Char.ofNat_toNat]

/-! ### Characters -/

/-- A character is read from its escape. -/
theorem piece?_escapeChar (c : Char) : piece? .text (escapeChar c ++ rest) = some (.char c, rest) := by
  unfold escapeChar
  split
  · rename_i isNul
    rw [isNul]
    rfl
  split
  · rename_i isTab
    rw [isTab]
    rfl
  split
  · rename_i isReturn
    rw [isReturn]
    rfl
  split
  · rename_i isFeed
    rw [isFeed]
    rfl
  split
  · rename_i marked
    rcases marked with rfl | rfl <;> rfl
  rename_i notReturn _ unmarked
  split
  · simp [codePointEscape, piece?, codePointEscape?_escape]
  · rw [not_or] at unmarked
    simp [piece?, notReturn, unmarked]

/-- A character is escaped, or it is a NUL that is written with its code. -/
theorem literalBody_cons (c : Char) (text : List Char) :
    literalBody (c :: text) = escapeChar c ++ literalBody text ∨
      c = '\x00' ∧ literalBody (c :: text) = ['\\', 'x', '0', '0'] ++ literalBody text := by
  conv => lhs; rw [literalBody.eq_def]
  conv => rhs; rw [literalBody.eq_def]
  dsimp only
  split
  · split
    · exact .inr ⟨rfl, rfl⟩
    · exact .inl rfl
  · exact .inl rfl

/-- A literal holds the text that it was written for. -/
theorem quotedText?_literalBody {fuel : Nat} (enough : text.length < fuel) :
    quotedText? fuel (literalBody text ++ ['"']) = some text := by
  induction text generalizing fuel with
  | nil =>
    obtain ⟨fuel, rfl⟩ := Nat.exists_eq_succ_of_ne_zero (Nat.ne_of_gt enough)
    rfl
  | cons c text ih =>
    obtain ⟨fuel, rfl⟩ := Nat.exists_eq_succ_of_ne_zero (Nat.ne_of_gt (Nat.zero_lt_of_lt enough))
    have others := ih (Nat.succ_lt_succ_iff.mp enough)
    rcases literalBody_cons c text with plain | ⟨rfl, byCode⟩
    · rw [plain, List.append_assoc, quotedText?, piece?_escapeChar]
      simp [others]
    · have nul : piece? .text (['\\', 'x', '0', '0'] ++ (literalBody text ++ ['"'])) =
          some (.byte 0, literalBody text ++ ['"']) := rfl
      rw [byCode, List.append_assoc, quotedText?, nul]
      simp [others]

theorem escapeChar_ne_nil (c : Char) : escapeChar c ≠ [] := by
  unfold escapeChar codePointEscape
  grind

theorem length_le_literalBody : text.length ≤ (literalBody text).length := by
  induction text with
  | nil => exact Nat.zero_le _
  | cons c text ih =>
    have first := List.length_pos_iff.mpr (escapeChar_ne_nil c)
    rcases literalBody_cons c text with plain | ⟨-, byCode⟩
    · rw [plain, List.length_append, List.length_cons]
      omega
    · rw [byCode, List.length_append, List.length_cons, List.length_cons]
      omega

/-- The value of a text's string literal is the text. -/
@[simp] theorem stringValue?_stringLiteral (text : String) :
    stringValue? (stringLiteral text) = some text := by
  have bound := @length_le_literalBody text.toList
  have read := @quotedText?_literalBody text.toList
    ((literalBody text.toList ++ ['"']).length + 1) (by simp; omega)
  rw [stringValue?, stringLiteral, String.toList_ofList, List.cons_append]
  simp only [read, Option.map_some, String.ofList_toList]

end EnvLoader.StringLiterals
