import EnvLoader.Text.CharClass

/-! Integers in decimal notation, for integer types of a fixed width. -/
namespace EnvLoader.Text

/-- Why a text is no integer of a type. -/
inductive IntegerFault where
  | empty
  | invalidDigit
  | tooLarge
  | tooSmall
  deriving DecidableEq, Repr, Inhabited

/-- What is said about a fault. -/
def IntegerFault.message : IntegerFault → String
  | .empty => "cannot parse integer from empty string"
  | .invalidDigit => "invalid digit found in string"
  | .tooLarge => "number too large to fit in target type"
  | .tooSmall => "number too small to fit in target type"

/-- An integer type: a number of bits, with or without a sign. -/
structure IntegerType where
  isSigned : Bool
  bits : Nat
  deriving DecidableEq, Repr, Inhabited

namespace IntegerType

/-- The integer type of a name. The width of a word is 64 bits. -/
def ofName? : String → Option IntegerType
  | "i8" => some ⟨true, 8⟩
  | "i16" => some ⟨true, 16⟩
  | "i32" => some ⟨true, 32⟩
  | "i64" | "isize" => some ⟨true, 64⟩
  | "i128" => some ⟨true, 128⟩
  | "u8" => some ⟨false, 8⟩
  | "u16" => some ⟨false, 16⟩
  | "u32" => some ⟨false, 32⟩
  | "u64" | "usize" => some ⟨false, 64⟩
  | "u128" => some ⟨false, 128⟩
  | _ => none

/-- The largest magnitude of a number that is not negative. -/
def maximum (type : IntegerType) : Nat :=
  if type.isSigned then Nat.pow 2 (type.bits - 1) - 1 else Nat.pow 2 type.bits - 1

/-- The largest magnitude of a negative number. -/
def minimum (type : IntegerType) : Nat := if type.isSigned then Nat.pow 2 (type.bits - 1) else 0

end IntegerType

/-- The value of a digit. -/
def digit? (c : Char) : Option Nat := if isDigit c then some (c.toNat - '0'.toNat) else none

/-- Reads digits after a number that is read already, and stops at the first that is no
digit or leads beyond a bound. -/
def readDigits (bound : Nat) (beyond : IntegerFault) : Nat → List Char → Except IntegerFault Nat
  | number, [] => .ok number
  | number, c :: rest =>
    match digit? c with
    | none => .error .invalidDigit
    | some digit =>
      if number * 10 + digit ≤ bound then readDigits bound beyond (number * 10 + digit) rest
      else .error beyond

/-- Reads an integer: digits, with at most one sign before them. A minus sign is no part of
a number without a sign. -/
def readInteger (type : IntegerType) (text : List Char) : Except IntegerFault Int :=
  match text with
  | [] => .error .empty
  | ['+'] | ['-'] => .error .invalidDigit
  | '+' :: digits => (readDigits type.maximum .tooLarge 0 digits).map Int.ofNat
  | '-' :: digits =>
    if type.isSigned then
      (readDigits type.minimum .tooSmall 0 digits).map fun number => -Int.ofNat number
    else .error .invalidDigit
  | digits => (readDigits type.maximum .tooLarge 0 digits).map Int.ofNat

end EnvLoader.Text
