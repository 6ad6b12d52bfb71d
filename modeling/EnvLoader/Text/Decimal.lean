import EnvLoader.Text.Integer

/-! Numbers in decimal notation with a fraction and an exponent. A number is kept as it is
written; no precision is lost. -/
namespace EnvLoader.Text

/-- A magnitude in decimal notation. -/
inductive Magnitude where
  /-- The digits, read as one number, times a power of ten. -/
  | finite (digits : Nat) (exponent : Int)
  | infinite
  | notANumber
  deriving DecidableEq, Repr, Inhabited

/-- A number in decimal notation. -/
structure Decimal where
  isNegative : Bool
  magnitude : Magnitude
  deriving DecidableEq, Repr, Inhabited

/-- Zero. -/
def Decimal.zero : Decimal := ⟨false, .finite 0 0⟩

/-- Why a text is no decimal number. -/
inductive DecimalFault where
  | empty
  | invalid
  deriving DecidableEq, Repr, Inhabited

/-- What is said about a fault. -/
def DecimalFault.message : DecimalFault → String
  | .empty => "cannot parse float from empty string"
  | .invalid => "invalid float literal"

/-- The number that digits spell. -/
def numberOf (digits : List Char) : Nat :=
  digits.foldl (fun number c => number * 10 + (c.toNat - '0'.toNat)) 0

/-- Splits a text into a sign, if there is one, and the rest. -/
def splitSign : List Char → Bool × List Char
  | '-' :: rest => (true, rest)
  | '+' :: rest => (false, rest)
  | text => (false, text)

/-- An exponent, which may be missing. -/
def exponent? : List Char → Option Int
  | [] => some 0
  | mark :: text =>
    let (isNegative, digits) := splitSign text
    if (mark = 'e' ∨ mark = 'E') ∧ !digits.isEmpty ∧ digits.all isDigit then
      some (if isNegative then -Int.ofNat (numberOf digits) else numberOf digits)
    else none

/-- A magnitude in digits, which stand before or after the point, or on both sides of it. -/
def digits? (text : List Char) : Option Magnitude :=
  let whole := text.takeWhile isDigit
  let afterWhole := text.dropWhile isDigit
  let (fraction, rest) :=
    match afterWhole with
    | '.' :: tail => (tail.takeWhile isDigit, tail.dropWhile isDigit)
    | _ => ([], afterWhole)
  if whole.isEmpty && fraction.isEmpty then none
  else
    (exponent? rest).map fun exponent =>
      .finite (numberOf (whole ++ fraction)) (exponent - Int.ofNat fraction.length)

/-- A magnitude, in digits or by name. Names are read in any letter case. -/
def magnitude? (text : List Char) : Option Magnitude :=
  let name := String.ofList (text.map asciiLower)
  if name = "inf" ∨ name = "infinity" then some .infinite
  else if name = "nan" then some .notANumber
  else digits? text

/-- Reads a decimal number. -/
def readDecimal (text : List Char) : Except DecimalFault Decimal :=
  if text.isEmpty then .error .empty
  else
    let (isNegative, rest) := splitSign text
    match magnitude? rest with
    | some magnitude => .ok ⟨isNegative, magnitude⟩
    | none => .error .invalid

end EnvLoader.Text
