import EnvLoader.Text.CharClass

/-! Spans of time as people write them: a sequence of numbers with units, such as `1h 30m`.
Numbers are counted in 64 bits, and what does not fit, or is not exact, is refused. -/
namespace EnvLoader.Text

/-- A span of time. -/
structure Duration where
  seconds : Nat
  /-- Less than a second. -/
  nanoseconds : Nat
  deriving DecidableEq, Repr, Inhabited

/-- No time at all. -/
def Duration.zero : Duration := ⟨0, 0⟩

/-- Why a text is no duration. -/
inductive DurationFault where
  | empty
  | numberExpected
  | invalidCharacter
  | unknownUnit
  | overflow
  deriving DecidableEq, Repr, Inhabited

/-- What is said about a fault. -/
def DurationFault.message : DurationFault → String
  | .empty => "value was empty"
  | .numberExpected => "expected number"
  | .invalidCharacter => "invalid character"
  | .unknownUnit => "unknown time unit"
  | .overflow => "number is too large or cannot be represented exactly"

/-- A unit of time. Units up to the minute have fractions down to the nanosecond, longer
ones down to the second. -/
inductive TimeUnit where
  /-- So many nanoseconds, less than a second. -/
  | subsecond (nanoseconds : Nat)
  /-- So many seconds, with fractions in nanoseconds. -/
  | short (seconds : Nat)
  /-- So many seconds, with fractions in seconds. -/
  | long (seconds : Nat)
  deriving DecidableEq, Repr, Inhabited

/-- The units and their names. -/
def unitNames : List (List String × TimeUnit) :=
  [ (["nanos", "nsec", "ns"], .subsecond 1),
    (["usec", "us", "µs"], .subsecond 1000),
    (["millis", "msec", "ms"], .subsecond 1000000),
    (["seconds", "second", "secs", "sec", "s"], .short 1),
    (["minutes", "minute", "min", "mins", "m"], .short 60),
    (["hours", "hour", "hr", "hrs", "h"], .long 3600),
    (["days", "day", "d"], .long 86400),
    (["weeks", "week", "wk", "wks", "w"], .long 604800),
    (["months", "month", "M"], .long 2630016),
    (["years", "year", "yr", "yrs", "y"], .long 31557600) ]

/-- The unit of a name. -/
def unit? (name : String) : Option TimeUnit :=
  (unitNames.find? (·.1.contains name)).map (·.2)

/-- A number that fits in 64 bits. -/
def fit (number : Nat) : Except DurationFault Nat :=
  if number < Nat.pow 2 64 then .ok number else .error .overflow

/-- A fraction between zero and one. -/
structure Fraction where
  numerator : Nat
  denominator : Nat
  deriving DecidableEq, Repr, Inhabited

/-- A fraction of so many parts, if it is a whole number of them. -/
def Fraction.parts (fraction : Fraction) (whole : Nat) : Except DurationFault Nat := do
  let product ← fit (fraction.numerator * whole)
  if product % fraction.denominator = 0 then return product / fraction.denominator
  else throw .overflow

/-- The number of nanoseconds in a second. -/
def second : Nat := 1000000000

/-- Adds seconds and nanoseconds to a duration. -/
def Duration.add (duration : Duration) (seconds nanoseconds : Nat) :
    Except DurationFault Duration := do
  let nanoseconds ← fit (duration.nanoseconds + nanoseconds)
  let seconds ← fit (duration.seconds + seconds + nanoseconds / second)
  return ⟨seconds, nanoseconds % second⟩

/-- Adds a number of units. -/
def Duration.addWhole (duration : Duration) (number : Nat) :
    TimeUnit → Except DurationFault Duration
  | .subsecond nanoseconds => do duration.add 0 (← fit (number * nanoseconds))
  | .short seconds | .long seconds => do duration.add (← fit (number * seconds)) 0

/-- Adds a fraction of a unit. A nanosecond has no fractions. -/
def Duration.addFraction (duration : Duration) (fraction : Fraction) :
    TimeUnit → Except DurationFault Duration
  | .subsecond nanoseconds =>
    if nanoseconds = 1 then throw .overflow
    else do duration.add 0 (← fraction.parts nanoseconds)
  | .short seconds => do duration.add 0 (← fraction.parts (seconds * second))
  | .long seconds => do duration.add (← fraction.parts seconds) 0

/-- A part of a duration that is being read. -/
inductive DurationPart where
  /-- White space, or nothing yet; the next part starts with a digit. -/
  | blank
  | number (value : Nat)
  | fraction (whole : Nat) (fraction : Fraction)
  /-- A unit, its letters reversed. -/
  | unit (whole : Nat) (fraction : Option Fraction) (name : List Char)
  deriving DecidableEq, Repr, Inhabited

/-- Letters that names of units are made of. -/
def isUnitLetter (c : Char) : Bool := isAsciiLetter c || c == 'µ'

/-- The value of a digit. -/
def digitValue (c : Char) : Nat := c.toNat - '0'.toNat

/-- Adds a number with its unit to a duration. -/
def Duration.addPart (duration : Duration) (whole : Nat) (fraction : Option Fraction)
    (name : List Char) : Except DurationFault Duration := do
  let some unit := unit? (String.ofList name.reverse) | throw .unknownUnit
  let duration ← duration.addWhole whole unit
  match fraction with
  | some fraction => duration.addFraction fraction unit
  | none => return duration

/-- What follows when a part has been read up to its end. -/
def Duration.finish (duration : Duration) : DurationPart → Except DurationFault Duration
  | .blank => return duration
  | .number _ => throw .unknownUnit
  | .fraction _ fraction =>
    if fraction.denominator = 1 then throw .invalidCharacter else throw .unknownUnit
  | .unit whole fraction name => duration.addPart whole fraction name

/-- Takes a character into the part that is being read, or ends it and starts the next. -/
def Duration.step (duration : Duration) (part : DurationPart) (c : Char) :
    Except DurationFault (Duration × DurationPart) :=
  match part with
  | .blank =>
    if isDigit c then return (duration, .number (digitValue c))
    else if isBlank c then return (duration, .blank)
    else throw .numberExpected
  | .number value => do
    if isDigit c then return (duration, .number (← fit (value * 10 + digitValue c)))
    else if isBlank c then return (duration, part)
    else if isUnitLetter c then return (duration, .unit value none [c])
    else if c = '.' then return (duration, .fraction value ⟨0, 1⟩)
    else throw .invalidCharacter
  | .fraction whole ⟨numerator, denominator⟩ => do
    if isDigit c then
      return (duration, .fraction whole
        ⟨← fit (numerator * 10 + digitValue c), ← fit (denominator * 10)⟩)
    else if isBlank c then return (duration, part)
    else if isUnitLetter c ∧ denominator ≠ 1 then
      return (duration, .unit whole (some ⟨numerator, denominator⟩) [c])
    else throw .invalidCharacter
  | .unit whole fraction name => do
    if isDigit c then return (← duration.addPart whole fraction name, .number (digitValue c))
    else if isBlank c then return (← duration.addPart whole fraction name, .blank)
    else if isUnitLetter c then return (duration, .unit whole fraction (c :: name))
    else throw .invalidCharacter

/-- Reads a duration from within a part on. -/
def Duration.readFrom (duration : Duration) (part : DurationPart) :
    List Char → Except DurationFault Duration
  | [] => duration.finish part
  | c :: rest => do
    let (duration, part) ← duration.step part c
    duration.readFrom part rest

/-- Reads a duration. A bare zero needs no unit. -/
def readDuration (text : List Char) : Except DurationFault Duration :=
  if text = ['0'] then return .zero
  else if text.all isBlank then throw .empty
  else Duration.zero.readFrom .blank text

end EnvLoader.Text
