import Multiplex.Toml.Lexeme
import Multiplex.Toml.Value
import Multiplex.Word

/-!
# Numbers, dates and truth values

A scalar that is no string is a run of letters, digits, signs, points and colons.
The whole run is taken first, and then has to be an integer, a float, a date or a
truth value as a whole.  Only a date may be followed by one more run: a time
behind a blank.

Integers have 64 bits.  Floats are not computed, but a positive one that would be
rounded to infinity is refused.
-/

namespace Multiplex.Toml

/-! ## Digits -/

/-- Takes an optional sign off; whether it is a minus is the first component. -/
def takeSign : List Char → Bool × List Char
  | '-' :: cs => (true, cs)
  | '+' :: cs => (false, cs)
  | cs => (false, cs)

/-- Reads digits with single underscores between them. -/
def digitRun? (isDigit : Char → Bool) : List Char → Option (List Char)
  | [] => none
  | [c] => if isDigit c then some [c] else none
  | c :: '_' :: cs => if isDigit c then (digitRun? isDigit cs).map (c :: ·) else none
  | c :: cs => if isDigit c then (digitRun? isDigit cs).map (c :: ·) else none

/-- The number that decimal digits stand for. -/
def ofDigits (digits : List Char) : Nat :=
  digits.foldl (fun number digit => number * 10 + (digit.toNat - '0'.toNat)) 0

/-! ## Integers -/

/-- The integers that a document may hold: words of 64 bits with a sign. -/
def integerBound : Int := Word.bound63

/-- An integer if it is in range. -/
def inRange? (number : Int) : Option Int :=
  if -integerBound ≤ number ∧ number < integerBound then some number else none

/-- Reads the digits of a decimal integer.  A leading zero stands alone. -/
def decimalDigits? (cs : List Char) : Option (List Char) :=
  match cs with
  | '0' :: _ :: _ => none
  | cs => digitRun? Char.isDigit cs

/-- Reads digits of another base. -/
def ofBase? (base : Nat) (cs : List Char) : Option Int := do
  let isDigit := fun (c : Char) => (hexValue? c).any fun value => value < base
  let digits ← digitRun? isDigit cs
  let values ← digits.mapM hexValue?
  inRange? (values.foldl (fun number value => number * base + value) 0 : Nat)

/-- Reads an integer. -/
def integer? (cs : List Char) : Option Int :=
  match cs with
  | '0' :: 'x' :: cs => ofBase? 16 cs
  | '0' :: 'o' :: cs => ofBase? 8 cs
  | '0' :: 'b' :: cs => ofBase? 2 cs
  | cs =>
    let (isNegative, cs) := takeSign cs
    (decimalDigits? cs).bind fun digits =>
      inRange? (if isNegative then -(ofDigits digits : Int) else ofDigits digits)

/-! ## Floats -/

/-- The parts of a decimal float: its digits without the point, how many of them
stand behind the point, and the exponent. -/
structure FloatParts where
  isNegative : Bool
  digits : List Char
  places : Nat
  exponent : Int
  deriving DecidableEq, Repr, Inhabited

/-- From this number on a decimal is rounded to infinity: half a unit in the last
place above the largest double. -/
def infinityThreshold : Nat := Nat.pow 2 1024 - Nat.pow 2 970

/-- The infinity threshold has this many digits. -/
def infinityDigits : Nat := 309

/-- Whether `mantissa * 10 ^ exponent` reaches the infinity threshold.  Numbers of
another magnitude are told by counting digits, so that no large power is
computed. -/
def reachesInfinity (mantissa : Nat) (exponent : Int) : Bool :=
  if mantissa == 0 then false
  else
    let digits : Int := (Nat.toDigits 10 mantissa).length + exponent
    if infinityDigits < digits then true
    else if digits < infinityDigits then false
    else if 0 ≤ exponent then infinityThreshold ≤ mantissa * Nat.pow 10 exponent.toNat
    else infinityThreshold * Nat.pow 10 (-exponent).toNat ≤ mantissa

/-- Reads the exponent behind its letter. -/
def exponent? (cs : List Char) : Option Int :=
  let (isNegative, cs) := takeSign cs
  (digitRun? Char.isDigit cs).map fun digits =>
    if isNegative then -(ofDigits digits : Int) else ofDigits digits

/-- Whether a character marks an exponent. -/
def isExponentMark (c : Char) : Bool := c == 'e' || c == 'E'

/-- Reads the parts of a float.  There is a fraction, or an exponent, or both. -/
def floatParts? (cs : List Char) : Option FloatParts := do
  let (isNegative, cs) := takeSign cs
  let significand := cs.takeWhile fun c => !isExponentMark c
  let exponent ← match cs.dropWhile fun c => !isExponentMark c with
    | [] => if significand.contains '.' then some 0 else none
    | _ :: cs => exponent? cs
  let whole ← decimalDigits? (significand.takeWhile (· != '.'))
  let fraction ← match significand.dropWhile (· != '.') with
    | [] => some []
    | _ :: cs => digitRun? Char.isDigit cs
  return ⟨isNegative, whole ++ fraction, fraction.length, exponent⟩

/-- Whether a run is a float that a document may hold. -/
def isFloat (cs : List Char) : Bool :=
  let (_, unsigned) := takeSign cs
  unsigned == "inf".toList || unsigned == "nan".toList ||
    (floatParts? cs).any fun parts =>
      parts.isNegative ||
        !reachesInfinity (ofDigits parts.digits) (parts.exponent - parts.places)

/-! ## Dates and times -/

/-- Reads a number of exactly so many digits. -/
def fixedNumber? : Nat → Nat → List Char → Option (Nat × List Char)
  | 0, number, cs => some (number, cs)
  | count + 1, number, c :: cs =>
    if c.isDigit then fixedNumber? count (number * 10 + (c.toNat - '0'.toNat)) cs else none
  | _ + 1, _, [] => none

/-- Reads a number of two digits between two bounds. -/
def twoDigits? (least greatest : Nat) (cs : List Char) : Option (List Char) := do
  let (number, cs) ← fixedNumber? 2 0 cs
  if least ≤ number && number ≤ greatest then some cs else none

/-- Takes one character off. -/
def expect? (wanted : Char) : List Char → Option (List Char)
  | c :: cs => if c == wanted then some cs else none
  | [] => none

/-- Whether a year has a day more. -/
def isLeapYear (year : Nat) : Bool := year % 4 == 0 && (year % 100 != 0 || year % 400 == 0)

/-- How many days a month has. -/
def daysOfMonth (year month : Nat) : Nat :=
  if month == 2 then if isLeapYear year then 29 else 28
  else if [4, 6, 9, 11].contains month then 30
  else 31

/-- Reads a date. -/
def date? (cs : List Char) : Option (List Char) := do
  let (year, cs) ← fixedNumber? 4 0 cs
  let (month, cs) ← (expect? '-' cs).bind (fixedNumber? 2 0)
  let (day, cs) ← (expect? '-' cs).bind (fixedNumber? 2 0)
  if 1 ≤ month && month ≤ 12 && 1 ≤ day && day ≤ daysOfMonth year month then some cs else none

/-- Reads a time of day; a minute may have a leap second. -/
def time? (cs : List Char) : Option (List Char) := do
  let cs ← (twoDigits? 0 23 cs).bind (expect? ':')
  let cs ← (twoDigits? 0 59 cs).bind (expect? ':')
  let cs ← twoDigits? 0 60 cs
  match cs with
  | '.' :: digit :: cs =>
    if digit.isDigit then some (cs.dropWhile Char.isDigit) else none
  | cs => some cs

/-- Reads the offset of a time zone. -/
def offset? : List Char → Option (List Char)
  | 'Z' :: cs => some cs
  | 'z' :: cs => some cs
  | '+' :: cs => ((twoDigits? 0 23 cs).bind (expect? ':')).bind (twoDigits? 0 59)
  | '-' :: cs => ((twoDigits? 0 23 cs).bind (expect? ':')).bind (twoDigits? 0 59)
  | _ => none

/-- Whether a run is a time of day, with an offset if that is allowed. -/
def isTime (mayHaveOffset : Bool) (cs : List Char) : Bool :=
  match time? cs with
  | some [] => true
  | some cs => mayHaveOffset && offset? cs == some []
  | none => false

/-- Whether a run is a date, alone or with a time. -/
def isDateTime (cs : List Char) : Bool :=
  match date? cs with
  | some [] => true
  | some (mark :: cs) => (mark == 'T' || mark == 't') && isTime true cs
  | none => isTime false cs

/-! ## Scalars -/

/-- The characters of a scalar that is no string. -/
def isScalarChar (c : Char) : Bool :=
  c.isAlphanum || c == '_' || c == '+' || c == '-' || c == '.' || c == ':'

/-- What a run stands for as a whole. -/
def scalarOf? (run : List Char) : Option Value :=
  if run == "true".toList then some (.boolean true)
  else if run == "false".toList then some (.boolean false)
  else
    match integer? run with
    | some number => some (.integer number)
    | none =>
      if isFloat run then some (.float (String.ofList run))
      else if isDateTime run then some (.dateTime (String.ofList run))
      else none

/-- Reads a time behind a date and a blank. -/
def timeBehindDate? (date : List Char) : Reader Value := fun cs =>
  match cs with
  | ' ' :: cs =>
    let run := cs.takeWhile isScalarChar
    if date? date == some [] && isTime true run then
      some (.dateTime (String.ofList (date ++ ' ' :: run)), cs.dropWhile isScalarChar)
    else none
  | _ => none

/-- Reads a scalar. -/
def scalar? : Reader Value := fun cs =>
  match cs with
  | '"' :: _ => (string? cs).map fun (text, rest) => (.string text, rest)
  | '\'' :: _ => (string? cs).map fun (text, rest) => (.string text, rest)
  | cs =>
    let run := cs.takeWhile isScalarChar
    let rest := cs.dropWhile isScalarChar
    timeBehindDate? run rest <|> (scalarOf? run).map fun value => (value, rest)

end Multiplex.Toml
