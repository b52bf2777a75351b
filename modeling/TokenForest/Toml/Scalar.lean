import TokenForest.Text.Hex
import TokenForest.Toml.Error
import TokenForest.Value

/-!
# Dates, times and numbers of TOML

Each reader here looks at the characters that are left and answers what they begin with, together
with the characters behind it.  A day comes before a time, and both before a number, since all of
them begin with digits.  A part that may be missing is taken only as a whole.  What has the form of
a value may still be none: a day that is in no month, or a number of too many digits.
-/

namespace TokenForest.Toml.Scalar

/-- Whether a character is a digit of a base of at most sixteen. -/
def isDigitOf (base : Nat) (character : Char) : Bool :=
  (Text.Hex.value? character).any (· < base)

/-- The characters behind a mark, if it comes first. -/
def after? (mark : Char) : List Char → Option (List Char)
  | [] => none
  | character :: rest => if character = mark then some rest else none

/-! ## Dates and times -/

/-- A number of exactly so many decimal digits. -/
def fixed? (count : Nat) (text : List Char) : Option (Nat × List Char) :=
  let digits := text.take count
  if digits.length = count ∧ digits.all (isDigitOf 10) then
    some (Text.Hex.number 10 digits, text.drop count)
  else none

/-- A number of two decimal digits below a bound. -/
def twoDigits? (bound : Nat) (text : List Char) : Option (Fin bound × List Char) := do
  let (number, left) ← fixed? 2 text
  if below : number < bound then some (⟨number, below⟩, left) else none

/-- The millionth parts after the whole seconds; further digits do not count. -/
def fractionOfSecond (text : List Char) : Fin 1000000 × List Char :=
  match text with
  | '.' :: rest =>
    let digits := rest.takeWhile (isDigitOf 10)
    if digits.isEmpty then (0, text)
    else
      let kept := (digits ++ List.replicate 6 '0').take 6
      (Fin.ofNat 1000000 (Text.Hex.number 10 kept), rest.drop digits.length)
  | _ => (0, text)

/-- A time of a day. -/
def timeOfDay? (text : List Char) : Option (TimeOfDay × List Char) := do
  let (hour, left) ← twoDigits? 24 text
  let (minute, left) ← twoDigits? 60 (← after? ':' left)
  let (second, left) ← twoDigits? 60 (← after? ':' left)
  let (microsecond, left) := fractionOfSecond left
  return ({ hour, minute, second, microsecond }, left)

/-- How far a clock is from universal time. -/
def clockOffset? : List Char → Option (ClockOffset × List Char)
  | [] => none
  | mark :: rest =>
    if mark = 'Z' ∨ mark = 'z' then some (ClockOffset.ofTime true 0 0, rest)
    else if mark = '+' ∨ mark = '-' then do
      let (hours, left) ← twoDigits? 24 rest
      let (minutes, left) ← twoDigits? 60 (← after? ':' left)
      return (ClockOffset.ofTime (mark = '+') hours minutes, left)
    else none

/-- The time after a day, and what is known of the clock. -/
def clock? : List Char → Option ((TimeOfDay × Option ClockOffset) × List Char)
  | [] => none
  | mark :: rest =>
    if mark = 'T' ∨ mark = 't' ∨ mark = ' ' then do
      let (time, left) ← timeOfDay? rest
      match clockOffset? left with
      | some (offset, left) => return ((time, some offset), left)
      | none => return ((time, none), left)
    else none

/-- The numbers of a day, which need not exist in this month. -/
def dayNumbers? (text : List Char) : Option ((Nat × Nat × Nat) × List Char) := do
  let (year, left) ← fixed? 4 text
  let (month, left) ← twoDigits? 13 (← after? '-' left)
  let (day, left) ← twoDigits? 32 (← after? '-' left)
  if month.val = 0 ∨ day.val = 0 then none else some ((year, month.val, day.val), left)

/-- A day, alone or with a time, if the day exists. -/
def dated? (text : List Char) : Option (Except Trouble Value × List Char) := do
  let ((year, month, day), left) ← dayNumbers? text
  let (makeValue, left) : (Date → Value) × List Char :=
    match clock? left with
    | some ((time, offset), left) => (fun date => .moment { date, time, offset }, left)
    | none => (.date, left)
  match Date.ofNumbers? year month day with
  | some date => return (.ok (makeValue date), left)
  | none => return (.error (.flawed .badMoment), left)

/-! ## Numbers -/

/-- Splits a run of digits, in which single underscores may separate, from what follows. -/
def digitRun (isDigit : Char → Bool) : List Char → List Char × List Char
  | '_' :: character :: rest =>
    if isDigit character then
      let (digits, left) := digitRun isDigit rest
      (character :: digits, left)
    else ([], '_' :: character :: rest)
  | character :: rest =>
    if isDigit character then
      let (digits, left) := digitRun isDigit rest
      (character :: digits, left)
    else ([], character :: rest)
  | [] => ([], [])

/-- A run of digits that does not start with an underscore, if there is one. -/
def digits? (isDigit : Char → Bool) (text : List Char) : Option (List Char × List Char) :=
  match text with
  | [] => none
  | character :: _ => if isDigit character then some (digitRun isDigit text) else none

/-- Whether a minus sign comes first, and what follows a sign of either kind. -/
def signed : List Char → Bool × List Char
  | '-' :: rest => (true, rest)
  | '+' :: rest => (false, rest)
  | text => (false, text)

/-- The base that the letter after a leading zero announces. -/
def baseOf? : Char → Option Nat
  | 'x' => some 16
  | 'o' => some 8
  | 'b' => some 2
  | _ => none

/-- A whole number with a base prefix, of any length. -/
def basedNumber? : List Char → Option (Value × List Char)
  | '0' :: letter :: rest =>
    match baseOf? letter with
    | none => none
    | some base =>
      (digits? (isDigitOf base) rest).map fun (digits, left) =>
        (.int (Text.Hex.number base digits), left)
  | _ => none

/-- The digits of the fraction after a whole part, if there is one. -/
def fraction? (text : List Char) : Option (List Char × List Char) := do
  digits? (isDigitOf 10) (← after? '.' text)

/-- The exponent after a number, if there is one. -/
def exponent? : List Char → Option (Int × List Char)
  | [] => none
  | letter :: rest =>
    if letter = 'e' ∨ letter = 'E' then
      let (negative, unsigned) := signed rest
      (digits? (isDigitOf 10) unsigned).map fun (digits, left) =>
        let size : Int := Text.Hex.number 10 digits
        (if negative then -size else size, left)
    else none

/-- The digits of the whole part of a number: a zero alone, or any that do not begin with one. -/
def wholePart? (text : List Char) : Option (List Char × List Char) :=
  match text with
  | '0' :: left => some (['0'], left)
  | _ => digits? (isDigitOf 10) text

/-- The whole number of some decimal digits, unless they are too many. -/
def wholeNumber (negative : Bool) (digits : List Char) : Except Trouble Value :=
  if digitLimit < digits.length then .error (.excessive (.longNumeral digits.length))
  else
    let size : Int := Text.Hex.number 10 digits
    .ok (.int (if negative then -size else size))

/-- A number in decimal digits: a whole one, or a fraction if a point or an exponent follows. -/
def decimalNumber? (text : List Char) : Option (Except Trouble Value × List Char) := do
  let (negative, unsigned) := signed text
  let (digits, left) ← wholePart? unsigned
  let float (places : List Char) (exponent : Int) : Except Trouble Value :=
    .ok (.float (Double.ofDecimal negative (Text.Hex.number 10 (digits ++ places))
      (places.length - exponent)))
  match fraction? left with
  | some (places, left) =>
    match exponent? left with
    | some (exponent, left) => return (float places exponent, left)
    | none => return (float places 0, left)
  | none =>
    match exponent? left with
    | some (exponent, left) => return (float [] exponent, left)
    | none => return (wholeNumber negative digits, left)

/-- What is no number in digits: the infinite ones, and what is not a number. -/
def special? (text : List Char) : Option (Value × List Char) :=
  match signed text with
  | (negative, 'i' :: 'n' :: 'f' :: left) => some (.float (.infinite negative), left)
  | (_, 'n' :: 'a' :: 'n' :: left) => some (.float .nan, left)
  | _ => none

/-- A date, a time or a number. -/
def read? (text : List Char) : Option (Except Trouble Value × List Char) :=
  dated? text <|>
    (timeOfDay? text).map (fun (time, left) => (.ok (.time time), left)) <|>
    (basedNumber? text).map (fun (value, left) => (.ok value, left)) <|>
    decimalNumber? text <|>
    (special? text).map (fun (value, left) => (.ok value, left))

end TokenForest.Toml.Scalar
