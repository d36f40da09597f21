import InjectionLint.Toml.Quoted

/-!
Values that are written bare: truth values, numbers, and moments, which are dates, times of day, or
both. Seconds may be left out of a time.
-/

set_option autoImplicit false

namespace InjectionLint

namespace Toml

def isBareValue (c : Char) : Bool :=
  c.isAlphanum || c = '_' || c = '+' || c = '-' || c = '.' || c = ':'

def isDigits (digit : Char → Bool) : List Char → Bool
  | [] => false
  | [c] => digit c
  | c :: '_' :: rest => digit c && isDigits digit rest
  | c :: rest => digit c && isDigits digit rest

/-- Digits of a whole number: no zero before another digit. -/
def isWhole (text : List Char) : Bool :=
  isDigits Char.isDigit text && (text.head? ≠ some '0' || text.length = 1)

def isHexDigit (c : Char) : Bool :=
  (Literal.hexDigit? c).isSome

def unsigned : List Char → List Char
  | '+' :: rest => rest
  | '-' :: rest => rest
  | text => text

def isExponentMark (c : Char) : Bool :=
  c = 'e' || c = 'E'

def cutAt? (mark : Char → Bool) (text : List Char) : Option (List Char × List Char) :=
  match text.dropWhile (!mark ·) with
  | [] => none
  | _ :: rest => some (text.takeWhile (!mark ·), rest)

def isFloat (text : List Char) : Bool :=
  let isMantissa (mantissa : List Char) : Bool :=
    match cutAt? (· = '.') mantissa with
    | some (whole, fraction) => isWhole whole && isDigits Char.isDigit fraction
    | none => false
  match cutAt? isExponentMark text with
  | some (mantissa, exponent) =>
    (isWhole mantissa || isMantissa mantissa) && isDigits Char.isDigit (unsigned exponent)
  | none => isMantissa text

def isNumber : List Char → Bool
  | '0' :: 'x' :: digits => isDigits isHexDigit digits
  | '0' :: 'o' :: digits => isDigits (fun c => '0' ≤ c && c ≤ '7') digits
  | '0' :: 'b' :: digits => isDigits (fun c => c = '0' || c = '1') digits
  | text =>
    let magnitude := unsigned text
    isWhole magnitude || isFloat magnitude ||
      magnitude = ['i', 'n', 'f'] || magnitude = ['n', 'a', 'n']

def fixed? (count : Nat) (text : List Char) : Option Nat :=
  if text.length = count && text.all Char.isDigit then
    some (text.foldl (fun value c => value * 10 + (c.toNat - '0'.toNat)) 0)
  else none

def isLeapYear (year : Nat) : Bool :=
  year % 4 = 0 && year % 100 ≠ 0 || year % 400 = 0

def daysOfMonth (year month : Nat) : Nat :=
  if month = 2 then if isLeapYear year then 29 else 28
  else if month = 4 || month = 6 || month = 9 || month = 11 then 30
  else 31

def isDate : List Char → Bool
  | y₁ :: y₂ :: y₃ :: y₄ :: '-' :: m₁ :: m₂ :: '-' :: day =>
    match fixed? 4 [y₁, y₂, y₃, y₄], fixed? 2 [m₁, m₂], fixed? 2 day with
    | some year, some month, some day =>
      1 ≤ month && month ≤ 12 && 1 ≤ day && day ≤ daysOfMonth year month
    | _, _, _ => false
  | _ => false

def isTwoDigits (limit : Nat) (first second : Char) : Bool :=
  (fixed? 2 [first, second]).any (· ≤ limit)

def isTime : List Char → Bool
  | h₁ :: h₂ :: ':' :: m₁ :: m₂ :: rest =>
    isTwoDigits 23 h₁ h₂ && isTwoDigits 59 m₁ m₂ &&
      match rest with
      | [] => true
      | ':' :: s₁ :: s₂ :: fraction =>
        isTwoDigits 60 s₁ s₂ &&
          match fraction with
          | [] => true
          | '.' :: digits => !digits.isEmpty && digits.all Char.isDigit
          | _ => false
      | _ => false
  | _ => false

def isOffset : List Char → Bool
  | [h₁, h₂, ':', m₁, m₂] => isTwoDigits 24 h₁ h₂ && isTwoDigits 59 m₁ m₂
  | _ => false

def isZonedTime (text : List Char) : Bool :=
  match cutAt? (fun c => c = 'Z' || c = 'z' || c = '+' || c = '-') text with
  | none => isTime text
  | some (time, offset) =>
    isTime time &&
      if text.any fun c => c = 'Z' || c = 'z' then offset.isEmpty else isOffset offset

def isMoment (text : List Char) : Bool :=
  isTime text ||
    isDate (text.take 10) &&
      match text.drop 10 with
      | [] => true
      | mark :: time => (mark = 'T' || mark = 't' || mark = ' ') && isZonedTime time

/-- The characters of a bare value. A date takes in a time that follows after one space. -/
def bareText (text : List Char) : List Char × List Char :=
  let word := text.takeWhile isBareValue
  let rest := text.dropWhile isBareValue
  match rest with
  | ' ' :: c :: after =>
    if isDate word && c.isDigit then
      (word ++ ' ' :: (c :: after).takeWhile isBareValue, (c :: after).dropWhile isBareValue)
    else (word, rest)
  | _ => (word, rest)

def bare : Reader Value := fun text =>
  let (word, rest) := bareText text
  match word with
  | ['t', 'r', 'u', 'e'] => some (.boolean true, rest)
  | ['f', 'a', 'l', 's', 'e'] => some (.boolean false, rest)
  | _ =>
    if isNumber word then some (.number (String.ofList word), rest)
    else if isMoment word then some (.moment (String.ofList word), rest)
    else none

end Toml

end InjectionLint
