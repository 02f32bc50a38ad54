import TerrainChess.Config.Quotation
import TerrainChess.Config.Value
import TerrainChess.Text.Split

/-!
# Values without quotation marks

Truth values, whole numbers, reals, dates and times. Whole numbers fill a word
of 64 bits; a real must not be greater than every double precision number.
-/

set_option autoImplicit false

namespace TerrainChess.Config.Word

/-- Digits of a base with single underscores between them. -/
def readDigits (base : Nat) : Nat → List Char → Option Nat
  | _, [] => none
  | total, digit :: rest =>
    match hexValue? digit with
    | none => none
    | some value =>
      if value < base then
        match rest with
        | [] => some (base * total + value)
        | '_' :: more => readDigits base (base * total + value) more
        | more => readDigits base (base * total + value) more
      else none

/-- A decimal number, which has no leading zero. -/
def readDecimal (digits : List Char) : Option Nat :=
  match digits with
  | '0' :: _ :: _ => none
  | _ => readDigits 10 0 digits

def isRepresentable (value : Int) : Bool :=
  decide (-9223372036854775808 ≤ value) && decide (value < 9223372036854775808)

def readInteger (word : List Char) : Option Int :=
  let value :=
    match word with
    | '0' :: 'x' :: digits => (readDigits 16 0 digits).map Int.ofNat
    | '0' :: 'o' :: digits => (readDigits 8 0 digits).map Int.ofNat
    | '0' :: 'b' :: digits => (readDigits 2 0 digits).map Int.ofNat
    | '+' :: digits => (readDecimal digits).map Int.ofNat
    | '-' :: digits => (readDecimal digits).map (fun magnitude => -Int.ofNat magnitude)
    | digits => (readDecimal digits).map Int.ofNat
  value.filter isRepresentable

/-- A number as a coefficient and a power of ten. -/
structure Decimal where
  coefficient : Nat
  exponent : Int

/-- The least number that is rounded up beyond the double precision numbers. -/
def doubleBound : Nat := Nat.pow 2 1024 - Nat.pow 2 970

/-- Says whether a number is rounded to one of the double precision numbers. The bound has 309
digits, so powers are compared only for numbers with as many before the point. -/
def Decimal.isDouble (number : Decimal) : Bool :=
  let size := Int.ofNat (Nat.toDigits 10 number.coefficient).length + number.exponent
  if number.coefficient = 0 ∨ size < 309 then true
  else if 309 < size then false
  else
    decide (number.coefficient * Nat.pow 10 number.exponent.toNat <
      doubleBound * Nat.pow 10 (-number.exponent).toNat)

def exponentSplit (word : List Char) : List Char × Option (List Char) :=
  let isLetter := fun character => decide (character = 'e') || decide (character = 'E')
  let coefficient := word.takeWhile (fun character => !isLetter character)
  match word.dropWhile (fun character => !isLetter character) with
  | [] => (coefficient, none)
  | _ :: exponent => (coefficient, some exponent)

def readExponent : List Char → Option Int
  | '+' :: digits => (readDigits 10 0 digits).map Int.ofNat
  | '-' :: digits => (readDigits 10 0 digits).map (fun magnitude => -Int.ofNat magnitude)
  | digits => (readDigits 10 0 digits).map Int.ofNat

/-- The real of a word without a sign: it has a fraction, an exponent, or both. -/
def readReal (word : List Char) : Option Decimal :=
  let (coefficient, exponent) := exponentSplit word
  let power := (exponent.map readExponent).getD (some 0)
  match Text.splitOnce '.' coefficient with
  | none =>
    match exponent, readDecimal coefficient, power with
    | some _, some whole, some power => some ⟨whole, power⟩
    | _, _, _ => none
  | some (whole, fraction) =>
    match readDecimal whole, readDigits 10 0 fraction, power with
    | some whole, some part, some power =>
      let places := (fraction.filter Char.isDigit).length
      some ⟨whole * Nat.pow 10 places + part, power - Int.ofNat places⟩
    | _, _, _ => none

def isSpecial (word : List Char) : Bool :=
  decide (word = "inf".toList) || decide (word = "nan".toList)

def isReal : List Char → Bool
  | '+' :: word => isSpecial word || ((readReal word).map Decimal.isDouble).getD false
  | '-' :: word => isSpecial word || (readReal word).isSome
  | word => isSpecial word || ((readReal word).map Decimal.isDouble).getD false

def numberWithin? (least greatest : Nat) (digits : List Char) : Option Nat :=
  if digits.all Char.isDigit then
    (readDigits 10 0 digits).filter (fun number =>
      decide (least ≤ number) && decide (number ≤ greatest))
  else none

def daysOfMonth (year month : Nat) : Nat :=
  if month = 2 then
    if year % 4 = 0 ∧ (year % 100 ≠ 0 ∨ year % 400 = 0) then 29 else 28
  else if month ∈ [4, 6, 9, 11] then 30
  else 31

def isDate : List Char → Bool
  | [a, b, c, d, '-', e, f, '-', g, h] =>
    match numberWithin? 0 9999 [a, b, c, d], numberWithin? 1 12 [e, f] with
    | some year, some month => (numberWithin? 1 (daysOfMonth year month) [g, h]).isSome
    | _, _ => false
  | _ => false

def isClock : List Char → Bool
  | [a, b, ':', c, d] =>
    (numberWithin? 0 23 [a, b]).isSome && (numberWithin? 0 59 [c, d]).isSome
  | _ => false

def isZone : List Char → Bool
  | [] => true
  | ['Z'] => true
  | ['z'] => true
  | '+' :: clock => isClock clock
  | '-' :: clock => isClock clock
  | _ => false

/-- Says whether a word is a time of day, with a zone behind it if that is allowed. -/
def isTime (zoned : Bool) : List Char → Bool
  | a :: b :: ':' :: c :: d :: ':' :: e :: f :: rest =>
    let isEnd := fun (zone : List Char) => if zoned then isZone zone else zone.isEmpty
    isClock [a, b, ':', c, d] && (numberWithin? 0 60 [e, f]).isSome &&
      match rest with
      | '.' :: digit :: more => digit.isDigit && isEnd (more.dropWhile Char.isDigit)
      | zone => isEnd zone
  | _ => false

def isMoment (word : List Char) : Bool :=
  isDate word || isTime false word ||
    (isDate (word.take 10) &&
      match word.drop 10 with
      | letter :: time => (decide (letter = 'T') || decide (letter = 't')) && isTime true time
      | [] => false)

def isPart (character : Char) : Bool :=
  character.isAlphanum || character ∈ ['_', '-', '+', '.', ':']

def value? (word : List Char) : Option Value :=
  if word = "true".toList then some (.boolean true)
  else if word = "false".toList then some (.boolean false)
  else
    match readInteger word with
    | some number => some (.integer number)
    | none =>
      if isMoment word then some (.moment (String.ofList word))
      else if isReal word then some (.real (String.ofList word))
      else none

/-- The value of a word at the beginning, and the text behind it. A time of day may stand behind a
date and a blank. -/
def read (text : List Char) : Option (Value × List Char) :=
  let word := text.takeWhile isPart
  let behind := text.dropWhile isPart
  match behind with
  | ' ' :: digit :: rest =>
    if isDate word && digit.isDigit then
      let time := (digit :: rest).takeWhile isPart
      if isTime true time then
        some (.moment (String.ofList (word ++ ' ' :: time)), (digit :: rest).dropWhile isPart)
      else none
    else (value? word).map (fun value => (value, behind))
  | _ => (value? word).map (fun value => (value, behind))

end TerrainChess.Config.Word
