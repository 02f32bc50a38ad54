/-!
# Strings in quotation marks

Two kinds of quotation marks are in use: escapes count between double ones and
do not between single ones. A string between three marks may have several lines;
a line end right behind the opening marks does not belong to it.
-/

set_option autoImplicit false

namespace TerrainChess.Config

def isSpace (character : Char) : Bool := decide (character = ' ') || decide (character = '\t')

def skipSpaces (text : List Char) : List Char := text.dropWhile isSpace

def isPlain (character : Char) : Bool :=
  decide (character = '\t') || (decide (32 ≤ character.toNat) && decide (character.toNat ≠ 127))

def afterLineEnd? : List Char → Option (List Char)
  | '\n' :: rest => some rest
  | '\r' :: '\n' :: rest => some rest
  | _ => none

def hexValue? (digit : Char) : Option Nat :=
  if digit.isDigit then some (digit.toNat - '0'.toNat)
  else if 'a' ≤ digit ∧ digit ≤ 'f' then some (digit.toNat - 'a'.toNat + 10)
  else if 'A' ≤ digit ∧ digit ≤ 'F' then some (digit.toNat - 'A'.toNat + 10)
  else none

namespace Quotation

def codePoint? (digits : List Char) : Option Char :=
  match digits.mapM hexValue? with
  | none => none
  | some values =>
    let code := values.foldl (fun total value => 16 * total + value) 0
    if code.isValidChar then some (Char.ofNat code) else none

def shortEscape? : Char → Option Char
  | 'b' => some '\x08'
  | 't' => some '\t'
  | 'n' => some '\n'
  | 'f' => some '\x0c'
  | 'r' => some '\r'
  | '\x22' => some '\x22'
  | '\\' => some '\\'
  | _ => none

def prepend (character : Option Char) (result : Option (List Char × List Char)) :
    Option (List Char × List Char) :=
  match character, result with
  | some first, some (content, behind) => some (first :: content, behind)
  | _, _ => none

/-- The end of a string, if it is here: the marks before the closing ones, which belong to the
content, and the text behind. Three marks close a long string, and up to two may stand before. -/
def closing? (mark : Char) (long : Bool) (text : List Char) : Option (List Char × List Char) :=
  let marks := (text.takeWhile (fun character => decide (character = mark))).length
  if long then
    if 3 ≤ marks then
      let spare := min (marks - 3) 2
      some (List.replicate spare mark, text.drop (3 + spare))
    else none
  else if 1 ≤ marks then some ([], text.drop 1)
  else none

/-- The content of a string with escapes, and the text behind its closing marks. In a long string a
backslash at the end of a line takes away all spaces and line ends that follow: they are skipped. -/
def readEscaped (long : Bool) : Bool → List Char → Option (List Char × List Char)
  | _, [] => none
  | _, '\\' :: 'u' :: a :: b :: c :: d :: rest =>
    prepend (codePoint? [a, b, c, d]) (readEscaped long false rest)
  | _, '\\' :: 'U' :: a :: b :: c :: d :: e :: f :: g :: h :: rest =>
    prepend (codePoint? [a, b, c, d, e, f, g, h]) (readEscaped long false rest)
  | _, '\\' :: letter :: rest =>
    if long && (afterLineEnd? (skipSpaces (letter :: rest))).isSome then
      readEscaped long true (letter :: rest)
    else prepend (shortEscape? letter) (readEscaped long false rest)
  | skipping, character :: rest =>
    match closing? '\x22' long (character :: rest) with
    | some ending => some ending
    | none =>
      if long && decide (character = '\r') && decide (rest.head? = some '\n') then
        readEscaped long skipping rest
      else if skipping && (isSpace character || decide (character = '\n')) then
        readEscaped long true rest
      else if decide (character ≠ '\\') &&
          (isPlain character || (long && decide (character = '\n'))) then
        prepend (some character) (readEscaped long false rest)
      else none

def readLiteral (long : Bool) : List Char → Option (List Char × List Char)
  | [] => none
  | character :: rest =>
    match closing? '\x27' long (character :: rest) with
    | some ending => some ending
    | none =>
      if long && decide (character = '\r') && decide (rest.head? = some '\n') then
        readLiteral long rest
      else if isPlain character || (long && decide (character = '\n')) then
        prepend (some character) (readLiteral long rest)
      else none

def readShort : List Char → Option (List Char × List Char)
  | '\x22' :: rest => readEscaped false false rest
  | '\x27' :: rest => readLiteral false rest
  | _ => none

def read : List Char → Option (List Char × List Char)
  | '\x22' :: '\x22' :: '\x22' :: rest =>
    readEscaped true false ((afterLineEnd? rest).getD rest)
  | '\x27' :: '\x27' :: '\x27' :: rest => readLiteral true ((afterLineEnd? rest).getD rest)
  | text => readShort text

end Quotation

end TerrainChess.Config
