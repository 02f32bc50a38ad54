import TerrainChess.Text.Numeral

/-!
# JSON texts

JSON values and their indented text: two spaces per level, one entry per line,
and empty arrays and objects without a line break.
-/

set_option autoImplicit false

namespace TerrainChess.Report

/-- A JSON value; the members of an object keep their order. -/
inductive Json where
  | null
  | boolean (value : Bool)
  | number (value : Int)
  | string (text : String)
  | array (items : List Json)
  | object (members : List (String × Json))

namespace Json

def fourDigits (code : Nat) : List Char :=
  let digits := Nat.toDigits 16 code
  List.replicate (4 - digits.length) '0' ++ digits

def escape (character : Char) : List Char :=
  if character = '\x22' then ['\\', '\x22']
  else if character = '\\' then ['\\', '\\']
  else if character = '\x08' then ['\\', 'b']
  else if character = '\t' then ['\\', 't']
  else if character = '\n' then ['\\', 'n']
  else if character = '\x0c' then ['\\', 'f']
  else if character = '\r' then ['\\', 'r']
  else if character.toNat < 32 then ['\\', 'u'] ++ fourDigits character.toNat
  else [character]

def quote (text : String) : List Char := ['\x22'] ++ text.toList.flatMap escape ++ ['\x22']

def lineBreak (level : Nat) : List Char := '\n' :: List.replicate (2 * level) ' '

mutual

def render (level : Nat) : Json → List Char
  | null => "null".toList
  | boolean true => "true".toList
  | boolean false => "false".toList
  | number value => Text.Numeral.ofInt value
  | string text => quote text
  | array [] => "[]".toList
  | array (first :: rest) =>
    ['['] ++ lineBreak (level + 1) ++ render (level + 1) first ++ renderItems (level + 1) rest ++
      lineBreak level ++ [']']
  | object [] => ['\x7b', '\x7d']
  | object ((name, value) :: rest) =>
    ['\x7b'] ++ lineBreak (level + 1) ++ quote name ++ [':', ' '] ++ render (level + 1) value ++
      renderMembers (level + 1) rest ++ lineBreak level ++ ['\x7d']

def renderItems (level : Nat) : List Json → List Char
  | [] => []
  | item :: rest => [','] ++ lineBreak level ++ render level item ++ renderItems level rest

def renderMembers (level : Nat) : List (String × Json) → List Char
  | [] => []
  | (name, value) :: rest =>
    [','] ++ lineBreak level ++ quote name ++ [':', ' '] ++ render level value ++
      renderMembers level rest

end

def pretty (value : Json) : String := String.ofList (render 0 value)

end Json

end TerrainChess.Report
