import TerrainChess.Text.Extending
import TerrainChess.Text.Unprintable

/-!
# Quoted texts

A quoted text stands between quotation marks. Quotation marks, backslashes and
four control characters have short escapes; every other character that has no
visible form, or that is drawn as part of the character before it, is written by
its code point.
-/

set_option autoImplicit false

namespace TerrainChess.Text

/-- The escape of a character by its code point in lower case hexadecimal digits. -/
def codeEscape (character : Char) : List Char :=
  ['\\', 'u', '\x7b'] ++ Nat.toDigits 16 character.toNat ++ ['\x7d']

def escape (character : Char) : List Char :=
  if character = '\x00' then ['\\', '0']
  else if character = '\t' then ['\\', 't']
  else if character = '\r' then ['\\', 'r']
  else if character = '\n' then ['\\', 'n']
  else if character = '\x22' then ['\\', '\x22']
  else if character = '\\' then ['\\', '\\']
  else if ' ' ≤ character ∧ character ≤ '~' then [character]
  else if isExtending character || !isPrintable character then codeEscape character
  else [character]

def quoted (text : String) : String :=
  String.ofList (['\x22'] ++ text.toList.flatMap escape ++ ['\x22'])

end TerrainChess.Text
