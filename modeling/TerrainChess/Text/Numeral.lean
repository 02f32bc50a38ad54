import TerrainChess.Coord

/-!
# Numerals

Numbers are written in decimal digits of the ASCII range with an optional sign.
Main statement: reading the numeral of a coordinate gives the coordinate back.
-/

set_option autoImplicit false

namespace TerrainChess.Text.Numeral

def readDigits? (text : List Char) : Option Nat :=
  if text.isEmpty then none
  else if text.all Char.isDigit then some (Nat.ofDigitChars 10 text 0)
  else none

def readInt? : List Char → Option Int
  | '+' :: digits => (readDigits? digits).map Int.ofNat
  | '-' :: digits => (readDigits? digits).map (fun magnitude => -Int.ofNat magnitude)
  | digits => (readDigits? digits).map Int.ofNat

def readCoord? (text : List Char) : Option Coord := (readInt? text).bind Coord.ofInt?

/-- The 32-bit word of a numeral, which may have a plus sign but no minus sign. -/
def readWord? (text : List Char) : Option UInt32 :=
  let magnitude :=
    match text with
    | '+' :: digits => readDigits? digits
    | digits => readDigits? digits
  magnitude.bind (fun value => if value < 4294967296 then some value.toUInt32 else none)

def ofNat (value : Nat) : List Char := Nat.toDigits 10 value

def ofInt (value : Int) : List Char :=
  if value < 0 then '-' :: ofNat value.natAbs else ofNat value.natAbs

def ofCoord (value : Coord) : List Char := ofInt value.val

theorem ofNat_ne_nil (value : Nat) : ofNat value ≠ [] := by
  unfold ofNat
  rw [Nat.toDigits_eq_if (by decide)]
  split <;> simp

theorem isDigit_of_mem_ofNat {value : Nat} {character : Char} (member : character ∈ ofNat value) :
    character.isDigit = true :=
  Nat.isDigit_of_mem_toDigits (by decide) (by decide) member

theorem readDigits?_ofNat (value : Nat) : readDigits? (ofNat value) = some value := by
  unfold readDigits?
  rw [if_neg (by simpa using ofNat_ne_nil value),
    if_pos (List.all_eq_true.mpr (fun _ member => isDigit_of_mem_ofNat member))]
  exact congrArg some (Nat.ofDigitChars_toDigits (by decide) (by decide))

theorem readInt?_ofInt (value : Int) : readInt? (ofInt value) = some value := by
  unfold ofInt
  split
  · next negative =>
    rw [readInt?, readDigits?_ofNat]
    simp only [Option.map_some, Int.ofNat_eq_natCast]
    congr 1
    omega
  · next positive =>
    have digits := readDigits?_ofNat value.natAbs
    have allDigits := fun character => @isDigit_of_mem_ofNat value.natAbs character
    revert digits allDigits
    generalize ofNat value.natAbs = written
    intro digits allDigits
    unfold readInt?
    split
    · have sign := allDigits '+' List.mem_cons_self
      simp at sign
    · have sign := allDigits '-' List.mem_cons_self
      simp at sign
    · rw [digits, Option.map_some, Int.ofNat_eq_natCast]
      congr 1
      omega

/-- Reading undoes writing on every coordinate. -/
theorem readCoord?_ofCoord (value : Coord) : readCoord? (ofCoord value) = some value := by
  rw [readCoord?, ofCoord, readInt?_ofInt, Option.bind_some, Coord.ofInt?_eq_some_iff]

end TerrainChess.Text.Numeral
