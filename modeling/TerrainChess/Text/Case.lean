import TerrainChess.Text.CaseTables

/-!
# Letter case

Upper and lower case of texts. A character may turn into several, and the
lower case of a capital sigma depends on its neighbours: it is the final form
where a word ends.
-/

set_option autoImplicit false

namespace TerrainChess.Text

def CaseRun.apply? (run : CaseRun) (code : Nat) : Option Char :=
  if run.first ≤ code ∧ code ≤ run.last ∧ (code - run.first) % run.stride = 0 then
    some (Char.ofNat (Int.ofNat code + run.distance).toNat)
  else none

/-- The other case of a character by a table of sequences and a table of runs. -/
def otherCase (sequences : List (Nat × List Nat)) (runs : List CaseRun) (character : Char) :
    List Char :=
  match sequences.lookup character.toNat with
  | some codes => codes.map Char.ofNat
  | none => [(runs.findSome? (fun run => run.apply? character.toNat)).getD character]

def upperCase (text : List Char) : List Char :=
  text.flatMap (otherCase upperSequences upperRuns)

/-- Says whether the first character that case does not ignore has case. -/
def startsCased (text : List Char) : Bool :=
  match text.dropWhile (fun character => caseIgnorable.contains character) with
  | [] => false
  | character :: _ => cased.contains character

/-- The lower case of a text after the reversed text before it. -/
def lowerCaseAfter : List Char → List Char → List Char
  | _, [] => []
  | before, character :: rest =>
    (if character = 'Σ' then
      (if startsCased before && !startsCased rest then ['ς'] else ['σ'])
    else otherCase lowerSequences lowerRuns character) ++
      lowerCaseAfter (character :: before) rest

def lowerCase (text : List Char) : List Char := lowerCaseAfter [] text

end TerrainChess.Text
