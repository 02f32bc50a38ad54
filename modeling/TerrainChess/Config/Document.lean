import TerrainChess.Config.Word

/-!
# Configuration documents

A configuration document gives settings. A header in square brackets opens a
section, and the settings below it make up a table under the name of the header.
A setting leads by a path of names between dots to its value; lists stand in
square brackets and tables in braces. No path may begin with another one.
Sections do not nest.
-/

set_option autoImplicit false

namespace TerrainChess.Config.Document

/-- The greatest depth of lists and tables in each other, and of names in a path. -/
def depthLimit : Nat := 79

def isBare (character : Char) : Bool :=
  character.isAlphanum || decide (character = '_') || decide (character = '-')

/-- A text without the spaces, the line ends and the comments before it, if the comments hold plain
characters alone. -/
def skipGaps : Bool → List Char → Option (List Char)
  | _, [] => some []
  | _, '\n' :: rest => skipGaps false rest
  | _, '\r' :: '\n' :: rest => skipGaps false rest
  | true, character :: rest => if isPlain character then skipGaps true rest else none
  | false, '#' :: rest => skipGaps true rest
  | false, character :: rest =>
    if isSpace character then skipGaps false rest else some (character :: rest)

/-- The text behind a line after its content: nothing else may stand there but a comment. -/
def endLine? (text : List Char) : Option (List Char) :=
  match skipSpaces text with
  | [] => some []
  | '#' :: rest => skipGaps true rest
  | ending => afterLineEnd? ending

def readName (text : List Char) : Option (String × List Char) :=
  match Quotation.readShort text with
  | some (content, behind) => some (String.ofList content, behind)
  | none =>
    let name := text.takeWhile isBare
    if name.isEmpty then none else some (String.ofList name, text.dropWhile isBare)

/-- A path of names at the beginning, and the text behind it and the spaces around it. The count
bounds the number of names. -/
def readPath : Nat → List Char → Option (List String × List Char)
  | 0, _ => none
  | count + 1, text =>
    match readName (skipSpaces text) with
    | none => none
    | some (name, behind) =>
      match skipSpaces behind with
      | '.' :: rest => (readPath count rest).map (fun path => (name :: path.1, path.2))
      | rest => some ([name], rest)

def readSetting (readValue : List Char → Option (Value × List Char)) (text : List Char) :
    Option ((List String × Value) × List Char) :=
  match readPath depthLimit text with
  | some (path, '=' :: rest) =>
    (readValue (skipSpaces rest)).map (fun value => ((path, value.1), value.2))
  | _ => none

/-- The items of a list up to its closing bracket, and the text behind it. A comma may stand behind
the last item. The count bounds the number of items. -/
def readItems (readValue : List Char → Option (Value × List Char)) :
    Nat → List Char → Option (List Value × List Char)
  | 0, _ => none
  | count + 1, text =>
    match skipGaps false text with
    | none => none
    | some (']' :: rest) => some ([], rest)
    | some content =>
      match readValue content with
      | none => none
      | some (item, behind) =>
        match skipGaps false behind with
        | some (']' :: rest) => some ([item], rest)
        | some (',' :: rest) =>
          (readItems readValue count rest).map (fun items => (item :: items.1, items.2))
        | _ => none

/-- The settings of a table, at least one, up to its closing brace, and the text behind it. The
count bounds the number of settings. -/
def readEntries (readValue : List Char → Option (Value × List Char)) :
    Nat → List Char → Option (Settings × List Char)
  | 0, _ => none
  | count + 1, text =>
    match readSetting readValue text with
    | none => none
    | some (setting, behind) =>
      match skipSpaces behind with
      | '\x7d' :: rest => some ([setting], rest)
      | ',' :: rest =>
        (readEntries readValue count rest).map
          (fun settings => (setting :: settings.1, settings.2))
      | _ => none

def readTable (readValue : List Char → Option (Value × List Char)) (text : List Char) :
    Option (Value × List Char) :=
  match skipSpaces text with
  | '\x7d' :: rest => some (.table [], rest)
  | content =>
    match readEntries readValue (content.length + 1) content with
    | some (settings, rest) =>
      if settings.separate then some (.table settings, rest) else none
    | none => none

/-- A value at the beginning, and the text behind it. The depth bounds the lists and tables in each
other. -/
def readValue : Nat → List Char → Option (Value × List Char)
  | depth, text =>
    match Quotation.read text with
    | some (content, behind) => some (.string (String.ofList content), behind)
    | none =>
      match depth, text with
      | inner + 1, '[' :: rest =>
        (readItems (readValue inner) (rest.length + 1) rest).map
          (fun items => (.list items.1, items.2))
      | inner + 1, '\x7b' :: rest => readTable (readValue inner) rest
      | _, _ => Word.read text

inductive Statement where
  | header (name : String)
  | setting (path : List String) (value : Value)

def readStatement : List Char → Option (Statement × List Char)
  | '[' :: text =>
    match readName (skipSpaces text) with
    | none => none
    | some (name, behind) =>
      match skipSpaces behind with
      | ']' :: rest => some (.header name, rest)
      | _ => none
  | text =>
    (readSetting (readValue depthLimit) text).map
      (fun setting => (.setting setting.1.1 setting.1.2, setting.2))

def readStatements : Nat → List Char → Option (List Statement)
  | 0, _ => none
  | count + 1, text =>
    match skipGaps false text with
    | none => none
    | some [] => some []
    | some content =>
      match readStatement content with
      | none => none
      | some (statement, behind) =>
        match endLine? behind with
        | none => none
        | some rest => (readStatements count rest).map (fun later => statement :: later)

def sections : List Statement → Settings × List (String × Settings)
  | [] => ([], [])
  | .setting path value :: rest =>
    let later := sections rest
    ((path, value) :: later.1, later.2)
  | .header name :: rest =>
    let later := sections rest
    ([], (name, later.1) :: later.2)

/-- The settings of a document whose paths are separate, also within each section. -/
def settings? (statements : List Statement) : Option Settings :=
  let parts := sections statements
  let settings := parts.1 ++ parts.2.map (fun part => ([part.1], Value.table part.2))
  if settings.separate && parts.2.all (fun part => part.2.separate) then some settings else none

/-- The settings of a text; a byte order mark at its beginning does not count. -/
def ofText? (text : String) : Option Settings :=
  let content :=
    match text.toList with
    | '\ufeff' :: rest => rest
    | whole => whole
  (readStatements (content.length + 1) content).bind settings?

end TerrainChess.Config.Document
