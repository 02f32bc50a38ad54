import TerrainChess.Files.Access

/-!
# Trees of files

A tree of files and directories held in memory. A name is followed component by
component from the top of the tree; a file on the way that is no directory, a
component that is too long, and one that does not exist, are told apart.
-/

set_option autoImplicit false

namespace TerrainChess

inductive FileNode where
  | file (content : ByteArray)
  | directory

/-- The files and the empty directories of a tree, by their components from the top. -/
structure FileTree where
  entries : List (List String × FileNode)

/-- A directory of a tree, or the world outside of it. -/
inductive FilePlace where
  | inside (components : List String)
  | outside

namespace FileTree

def ofEntries (entries : List (String × FileNode)) : FileTree :=
  ⟨entries.map (fun entry =>
    ((Location.components entry.1).filter
      (fun part => !(decide (part = "") || decide (part = "."))), entry.2))⟩

/-- What stands at the place with some components. The directories on the way to an entry exist. -/
def nodeAt (tree : FileTree) (components : List String) : Option FileNode :=
  match tree.entries.find? (fun entry => decide (entry.1 = components)) with
  | some entry => some entry.2
  | none =>
    if components.isEmpty || tree.entries.any (fun entry => components.isPrefixOf entry.1) then
      some .directory
    else none

def componentLimit : Nat := 255

/-- The length in bytes from which on a name is not looked up at all. -/
def nameLimit : Nat := 4096

/-- Goes one component further. Only the ways back up lead from the world outside to a place. -/
def step (tree : FileTree) (place : FilePlace) (component : String) :
    Except ReadError FilePlace :=
  match place with
  | .outside =>
    if component = "" ∨ component = "." ∨ component = ".." then .ok .outside
    else if componentLimit < component.utf8ByteSize then .error .nameTooLong
    else .error .notFound
  | .inside here =>
    match tree.nodeAt here with
    | none => .error .notFound
    | some (.file _) => .error .notDirectory
    | some .directory =>
      if component = "" ∨ component = "." then .ok (.inside here)
      else if component = ".." then
        .ok (if here.isEmpty then .outside else .inside here.dropLast)
      else if componentLimit < component.utf8ByteSize then .error .nameTooLong
      else
        match tree.nodeAt (here ++ [component]) with
        | none => .error .notFound
        | some _ => .ok (.inside (here ++ [component]))

def follow (tree : FileTree) : FilePlace → List String → Except ReadError FilePlace
  | place, [] => .ok place
  | place, component :: rest =>
    match tree.step place component with
    | .error reason => .error reason
    | .ok next => tree.follow next rest

def lookup (tree : FileTree) (name : String) : Except ReadError FileNode :=
  if name.toList.contains '\x00' then .error .nulInName
  else if name.isEmpty then .error .notFound
  else if nameLimit ≤ name.utf8ByteSize then .error .nameTooLong
  else
    let start := if Location.isAbsolute name then FilePlace.outside else .inside []
    match tree.follow start (Location.components name) with
    | .error reason => .error reason
    | .ok .outside => .ok .directory
    | .ok (.inside here) =>
      match tree.nodeAt here with
      | none => .error .notFound
      | some node => .ok node

def access (tree : FileTree) : FileAccess where
  read name :=
    match tree.lookup name with
    | .error reason => .error reason
    | .ok .directory => .error .isDirectory
    | .ok (.file content) => .ok content
  isFile name :=
    match tree.lookup name with
    | .ok (.file _) => true
    | _ => false

end FileTree

end TerrainChess
