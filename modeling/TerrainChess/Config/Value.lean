/-!
# Values of settings

A setting leads by a path of names to a value. Values are strings, numbers,
truth values, points in time, lists of values and tables of settings. Reals and
points in time are kept as they are written, since no setting of a game has one.
-/

set_option autoImplicit false

namespace TerrainChess.Config

inductive Value where
  | string (text : String)
  | integer (value : Int)
  | boolean (value : Bool)
  | real (word : String)
  | moment (words : String)
  | list (items : List Value)
  | table (settings : List (List String × Value))

/-- Values by the paths of names that lead to them. -/
abbrev Settings := List (List String × Value)

namespace Settings

/-- Says whether no path is the beginning of another one, so that every value has one place. -/
def separate : Settings → Bool
  | [] => true
  | (path, _) :: rest =>
    rest.all (fun other => !path.isPrefixOf other.1 && !other.1.isPrefixOf path) && separate rest

def names (settings : Settings) : List String :=
  settings.filterMap (fun setting => setting.1.head?)

def below (settings : Settings) (name : String) : Settings :=
  settings.filterMap (fun setting =>
    match setting.1 with
    | first :: rest => if first = name then some (rest, setting.2) else none
    | [] => none)

/-- The value of a name; what stands below a name is a table. -/
def get? (settings : Settings) (name : String) : Option Value :=
  match settings.find? (fun setting => decide (setting.1 = [name])) with
  | some setting => some setting.2
  | none =>
    let inner := settings.below name
    if inner.isEmpty then none else some (.table inner)

end Settings

end TerrainChess.Config
