import SensorCluster.Text.Digits
import SensorCluster.Toml.Basic

/-!
# Settings

Settings come from several sources, a file and the environment, and are laid over one another. A
`Setting` is what all sources have in common: a plain value, a list, or a table of settings.
`Setting.overlay` lays one over another: **tables are joined key by key, everything else is
replaced**. A setting of a source goes to the place that its name says (`SettingPath`).
-/

namespace SensorCluster

/-- A setting. -/
inductive Setting
  /-- A place in a list that nothing was put into. -/
  | absent
  | bool (value : Bool)
  | integer (value : Int)
  | float (value : Float)
  | text (content : String)
  | list (items : List Setting)
  | table (members : List (String × Setting))
  deriving Inhabited

namespace Setting

/-- The members of a table; anything else has none. -/
def members : Setting → List (String × Setting)
  | table members => members
  | _ => []

/-- The items of a list; anything else has none. -/
def items : Setting → List Setting
  | list items => items
  | _ => []

/-- Changes the setting of a key; a key that is not there begins as an absent setting. -/
def alterMember (key : String) (change : Setting → Setting) :
    List (String × Setting) → List (String × Setting)
  | [] => [(key, change .absent)]
  | (key', s) :: rest =>
    if key' = key then (key', change s) :: rest
    else (key', s) :: alterMember key change rest

mutual

/-- Lays a setting over another. -/
def overlay (old : Setting) : Setting → Setting
  | .table members => .table (overlayMembers old.members members)
  | new => new

/-- Lays the members of a table over those of another. -/
def overlayMembers (old : List (String × Setting)) :
    List (String × Setting) → List (String × Setting)
  | [] => old
  | (key, s) :: rest => overlayMembers (alterMember key (fun old ↦ old.overlay s) old) rest

end

mutual

/-- The setting that a TOML value is; a moment is the text of it. -/
def ofToml : Toml → Setting
  | .text content => .text content
  | .integer value => .integer value
  | .float value => .float value
  | .bool value => .bool value
  | .moment value => .text value.render
  | .list items => .list (ofItems items)
  | .table members => .table (ofMembers members)

/-- The settings that the items of a TOML list are. -/
def ofItems : List Toml → List Setting
  | [] => []
  | item :: rest => ofToml item :: ofItems rest

/-- The settings that the members of a TOML table are. -/
def ofMembers : List (String × Toml) → List (String × Setting)
  | [] => []
  | (key, value) :: rest => (key, ofToml value) :: ofMembers rest

end

end Setting

/-! ### Places -/

/-- A step from a setting into it. -/
inductive SettingStep
  | key (name : String)
  /-- The position in a list, counted from its end if negative. -/
  | index (position : Int)
  deriving DecidableEq, Repr

/-- The place of a setting: a key at the top, and the steps from there. -/
structure SettingPath where
  top : String
  steps : List SettingStep
  deriving DecidableEq, Repr

namespace SettingPath

/-- Can the character stand in a key of a path? -/
def isKeyChar (c : Char) : Bool := c.isAlphanum || c = '_' || c = '-'

/-- Reads a position behind its opening bracket. -/
def readIndex (cs : List Char) : Option (Int × List Char) :=
  let isBlank (c : Char) : Bool := c = ' ' || c = '\t'
  let cs := cs.dropWhile isBlank
  let (negative, cs) := match cs with
    | '-' :: rest => (true, rest)
    | cs => (false, cs)
  let digits := cs.takeWhile Text.isDigit
  let n : Int := Text.numeral digits
  let n := if negative then -n else n
  match (cs.dropWhile Text.isDigit).dropWhile isBlank with
  | ']' :: rest => if digits ≠ [] ∧ Text.fitsInt64 n then some (n, rest) else none
  | _ => none

/-- Reads a key. -/
def readName (cs : List Char) : Option (String × List Char) :=
  match cs.takeWhile isKeyChar with
  | [] => none
  | name => some (String.ofList name, cs.dropWhile isKeyChar)

/-- Reads steps to the end; each takes a character at least. -/
def readSteps : Nat → List Char → Option (List SettingStep)
  | _, [] => some []
  | 0, _ => none
  | fuel + 1, '.' :: rest =>
    match readName rest with
    | some (name, rest) => (readSteps fuel rest).map (.key name :: ·)
    | none => none
  | fuel + 1, '[' :: rest =>
    match readIndex rest with
    | some (n, rest) => (readSteps fuel rest).map (.index n :: ·)
    | none => none
  | _ + 1, _ => none

/-- The place that a name says: keys after points and positions in brackets. A name that is not made
like that is a key at the top as a whole. -/
def ofName (name : String) : SettingPath :=
  let path? : Option SettingPath := do
    let (top, rest) ← readName name.toList
    let steps ← readSteps rest.length rest
    return ⟨top, steps⟩
  path?.getD ⟨name, []⟩

end SettingPath

namespace Setting

/-- Changes the item at a position of a list; the list is filled up at its end, or for a position
far from the end at its beginning, when it is too short. -/
def alterItem (position : Int) (change : Setting → Setting) (items : List Setting) :
    List Setting :=
  let place : Int := if position < 0 then position + items.length else position
  if place < 0 then
    change .absent :: List.replicate (place.natAbs - 1) .absent ++ items
  else
    let items := items ++ List.replicate (place.toNat + 1 - items.length) .absent
    items.modify place.toNat change

/-- Changes the setting at a place. What is no table on the way becomes one where a key is wanted,
and a list where a position is. -/
def alterAt (change : Setting → Setting) : List SettingStep → Setting → Setting
  | [], s => change s
  | .key name :: steps, s => .table (alterMember name (alterAt change steps) s.members)
  | .index n :: steps, s => .list (alterItem n (alterAt change steps) s.items)

/-- Puts the settings of a source over others, each to the place that its name says. -/
def overlayNamed (old : List (String × Setting)) (source : List (String × Setting)) :
    List (String × Setting) :=
  source.foldl
    (fun all (name, s) ↦
      let path := SettingPath.ofName name
      alterMember path.top (alterAt (fun old ↦ old.overlay s) path.steps) all)
    old

end Setting

end SensorCluster
