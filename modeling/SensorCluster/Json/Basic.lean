import SensorCluster.Decimal.Shortest

/-!
# JSON values

A `Json` is what a JSON text says, kept as far as it matters to a typed reader: whether a number
was written as a whole number or with a fraction or power of ten, the members of an object in
their order and with their repetitions, and whether a text can be decoded at all (`none` for one
that holds half of a surrogate pair, which is an error only where the text is used).

`Json.render` writes a value compactly. **The printed form of a number is fixed by its kind**: whole
numbers are written as such, decimals by the style `Json.decimalStyle`.
-/

namespace SensorCluster

/-- A JSON value. -/
inductive Json
  | null
  | bool (value : Bool)
  /-- A number written without fraction and power of ten. -/
  | integer (negative : Bool) (magnitude : Nat)
  /-- A number written with a fraction or a power of ten. -/
  | decimal (value : Decimal)
  /-- A text; none when its escapes do not decode. -/
  | text (content : Option String)
  | list (items : List Json)
  | object (members : List (Option String × Json))
  deriving Inhabited

namespace Json

/-- Numbers with a first digit between the hundred-thousandths and the tens of the fifteenth power
are written plainly, and a whole one then ends in `.0`; of two equally near decimals the even one is
taken. -/
def decimalStyle : Decimal.Style := ⟨.toEven, fun lead ↦ -5 ≤ lead && lead < 16, true⟩

/-! ### Building values -/

/-- A text. -/
def str (s : String) : Json := .text (some s)

/-- A whole number. -/
def nat (n : Nat) : Json := .integer false n

/-- A word. -/
def word (n : UInt64) : Json := .nat n.toNat

/-- A float; there is no JSON number for an infinity and for what is no number. -/
def float (x : Float) : Json :=
  match Decimal.ofFloat? decimalStyle.tie x with
  | some d => .decimal d
  | none => .null

/-- An object with the given members, in the given order. -/
def obj (members : List (String × Json)) : Json :=
  .object (members.map fun m ↦ (some m.1, m.2))

/-! ### Writing -/

/-- One hexadecimal digit, in lower case. -/
def hexDigit (n : Nat) : Char := Nat.digitChar (n % 16)

/-- A character inside a written text. -/
def escape (c : Char) : List Char :=
  if c = '"' then ['\\', '"']
  else if c = '\\' then ['\\', '\\']
  else if c = '\x08' then ['\\', 'b']
  else if c = '\t' then ['\\', 't']
  else if c = '\n' then ['\\', 'n']
  else if c = '\x0c' then ['\\', 'f']
  else if c = '\r' then ['\\', 'r']
  else if c.toNat < 32 then
    ['\\', 'u', '0', '0', hexDigit (c.toNat / 16), hexDigit c.toNat]
  else [c]

/-- A text in quotes. -/
def quote (s : String) : String :=
  String.ofList ('"' :: s.toList.flatMap escape ++ ['"'])

/-- The compact text of a value. -/
def render : Json → String
  | null => "null"
  | bool true => "true"
  | bool false => "false"
  | integer negative magnitude => (if negative then "-" else "") ++ toString magnitude
  | decimal value => value.render decimalStyle
  | text content => quote (content.getD "")
  | list items => "[" ++ ",".intercalate (renderItems items) ++ "]"
  | object members => "\x7b" ++ ",".intercalate (renderMembers members) ++ "\x7d"
where
  renderItems : List Json → List String
    | [] => []
    | item :: rest => item.render :: renderItems rest
  renderMembers : List (Option String × Json) → List String
    | [] => []
    | (key, value) :: rest =>
      (quote (key.getD "") ++ ":" ++ value.render) :: renderMembers rest

end Json

end SensorCluster
