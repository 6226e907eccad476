import SensorCluster.Text.Digits
import SensorCluster.Toml.Basic

/-!
# TOML texts

A text stands between double quotes, where a backslash begins an escape, or between single quotes,
where every character stands for itself. Three quotes instead of one begin a **block**, a text that
may have several lines; a line break right after its opening quotes does not belong to it, and one
or two quotes right before the closing ones do. The line breaks inside are kept as they are written.

Every reader begins behind the opening quotes and gives back what follows the closing ones.
-/

namespace SensorCluster.Toml

/-- May the character stand in a text or a comment? -/
def isTextual (c : Char) : Bool := c = '\t' || (0x20 ≤ c.toNat && c.toNat ≠ 0x7f)

/-- Is the character a blank within a line? -/
def isBlank (c : Char) : Bool := c = ' ' || c = '\t'

/-- Puts a character in front of a text that was read. -/
def cons? (c : Option Char) (read : Option (List Char × List Char)) :
    Option (List Char × List Char) :=
  match c, read with
  | some c, some (content, rest) => some (c :: content, rest)
  | _, _ => none

/-- The character that an escape of hexadecimal digits stands for. -/
def escaped? (digits : List Char) : Option Char :=
  (Text.numeralIn? 16 digits).bind fun n ↦ if n.isValidChar then some (Char.ofNat n) else none

/-- The character that a one-letter escape stands for. -/
def shortEscape? (c : Char) : Option Char :=
  if c = '"' ∨ c = '\\' then some c
  else if c = 'b' then some '\x08'
  else if c = 't' then some '\t'
  else if c = 'n' then some '\n'
  else if c = 'f' then some '\x0c'
  else if c = 'r' then some '\r'
  else if c = 'e' then some '\x1b'
  else none

/-- Reads a text in double quotes. -/
def readQuoted : List Char → Option (List Char × List Char)
  | [] => none
  | '"' :: rest => some ([], rest)
  | '\\' :: 'x' :: a :: b :: rest => cons? (escaped? [a, b]) (readQuoted rest)
  | '\\' :: 'u' :: a :: b :: c :: d :: rest => cons? (escaped? [a, b, c, d]) (readQuoted rest)
  | '\\' :: 'U' :: a :: b :: c :: d :: e :: f :: g :: h :: rest =>
    cons? (escaped? [a, b, c, d, e, f, g, h]) (readQuoted rest)
  | '\\' :: c :: rest => cons? (shortEscape? c) (readQuoted rest)
  | c :: rest => if isTextual c then cons? (some c) (readQuoted rest) else none

/-- Reads a text in single quotes. -/
def readLiteral : List Char → Option (List Char × List Char)
  | [] => none
  | '\'' :: rest => some ([], rest)
  | c :: rest => if isTextual c then cons? (some c) (readLiteral rest) else none

/-- Does a line end here, blanks aside? -/
def endsLine (cs : List Char) : Bool :=
  match cs.dropWhile isBlank with
  | '\n' :: _ | '\r' :: '\n' :: _ => true
  | _ => false

/-- Reads a block in double quotes. A backslash at the end of a line takes out the line break and
all blanks and line breaks after it; `skipping` says that this is going on. -/
def readBlock (skipping : Bool) : List Char → Option (List Char × List Char)
  | [] => none
  | '"' :: '"' :: '"' :: '"' :: '"' :: rest => some (['"', '"'], rest)
  | '"' :: '"' :: '"' :: '"' :: rest => some (['"'], rest)
  | '"' :: '"' :: '"' :: rest => some ([], rest)
  | '\\' :: 'x' :: a :: b :: rest => cons? (escaped? [a, b]) (readBlock false rest)
  | '\\' :: 'u' :: a :: b :: c :: d :: rest =>
    cons? (escaped? [a, b, c, d]) (readBlock false rest)
  | '\\' :: 'U' :: a :: b :: c :: d :: e :: f :: g :: h :: rest =>
    cons? (escaped? [a, b, c, d, e, f, g, h]) (readBlock false rest)
  | '\\' :: c :: rest =>
    if endsLine (c :: rest) then readBlock true (c :: rest)
    else cons? (shortEscape? c) (readBlock false rest)
  | '\r' :: '\n' :: rest =>
    if skipping then readBlock true rest
    else cons? (some '\r') (cons? (some '\n') (readBlock false rest))
  | c :: rest =>
    if skipping && (isBlank c || c = '\n') then readBlock true rest
    else if isTextual c || c = '\n' then cons? (some c) (readBlock false rest)
    else none

/-- Reads a block in single quotes. -/
def readLiteralBlock : List Char → Option (List Char × List Char)
  | [] => none
  | '\'' :: '\'' :: '\'' :: '\'' :: '\'' :: rest => some (['\'', '\''], rest)
  | '\'' :: '\'' :: '\'' :: '\'' :: rest => some (['\''], rest)
  | '\'' :: '\'' :: '\'' :: rest => some ([], rest)
  | '\r' :: '\n' :: rest => cons? (some '\r') (cons? (some '\n') (readLiteralBlock rest))
  | c :: rest =>
    if isTextual c || c = '\n' then cons? (some c) (readLiteralBlock rest) else none

/-- Drops the line break at the beginning of a block. -/
def dropFirstBreak : List Char → List Char
  | '\n' :: rest => rest
  | '\r' :: '\n' :: rest => rest
  | cs => cs

/-- Reads a text on one line, from its opening quote on. -/
def readLineText : List Char → Option (String × List Char)
  | '"' :: rest => (readQuoted rest).map fun (content, rest) ↦ (String.ofList content, rest)
  | '\'' :: rest => (readLiteral rest).map fun (content, rest) ↦ (String.ofList content, rest)
  | _ => none

/-- Reads a text or a block, from its opening quotes on. -/
def readText : List Char → Option (String × List Char)
  | '"' :: '"' :: '"' :: rest =>
    (readBlock false (dropFirstBreak rest)).map fun (content, rest) ↦
      (String.ofList content, rest)
  | '\'' :: '\'' :: '\'' :: rest =>
    (readLiteralBlock (dropFirstBreak rest)).map fun (content, rest) ↦
      (String.ofList content, rest)
  | cs => readLineText cs

end SensorCluster.Toml
