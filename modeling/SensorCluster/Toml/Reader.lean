import SensorCluster.Text.Blank
import SensorCluster.Toml.Outline
import SensorCluster.Toml.Scalar
import SensorCluster.Toml.Text

/-!
# Reading TOML

`Toml.readDocument?` reads a whole document into the members of its top table. A document is a list
of lines: empty ones, headers, and keys with their values. Inside brackets and braces a value may go
over several lines, with comments, but a key stands on one line.

What is nested is limited: a key has at most `maxDepth` parts, and lists and tables in braces stand
inside one another at most `maxDepth` deep.

The readers work on the characters still to be read and give back what they left. Those of values
and lines count down a `fuel`; each step takes a character off the text or is followed by one that
does, so twice the length of the text is enough.
-/

namespace SensorCluster.Toml

/-- How many parts a key may have, and how many lists and tables in braces may stand inside one
another. -/
def maxDepth : Nat := 80

/-! ### Between values -/

/-- Drops the blanks of a line. -/
def skipBlank (cs : List Char) : List Char := cs.dropWhile isBlank

/-- Drops blanks, line breaks and comments; `inComment` says that a comment is going on. None when a
comment holds a character that may not stand there. -/
def skipLines? (inComment : Bool) : List Char → Option (List Char)
  | [] => some []
  | '\n' :: rest => skipLines? false rest
  | '\r' :: '\n' :: rest => skipLines? false rest
  | c :: rest =>
    if inComment then if isTextual c then skipLines? true rest else none
    else if isBlank c then skipLines? false rest
    else if c = '#' then skipLines? true rest
    else some (c :: rest)

/-- Drops the rest of a line, in which only blanks and a comment may stand. -/
def finishLine? (inComment : Bool) : List Char → Option (List Char)
  | [] => some []
  | '\n' :: rest => some rest
  | '\r' :: '\n' :: rest => some rest
  | c :: rest =>
    if inComment then if isTextual c then finishLine? true rest else none
    else if isBlank c then finishLine? false rest
    else if c = '#' then finishLine? true rest
    else none

/-! ### Keys -/

/-- Can the character stand in a key without quotes? -/
def isBare (c : Char) : Bool := c.isAlphanum || c = '_' || c = '-'

/-- Reads one part of a key. -/
def readKeyPart (cs : List Char) : Option (String × List Char) :=
  match cs with
  | '"' :: _ | '\'' :: _ => readLineText cs
  | _ =>
    match cs.takeWhile isBare with
    | [] => none
    | part => some (String.ofList part, cs.dropWhile isBare)

/-- Reads a key of so many parts at most, which are joined by points. -/
def readKeyParts : Nat → List Char → Option (List String × List Char)
  | 0, _ => none
  | more + 1, cs =>
    match readKeyPart (skipBlank cs) with
    | none => none
    | some (part, rest) =>
      match skipBlank rest with
      | '.' :: rest => (readKeyParts more rest).map fun (parts, rest) ↦ (part :: parts, rest)
      | rest => some ([part], rest)

/-- Reads a key, which has at most `maxDepth` parts. -/
def readKey (cs : List Char) : Option (List String × List Char) := readKeyParts maxDepth cs

/-! ### Values -/

/-- Can the character stand in a value without quotes? -/
def isWordChar (c : Char) : Bool :=
  c.isAlphanum || c = '+' || c = '-' || c = '_' || c = '.' || c = ':'

/-- Reads a value without quotes. A day may be followed by a blank and a time. -/
def readWord (cs : List Char) : Option (Toml × List Char) :=
  let word := cs.takeWhile isWordChar
  match readDate? word, cs.dropWhile isWordChar with
  | some (_, []), ' ' :: c :: rest =>
    if Text.isDigit c then
      (ofWord? (word ++ ' ' :: (c :: rest).takeWhile isWordChar)).map fun value ↦
        (value, (c :: rest).dropWhile isWordChar)
    else (ofWord? word).map fun value ↦ (value, ' ' :: c :: rest)
  | _, rest => (ofWord? word).map fun value ↦ (value, rest)

mutual

/-- Reads a value that holds at most `depth` lists and tables inside one another. -/
def readValue (depth : Nat) : Nat → List Char → Option (Toml × List Char)
  | 0, _ => none
  | fuel + 1, cs =>
    match cs, depth with
    | '"' :: _, _ | '\'' :: _, _ =>
      (readText cs).map fun (content, rest) ↦ (.text content, rest)
    | '[' :: rest, depth + 1 =>
      (readItems depth fuel rest).map fun (items, rest) ↦ (.list items, rest)
    | '{' :: rest, depth + 1 =>
      (readMembers depth fuel [] rest).map fun (members, rest) ↦
        (.table (finishMembers members), rest)
    | _, _ => readWord cs

/-- Reads the items of a list up to its closing bracket. -/
def readItems (depth : Nat) : Nat → List Char → Option (List Toml × List Char)
  | 0, _ => none
  | fuel + 1, cs =>
    match skipLines? false cs with
    | none => none
    | some (']' :: rest) => some ([], rest)
    | some rest =>
      match readValue depth fuel rest with
      | none => none
      | some (item, rest) =>
        match skipLines? false rest with
        | some (']' :: rest) => some ([item], rest)
        | some (',' :: rest) =>
          (readItems depth fuel rest).map fun (items, rest) ↦ (item :: items, rest)
        | _ => none

/-- Reads the members of a table in braces up to the closing one. -/
def readMembers (depth : Nat) : Nat → Outline → List Char → Option (Outline × List Char)
  | 0, _, _ => none
  | fuel + 1, outline, cs =>
    match skipLines? false cs with
    | none => none
    | some ('}' :: rest) => some (outline, rest)
    | some rest =>
      match readKey rest with
      | none => none
      | some (path, rest) =>
        match skipLines? false rest with
        | some ('=' :: rest) =>
          match (skipLines? false rest).bind (readValue depth fuel) with
          | none => none
          | some (value, rest) =>
            match outline.assign true path value, skipLines? false rest with
            | some outline, some ('}' :: rest) => some (outline, rest)
            | some outline, some (',' :: rest) => readMembers depth fuel outline rest
            | _, _ => none
        | _ => none

end

/-! ### Documents -/

/-- Reads the lines of a document under a header. -/
def readLines : Nat → List String → Outline → List Char → Option Outline
  | 0, _, _, _ => none
  | fuel + 1, header, outline, cs =>
    match skipLines? false cs with
    | none => none
    | some [] => some outline
    | some ('[' :: '[' :: rest) =>
      match readKey rest with
      | some (path, ']' :: ']' :: rest) =>
        match outline.pushTable path, finishLine? false rest with
        | some outline, some rest => readLines fuel path outline rest
        | _, _ => none
      | _ => none
    | some ('[' :: rest) =>
      match readKey rest with
      | some (path, ']' :: rest) =>
        match outline.openTable path, finishLine? false rest with
        | some outline, some rest => readLines fuel path outline rest
        | _, _ => none
      | _ => none
    | some rest =>
      match readKey rest with
      | some (path, '=' :: rest) =>
        match readValue maxDepth fuel (skipBlank rest) with
        | none => none
        | some (value, rest) =>
          match outline.assignUnder header path value, finishLine? false rest with
          | some outline, some rest => readLines fuel header outline rest
          | _, _ => none
      | _ => none

/-- Reads a document into the members of its top table. -/
def readDocument? (s : String) : Option (List (String × Toml)) :=
  let cs := Text.dropMark s.toList
  (readLines (2 * cs.length + 2) [] [] cs).map finishMembers

end SensorCluster.Toml
