import SensorCluster.Proofs.WrittenNumbers
import SensorCluster.Status

/-!
# Metrics read back

A reader of the text form of metrics: a line is a comment, or one sample with its labels and its
value; in the quotes of a label a backslash, a double quote and a line feed stand escaped. Values
are whole numbers here, as all of those that are written.

With its identifiers escaped first, any status is read back
(`ClusterStatus.metrics_read_back_escaped`). But the writer escapes nothing, so **a status is read
back exactly when no identifier of a receiver needs an escape**
(`ClusterStatus.metrics_read_back_iff`). An identifier that does is never read as itself: a line
feed in it ends the line, a quote ends the label, a backslash takes the next character with it, and
what is read is shorter (`readQuoted_spec`). The rest of it is then read as text of the form, and
can be samples of receivers that do not exist (`labelled_forgery`).
-/

namespace SensorCluster

namespace Exposition

open Text (isDigit numeral)

/-- What one line of metrics says. -/
structure Sample where
  metric : String
  labels : List (String × String)
  value : Nat
  deriving DecidableEq, Repr

/-- Does the sample carry a label? -/
def Sample.isLabelled (s : Sample) : Bool := !s.labels.isEmpty

/-! ### The reader -/

/-- Drops the two characters that may stand between the parts of a line. -/
def skipBlank (cs : List Char) : List Char := cs.dropWhile fun c ↦ c = ' ' || c = '\t'

/-- The characters that the name of a label is made of. -/
def inLabel (c : Char) : Bool := c.isAlphanum || c = '_'

/-- The characters that the name of a metric is made of. -/
def inMetric (c : Char) : Bool := inLabel c || c = ':'

/-- Reads a name, which does not begin with a digit. -/
def readName (inside : Char → Bool) (cs : List Char) : Option (String × List Char) :=
  let name := cs.takeWhile inside
  if name.head?.any (!isDigit ·) then some (String.ofList name, cs.dropWhile inside) else none

/-- The character that an escape in a label stands for. -/
def unescape? (c : Char) : Option Char :=
  if c = '\\' ∨ c = '"' then some c else if c = 'n' then some '\n' else none

/-- Reads the value of a label from behind its opening quote to its closing one. -/
def readQuoted : List Char → Option (List Char × List Char)
  | [] => none
  | '"' :: rest => some ([], rest)
  | '\\' :: [] => none
  | '\\' :: c :: rest =>
    (unescape? c).bind fun c ↦ (readQuoted rest).map fun (value, rest) ↦ (c :: value, rest)
  | c :: rest => (readQuoted rest).map fun (value, rest) ↦ (c :: value, rest)

/-- Reads a label. -/
def readLabel (cs : List Char) : Option ((String × String) × List Char) := do
  let (name, rest) ← readName inLabel cs
  let '=' :: rest := skipBlank rest | none
  let '"' :: rest := skipBlank rest | none
  let (value, rest) ← readQuoted rest
  return ((name, String.ofList value), rest)

/-- Reads what follows a label: the closing brace, or a comma and `more`. -/
def readFurther {α : Type} (more : List Char → Option (List α × List Char)) (cs : List Char) :
    Option (List α × List Char) :=
  match skipBlank cs with
  | '}' :: rest => some ([], rest)
  | ',' :: rest => more rest
  | _ => none

/-- Reads labels up to the closing brace, which a comma may precede; each label takes a step. -/
def readLabels : Nat → List Char → Option (List (String × String) × List Char)
  | 0, _ => none
  | steps + 1, cs =>
    match skipBlank cs with
    | '}' :: rest => some ([], rest)
    | cs =>
      (readLabel cs).bind fun (label, rest) ↦
        (readFurther (readLabels steps) rest).map fun (labels, rest) ↦ (label :: labels, rest)

/-- Reads the labels in braces, if there are any. -/
def readLabelSet (cs : List Char) : Option (List (String × String) × List Char) :=
  match skipBlank cs with
  | '{' :: rest => readLabels (rest.length + 1) rest
  | rest => some ([], rest)

/-- Is there nothing left but a moment, which may follow a value? -/
def isMoment (cs : List Char) : Bool :=
  match skipBlank cs with
  | [] => true
  | moment =>
    let digits := (Text.splitSign moment).2
    cs ≠ moment && digits.any isDigit && skipBlank (digits.dropWhile isDigit) = []

/-- Reads a value, which is a whole number here. -/
def readValue (cs : List Char) : Option Nat :=
  match cs.takeWhile isDigit with
  | [] => none
  | digits => if isMoment (cs.dropWhile isDigit) then some (numeral digits) else none

/-- Reads a sample. -/
def readSample (cs : List Char) : Option Sample := do
  let (metric, rest) ← readName inMetric cs
  let (labels, rest) ← readLabelSet rest
  let value ← readValue (skipBlank rest)
  return { metric, labels, value }

/-- Reads a line; blank ones and comments say nothing. -/
def readLine (cs : List Char) : Option (List Sample) :=
  match skipBlank cs with
  | [] => some []
  | '#' :: _ => some []
  | line => (readSample line).map ([·])

/-- Reads all lines. -/
def readLines (cs : List Char) : Option (List Sample) :=
  ((cs.splitOn '\n').mapM readLine).map List.flatten

/-- Reads metrics. -/
def read? (text : String) : Option (List Sample) := readLines text.toList

/-! ### Lines -/

/-- The first line is read by itself. -/
theorem readLines_line {line : List Char} (h : '\n' ∉ line) (back : List Char) :
    readLines (line ++ '\n' :: back) =
      (readLine line).bind fun a ↦ (readLines back).map (a ++ ·) := by
  rw [readLines, List.splitOn_append_cons_self_of_not_mem h, List.mapM_cons, readLines]
  cases readLine line with
  | none => rfl
  | some a => cases (back.splitOn '\n').mapM readLine <;> rfl

/-- A text is read only if its first line is, and what that says comes first. -/
theorem readLine_of_readLines {line back : List Char} {samples : List Sample} (hline : '\n' ∉ line)
    (h : readLines (line ++ '\n' :: back) = some samples) :
    ∃ a b, readLine line = some a ∧ samples = a ++ b := by
  rw [readLines_line hline] at h
  obtain ⟨a, ha, hb⟩ := Option.bind_eq_some_iff.1 h
  obtain ⟨b, -, rfl⟩ := Option.map_eq_some_iff.1 hb
  exact ⟨a, b, ha, rfl⟩

/-! ### Labels -/

/-- Does the text stand for itself between the quotes of a label? -/
def Plain (text : String) : Prop := ∀ c ∈ text.toList, c ≠ '"' ∧ c ≠ '\\' ∧ c ≠ '\n'

instance (text : String) : Decidable (Plain text) :=
  List.decidableBAll (fun c ↦ c ≠ '"' ∧ c ≠ '\\' ∧ c ≠ '\n') text.toList

/-- A character that is neither a quote nor a backslash stands for itself. -/
theorem readQuoted_cons {c : Char} (hquote : c ≠ '"') (hslash : c ≠ '\\') (rest : List Char) :
    readQuoted (c :: rest) =
      (readQuoted rest).map fun (value, rest) ↦ (c :: value, rest) :=
  readQuoted.eq_5 c rest hquote (fun h _ ↦ hslash h) fun _ _ h _ ↦ hslash h

/-- Is the text, between the quotes of a label, read as that value? -/
def StandsFor (written id : String) : Prop :=
  '\n' ∉ written.toList ∧
    ∀ rest, readQuoted (written.toList ++ '"' :: rest) = some (id.toList, rest)

/-- A text that needs no escape is read as itself. -/
theorem Plain.standsFor {id : String} (h : Plain id) : StandsFor id id := by
  refine ⟨fun hmem ↦ (h '\n' hmem).2.2 rfl, fun rest ↦ ?_⟩
  have hread : ∀ cs : List Char, (∀ c ∈ cs, c ≠ '"' ∧ c ≠ '\\') →
      readQuoted (cs ++ '"' :: rest) = some (cs, rest) := by
    intro cs hcs
    induction cs with
    | nil => rfl
    | cons c cs ih =>
      obtain ⟨⟨hquote, hslash⟩, hcs⟩ := List.forall_mem_cons.1 hcs
      rw [List.cons_append, readQuoted_cons hquote hslash, ih hcs]
      rfl
  exact hread id.toList fun c hc ↦ ⟨(h c hc).1, (h c hc).2.1⟩

/-- A character as the form asks for it in a label. -/
def escapeChar (c : Char) : List Char :=
  if c = '\\' then ['\\', '\\'] else if c = '"' then ['\\', '"']
  else if c = '\n' then ['\\', 'n'] else [c]

/-- A text as the form asks for it in a label. -/
def escape (text : String) : String := String.ofList (text.toList.flatMap escapeChar)

/-- Every text can stand in a label, if it is escaped. -/
theorem escape_standsFor (id : String) : StandsFor (escape id) id := by
  have hfeed : ∀ c, '\n' ∉ escapeChar c := by
    intro c
    rw [escapeChar]
    split_ifs <;> simp_all [eq_comm]
  refine ⟨by simp [escape, hfeed], fun rest ↦ ?_⟩
  rw [escape, String.toList_ofList]
  induction id.toList with
  | nil => rfl
  | cons c cs ih =>
    rw [List.flatMap_cons, List.append_assoc]
    by_cases hslash : c = '\\'
    · subst hslash
      exact congrArg (Option.map fun p ↦ ('\\' :: p.1, p.2)) ih
    by_cases hquote : c = '"'
    · subst hquote
      exact congrArg (Option.map fun p ↦ ('"' :: p.1, p.2)) ih
    by_cases hline : c = '\n'
    · subst hline
      exact congrArg (Option.map fun p ↦ ('\n' :: p.1, p.2)) ih
    rw [escapeChar, if_neg hslash, if_neg hquote, if_neg hline, List.singleton_append,
      readQuoted_cons hquote hslash, ih]
    rfl

/-- A value ends at a quote, and is shorter than what was read for it if that has an escape. -/
theorem readQuoted_spec {cs value rest : List Char} (h : readQuoted cs = some (value, rest)) :
    ∃ used, cs = used ++ '"' :: rest ∧
      (used = value ∧ (∀ c ∈ value, c ≠ '"' ∧ c ≠ '\\') ∨ value.length < used.length) := by
  induction cs using readQuoted.induct generalizing value rest with
  | case1 => cases h
  | case2 cs =>
    obtain ⟨rfl, rfl⟩ := Prod.mk.inj (Option.some.inj h)
    exact ⟨[], rfl, .inl ⟨rfl, by simp⟩⟩
  | case3 => cases h
  | case4 c cs ih =>
    rw [readQuoted] at h
    obtain ⟨c', -, hread⟩ := Option.bind_eq_some_iff.1 h
    obtain ⟨⟨v, r⟩, hv, heq⟩ := Option.map_eq_some_iff.1 hread
    obtain ⟨rfl, rfl⟩ := Prod.mk.inj heq
    obtain ⟨used, rfl, hused⟩ := ih hv
    refine ⟨'\\' :: c :: used, rfl, .inr ?_⟩
    obtain ⟨rfl, -⟩ | hshort := hused <;> grind
  | case5 c cs hquote hlast hslash ih =>
    -- the reader's last case is for characters that are no escape, as a backslash was read before
    have hc : c ≠ '\\' := by
      rintro rfl
      cases cs with
      | nil => exact hlast rfl rfl
      | cons d cs => exact hslash d cs rfl rfl
    rw [readQuoted_cons hquote hc] at h
    obtain ⟨⟨v, r⟩, hv, heq⟩ := Option.map_eq_some_iff.1 h
    obtain ⟨rfl, rfl⟩ := Prod.mk.inj heq
    obtain ⟨used, rfl, hused⟩ := ih hv
    refine ⟨c :: used, rfl, ?_⟩
    obtain ⟨rfl, hplain⟩ | hshort := hused
    · exact .inl ⟨rfl, List.forall_mem_cons.2 ⟨⟨hquote, hc⟩, hplain⟩⟩
    · exact .inr (by simpa using hshort)

/-- **What needs an escape is not read as itself.** In its sample, the first line gives another
value for it or none. -/
theorem exists_line_of_not_plain {id : String} (hid : ¬ Plain id) {ending : List Char}
    (hending : '"' ∉ ending ∧ '\n' ∉ ending) (back : List Char) :
    ∃ line more, id.toList ++ '"' :: (ending ++ '\n' :: back) = line ++ '\n' :: more ∧ '\n' ∉ line ∧
      ∀ value rest, readQuoted line = some (value, rest) → value ≠ id.toList := by
  -- a line feed in the identifier ends the line, and the rest of it comes too late
  by_cases hfeed : '\n' ∈ id.toList
  · obtain ⟨front, more, hsplit, hfront⟩ := List.eq_append_cons_of_mem hfeed
    refine ⟨front, more ++ '"' :: (ending ++ '\n' :: back), by simp [hsplit], hfront, ?_⟩
    rintro value rest hread rfl
    obtain ⟨used, hused, hvalue⟩ := readQuoted_spec hread
    have hlength := congrArg List.length hused
    have hlonger := congrArg List.length hsplit
    obtain ⟨rfl, -⟩ | hshort := hvalue <;> grind
  · have hline : '\n' ∉ id.toList ++ '"' :: ending := by simp [hfeed, hending.2]
    refine ⟨id.toList ++ '"' :: ending, back, by simp, hline, ?_⟩
    rintro value rest hread rfl
    obtain ⟨used, hused, ⟨rfl, hplain⟩ | hshort⟩ := readQuoted_spec hread
    · exact hid fun c hc ↦ ⟨(hplain c hc).1, (hplain c hc).2, fun hc' ↦ hfeed (hc' ▸ hc)⟩
    · -- the value would end at a quote in what follows the identifier
      obtain ⟨between, rfl, hbetween⟩ | ⟨between, hused', -⟩ := List.append_eq_append_iff.1 hused
      · cases between with
        | nil => simp at hshort
        | cons c between =>
          obtain ⟨rfl, rfl⟩ := List.cons.inj hbetween
          exact hending.1 (by simp)
      · have hlength := congrArg List.length hused'
        rw [List.length_append] at hlength
        omega

/-! ### Samples -/

/-- Is the text a name that is made of these characters? -/
def IsName (inside : Char → Bool) (name : String) : Prop :=
  name.toList.head?.any (!isDigit ·) ∧ ∀ c ∈ name.toList, inside c

instance (inside : Char → Bool) (name : String) : Decidable (IsName inside name) :=
  @instDecidableAnd _ _ _ (List.decidableBAll (inside ·) name.toList)

variable {metric label id written : String} {n : Nat}

/-- A name is read up to the first character that cannot be in it. -/
theorem readName_append {inside : Char → Bool} {name : String} (h : IsName inside name) {c : Char}
    (hc : inside c = false) (rest : List Char) :
    readName inside (name.toList ++ c :: rest) = some (name, c :: rest) := by
  obtain ⟨hfirst, hall⟩ := h
  have htake : (name.toList ++ c :: rest).takeWhile inside = name.toList := by
    rw [List.takeWhile_append_of_pos hall]
    simp [hc]
  have hdrop : (name.toList ++ c :: rest).dropWhile inside = c :: rest := by
    rw [List.dropWhile_append_of_pos hall]
    simp [hc]
  rw [readName, htake, hdrop]
  simp [hfirst]

/-- A label is its name and the text in quotes behind it. -/
theorem readLabel_append (h : IsName inLabel label) (tail : List Char) :
    readLabel (label.toList ++ '=' :: '"' :: tail) =
      (readQuoted tail).map fun (value, rest) ↦ ((label, String.ofList value), rest) := by
  rw [readLabel, readName_append h rfl]
  change (readQuoted tail >>= _) = _
  cases readQuoted tail <;> rfl

/-- A name is not empty. -/
theorem IsName.exists_cons {inside : Char → Bool} {name : String} (h : IsName inside name) :
    ∃ c more, name.toList = c :: more ∧ inside c := by
  obtain ⟨hfirst, hall⟩ := h
  cases hname : name.toList with
  | nil => simp [hname] at hfirst
  | cons c more => exact ⟨c, more, rfl, hall c (by simp [hname])⟩

/-- No character of another kind is in a name. -/
theorem IsName.notMem {inside : Char → Bool} {name : String} (h : IsName inside name) {c : Char}
    (hc : inside c = false) : c ∉ name.toList := fun hmem ↦ by
  rw [h.2 c hmem] at hc
  cases hc

theorem skipBlank_cons {c : Char} (h : c ≠ ' ' ∧ c ≠ '\t') (rest : List Char) :
    skipBlank (c :: rest) = c :: rest :=
  List.dropWhile_cons_of_neg (by simpa using h)

/-- No blank is among the characters of a name. -/
theorem skipBlank_cons_inside {inside : Char → Bool} {c : Char} (hc : inside c)
    (hspace : inside ' ' = false) (htab : inside '\t' = false) (rest : List Char) :
    skipBlank (c :: rest) = c :: rest := by
  refine skipBlank_cons ⟨?_, ?_⟩ rest
  · rintro rfl
    rw [hc] at hspace
    cases hspace
  · rintro rfl
    rw [hc] at htab
    cases htab

/-- A line that begins with a name is a sample. -/
theorem readLine_name (h : IsName inMetric metric) (rest : List Char) :
    readLine (metric.toList ++ rest) = (readSample (metric.toList ++ rest)).map ([·]) := by
  obtain ⟨c, more, hname, hc⟩ := h.exists_cons
  rw [hname, List.cons_append, readLine, skipBlank_cons_inside hc rfl rfl]
  -- a name is not nothing, and does not begin like a comment
  split
  · next heq => cases heq
  · next heq =>
    obtain ⟨rfl, -⟩ := List.cons.inj heq
    cases hc
  · rfl

/-- The first label in braces is read, and then what follows it. -/
theorem readLabelSet_append (h : IsName inLabel label) (tail : List Char) :
    ∃ steps, readLabelSet ('{' :: (label.toList ++ '=' :: '"' :: tail)) =
      (readQuoted tail).bind fun (value, rest) ↦
        (readFurther (readLabels steps) rest).map fun (labels, rest) ↦
          ((label, String.ofList value) :: labels, rest) := by
  obtain ⟨c, more, hname, hc⟩ := h.exists_cons
  have hlabels : ∀ steps, readLabels (steps + 1) (label.toList ++ '=' :: '"' :: tail) =
      (readLabel (label.toList ++ '=' :: '"' :: tail)).bind fun (label, rest) ↦
        (readFurther (readLabels steps) rest).map fun (labels, rest) ↦ (label :: labels, rest) := by
    intro steps
    rw [hname, List.cons_append, readLabels, skipBlank_cons_inside hc rfl rfl]
    split
    · next heq =>
      obtain ⟨rfl, -⟩ := List.cons.inj heq
      cases hc
    · rfl
  refine ⟨(label.toList ++ '=' :: '"' :: tail).length, (hlabels _).trans ?_⟩
  rw [readLabel_append h]
  cases readQuoted tail <;> rfl

/-- The digits of a number begin with one, and no blank stands in front of them. -/
theorem exists_digit (n : Nat) :
    ∃ c more, Nat.toDigits 10 n = c :: more ∧ isDigit c ∧ skipBlank (c :: more) = c :: more := by
  cases hn : Nat.toDigits 10 n with
  | nil => exact absurd hn Nat.toDigits_ne_nil
  | cons c more =>
    have hc : isDigit c := Text.isDigit_of_mem_toDigits (hn ▸ List.mem_cons_self)
    exact ⟨c, more, rfl, hc, skipBlank_cons_inside hc rfl rfl more⟩

/-- A value is read as the number that its digits make up. -/
theorem readValue_digits (n : Nat) : readValue (skipBlank (Nat.toDigits 10 n)) = some n := by
  have hdigits : ∀ c ∈ Nat.toDigits 10 n, isDigit c := fun _ hc ↦ Text.isDigit_of_mem_toDigits hc
  obtain ⟨c, more, hn, -, hskip⟩ := exists_digit n
  rw [hn] at hdigits
  rw [hn, hskip, readValue, List.takeWhile_eq_self_iff.2 hdigits,
    List.dropWhile_eq_nil_iff.2 hdigits]
  exact congrArg some (by rw [← hn, Text.numeral_toDigits])

/-- A sample without labels. -/
theorem readLine_bare (h : IsName inMetric metric) (n : Nat) :
    readLine (metric.toList ++ ' ' :: Nat.toDigits 10 n) = some [⟨metric, [], n⟩] := by
  have hbare : readLabelSet (' ' :: Nat.toDigits 10 n) = some ([], Nat.toDigits 10 n) := by
    obtain ⟨c, more, hn, hc, hskip⟩ := exists_digit n
    have hskip' : skipBlank (' ' :: c :: more) = c :: more := hskip
    rw [hn, readLabelSet, hskip']
    split
    · next heq =>
      obtain ⟨rfl, -⟩ := List.cons.inj heq
      cases hc
    · rfl
  rw [readLine_name h, readSample, readName_append h rfl]
  dsimp only [bind, Option.bind_some]
  rw [hbare, Option.bind_some, readValue_digits]
  rfl

/-- What stands in front of the value of a label, from the beginning of the line. -/
def opening (metric label : String) : List Char :=
  metric.toList ++ '{' :: (label.toList ++ ['=', '"'])

/-- What stands behind the quote that closes a label, to the end of the line. -/
def closing (n : Nat) : List Char := '}' :: ' ' :: Nat.toDigits 10 n

/-- Neither quote nor line feed is behind a label. -/
theorem notMem_closing (n : Nat) : '"' ∉ closing n ∧ '\n' ∉ closing n := by
  have hdigits : ∀ c, isDigit c = false → c ∉ Nat.toDigits 10 n := fun c hc hmem ↦ by
    rw [Text.isDigit_of_mem_toDigits hmem] at hc
    cases hc
  simp [closing, hdigits '"' rfl, hdigits '\n' rfl]

/-- What is read of a line with a label depends on what is read in its quotes. -/
theorem readLine_opening (hmetric : IsName inMetric metric) (hlabel : IsName inLabel label)
    (tail : List Char) :
    ∃ steps, readLine (opening metric label ++ tail) =
      (readQuoted tail).bind fun (value, rest) ↦
        (readFurther (readLabels steps) rest).bind fun (labels, rest) ↦
          (readValue (skipBlank rest)).map fun n ↦
            [⟨metric, (label, String.ofList value) :: labels, n⟩] := by
  obtain ⟨steps, hlabels⟩ := readLabelSet_append hlabel tail
  refine ⟨steps, ?_⟩
  have hline : opening metric label ++ tail =
      metric.toList ++ '{' :: (label.toList ++ '=' :: '"' :: tail) := by simp [opening]
  rw [hline, readLine_name hmetric, readSample, readName_append hmetric rfl]
  dsimp only [bind, Option.bind_some]
  rw [hlabels]
  cases readQuoted tail with
  | none => rfl
  | some p =>
    dsimp only [Option.bind_some]
    cases readFurther (readLabels steps) p.2 with
    | none => rfl
    | some q =>
      dsimp only [Option.bind_some, Option.map_some]
      cases readValue (skipBlank q.2) <;> rfl

/-- A sample whose label stands for a text is read with that text. -/
theorem readLine_labelled (hmetric : IsName inMetric metric) (hlabel : IsName inLabel label)
    (hid : StandsFor written id) (n : Nat) :
    readLine (opening metric label ++ (written.toList ++ '"' :: closing n)) =
      some [⟨metric, [(label, id)], n⟩] := by
  obtain ⟨steps, hline⟩ := readLine_opening hmetric hlabel (written.toList ++ '"' :: closing n)
  rw [hline, hid.2]
  change (readValue (skipBlank (Nat.toDigits 10 n))).map _ = _
  rw [readValue_digits, Option.map_some, String.ofList_toList]

/-! ### Metrics -/

variable {back : List Char} {samples : List Sample}

/-- A sample with a label is its opening, the text in the quotes, and its closing. -/
theorem labelled_append (metric label id : String) (value : UInt64) (back : List Char) :
    (labelled metric label id value).toList ++ back =
      opening metric label ++ (id.toList ++ '"' :: (closing value.toNat ++ '\n' :: back)) := by
  simp [labelled, opening, closing, toString]

/-- A line does not end before its label does. -/
theorem notMem_opening (hmetric : IsName inMetric metric) (hlabel : IsName inLabel label) :
    '\n' ∉ opening metric label := by
  have hmetric' : '\n' ∉ metric.toList := hmetric.notMem rfl
  have hlabel' : '\n' ∉ label.toList := hlabel.notMem rfl
  simp [opening, hmetric', hlabel']

/-- A comment says nothing. -/
theorem readLines_comment {line : List Char} (h : '\n' ∉ line) (back : List Char) :
    readLines (('#' :: line) ++ '\n' :: back) = readLines back := by
  have hread : readLine ('#' :: line) = some [] := rfl
  rw [readLines_line (by simp [h]), hread]
  exact Option.map_id'

/-- Do these make the header of a metric, of two lines: a name, and texts that end no line? -/
def IsHeader (metric kind help : String) : Prop :=
  IsName inMetric metric ∧ '\n' ∉ kind.toList ∧ '\n' ∉ help.toList

instance (metric kind help : String) : Decidable (IsHeader metric kind help) :=
  inferInstanceAs (Decidable (_ ∧ _ ∧ _))

/-- The header of a metric says nothing. -/
theorem readLines_header {kind help : String} (h : IsHeader metric kind help) (back : List Char) :
    readLines ((header metric kind help).toList ++ back) = readLines back := by
  obtain ⟨hmetric, hkind, hhelp⟩ := h
  have hline : '\n' ∉ metric.toList := hmetric.notMem rfl
  have hcomments : (header metric kind help).toList ++ back =
      ('#' :: (" HELP ".toList ++ metric.toList ++ ' ' :: help.toList)) ++ '\n' ::
        (('#' :: (" TYPE ".toList ++ metric.toList ++ ' ' :: kind.toList)) ++ '\n' :: back) := by
    unfold header
    simp
  have hfirst : '\n' ∉ " HELP ".toList ++ metric.toList ++ ' ' :: help.toList := by
    simp [hline, hhelp]
  have hsecond : '\n' ∉ " TYPE ".toList ++ metric.toList ++ ' ' :: kind.toList := by
    simp [hline, hkind]
  rw [hcomments, readLines_comment hfirst, readLines_comment hsecond]

/-- A metric with one sample is read as that sample. -/
theorem readLines_sample {kind help : String} (h : IsHeader metric kind help) (value : UInt64)
    (back : List Char) :
    readLines ((sample metric kind help value).toList ++ back) =
      (readLines back).map (⟨metric, [], value.toNat⟩ :: ·) := by
  have hsample : (sample metric kind help value).toList ++ back =
      (header metric kind help).toList ++
        ((metric.toList ++ ' ' :: Nat.toDigits 10 value.toNat) ++ '\n' :: back) := by
    simp [sample, toString]
  have hline : '\n' ∉ metric.toList ++ ' ' :: Nat.toDigits 10 value.toNat := by
    have hmetric : '\n' ∉ metric.toList := h.1.notMem rfl
    have hdigits := (notMem_closing value.toNat).2
    simp_all [closing]
  rw [hsample, readLines_header h, readLines_line hline, readLine_bare h.1]
  rfl

/-- A sample with a label is read as the one of what its label stands for. -/
theorem readLines_labelled (hmetric : IsName inMetric metric) (hlabel : IsName inLabel label)
    (hid : StandsFor written id) (value : UInt64) (back : List Char) :
    readLines ((labelled metric label written value).toList ++ back) =
      (readLines back).map (⟨metric, [(label, id)], value.toNat⟩ :: ·) := by
  have hline : '\n' ∉ opening metric label ++ (written.toList ++ '"' :: closing value.toNat) := by
    simp [notMem_opening hmetric hlabel, hid.1, (notMem_closing value.toNat).2]
  have hsplit : (labelled metric label written value).toList ++ back =
      (opening metric label ++ (written.toList ++ '"' :: closing value.toNat)) ++ '\n' :: back := by
    rw [labelled_append]
    simp
  rw [hsplit, readLines_line hline, readLine_labelled hmetric hlabel hid]
  rfl

/-- Where an identifier needs an escape, a sample of something else is read. -/
theorem readLines_not_plain (hmetric : IsName inMetric metric) (hlabel : IsName inLabel label)
    (hid : ¬ Plain id) {value : UInt64}
    (h : readLines ((labelled metric label id value).toList ++ back) = some samples) :
    ∃ sample more, samples = sample :: more ∧ sample.isLabelled ∧
      sample.labels.head? ≠ some (label, id) := by
  obtain ⟨line, more, hsplit, hline, hne⟩ :=
    exists_line_of_not_plain hid (notMem_closing value.toNat) back
  have hopening : '\n' ∉ opening metric label ++ line := by
    simp [notMem_opening hmetric hlabel, hline]
  rw [labelled_append, hsplit, ← List.append_assoc] at h
  obtain ⟨a, b, ha, rfl⟩ := readLine_of_readLines hopening h
  obtain ⟨steps, hread⟩ := readLine_opening hmetric hlabel line
  rw [hread] at ha
  obtain ⟨⟨v, rest⟩, hquoted, ha⟩ := Option.bind_eq_some_iff.1 ha
  obtain ⟨⟨labels, rest'⟩, -, ha⟩ := Option.bind_eq_some_iff.1 ha
  obtain ⟨n, -, rfl⟩ := Option.map_eq_some_iff.1 ha
  -- the first label is what was read in the quotes, and that is not the identifier
  refine ⟨_, b, rfl, rfl, fun hsame ↦ hne v rest hquoted ?_⟩
  have hid : String.ofList v = id := (Prod.mk.inj (Option.some.inj hsame)).2
  rw [← hid, String.toList_ofList]

/-- A text that as the value of a label closes the label and its sample and begins a sample of its
own. -/
def forgery (id : String) (n : UInt64) (metric label other : String) : String :=
  id ++ "\"\x7d " ++ toString n ++ "\n" ++ metric ++ "\x7b" ++ label ++ "=\"" ++ other

/-- The text of one sample is the text of two. -/
theorem labelled_forgery (metric label id : String) (n : UInt64) (metric' label' other : String)
    (value : UInt64) :
    labelled metric label (forgery id n metric' label' other) value =
      labelled metric label id n ++ labelled metric' label' other value := by
  simp [labelled, forgery, String.append_assoc]

end Exposition

namespace ClusterStatus

open Exposition

/-- The samples of a metric that has one for each receiver. -/
def samplesOf (metric : String) (value : ReplicaEntry → UInt64) (rs : List ReplicaEntry) :
    List Sample :=
  rs.map fun r ↦ ⟨metric, [("receiver", r.receiver)], (value r).toNat⟩

/-- The labelled samples of a status, metric by metric. -/
def labelledSamples (s : ClusterStatus) : List Sample :=
  samplesOf "sensorkv_receiver_messages_total" (·.total) s.receivers ++
    samplesOf "sensorkv_receiver_conflicts_total" (·.conflicts) s.receivers ++
    samplesOf "sensorkv_receiver_records" (·.records.toUInt64) s.receivers

variable {s : ClusterStatus} {spell : String → String} {metric : String}
  {value : ReplicaEntry → UInt64} {rs : List ReplicaEntry} {back : List Char}
  {samples : List Sample}

/-- The status with the identifiers of the receivers spelled in another way. -/
def respelled (spell : String → String) (s : ClusterStatus) : ClusterStatus :=
  { s with receivers := s.receivers.map fun r ↦ { r with receiver := spell r.receiver } }

/-- The lines of a metric that has one for each receiver. -/
def linesOf (spell : String → String) (metric : String) (value : ReplicaEntry → UInt64)
    (rs : List ReplicaEntry) : List Char :=
  (String.join (rs.map fun r ↦ labelled metric "receiver" (spell r.receiver) (value r))).toList

/-- The lines of a metric begin with the one of the first receiver. -/
theorem linesOf_cons_append (r : ReplicaEntry) :
    linesOf spell metric value (r :: rs) ++ back =
      (labelled metric "receiver" (spell r.receiver) (value r)).toList ++
        (linesOf spell metric value rs ++ back) := by
  simp [linesOf, String.toList_join]

theorem samplesOf_cons (r : ReplicaEntry) : samplesOf metric value (r :: rs) =
    ⟨metric, [("receiver", r.receiver)], (value r).toNat⟩ :: samplesOf metric value rs := rfl

/-- All samples of a metric that has one for each receiver carry a label. -/
theorem filter_samplesOf : (samplesOf metric value rs).filter Sample.isLabelled =
    samplesOf metric value rs :=
  List.filter_eq_self.2 (List.forall_mem_map.2 fun _ _ ↦ rfl)

theorem isName_receiver : IsName inLabel "receiver" := by decide

theorem isHeader_messages :
    IsHeader "sensorkv_receiver_messages_total" "counter" "Messages per receiver" := by decide

theorem isHeader_conflicts :
    IsHeader "sensorkv_receiver_conflicts_total" "counter" "Conflicts per receiver" := by decide

theorem isHeader_records :
    IsHeader "sensorkv_receiver_records" "gauge" "Records held per receiver" := by decide

/-- Lines with identifiers that stand for those of the receivers are read as their samples. -/
theorem readLines_linesOf (hmetric : IsName inMetric metric)
    (h : ∀ r ∈ rs, StandsFor (spell r.receiver) r.receiver) (back : List Char) :
    readLines (linesOf spell metric value rs ++ back) =
      (readLines back).map (samplesOf metric value rs ++ ·) := by
  induction rs with
  | nil => simp [linesOf, samplesOf]
  | cons r rest ih =>
    obtain ⟨hr, hrest⟩ := List.forall_mem_cons.1 h
    rw [linesOf_cons_append, readLines_labelled hmetric isName_receiver hr, ih hrest,
      Option.map_map]
    rfl

/-- The first identifier that needs an escape spoils the samples from there on. -/
theorem plain_of_readLines_linesOf (hmetric : IsName inMetric metric)
    (hread : readLines (linesOf id metric value rs ++ back) = some samples)
    (hsamples : samplesOf metric value rs <+: samples.filter Sample.isLabelled) :
    ∀ r ∈ rs, Plain r.receiver := by
  induction rs generalizing samples with
  | nil => simp
  | cons r rest ih =>
    rw [linesOf_cons_append, id] at hread
    rw [samplesOf_cons] at hsamples
    -- the first receiver that needs an escape is where what is read goes wrong
    by_cases hr : Plain r.receiver
    · rw [readLines_labelled hmetric isName_receiver hr.standsFor] at hread
      obtain ⟨more, hmore, rfl⟩ := Option.map_eq_some_iff.1 hread
      rw [List.filter_cons_of_pos rfl, List.cons_prefix_cons] at hsamples
      exact List.forall_mem_cons.2 ⟨hr, ih hmore hsamples.2⟩
    · obtain ⟨sample, more, rfl, hlabelled, hne⟩ :=
        readLines_not_plain hmetric isName_receiver hr hread
      rw [List.filter_cons_of_pos hlabelled, List.cons_prefix_cons] at hsamples
      rw [← hsamples.1] at hne
      exact absurd rfl hne

/-- What stands in front of the metrics with a sample for each receiver has no label. -/
theorem read?_metrics (spell : String → String) (s : ClusterStatus) :
    (read? (s.respelled spell).metrics).map (·.filter Sample.isLabelled) =
      (readLines (linesOf spell "sensorkv_receiver_messages_total" (·.total) s.receivers ++
        ((header "sensorkv_receiver_conflicts_total" "counter" "Conflicts per receiver").toList ++
          (linesOf spell "sensorkv_receiver_conflicts_total" (·.conflicts) s.receivers ++
            ((header "sensorkv_receiver_records" "gauge" "Records held per receiver").toList ++
              linesOf spell "sensorkv_receiver_records" (·.records.toUInt64) s.receivers))))).map
        (·.filter Sample.isLabelled) := by
  rw [read?, metrics]
  simp only [perReceiver, String.toList_append, List.append_assoc]
  rw [readLines_sample (by decide), readLines_sample (by decide), readLines_sample (by decide),
    readLines_sample (by decide), readLines_sample (by decide), readLines_header isHeader_messages]
  simp only [Option.map_map, respelled, List.map_map]
  rfl

/-- A status is read back if its identifiers are written so that they stand for themselves. -/
theorem read?_metrics_of_standsFor
    (h : ∀ r ∈ s.receivers, StandsFor (spell r.receiver) r.receiver) :
    (read? (s.respelled spell).metrics).map (·.filter Sample.isLabelled) =
      some s.labelledSamples := by
  have hend : readLines [] = some [] := rfl
  rw [read?_metrics, readLines_linesOf isHeader_messages.1 h, readLines_header isHeader_conflicts,
    readLines_linesOf isHeader_conflicts.1 h, readLines_header isHeader_records,
    ← List.append_nil (linesOf _ _ _ _), readLines_linesOf isHeader_records.1 h, hend]
  simp [filter_samplesOf, labelledSamples]

theorem respelled_id (s : ClusterStatus) : s.respelled id = s := by simp [respelled]

/-- Any status is read back if its identifiers are escaped before they are written. -/
theorem metrics_read_back_escaped (s : ClusterStatus) :
    (read? (s.respelled escape).metrics).map (·.filter Sample.isLabelled) =
      some s.labelledSamples :=
  read?_metrics_of_standsFor fun r _ ↦ escape_standsFor r.receiver

/-- **Metrics are read back exactly when no identifier needs an escape.** -/
theorem metrics_read_back_iff (s : ClusterStatus) :
    (read? s.metrics).map (·.filter Sample.isLabelled) = some s.labelledSamples ↔
      ∀ r ∈ s.receivers, Plain r.receiver := by
  constructor
  · intro h
    rw [← s.respelled_id, read?_metrics, s.respelled_id] at h
    obtain ⟨samples, hread, hsamples⟩ := Option.map_eq_some_iff.1 h
    refine plain_of_readLines_linesOf isHeader_messages.1 hread ?_
    rw [hsamples, labelledSamples, List.append_assoc]
    exact List.prefix_append ..
  · intro h
    have hstands : ∀ r ∈ s.receivers, StandsFor (id r.receiver) r.receiver :=
      fun r hr ↦ (h r hr).standsFor
    have hread := read?_metrics_of_standsFor hstands
    rwa [s.respelled_id] at hread

/-- A status of one receiver, whose identifier begins a sample of another one. -/
def forging : ClusterStatus where
  nodeId := "n"
  strategy := "round_robin"
  registeredSensors := 0
  registeredReceivers := 1
  healthyReceivers := 1
  totalMessages := 0
  failedRoutes := 0
  globalVector := .empty
  receivers :=
    [⟨forgery "r1" 7 "sensorkv_receiver_records" "receiver" "r2", "r1:1", .running, true, 0, 0, 0⟩]

/-- The line of the one receiver is read as two samples. -/
theorem readLines_linesOf_forging (hmetric : IsName inMetric metric)
    (hvalue : ∀ r ∈ forging.receivers, value r = 0) (back : List Char) :
    readLines (linesOf id metric value forging.receivers ++ back) =
      (readLines back).map ([⟨metric, [("receiver", "r1")], 7⟩,
        ⟨"sensorkv_receiver_records", [("receiver", "r2")], 0⟩] ++ ·) := by
  have hplain : Plain "r1" ∧ Plain "r2" := by decide
  rw [forging, linesOf_cons_append, id, labelled_forgery, String.toList_append, List.append_assoc,
    readLines_labelled hmetric isName_receiver hplain.1.standsFor,
    readLines_labelled isHeader_records.1 isName_receiver hplain.2.standsFor,
    hvalue _ (by simp [forging])]
  simp [linesOf, Function.comp_def]

/-- Its metrics are read, and say of each metric that one receiver has seven and of the records that
another receiver, which is not in the cluster, has none. -/
theorem metrics_read_back_forging :
    (forging.receivers.map (·.receiver)).Nodup ∧ (∀ r ∈ forging.receivers, r.receiver ≠ "") ∧
      (read? forging.metrics).map (·.filter Sample.isLabelled) ≠ some forging.labelledSamples ∧
      (read? forging.metrics).map (·.filter Sample.isLabelled) =
        some [⟨"sensorkv_receiver_messages_total", [("receiver", "r1")], 7⟩,
          ⟨"sensorkv_receiver_records", [("receiver", "r2")], 0⟩,
          ⟨"sensorkv_receiver_conflicts_total", [("receiver", "r1")], 7⟩,
          ⟨"sensorkv_receiver_records", [("receiver", "r2")], 0⟩,
          ⟨"sensorkv_receiver_records", [("receiver", "r1")], 7⟩,
          ⟨"sensorkv_receiver_records", [("receiver", "r2")], 0⟩] := by
  refine ⟨by simp [forging], by simp [forging, forgery],
    and_iff_right_of_imp (fun hread ↦ ?_) |>.2 ?_⟩
  · rw [hread]
    simp [labelledSamples, samplesOf, forging]
  · have hend : readLines [] = some [] := rfl
    rw [← forging.respelled_id, read?_metrics,
      readLines_linesOf_forging isHeader_messages.1 (by simp [forging]),
      readLines_header isHeader_conflicts,
      readLines_linesOf_forging isHeader_conflicts.1 (by simp [forging]),
      readLines_header isHeader_records, ← List.append_nil (linesOf _ _ _ _),
      readLines_linesOf_forging isHeader_records.1 (by simp [forging]), hend]
    rfl

end ClusterStatus

end SensorCluster
