import SensorCluster.Proofs.WrittenJson

/-!
# The spellings of a JSON value

The grammar of JSON, as a relation between texts and values: blanks between the parts, members in
any order, three ways to write a character, numbers with or without a fraction and a power of ten. A
value has many spellings, `Json.render` writes one of them. **A text is read as a value exactly when
it spells it** (`read?_eq_some_iff`).

Each part of the grammar relates the characters that it begins with, what it says, and the
characters that are left behind it, as the reader does. A number may end anywhere among its digits,
so it is read to its end only where no number could go on (`EndsNumber`), which brackets and commas
see to.
-/

namespace SensorCluster.Json

open Text (isDigit numeral)

namespace Grammar

/-- Blanks, perhaps none. -/
inductive Gap : List Char → List Char → Prop
  | none {cs : List Char} : Gap cs cs
  | blank {c : Char} {cs rest : List Char} :
      c = ' ' ∨ c = '\n' ∨ c = '\t' ∨ c = '\r' → Gap cs rest → Gap (c :: cs) rest

/-! ### Numbers -/

/-- At least one digit. -/
structure Digits (cs digits rest : List Char) : Prop where
  split : cs = digits ++ rest
  ne_nil : digits ≠ []
  isDigit : ∀ d ∈ digits, isDigit d

/-- The digits of a whole number: a zero, or digits that begin with another one. -/
inductive Whole : List Char → List Char → List Char → Prop
  | zero {rest : List Char} : Whole ('0' :: rest) ['0'] rest
  | digits {cs digits rest : List Char} :
      Digits cs digits rest → digits.head? ≠ some '0' → Whole cs digits rest

/-- Perhaps a point and digits. -/
inductive Fraction : List Char → Option (List Char) → List Char → Prop
  | none {cs : List Char} : Fraction cs none cs
  | digits {cs digits rest : List Char} :
      Digits cs digits rest → Fraction ('.' :: cs) (some digits) rest

/-- Perhaps a sign, and whether it is a minus. -/
inductive Sign : List Char → Bool → List Char → Prop
  | none {cs : List Char} : Sign cs false cs
  | plus {cs : List Char} : Sign ('+' :: cs) false cs
  | minus {cs : List Char} : Sign ('-' :: cs) true cs

/-- Perhaps a power of ten. -/
inductive Power : List Char → Option Int → List Char → Prop
  | none {cs : List Char} : Power cs none cs
  | digits {c : Char} {cs cs₁ digits rest : List Char} {negative : Bool} :
      c = 'e' ∨ c = 'E' → Sign cs negative cs₁ → Digits cs₁ digits rest →
        Power (c :: cs) (some (if negative then -(numeral digits : Int) else numeral digits)) rest

/-- A number behind its sign. -/
inductive Magnitude (negative : Bool) : List Char → Json → List Char → Prop
  | parts {cs cs₁ cs₂ rest whole : List Char} {places : Option (List Char)} {power : Option Int} :
      Whole cs whole cs₁ → Fraction cs₁ places cs₂ → Power cs₂ power rest →
        Magnitude negative cs (assembled negative whole places power) rest

/-- A number. -/
inductive Number : List Char → Json → List Char → Prop
  | positive {cs rest : List Char} {j : Json} : Magnitude false cs j rest → Number cs j rest
  | negative {cs rest : List Char} {j : Json} : Magnitude true cs j rest → Number ('-' :: cs) j rest

variable {cs cs₁ rest digits : List Char} {negative : Bool} {j : Json}

/-- Is what is left no digit? -/
def EndsDigits (rest : List Char) : Prop := ∀ c ∈ rest.head?, Text.isDigit c = false

/-- Digits are read to their end, where no digit follows them. -/
theorem Digits.reads (h : Digits cs digits rest) (hrest : EndsDigits rest) :
    cs.takeWhile Text.isDigit = digits ∧ cs.dropWhile Text.isDigit = rest := by
  obtain ⟨rfl, -, hdigits⟩ := h
  rw [List.takeWhile_append_of_pos hdigits, List.dropWhile_append_of_pos hdigits]
  cases rest with
  | nil => simp
  | cons c more => simp [hrest c rfl]

/-- There is a first digit. -/
theorem Digits.exists_cons (h : Digits cs digits rest) :
    ∃ d ds, digits = d :: ds ∧ cs = d :: (ds ++ rest) ∧ Text.isDigit d := by
  obtain ⟨rfl, hne, hdigits⟩ := h
  cases digits with
  | nil => exact absurd rfl hne
  | cons d ds => exact ⟨d, ds, rfl, rfl, hdigits d List.mem_cons_self⟩

theorem Digits.length_lt (h : Digits cs digits rest) : rest.length < cs.length := by
  obtain ⟨d, ds, -, rfl, -⟩ := h.exists_cons
  simp only [List.length_cons, List.length_append]
  omega

/-- A whole number is read to its end. Behind a zero none of its digits could follow, so a zero ends
by itself. -/
theorem Whole.reads (h : Whole cs digits rest) (hrest : EndsDigits rest) :
    readWhole cs = some (digits, rest) := by
  cases h with
  | zero => rfl
  | digits hdigits hzero =>
    obtain ⟨htake, hdrop⟩ := hdigits.reads hrest
    obtain ⟨d, ds, rfl, rfl, -⟩ := hdigits.exists_cons
    have hd : d ≠ '0' := fun heq ↦ hzero (congrArg some heq)
    rw [readWhole.eq_2 _ fun _ heq ↦ hd (List.cons.inj heq).1, htake, hdrop]

/-- A fraction is read, or none where no point stands. -/
theorem Fraction.reads {places : Option (List Char)} (h : Fraction cs places rest)
    (hrest : EndsDigits rest) (hpoint : rest.head? ≠ some '.') :
    readFraction cs = some (places, rest) := by
  cases h with
  | none => exact readFraction.eq_2 _ fun more heq ↦ hpoint (congrArg List.head? heq)
  | digits hdigits =>
    obtain ⟨htake, hdrop⟩ := hdigits.reads hrest
    obtain ⟨d, ds, rfl, -, -⟩ := hdigits.exists_cons
    rw [readFraction, htake, hdrop]

/-- A sign is told from the digits behind it: no digit is one. -/
theorem Sign.splits (h : Sign cs negative cs₁) (hdigits : Digits cs₁ digits rest) :
    Text.splitSign cs = (negative, cs₁) := by
  cases h with
  | plus | minus => rfl
  | none =>
    obtain ⟨d, ds, -, rfl, hd⟩ := hdigits.exists_cons
    refine Text.splitSign.eq_3 _ (fun _ heq ↦ ?_) fun _ heq ↦ ?_ <;>
      · rw [(List.cons.inj heq).1] at hd
        cases hd

/-- A power of ten is read, or none where neither letter stands. -/
theorem Power.reads {power : Option Int} (h : Power cs power rest) (hrest : EndsNumber rest) :
    readPower cs = some (power, rest) := by
  cases h with
  | none =>
    cases cs with
    | nil => rfl
    | cons c more =>
      obtain ⟨-, -, hlower, hupper⟩ := hrest c rfl
      exact if_neg (not_or.2 ⟨hlower, hupper⟩)
  | digits hletter hsign hdigits =>
    obtain ⟨htake, hdrop⟩ := hdigits.reads fun c hc ↦ (hrest c hc).1
    rw [readPower, if_pos hletter, hsign.splits hdigits]
    obtain ⟨d, ds, rfl, -, -⟩ := hdigits.exists_cons
    dsimp only
    rw [htake, hdrop]

/-- What a power of ten begins with could be no further digit or point. -/
theorem Power.ends {power : Option Int} (h : Power cs power rest) (hrest : EndsNumber rest) :
    EndsDigits cs ∧ cs.head? ≠ some '.' := by
  cases h with
  | none => exact ⟨fun c hc ↦ (hrest c hc).1, fun hc ↦ (hrest '.' hc).2.1 rfl⟩
  | digits hletter =>
    obtain rfl | rfl := hletter <;>
      exact ⟨fun c hc ↦ by obtain rfl := Option.some.inj hc; rfl, by simp⟩

/-- What a fraction begins with is no further digit of the whole number. -/
theorem Fraction.ends {places : Option (List Char)} (h : Fraction cs places rest)
    (hrest : EndsDigits rest) : EndsDigits cs := by
  cases h with
  | none => exact hrest
  | digits => exact fun c hc ↦ by obtain rfl := Option.some.inj hc; rfl

/-- The three parts of a number are read one after the other, as each ends where the next begins. -/
theorem Magnitude.reads (h : Magnitude negative cs j rest) (hrest : EndsNumber rest) :
    readMagnitude negative cs = some (j, rest) := by
  obtain ⟨hwhole, hplaces, hpower⟩ := h
  obtain ⟨hdigits, hpoint⟩ := hpower.ends hrest
  exact readMagnitude_eq_some_iff.2 ⟨_, _, _, _, _, hwhole.reads (hplaces.ends hdigits),
    hplaces.reads hdigits hpoint, hpower.reads hrest, rfl⟩

theorem Whole.exists_cons (h : Whole cs digits rest) :
    ∃ d more, cs = d :: more ∧ Text.isDigit d := by
  cases h with
  | zero => exact ⟨_, _, rfl, rfl⟩
  | digits hdigits =>
    obtain ⟨d, ds, -, hcs, hd⟩ := hdigits.exists_cons
    exact ⟨d, _, hcs, hd⟩

theorem Whole.length_lt (h : Whole cs digits rest) : rest.length < cs.length := by
  cases h with
  | zero => exact Nat.lt_succ_self _
  | digits hdigits => exact hdigits.length_lt

theorem Fraction.length_le {places : Option (List Char)} (h : Fraction cs places rest) :
    rest.length ≤ cs.length := by
  cases h with
  | none => exact le_rfl
  | digits hdigits => exact hdigits.length_lt.le.trans (Nat.le_succ _)

theorem Power.length_le {power : Option Int} (h : Power cs power rest) :
    rest.length ≤ cs.length := by
  cases h with
  | none => exact le_rfl
  | digits _ hsign hdigits =>
    have hdigits := hdigits.length_lt
    cases hsign <;> simp only [List.length_cons] at hdigits ⊢ <;> omega

/-- A number is read to its end. -/
theorem Number.reads (h : Number cs j rest) (hrest : EndsNumber rest) :
    readNumber cs = some (j, rest) := by
  cases h with
  | negative h => exact h.reads hrest
  | positive h =>
    obtain ⟨d, more, rfl, hd⟩ : ∃ d more, cs = d :: more ∧ Text.isDigit d := by
      obtain ⟨hwhole, -, -⟩ := h
      exact hwhole.exists_cons
    -- a number that begins with a digit does not begin with a minus
    rw [readNumber.eq_2 _ fun _ heq ↦ ?_]
    · exact h.reads hrest
    · rw [(List.cons.inj heq).1] at hd
      cases hd

/-! What is read as a number spells it. -/

/-- The digits that the reader takes are digits. -/
theorem Digits.of_takeWhile (h : cs.takeWhile Text.isDigit ≠ []) :
    Digits cs (cs.takeWhile Text.isDigit) (cs.dropWhile Text.isDigit) :=
  ⟨List.takeWhile_append_dropWhile.symm, h, fun _ hd ↦ List.mem_takeWhile_imp hd⟩

/-- A whole number that was read does not begin with a zero that it could do without. -/
theorem Whole.of_readWhole (h : readWhole cs = some (digits, rest)) : Whole cs digits rest := by
  rw [readWhole.eq_def] at h
  split at h
  · obtain ⟨rfl, rfl⟩ := Prod.mk.inj (Option.some.inj h)
    exact .zero
  · next hzero =>
    split at h
    · cases h
    · next hne =>
      obtain ⟨rfl, rfl⟩ := Prod.mk.inj (Option.some.inj h)
      refine .digits (.of_takeWhile hne) fun hhead ↦ ?_
      cases cs with
      | nil => cases hhead
      | cons c more =>
        rw [List.takeWhile_cons] at hhead
        split at hhead
        · exact hzero more (by rw [Option.some.inj hhead])
        · cases hhead

/-- A fraction that was read has digits behind its point. -/
theorem Fraction.of_readFraction {places : Option (List Char)}
    (h : readFraction cs = some (places, rest)) : Fraction cs places rest := by
  rw [readFraction.eq_def] at h
  split at h
  · split at h
    · cases h
    · next hne =>
      obtain ⟨rfl, rfl⟩ := Prod.mk.inj (Option.some.inj h)
      exact .digits (.of_takeWhile hne)
  · obtain ⟨rfl, rfl⟩ := Prod.mk.inj (Option.some.inj h)
    exact .none

/-- Every text begins with a sign or with none. -/
theorem Sign.of_splitSign (cs : List Char) :
    Sign cs (Text.splitSign cs).1 (Text.splitSign cs).2 := by
  rw [Text.splitSign.eq_def]
  split
  · exact .minus
  · exact .plus
  · exact .none

theorem Power.of_readPower {power : Option Int} (h : readPower cs = some (power, rest)) :
    Power cs power rest := by
  cases cs with
  | nil =>
    obtain ⟨rfl, rfl⟩ := Prod.mk.inj (Option.some.inj h)
    exact .none
  | cons c more =>
    rw [readPower] at h
    split at h
    · next hletter =>
      dsimp only at h
      split at h
      · cases h
      · next hne =>
        obtain ⟨rfl, rfl⟩ := Prod.mk.inj (Option.some.inj h)
        exact .digits hletter (.of_splitSign more) (.of_takeWhile hne)
    · obtain ⟨rfl, rfl⟩ := Prod.mk.inj (Option.some.inj h)
      exact .none

theorem Magnitude.of_readMagnitude (h : readMagnitude negative cs = some (j, rest)) :
    Magnitude negative cs j rest := by
  obtain ⟨whole, cs₁, places, cs₂, power, hwhole, hplaces, hpower, rfl⟩ :=
    readMagnitude_eq_some_iff.1 h
  exact ⟨.of_readWhole hwhole, .of_readFraction hplaces, .of_readPower hpower⟩

/-- What was read as a number spells it. -/
theorem Number.of_readNumber (h : readNumber cs = some (j, rest)) : Number cs j rest := by
  rw [readNumber.eq_def] at h
  split at h
  · exact .negative (.of_readMagnitude h)
  · exact .positive (.of_readMagnitude h)

/-! ### Texts -/

/-- What stands between the quotes of a text: characters as they are, by a letter or by a number. -/
inductive Quoted : List Char → List Piece → List Char → Prop
  | close {rest : List Char} : Quoted ('"' :: rest) [] rest
  | char {c : Char} {cs rest : List Char} {pieces : List Piece} :
      c ≠ '"' → c ≠ '\\' → ¬c.toNat < 32 → Quoted cs pieces rest →
        Quoted (c :: cs) (.char c :: pieces) rest
  | letter {l c : Char} {cs rest : List Char} {pieces : List Piece} :
      unescape? l = some c → Quoted cs pieces rest →
        Quoted ('\\' :: l :: cs) (.char c :: pieces) rest
  | unit {n : Nat} {a b c d : Char} {cs rest : List Char} {pieces : List Piece} :
      unit? a b c d = some n → Quoted cs pieces rest →
        Quoted ('\\' :: 'u' :: a :: b :: c :: d :: cs) (.unit n :: pieces) rest

/-- A text behind its opening quote; its content is none when half of a surrogate pair stands
alone. -/
def Content (cs : List Char) (content : Option String) (rest : List Char) : Prop :=
  ∃ pieces, Quoted cs pieces rest ∧ (assemble? pieces).map String.ofList = content

/-- The pieces of a text are read one by one, each in the way that it is written. -/
theorem Quoted.reads {pieces : List Piece} (h : Quoted cs pieces rest) :
    readPieces cs = some (pieces, rest) := by
  induction h with
  | close => rw [readPieces]
  | char hquote hslash hcontrol _ ih =>
    rw [readPieces.eq_5 _ _ (fun h ↦ hquote h) (fun _ _ _ _ _ h _ ↦ hslash h)
      (fun _ _ h _ ↦ hslash h), if_neg hcontrol, ih]
  | @letter l c _ _ _ hletter _ ih =>
    have hl : l ≠ 'u' := by
      rintro rfl
      cases hletter
    rw [readPieces.eq_4 _ _ fun _ _ _ _ _ hu _ ↦ hl hu, hletter, ih]
  | unit hunit _ ih => rw [readPieces, hunit, ih]

/-- Pieces that were read stand there in one of the three ways. -/
theorem Quoted.of_readPieces {pieces : List Piece} (h : readPieces cs = some (pieces, rest)) :
    Quoted cs pieces rest := by
  fun_induction readPieces cs generalizing pieces rest
  case case2 =>
    obtain ⟨rfl, rfl⟩ := Prod.mk.inj (Option.some.inj h)
    exact .close
  case case3 hread hunit ih =>
    obtain ⟨rfl, rfl⟩ := Prod.mk.inj (Option.some.inj h)
    exact .unit hunit (ih hread)
  case case5 hread hletter ih =>
    obtain ⟨rfl, rfl⟩ := Prod.mk.inj (Option.some.inj h)
    exact .letter hletter (ih hread)
  case case8 c more hquote _ hslash hcontrol _ _ hread ih =>
    obtain ⟨rfl, rfl⟩ := Prod.mk.inj (Option.some.inj h)
    -- a backslash with nothing behind it is left to this case, and not read
    have hc : c ≠ '\\' := by
      rintro rfl
      cases more with
      | nil => cases hread
      | cons d ds => exact hslash d ds rfl rfl
    exact .char hquote hc hcontrol (ih hread)
  all_goals cases h

/-- A text is read as its content. -/
theorem content_iff {content : Option String} :
    Content cs content rest ↔ readText cs = some (content, rest) := by
  rw [readText, Option.map_eq_some_iff]
  constructor
  · rintro ⟨pieces, hpieces, rfl⟩
    exact ⟨(pieces, rest), hpieces.reads, rfl⟩
  · rintro ⟨⟨pieces, left⟩, hpieces, heq⟩
    obtain ⟨rfl, rfl⟩ := Prod.mk.inj heq
    exact ⟨pieces, .of_readPieces hpieces, rfl⟩

/-! ### Values -/

mutual

/-- A value, without blanks before it. -/
inductive Value : List Char → Json → List Char → Prop
  | null {rest : List Char} : Value ('n' :: 'u' :: 'l' :: 'l' :: rest) .null rest
  | true {rest : List Char} : Value ('t' :: 'r' :: 'u' :: 'e' :: rest) (.bool true) rest
  | false {rest : List Char} : Value ('f' :: 'a' :: 'l' :: 's' :: 'e' :: rest) (.bool false) rest
  | number {cs rest : List Char} {j : Json} : Number cs j rest → Value cs j rest
  | text {cs rest : List Char} {content : Option String} :
      Content cs content rest → Value ('"' :: cs) (.text content) rest
  | nil {cs rest : List Char} : Gap cs (']' :: rest) → Value ('[' :: cs) (.list []) rest
  | list {cs rest : List Char} {items : List Json} :
      Items cs items rest → Value ('[' :: cs) (.list items) rest
  | empty {cs rest : List Char} : Gap cs ('}' :: rest) → Value ('{' :: cs) (.object []) rest
  | object {cs rest : List Char} {members : List (Option String × Json)} :
      Members cs members rest → Value ('{' :: cs) (.object members) rest

/-- The items of a list, at least one, up to its closing bracket. -/
inductive Items : List Char → List Json → List Char → Prop
  | last {cs cs₁ cs₂ rest : List Char} {item : Json} :
      Gap cs cs₁ → Value cs₁ item cs₂ → Gap cs₂ (']' :: rest) → Items cs [item] rest
  | more {cs cs₁ cs₂ cs₃ rest : List Char} {item : Json} {items : List Json} :
      Gap cs cs₁ → Value cs₁ item cs₂ → Gap cs₂ (',' :: cs₃) → Items cs₃ items rest →
        Items cs (item :: items) rest

/-- A name and a value. -/
inductive Member : List Char → Option String × Json → List Char → Prop
  | parts {cs cs₁ cs₂ cs₃ cs₄ rest : List Char} {name : Option String} {value : Json} :
      Gap cs ('"' :: cs₁) → Content cs₁ name cs₂ → Gap cs₂ (':' :: cs₃) → Gap cs₃ cs₄ →
        Value cs₄ value rest → Member cs (name, value) rest

/-- The members of an object, at least one, up to its closing brace. -/
inductive Members : List Char → List (Option String × Json) → List Char → Prop
  | last {cs cs₁ rest : List Char} {member : Option String × Json} :
      Member cs member cs₁ → Gap cs₁ ('}' :: rest) → Members cs [member] rest
  | more {cs cs₁ cs₂ rest : List Char} {member : Option String × Json}
      {members : List (Option String × Json)} :
      Member cs member cs₁ → Gap cs₁ (',' :: cs₂) → Members cs₂ members rest →
        Members cs (member :: members) rest

end

/-- The reader skips gaps. -/
theorem Gap.skipBlank_eq (h : Gap cs rest) : skipBlank cs = skipBlank rest := by
  induction h with
  | none => rfl
  | blank hc _ ih => rw [skipBlank, if_pos hc, ih]

/-- What the reader skips is a gap. -/
theorem Gap.of_skipBlank (cs : List Char) : Gap cs (skipBlank cs) := by
  induction cs with
  | nil => exact .none
  | cons c more ih =>
    rw [skipBlank]
    split
    · next hc => exact .blank hc ih
    · exact .none

theorem Gap.length_le (h : Gap cs rest) : rest.length ≤ cs.length := by
  induction h with
  | none => exact le_rfl
  | blank _ _ ih => exact ih.trans (Nat.le_succ _)

/-- A gap goes on with no number, unless what is behind it does. -/
theorem Gap.endsNumber (h : Gap cs rest) (hrest : EndsNumber rest) : EndsNumber cs := by
  cases h with
  | none => exact hrest
  | blank hc =>
    intro d hd
    obtain rfl := Option.some.inj hd
    obtain rfl | rfl | rfl | rfl := hc <;> decide

/-- A value is read from behind a gap. -/
theorem Gap.readValue_eq (h : Gap cs rest) (fuel : Nat) :
    readValue fuel cs = readValue fuel rest := by
  cases fuel with
  | zero => rw [readValue, readValue]
  | succ fuel => rw [readValue, readValue, h.skipBlank_eq]

/-- A number begins with a digit or a minus. -/
theorem Number.exists_cons (h : Number cs j rest) :
    ∃ c more, cs = c :: more ∧ (c = '-' ∨ Text.isDigit c) := by
  cases h with
  | negative => exact ⟨_, _, rfl, .inl rfl⟩
  | positive h =>
    obtain ⟨hwhole, -, -⟩ := h
    obtain ⟨d, more, rfl, hd⟩ := hwhole.exists_cons
    exact ⟨d, more, rfl, .inr hd⟩

/-- A number takes at least one character. -/
theorem Number.length_lt (h : Number cs j rest) : rest.length < cs.length := by
  have hmagnitude : ∀ {negative cs}, Magnitude negative cs j rest → rest.length < cs.length := by
    intro negative cs h
    obtain ⟨hwhole, hplaces, hpower⟩ := h
    have hwhole := hwhole.length_lt
    have hplaces := hplaces.length_le
    have hpower := hpower.length_le
    omega
  cases h with
  | positive h => exact hmagnitude h
  | negative h => exact (hmagnitude h).trans (Nat.lt_succ_self _)

theorem Content.length_lt {content : Option String} (h : Content cs content rest) :
    rest.length < cs.length := by
  obtain ⟨pieces, hquoted, -⟩ := h
  induction hquoted with
  | close => exact Nat.lt_succ_self _
  | char _ _ _ _ ih | letter _ _ ih | unit _ _ ih =>
    simp only [List.length_cons]
    omega

/-- A value begins with a character that neither is blank nor closes anything, so the reader knows a
list or an object that has something in it. -/
theorem Value.exists_cons (h : Value cs j rest) : ∃ c more, cs = c :: more ∧ c ∉ nonOpening := by
  cases h with
  | number hnumber =>
    obtain ⟨c, more, rfl, hc⟩ := hnumber.exists_cons
    refine ⟨c, more, rfl, fun hmem ↦ ?_⟩
    have hother : ∀ x ∈ nonOpening, ¬(x = '-' ∨ Text.isDigit x) := by
      simp [nonOpening, Text.isDigit]
    exact hother c hmem hc
  | _ => exact ⟨_, _, rfl, by decide⟩

/-- Gaps before the items of a list do not count, -/
theorem readItems_skipBlank (fuel : Nat) (cs : List Char) :
    readItems fuel (skipBlank cs) = readItems fuel cs := by
  cases fuel with
  | zero => rw [readItems, readItems]
  | succ fuel => rw [readItems, readItems, (Gap.of_skipBlank cs).readValue_eq]

/-- and those before the members of an object do not either. -/
theorem readMembers_skipBlank (fuel : Nat) (cs : List Char) :
    readMembers fuel (skipBlank cs) = readMembers fuel cs := by
  cases fuel with
  | zero => rw [readMembers, readMembers]
  | succ fuel => rw [readMembers, readMembers, ← (Gap.of_skipBlank cs).skipBlank_eq]

/-- A list with items is read by its items. -/
theorem Items.readValue_eq {items : List Json} (h : Items cs items rest) (fuel : Nat) :
    readValue (fuel + 1) ('[' :: cs) =
      (readItems fuel cs).map fun part ↦ (Json.list part.1, part.2) := by
  obtain ⟨c, more, hskip, hc⟩ : ∃ c more, skipBlank cs = c :: more ∧ c ∉ nonOpening := by
    obtain ⟨hgap, hvalue, -⟩ | ⟨hgap, hvalue, -, -⟩ := h <;>
    · obtain ⟨c, more, rfl, hc⟩ := hvalue.exists_cons
      exact ⟨c, more, by rw [hgap.skipBlank_eq, skipBlank_cons hc], hc⟩
  -- the bracket is not closed at once, as its first item begins here
  rw [← readItems_skipBlank, hskip, ← readValue_bracket hc, readValue, readValue,
    skipBlank_cons (by decide), skipBlank_cons (by decide)]
  simp only [hskip, skipBlank_cons hc]

/-- An object with members is read by its members. -/
theorem Members.readValue_eq {members : List (Option String × Json)} (h : Members cs members rest)
    (fuel : Nat) :
    readValue (fuel + 1) ('{' :: cs) =
      (readMembers fuel cs).map fun part ↦ (Json.object part.1, part.2) := by
  have hquote : '"' ∉ nonOpening := by decide
  obtain ⟨more, hskip⟩ : ∃ more, skipBlank cs = '"' :: more := by
    obtain ⟨⟨hgap, -, -, -, -⟩, -⟩ | ⟨⟨hgap, -, -, -, -⟩, -, -⟩ := h <;>
      exact ⟨_, by rw [hgap.skipBlank_eq, skipBlank_cons hquote]⟩
  rw [← readMembers_skipBlank, hskip, ← readValue_brace, readValue, readValue,
    skipBlank_cons (by decide), skipBlank_cons (by decide)]
  simp only [hskip, skipBlank_cons hquote]

/-! Each part is read as what it says, with fuel for twice the characters that it takes. -/

/-- Where a part of the text is still to be read, fuel is left for it. -/
theorem exists_fuel {fuel : Nat} (hlt : rest.length < cs.length)
    (hfuel : 2 * cs.length ≤ fuel + 2 * rest.length) : ∃ n, fuel = n + 1 :=
  ⟨fuel - 1, by omega⟩

mutual

theorem Value.reads : ∀ {cs j rest}, Value cs j rest → rest.length < cs.length ∧
    (EndsNumber rest → ∀ fuel, 2 * cs.length ≤ fuel + 2 * rest.length →
      readValue fuel cs = some (j, rest))
  | _, _, rest, .null | _, _, rest, .true | _, _, rest, .false => by
    refine ⟨by grind, fun _ fuel hfuel ↦ ?_⟩
    obtain ⟨n, rfl⟩ := exists_fuel (by grind) hfuel
    rfl
  | _, _, _, .number h => by
    have hlt := h.length_lt
    refine ⟨hlt, fun hrest fuel hfuel ↦ ?_⟩
    -- one step is for the value itself, whatever it is
    obtain ⟨n, rfl⟩ := exists_fuel hlt hfuel
    exact readValue_of_readNumber (h.reads hrest)
  | _, _, _, .text h => by
    have hlt := h.length_lt.trans (Nat.lt_succ_self _)
    refine ⟨hlt, fun _ fuel hfuel ↦ ?_⟩
    obtain ⟨n, rfl⟩ := exists_fuel hlt hfuel
    rw [readValue, skipBlank_cons (by decide)]
    simp only [content_iff.1 h, Option.map_some]
  | _, _, _, .nil h | _, _, _, .empty h => by
    have hlt := (Nat.lt_of_succ_le h.length_le).trans (Nat.lt_succ_self _)
    refine ⟨hlt, fun _ fuel hfuel ↦ ?_⟩
    obtain ⟨n, rfl⟩ := exists_fuel hlt hfuel
    rw [readValue, skipBlank_cons (by decide)]
    simp only [h.skipBlank_eq]
    rfl
  | _, _, _, .list h | _, _, _, .object h => by
    obtain ⟨hlt, hreads⟩ := h.reads
    have hlt' := hlt.trans (Nat.lt_succ_self _)
    refine ⟨hlt', fun _ fuel hfuel ↦ ?_⟩
    obtain ⟨n, rfl⟩ := exists_fuel hlt' hfuel
    rw [List.length_cons] at hfuel
    rw [h.readValue_eq, hreads n (by omega), Option.map_some]

theorem Items.reads : ∀ {cs items rest}, Items cs items rest → rest.length < cs.length ∧
    ∀ fuel, 2 * cs.length ≤ fuel + 2 * rest.length → readItems fuel cs = some (items, rest)
  | _, _, _, .last hgap hvalue hclose => by
    obtain ⟨hlt, hreads⟩ := hvalue.reads
    have hle := hgap.length_le
    have hclosed := hclose.length_le
    rw [List.length_cons] at hclosed
    refine ⟨by omega, fun fuel hfuel ↦ ?_⟩
    obtain ⟨n, rfl⟩ := exists_fuel (by omega) hfuel
    -- a bracket goes on with no number, so the last item ends before it
    have hread := hreads (hclose.endsNumber (endsNumber_cons (by decide))) n (by omega)
    have hskip := hclose.skipBlank_eq
    rw [readItems, hgap.readValue_eq, hread]
    simp only [hskip]
    rfl
  | _, _, _, .more hgap hvalue hcomma hmore => by
    obtain ⟨hlt, hreads⟩ := hvalue.reads
    obtain ⟨hlt', hreads'⟩ := hmore.reads
    have hle := hgap.length_le
    have hbehind := hcomma.length_le
    rw [List.length_cons] at hbehind
    refine ⟨by omega, fun fuel hfuel ↦ ?_⟩
    obtain ⟨n, rfl⟩ := exists_fuel (by omega) hfuel
    -- and so does a comma
    have hread := hreads (hcomma.endsNumber (endsNumber_cons (by decide))) n (by omega)
    have hskip := hcomma.skipBlank_eq
    rw [readItems, hgap.readValue_eq, hread]
    simp only [hskip]
    exact congrArg (Option.map _) (hreads' n (by omega))

theorem Member.reads : ∀ {cs member rest}, Member cs member rest → rest.length < cs.length ∧
    ∀ fuel left, 2 * cs.length ≤ fuel + 2 * rest.length →
      (Gap rest ('}' :: left) → readMembers (fuel + 1) cs = some ([member], left)) ∧
      (Gap rest (',' :: left) → readMembers (fuel + 1) cs =
        (readMembers fuel left).map fun part ↦ (member :: part.1, part.2))
  | _, _, _, .parts hgap hname hcolon hgap' hvalue => by
    obtain ⟨hlt, hreads⟩ := hvalue.reads
    have hquoted := hgap.length_le
    have hnamed := hname.length_lt
    have hbehind := hcolon.length_le
    have hle := hgap'.length_le
    rw [List.length_cons] at hquoted hbehind
    have hskip := hcolon.skipBlank_eq.trans (skipBlank_cons (by decide) _)
    refine ⟨by omega, fun fuel left hfuel ↦ ⟨fun hend ↦ ?_, fun hend ↦ ?_⟩⟩
    -- the name, the colon and the value are read alike, whatever follows them
    all_goals
      have hread := hreads (hend.endsNumber (endsNumber_cons (by decide))) fuel (by omega)
      rw [← hgap'.readValue_eq] at hread
      rw [readMembers, hgap.skipBlank_eq, skipBlank_cons (by decide)]
      simp only [content_iff.1 hname, hskip, hread, hend.skipBlank_eq]
      rfl

theorem Members.reads : ∀ {cs members rest}, Members cs members rest → rest.length < cs.length ∧
    ∀ fuel, 2 * cs.length ≤ fuel + 2 * rest.length → readMembers fuel cs = some (members, rest)
  | _, _, _, .last hmember hclose => by
    obtain ⟨hlt, hreads⟩ := hmember.reads
    have hclosed := hclose.length_le
    rw [List.length_cons] at hclosed
    refine ⟨by omega, fun fuel hfuel ↦ ?_⟩
    obtain ⟨n, rfl⟩ := exists_fuel (by omega) hfuel
    exact (hreads n _ (by omega)).1 hclose
  | _, _, _, .more hmember hcomma hmore => by
    obtain ⟨hlt, hreads⟩ := hmember.reads
    obtain ⟨hlt', hreads'⟩ := hmore.reads
    have hbehind := hcomma.length_le
    rw [List.length_cons] at hbehind
    refine ⟨by omega, fun fuel hfuel ↦ ?_⟩
    obtain ⟨n, rfl⟩ := exists_fuel (by omega) hfuel
    rw [(hreads n _ (by omega)).2 hcomma, hreads' n (by omega), Option.map_some]

end

/-- A gap up to the first character that the reader does not skip. -/
theorem Gap.of_skipBlank_eq (h : skipBlank cs = rest) : Gap cs rest := h ▸ .of_skipBlank cs

/-! What is read spells what it is read as, if that is so with less fuel. -/

section OfRead

variable {fuel : Nat}

/-- The first character tells which rule of the grammar applies. -/
theorem Value.of_readValue
    (hitems : ∀ cs items rest, readItems fuel cs = some (items, rest) → Items cs items rest)
    (hmembers : ∀ cs members rest,
      readMembers fuel cs = some (members, rest) → Members cs members rest)
    (h : readValue (fuel + 1) cs = some (j, rest)) : Value (skipBlank cs) j rest := by
  rw [readValue] at h
  -- one case for each rule of the reader, in its order
  split at h
  case h_1 heq =>
    obtain ⟨rfl, rfl⟩ := Prod.mk.inj (Option.some.inj h)
    exact heq ▸ .null
  case h_2 heq =>
    obtain ⟨rfl, rfl⟩ := Prod.mk.inj (Option.some.inj h)
    exact heq ▸ .true
  case h_3 heq =>
    obtain ⟨rfl, rfl⟩ := Prod.mk.inj (Option.some.inj h)
    exact heq ▸ .false
  case h_4 heq =>
    obtain ⟨⟨content, left⟩, hread, hpart⟩ := Option.map_eq_some_iff.1 h
    obtain ⟨rfl, rfl⟩ := Prod.mk.inj hpart
    exact heq ▸ .text (content_iff.2 hread)
  case h_5 heq =>
    rw [heq]
    split at h
    · next hclose =>
      obtain ⟨rfl, rfl⟩ := Prod.mk.inj (Option.some.inj h)
      exact .nil (.of_skipBlank_eq hclose)
    · obtain ⟨⟨items, left⟩, hread, hpart⟩ := Option.map_eq_some_iff.1 h
      obtain ⟨rfl, rfl⟩ := Prod.mk.inj hpart
      exact .list (hitems _ _ _ ((readItems_skipBlank fuel _).symm.trans hread))
  case h_6 heq =>
    rw [heq]
    split at h
    · next hclose =>
      obtain ⟨rfl, rfl⟩ := Prod.mk.inj (Option.some.inj h)
      exact .empty (.of_skipBlank_eq hclose)
    · obtain ⟨⟨members, left⟩, hread, hpart⟩ := Option.map_eq_some_iff.1 h
      obtain ⟨rfl, rfl⟩ := Prod.mk.inj hpart
      exact .object (hmembers _ _ _ ((readMembers_skipBlank fuel _).symm.trans hread))
  case h_7 => exact .number (.of_readNumber h)

/-- An item that was read is the last one, or a comma and further items follow. -/
theorem Items.of_readItems {items : List Json}
    (hvalue : ∀ cs j rest, readValue fuel cs = some (j, rest) → Value (skipBlank cs) j rest)
    (hitems : ∀ cs items rest, readItems fuel cs = some (items, rest) → Items cs items rest)
    (h : readItems (fuel + 1) cs = some (items, rest)) : Items cs items rest := by
  rw [readItems] at h
  split at h
  · cases h
  · next item left hitem =>
    split at h
    · next hclose =>
      obtain ⟨rfl, rfl⟩ := Prod.mk.inj (Option.some.inj h)
      exact .last (.of_skipBlank cs) (hvalue _ _ _ hitem) (.of_skipBlank_eq hclose)
    · next hcomma =>
      obtain ⟨⟨more, left⟩, hmore, hpart⟩ := Option.map_eq_some_iff.1 h
      obtain ⟨rfl, rfl⟩ := Prod.mk.inj hpart
      exact .more (.of_skipBlank cs) (hvalue _ _ _ hitem) (.of_skipBlank_eq hcomma)
        (hitems _ _ _ hmore)
    · cases h

/-- A member that was read is the last one, or a comma and further members follow. -/
theorem Members.of_readMembers {members : List (Option String × Json)}
    (hvalue : ∀ cs j rest, readValue fuel cs = some (j, rest) → Value (skipBlank cs) j rest)
    (hmembers : ∀ cs members rest,
      readMembers fuel cs = some (members, rest) → Members cs members rest)
    (h : readMembers (fuel + 1) cs = some (members, rest)) : Members cs members rest := by
  rw [readMembers] at h
  split at h
  case h_2 => cases h
  case h_1 hquote =>
    split at h
    · cases h
    · next name left hname =>
      split at h
      case h_2 => cases h
      case h_1 hcolon =>
        split at h
        · cases h
        · next j left hread =>
          have hmember : Member cs (name, j) left :=
            .parts (.of_skipBlank_eq hquote) (content_iff.2 hname) (.of_skipBlank_eq hcolon)
              (.of_skipBlank _) (hvalue _ _ _ hread)
          split at h
          · next hclose =>
            obtain ⟨rfl, rfl⟩ := Prod.mk.inj (Option.some.inj h)
            exact .last hmember (.of_skipBlank_eq hclose)
          · next hcomma =>
            obtain ⟨⟨more, left⟩, hmore, hpart⟩ := Option.map_eq_some_iff.1 h
            obtain ⟨rfl, rfl⟩ := Prod.mk.inj hpart
            exact .more hmember (.of_skipBlank_eq hcomma) (hmembers _ _ _ hmore)
          · cases h

/-- **What is read spells what it is read as**, by induction on the fuel. -/
theorem of_read (fuel : Nat) :
    (∀ cs j rest, readValue fuel cs = some (j, rest) → Value (skipBlank cs) j rest) ∧
      (∀ cs items rest, readItems fuel cs = some (items, rest) → Items cs items rest) ∧
      ∀ cs members rest, readMembers fuel cs = some (members, rest) → Members cs members rest := by
  induction fuel with
  | zero => simp [readValue, readItems, readMembers]
  | succ fuel ih =>
    obtain ⟨hvalue, hitems, hmembers⟩ := ih
    exact ⟨fun _ _ _ ↦ .of_readValue hitems hmembers, fun _ _ _ ↦ .of_readItems hvalue hitems,
      fun _ _ _ ↦ .of_readMembers hvalue hmembers⟩

end OfRead

end Grammar

open Grammar

/-- Is the text a spelling of the value? -/
def Spells (text : String) (j : Json) : Prop :=
  ∃ cs rest, Gap text.toList cs ∧ Value cs j rest ∧ Gap rest []

/-- **A text is read as a value exactly when it spells it.** -/
theorem read?_eq_some_iff {text : String} {j : Json} : read? text = some j ↔ Spells text j := by
  rw [read?]
  constructor
  · intro h
    split at h
    · next value rest hvalue =>
      split at h
      · next hblank =>
        obtain rfl := Option.some.inj h
        exact ⟨_, rest, .of_skipBlank _, (of_read _).1 _ _ _ hvalue, .of_skipBlank_eq hblank⟩
      · cases h
    · cases h
  · rintro ⟨cs, rest, hgap, hvalue, hend⟩
    obtain ⟨-, hreads⟩ := hvalue.reads
    have hle := hgap.length_le
    -- the reader has fuel for twice the length of the whole text
    have hread := hreads (hend.endsNumber endsNumber_nil) (2 * text.toList.length + 2) (by omega)
    rw [← hgap.readValue_eq] at hread
    rw [hread]
    exact if_pos hend.skipBlank_eq

end SensorCluster.Json
