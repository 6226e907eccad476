import SensorCluster.Duration
import SensorCluster.Proofs.WrittenNumbers
import Mathlib.Data.List.DropRight
import Mathlib.Data.List.TakeWhile

/-!
# Written durations

A duration is written as digits and, directly behind them, a unit; blank characters may stand around
both and nowhere else (`Writes`). **`Duration.parse` reads what is written so, and nothing else**
(`parse_exact`).

## What it rests on

* Trimming takes off the blank characters at both ends and nothing more (`exists_trim`,
  `trim_between`). No digit and no unit begins or ends with a blank one, so the digits and the unit
  come through as they are.
* Where the digits end the unit begins, since no unit begins with a digit (`parse_of_writes`).
* What is read is `ofUnits` of the number and the unit. It has a result as long as the seconds are a
  word, and the result measures what was written (`exists_ofUnits`).

A span is told by its length in nanoseconds, of which less than a second is kept apart from the
seconds; there is only one span of a length (`Measures.eq`).
-/

namespace SensorCluster

namespace Text

variable {cs lead core tail : List Char}

theorem trim_eq (cs : List Char) : trim cs = (cs.dropWhile isBlank).rdropWhile isBlank := rfl

/-- Only blank characters are trimmed. -/
theorem exists_trim (cs : List Char) :
    ∃ lead tail, cs = lead ++ trim cs ++ tail ∧ (∀ c ∈ lead, isBlank c = true) ∧
      ∀ c ∈ tail, isBlank c = true := by
  refine ⟨cs.takeWhile isBlank, (cs.dropWhile isBlank).rtakeWhile isBlank, ?_,
    fun c ↦ List.mem_takeWhile_imp, fun c ↦ List.mem_rtakeWhile_imp⟩
  rw [trim_eq, List.append_assoc, List.rdropWhile_append_rtakeWhile,
    List.takeWhile_append_dropWhile]

/-- All blank characters at both ends are trimmed. -/
theorem trim_between (hlead : ∀ c ∈ lead, isBlank c = true) (htail : ∀ c ∈ tail, isBlank c = true)
    (hhead : ∀ c ∈ core.head?, isBlank c = false) (hlast : ∀ c ∈ core.getLast?, isBlank c = false) :
    trim (lead ++ core ++ tail) = core := by
  have hstart : (core ++ tail).dropWhile isBlank = core ++ tail ∨ core = [] := by
    cases core with
    | nil => exact .inr rfl
    | cons c more => exact .inl (List.dropWhile_cons_of_neg (by simp [hhead c rfl]))
  rw [trim, List.append_assoc, List.dropWhile_append_of_pos hlead]
  rcases hstart with hstart | rfl
  -- Trimming the end is trimming the start backwards, and backwards it begins with the last
  -- character.
  · have hend : core.reverse.dropWhile isBlank = core.reverse := by
      cases hrev : core.reverse with
      | nil => rfl
      | cons c more =>
        refine List.dropWhile_cons_of_neg ?_
        have hc : core.getLast? = some c := by rw [← List.head?_reverse, hrev]; rfl
        simp [hlast c hc]
    rw [hstart, List.reverse_append,
      List.dropWhile_append_of_pos fun c hc ↦ htail c (List.mem_reverse.1 hc), hend,
      List.reverse_reverse]
  · rw [List.nil_append, List.dropWhile_eq_nil_iff.2 htail]
    rfl

/-- No digit is blank, so trimming stops at one. -/
theorem not_isBlank_of_isDigit {c : Char} (h : isDigit c = true) : isBlank c = false := by
  simp only [isDigit, Bool.and_eq_true, decide_eq_true_eq] at h
  have hlow : 48 ≤ c.toNat := h.1
  have hhigh : c.toNat ≤ 57 := h.2
  simp only [isBlank, blankRanges, List.any_cons, List.any_nil, Bool.or_false, Bool.or_eq_false_iff,
    Bool.and_eq_false_iff, decide_eq_false_iff_not]
  omega

/-- Zeros in front of a number do not change it. -/
theorem numeral_zeros_append (zeros : Nat) (digits : List Char) :
    numeral (List.replicate zeros '0' ++ digits) = numeral digits := by
  rw [numeral, List.foldl_append]
  congr 1
  induction zeros with
  | zero => rfl
  | succ zeros ih => exact ih

end Text

namespace Duration

namespace TimeUnit

/-- How many seconds the unit counts for when it is turned into seconds; one for the units that are
not turned into larger ones. -/
def factor : TimeUnit → Nat
  | milliseconds => 1
  | seconds => 1
  | minutes => 60
  | hours => 3600

/-- How long one unit is, in nanoseconds. -/
def length : TimeUnit → Nat
  | milliseconds => 1000000
  | seconds => 1000000000
  | minutes => 60 * 1000000000
  | hours => 3600 * 1000000000

theorem one_le_factor (unit : TimeUnit) : 1 ≤ unit.factor := by
  cases unit <;> decide

/-- A unit is known by its symbol, and no two have the same. -/
theorem ofSymbol?_eq_some_iff {symbol : String} {unit : TimeUnit} :
    ofSymbol? symbol = some unit ↔ symbol = unit.symbol := by
  cases unit <;> grind [ofSymbol?, TimeUnit.symbol]

/-- A unit begins and ends with a letter that is neither a digit nor blank. -/
theorem symbol_ends (unit : TimeUnit) :
    (∃ c rest, unit.symbol.toList = c :: rest ∧ Text.isDigit c = false) ∧
      ∃ c, unit.symbol.toList.getLast? = some c ∧ Text.isBlank c = false := by
  cases unit <;> exact ⟨⟨_, _, rfl, by decide⟩, _, rfl, by decide⟩

end TimeUnit

variable {text : String} {d d' : Duration} {n : Nat} {unit : TimeUnit}

/-- The text writes so many units: a number in decimal digits, directly followed by the unit, with
nothing but blank characters around. -/
def Writes (text : String) (n : Nat) (unit : TimeUnit) : Prop :=
  ∃ lead digits tail : List Char,
    text.toList = lead ++ (digits ++ unit.symbol.toList) ++ tail ∧
    (∀ c ∈ lead, Text.isBlank c = true) ∧ (∀ c ∈ tail, Text.isBlank c = true) ∧
    digits ≠ [] ∧ (∀ c ∈ digits, Text.isDigit c = true) ∧ Text.numeral digits = n

/-- The span is so many nanoseconds long. -/
def Measures (d : Duration) (length : Nat) : Prop :=
  d.seconds.toNat * 1000000000 + d.nanoseconds.toNat = length ∧ d.nanoseconds.toNat < 1000000000

/-- There is one span of a length. -/
theorem Measures.eq {length : Nat} (h : d.Measures length) (h' : d'.Measures length) : d = d' := by
  obtain ⟨hsum, hrest⟩ := h
  obtain ⟨hsum', hrest'⟩ := h'
  cases d
  cases d'
  dsimp only at hsum hsum' hrest hrest'
  exact congrArg₂ Duration.mk (UInt64.toNat_inj.1 (by omega)) (UInt32.toNat_inj.1 (by omega))

/-! ### From units to a span -/

theorem measures_ofSeconds (s : UInt64) : (ofSeconds s).Measures (s.toNat * 1000000000) :=
  ⟨Nat.add_zero _, show 0 < 1000000000 by decide⟩

theorem measures_ofMillis (ms : UInt64) : (ofMillis ms).Measures (ms.toNat * 1000000) := by
  have hsmall : (ms % 1000).toNat = ms.toNat % 1000 := UInt64.toNat_mod ..
  have hword : (ms % 1000).toUInt32.toNat = ms.toNat % 1000 := by
    rw [UInt64.toNat_toUInt32, hsmall]
    omega
  have hrest : ((ms % 1000).toUInt32 * 1000000).toNat = ms.toNat % 1000 * 1000000 := by
    rw [UInt32.toNat_mul, hword]
    show ms.toNat % 1000 * 1000000 % 4294967296 = _
    omega
  have hwhole : (ms / 1000).toNat = ms.toNat / 1000 := UInt64.toNat_div ..
  rw [Measures, ofMillis, hrest, hwhole]
  omega

/-- Minutes and hours are turned into seconds, as long as these are a word. -/
theorem measures_scaled {n : UInt64} (factor : UInt64) (h : n.toNat * factor.toNat < UInt64.size) :
    scaled n factor = .ok (ofSeconds (n * factor)) ∧
      (ofSeconds (n * factor)).Measures (n.toNat * (factor.toNat * 1000000000)) := by
  refine ⟨if_pos h, ?_⟩
  have hmul : (n * factor).toNat = n.toNat * factor.toNat := by
    rw [UInt64.toNat_mul]
    exact Nat.mod_eq_of_lt h
  have hmeasures := measures_ofSeconds (n * factor)
  rwa [hmul, Nat.mul_assoc] at hmeasures

/-- **So many units are a span of their length**, as long as their seconds are a word. -/
theorem exists_ofUnits (n : UInt64) (unit : TimeUnit) (h : n.toNat * unit.factor < UInt64.size) :
    ∃ d, ofUnits n unit = .ok d ∧ d.Measures (n.toNat * unit.length) := by
  cases unit with
  | milliseconds => exact ⟨_, rfl, measures_ofMillis n⟩
  | seconds => exact ⟨_, rfl, measures_ofSeconds n⟩
  | minutes => exact ⟨_, measures_scaled 60 h⟩
  | hours => exact ⟨_, measures_scaled 3600 h⟩

/-- Minutes and hours that are more seconds than fit into a word are a panic. -/
theorem ofUnits_of_le (n : UInt64) (unit : TimeUnit) (h : UInt64.size ≤ n.toNat * unit.factor) :
    (unit = .minutes ∨ unit = .hours) ∧ ofUnits n unit = .error .multiplicationOverflow := by
  have hn : n.toNat < UInt64.size := n.toNat_lt
  cases unit with
  | milliseconds => exact absurd h (by simp only [TimeUnit.factor]; omega)
  | seconds => exact absurd h (by simp only [TimeUnit.factor]; omega)
  | minutes => exact ⟨.inl rfl, if_neg (Nat.not_lt.2 h)⟩
  | hours => exact ⟨.inr rfl, if_neg (Nat.not_lt.2 h)⟩

/-! ### From a text to units -/

/-- The digits and the unit of a written duration are told apart. -/
theorem split_written {digits : List Char} (hdigits : ∀ c ∈ digits, Text.isDigit c = true)
    (unit : TimeUnit) :
    (digits ++ unit.symbol.toList).takeWhile Text.isDigit = digits ∧
      (digits ++ unit.symbol.toList).dropWhile Text.isDigit = unit.symbol.toList := by
  obtain ⟨⟨c, rest, hsymbol, hc⟩, -⟩ := unit.symbol_ends
  rw [List.takeWhile_append_of_pos hdigits, List.dropWhile_append_of_pos hdigits, hsymbol,
    List.takeWhile_cons_of_neg (by simp [hc]), List.dropWhile_cons_of_neg (by simp [hc])]
  exact ⟨List.append_nil _, rfl⟩

/-- A digit in front and a letter at the end keep the trimming off what is written. -/
theorem trim_written {lead digits tail : List Char} (hlead : ∀ c ∈ lead, Text.isBlank c = true)
    (htail : ∀ c ∈ tail, Text.isBlank c = true) (hne : digits ≠ [])
    (hdigits : ∀ c ∈ digits, Text.isDigit c = true) (unit : TimeUnit) :
    Text.trim (lead ++ (digits ++ unit.symbol.toList) ++ tail) = digits ++ unit.symbol.toList := by
  obtain ⟨-, last, hlast, hblank⟩ := unit.symbol_ends
  refine Text.trim_between hlead htail (fun c hc ↦ ?_) fun c hc ↦ ?_
  · rw [List.head?_append_of_ne_nil _ hne] at hc
    exact Text.not_isBlank_of_isDigit (hdigits c (List.mem_of_mem_head? hc))
  · rw [List.getLast?_append, hlast] at hc
    rwa [← Option.some.inj hc]

/-- **What is written is read.** -/
theorem parse_of_writes (h : Writes text n unit) (hn : n < UInt64.size) :
    parse text = ofUnits n.toUInt64 unit := by
  obtain ⟨lead, digits, tail, htext, hlead, htail, hne, hdigits, rfl⟩ := h
  obtain ⟨htake, hdrop⟩ := split_written hdigits unit
  obtain ⟨c, rest, hsymbol, -⟩ := unit.symbol_ends.1
  have hnumeral : numeral? digits = some (Text.numeral digits).toUInt64 := if_pos ⟨hne, hn⟩
  have hunit : TimeUnit.ofSymbol? (String.ofList unit.symbol.toList) = some unit := by
    rw [String.ofList_toList, TimeUnit.ofSymbol?_eq_some_iff]
  rw [parse, htext, trim_written hlead htail hne hdigits unit]
  dsimp only
  rw [if_neg fun hnil ↦ hne (List.append_eq_nil_iff.1 hnil).1, hdrop, htake,
    if_neg (by rw [hsymbol]; exact List.cons_ne_nil c rest), hnumeral, hunit]

/-- **What is not written so is refused.** -/
theorem writes_or_reject (text : String) :
    (∃ n unit, Writes text n unit ∧ n < UInt64.size) ∨ ∃ defect, parse text = reject defect := by
  obtain ⟨lead, tail, htext, hlead, htail⟩ := Text.exists_trim text.toList
  set cs := Text.trim text.toList with hcs
  set digits := cs.takeWhile Text.isDigit with hdigits
  set symbol := cs.dropWhile Text.isDigit with hsymbol
  rw [parse]
  dsimp only
  rw [← hcs, ← hdigits, ← hsymbol]
  split
  · exact .inr ⟨_, rfl⟩
  split
  · exact .inr ⟨_, rfl⟩
  split
  · exact .inr ⟨_, rfl⟩
  next n hn =>
  split
  · exact .inr ⟨_, rfl⟩
  next unit hunit =>
  left
  -- No branch refused, so there are digits, the number is a word and the rest is a unit.
  rw [numeral?] at hn
  split at hn
  · next hnumber =>
    have hword : String.ofList symbol = unit.symbol := TimeUnit.ofSymbol?_eq_some_iff.1 hunit
    refine ⟨Text.numeral digits, unit, ⟨lead, digits, tail, ?_, hlead, htail, hnumber.1,
      fun c ↦ List.mem_takeWhile_imp, rfl⟩, hnumber.2⟩
    rw [htext, ← hword, String.toList_ofList, hdigits, hsymbol, List.takeWhile_append_dropWhile]
  · cases hn

/-- A number of units, with some zeros in front of the number. -/
def written (zeros n : Nat) (unit : TimeUnit) : String :=
  String.ofList (List.replicate zeros '0') ++ toString n ++ unit.symbol

/-- A number may be written with zeros in front of it, and a duration with blank characters around
it. -/
theorem writes_padded {lead tail : String} (zeros n : Nat) (unit : TimeUnit)
    (hlead : ∀ c ∈ lead.toList, Text.isBlank c = true)
    (htail : ∀ c ∈ tail.toList, Text.isBlank c = true) :
    Writes (lead ++ written zeros n unit ++ tail) n unit := by
  refine ⟨lead.toList, List.replicate zeros '0' ++ Nat.toDigits 10 n, tail.toList, ?_, hlead, htail,
    fun hnil ↦ Nat.toDigits_ne_nil (List.append_eq_nil_iff.1 hnil).2, fun c hc ↦ ?_, ?_⟩
  · simp only [written, String.toList_append, String.toList_ofList, Nat.toString_eq_repr,
      Nat.toList_repr]
  · rcases List.mem_append.1 hc with hzero | hdigit
    · rw [List.eq_of_mem_replicate hzero]
      decide
    · exact Text.isDigit_of_mem_toDigits hdigit
  · rw [Text.numeral_zeros_append, Text.numeral_toDigits]

/-- What is written and fits is read, as the span of its length. -/
theorem exists_parse (h : Writes text n unit) (hbound : n * unit.factor < UInt64.size) :
    ∃ d, parse text = .ok d ∧ d.Measures (n * unit.length) := by
  have hn : n < UInt64.size :=
    Nat.lt_of_le_of_lt (Nat.le_mul_of_pos_right n unit.one_le_factor) hbound
  have hword : n.toUInt64.toNat = n := Nat.mod_eq_of_lt hn
  obtain ⟨d, hd, hmeasures⟩ := exists_ofUnits n.toUInt64 unit (by rwa [hword])
  rw [hword] at hmeasures
  exact ⟨d, (parse_of_writes h hn).trans hd, hmeasures⟩

/-- What is written and does not fit is a panic. -/
theorem parse_of_le (h : Writes text n unit) (hn : n < UInt64.size)
    (hbound : UInt64.size ≤ n * unit.factor) :
    (unit = .minutes ∨ unit = .hours) ∧ parse text = .error .multiplicationOverflow := by
  have hword : n.toUInt64.toNat = n := Nat.mod_eq_of_lt hn
  obtain ⟨hunit, hpanic⟩ := ofUnits_of_le n.toUInt64 unit (by rwa [hword])
  exact ⟨hunit, (parse_of_writes h hn).trans hpanic⟩

/-- **A text is read, is a panic, or is refused**, by what it writes. -/
theorem parse_cases (text : String) :
    (∃ n unit d, Writes text n unit ∧ n * unit.factor < UInt64.size ∧ d.Measures (n * unit.length) ∧
      parse text = .ok d) ∨
    (∃ n unit, Writes text n unit ∧ (unit = .minutes ∨ unit = .hours) ∧ n < UInt64.size ∧
      UInt64.size ≤ n * unit.factor ∧ parse text = .error .multiplicationOverflow) ∨
    ((¬ ∃ n unit, Writes text n unit ∧ n < UInt64.size) ∧
      ∃ defect, parse text = reject defect) := by
  by_cases hwritten : ∃ n unit, Writes text n unit ∧ n < UInt64.size
  · obtain ⟨n, unit, hwrites, hn⟩ := hwritten
    rcases Nat.lt_or_ge (n * unit.factor) UInt64.size with hbound | hbound
    · obtain ⟨d, hd, hmeasures⟩ := exists_parse hwrites hbound
      exact .inl ⟨n, unit, d, hwrites, hbound, hmeasures, hd⟩
    · obtain ⟨hunit, hpanic⟩ := parse_of_le hwrites hn hbound
      exact .inr (.inl ⟨n, unit, hwrites, hunit, hn, hbound, hpanic⟩)
  · exact .inr (.inr ⟨hwritten, (writes_or_reject text).resolve_left hwritten⟩)

/-- **Reading durations is exact.** For every text,

* it is read if and only if it writes a number of units, as a non-empty run of ASCII digits directly
  followed by `ms`, `s`, `m` or `h` with nothing but blank characters around, and the number, or for
  minutes and hours the number of their seconds, fits into 64 bits; the span is then exactly as long
  as that many units;
* it is a panic if and only if it writes so many minutes or hours that the number fits into 64 bits
  and their seconds do not;
* in every other case, and in no other, it is refused as an invalid configuration.

So a number below the bound of its unit is read back from its digits, with any number of zeros in
front and any blank characters around. -/
theorem parse_exact (text : String) :
    (∀ d, parse text = .ok d ↔ ∃ n unit, Writes text n unit ∧ n * unit.factor < UInt64.size ∧
      d.Measures (n * unit.length)) ∧
    (∀ panic, parse text = .error (.panicked panic) ↔ panic = "attempt to multiply with overflow" ∧
      ∃ n unit, Writes text n unit ∧ (unit = .minutes ∨ unit = .hours) ∧ n < UInt64.size ∧
        UInt64.size ≤ n * unit.factor) ∧
    ((∃ defect, parse text = .error (.refused (.invalidConfig defect))) ↔
      ¬ ∃ n unit, Writes text n unit ∧ n < UInt64.size) ∧
    ∀ (zeros n : Nat) (unit : TimeUnit) (lead tail : String), n * unit.factor < UInt64.size →
      (∀ c ∈ lead.toList, Text.isBlank c = true) → (∀ c ∈ tail.toList, Text.isBlank c = true) →
      ∃ d, parse (lead ++ written zeros n unit ++ tail) = .ok d ∧ d.Measures (n * unit.length) := by
  refine ⟨fun d ↦ ⟨fun h ↦ ?_, fun ⟨n, unit, hwrites, hbound, hd⟩ ↦ ?_⟩,
    fun panic ↦ ⟨fun h ↦ ?_, fun ⟨hpanic, n, unit, hwrites, _, hn, hbound⟩ ↦ ?_⟩,
    ⟨fun ⟨defect, h⟩ ⟨n, unit, hwrites, hn⟩ ↦ ?_, fun h ↦ ?_⟩,
    fun zeros n unit lead tail hbound hlead htail ↦
      exists_parse (writes_padded zeros n unit hlead htail) hbound⟩
  -- Each text falls in one of three cases with three different answers, so the answer tells the
  -- case.
  · rcases parse_cases text with ⟨n, unit, d', hwrites, hbound, hmeasures, hread⟩ |
      ⟨_, _, _, _, _, _, hpanic⟩ | ⟨-, _, hreject⟩
    · obtain rfl : d' = d := Except.ok.inj (hread.symm.trans h)
      exact ⟨n, unit, hwrites, hbound, hmeasures⟩
    · exact nomatch hpanic.symm.trans h
    · exact nomatch hreject.symm.trans h
  · obtain ⟨d', hread, hmeasures⟩ := exists_parse hwrites hbound
    rw [hread, hmeasures.eq hd]
  · rcases parse_cases text with ⟨_, _, _, _, _, _, hread⟩ |
      ⟨n, unit, hwrites, hunit, hn, hbound, hpanic⟩ |
      ⟨-, _, hreject⟩
    · exact nomatch hread.symm.trans h
    · obtain rfl := Fault.panicked.inj (Except.error.inj (hpanic.symm.trans h))
      exact ⟨rfl, n, unit, hwrites, hunit, hn, hbound⟩
    · exact nomatch Except.error.inj (hreject.symm.trans h)
  · rw [hpanic]
    exact (parse_of_le hwrites hn hbound).2
  · rcases parse_cases text with ⟨_, _, _, _, _, _, hread⟩ | ⟨_, _, _, _, _, _, hpanic⟩ | ⟨hnone, -⟩
    · exact nomatch hread.symm.trans h
    · exact nomatch Except.error.inj (hpanic.symm.trans h)
    · exact hnone ⟨n, unit, hwrites, hn⟩
  · obtain ⟨defect, hreject⟩ := (writes_or_reject text).resolve_left h
    exact ⟨_, hreject⟩

/-- Seven minutes, with two zeros in front and blank characters around. -/
theorem parse_exact_padded :
    7 * TimeUnit.minutes.factor < UInt64.size ∧ (∀ c ∈ "\t ".toList, Text.isBlank c = true) ∧
      ∃ d, parse ("\t " ++ written 2 7 .minutes ++ "\n") = .ok d ∧ d.Measures 420000000000 :=
  have hlead : ∀ c ∈ "\t ".toList, Text.isBlank c = true := List.all_eq_true.1 rfl
  have htail : ∀ c ∈ "\n".toList, Text.isBlank c = true := List.all_eq_true.1 rfl
  ⟨by decide, hlead, (parse_exact "").2.2.2 2 7 .minutes _ _ (by decide) hlead htail⟩

end Duration

end SensorCluster
