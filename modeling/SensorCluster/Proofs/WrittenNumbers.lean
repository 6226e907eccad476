import SensorCluster.Json.Decode
import Mathlib.Data.List.TakeWhile

/-!
# Numbers that were written read back

A whole number is written by its digits and read as itself (`readNumber_digits`). A float is written
by the decimal that `Decimal.render` lays out, and whether that reads as the float again is a matter
of rounding; `Json.ReadsBack` says so of one float.

Inside a text a number is followed by a comma or a bracket. **What stands behind a number does not
matter as long as the number could not go on with it** (`readNumber_append`), so what is known of a
number alone is known of it everywhere.
-/

namespace SensorCluster

namespace Text

theorem isDigit_of_char {c : Char} (h : c.isDigit = true) : isDigit c = true := by
  simp only [Char.isDigit, Bool.and_eq_true, decide_eq_true_eq] at h
  simp only [isDigit, Bool.and_eq_true, decide_eq_true_eq]
  exact h

/-- A whole number is written in digits only, -/
theorem isDigit_of_mem_toDigits {n : Nat} {c : Char} (h : c ∈ Nat.toDigits 10 n) :
    isDigit c = true :=
  isDigit_of_char (Nat.isDigit_of_mem_toDigits (by decide) (by decide) h)

/-- and they are read as that number. -/
theorem numeral_toDigits (n : Nat) : numeral (Nat.toDigits 10 n) = n :=
  Nat.ofDigitChars_ten_toDigits

/-- Only zero is written with a zero in front. -/
theorem eq_zero_of_toDigits {n : Nat} {rest : List Char} (h : Nat.toDigits 10 n = '0' :: rest) :
    n = 0 := by
  induction n using Nat.strongRecOn generalizing rest with
  | ind n ih =>
    by_cases hsmall : n < 10
    · rw [Nat.toDigits_of_lt_base hsmall] at h
      have hchar : n.digitChar = '0' := (List.cons.inj h).1
      have hall : ∀ m < 10, m.digitChar = '0' → m = 0 := by decide
      exact hall n hsmall hchar
    · rw [Nat.toDigits_of_base_le (by decide) (Nat.le_of_not_lt hsmall)] at h
      -- The first digit is that of the tenth part, which is not zero, and so not zero in front.
      cases htens : Nat.toDigits 10 (n / 10) with
      | nil => exact absurd htens Nat.toDigits_ne_nil
      | cons c more =>
        rw [htens] at h
        obtain rfl : c = '0' := (List.cons.inj h).1
        have := ih (n / 10) (by omega) htens
        omega

end Text

namespace Json

open Text (isDigit numeral)

/-- Could no number go on with what follows? -/
def EndsNumber (rest : List Char) : Prop :=
  ∀ c ∈ rest.head?, isDigit c = false ∧ c ≠ '.' ∧ c ≠ 'e' ∧ c ≠ 'E'

theorem endsNumber_nil : EndsNumber [] := fun _ h ↦ by cases h

/-! ### What stands behind -/

variable {cs left rest : List Char} {j : Json}

/-- The digits in front are the same whatever stands behind, if it is no further digit. -/
theorem takeWhile_append_of (h : cs.dropWhile isDigit = [] → EndsNumber rest) :
    (cs ++ rest).takeWhile isDigit = cs.takeWhile isDigit ∧
      (cs ++ rest).dropWhile isDigit = cs.dropWhile isDigit ++ rest := by
  induction cs with
  | nil =>
    cases rest with
    | nil => exact ⟨rfl, rfl⟩
    | cons c more =>
      have hc : isDigit c = false := (h rfl c rfl).1
      simp [hc]
  | cons c more ih =>
    by_cases hc : isDigit c = true
    · simp only [List.cons_append, List.takeWhile_cons, List.dropWhile_cons, hc] at h ⊢
      obtain ⟨htake, hdrop⟩ := ih h
      exact ⟨congrArg (c :: ·) htake, hdrop⟩
    · simp [hc]

/-- The whole part of a number is read alike, whatever stands behind the number, -/
theorem readWhole_append {digits : List Char} (h : readWhole cs = some (digits, left))
    (hrest : left = [] → EndsNumber rest) :
    readWhole (cs ++ rest) = some (digits, left ++ rest) := by
  cases cs with
  | nil => cases h
  | cons c more =>
    by_cases hzero : c = '0'
    · subst hzero
      obtain ⟨rfl, rfl⟩ := Prod.mk.inj (Option.some.inj h)
      rfl
    -- Only a zero in front is read by itself, without the digits behind it.
    · have hplain : ∀ t x, c :: t = '0' :: x → False := fun _ _ heq ↦ hzero (List.cons.inj heq).1
      rw [readWhole.eq_2 _ (hplain more)] at h
      rw [List.cons_append, readWhole.eq_2 _ (hplain _), ← List.cons_append]
      cases hdigits : (c :: more).takeWhile isDigit <;> rw [hdigits] at h
      · cases h
      · obtain ⟨rfl, rfl⟩ := Prod.mk.inj (Option.some.inj h)
        obtain ⟨htake, hdrop⟩ := takeWhile_append_of hrest
        rw [htake, hdrop, hdigits]

/-- and so is the fraction, -/
theorem readFraction_append {places : Option (List Char)}
    (h : readFraction cs = some (places, left)) (hrest : left = [] → EndsNumber rest) :
    readFraction (cs ++ rest) = some (places, left ++ rest) := by
  cases cs with
  | nil =>
    obtain ⟨rfl, rfl⟩ := Prod.mk.inj (Option.some.inj h)
    -- The text ends here, and what follows it does not begin with a point.
    refine readFraction.eq_2 rest fun more hpoint ↦ ?_
    exact ((hrest rfl) '.' (by rw [hpoint]; rfl)).2.1 rfl
  | cons c more =>
    by_cases hpoint : c = '.'
    · subst hpoint
      rw [readFraction] at h
      rw [List.cons_append, readFraction]
      cases hdigits : more.takeWhile isDigit <;> rw [hdigits] at h
      · cases h
      · obtain ⟨rfl, rfl⟩ := Prod.mk.inj (Option.some.inj h)
        obtain ⟨htake, hdrop⟩ := takeWhile_append_of hrest
        rw [htake, hdrop, hdigits]
    · have hplain : ∀ t x, c :: t = '.' :: x → False := fun _ _ heq ↦ hpoint (List.cons.inj heq).1
      rw [readFraction.eq_2 _ (hplain more)] at h
      obtain ⟨rfl, rfl⟩ := Prod.mk.inj (Option.some.inj h)
      exact readFraction.eq_2 _ (hplain _)

/-- A sign is taken off the digits that follow it. -/
theorem splitSign_append (h : cs ≠ []) :
    Text.splitSign (cs ++ rest) = ((Text.splitSign cs).1, (Text.splitSign cs).2 ++ rest) := by
  cases cs with
  | nil => exact absurd rfl h
  | cons c more =>
    by_cases hminus : c = '-'
    · subst hminus
      rfl
    · by_cases hplus : c = '+'
      · subst hplus
        rfl
      · have hplain : ∀ t, Text.splitSign (c :: t) = (false, c :: t) := fun t ↦
          Text.splitSign.eq_3 _ (fun _ heq ↦ hminus (List.cons.inj heq).1)
            fun _ heq ↦ hplus (List.cons.inj heq).1
        rw [List.cons_append, hplain, hplain]
        rfl

/-- and so is the power of ten, -/
theorem readPower_append {power : Option Int} (h : readPower cs = some (power, left))
    (hrest : left = [] → EndsNumber rest) :
    readPower (cs ++ rest) = some (power, left ++ rest) := by
  cases cs with
  | nil =>
    obtain ⟨rfl, rfl⟩ := Prod.mk.inj (Option.some.inj h)
    cases rest with
    | nil => rfl
    | cons c more =>
      obtain ⟨-, -, hlower, hupper⟩ := hrest rfl c rfl
      exact if_neg (not_or.2 ⟨hlower, hupper⟩)
  | cons c more =>
    rw [readPower] at h
    rw [List.cons_append, readPower]
    split at h
    · next hpower =>
      rw [if_pos hpower]
      -- There is something behind the letter, so the sign is looked for inside the text.
      have hmore : more ≠ [] := by
        rintro rfl
        cases h
      rw [splitSign_append hmore]
      dsimp only at h ⊢
      cases hdigits : (Text.splitSign more).2.takeWhile isDigit <;> rw [hdigits] at h
      · cases h
      · obtain ⟨rfl, rfl⟩ := Prod.mk.inj (Option.some.inj h)
        obtain ⟨htake, hdrop⟩ := takeWhile_append_of hrest
        rw [htake, hdrop, hdigits]
    · next hplain =>
      obtain ⟨rfl, rfl⟩ := Prod.mk.inj (Option.some.inj h)
      exact if_neg hplain

/-- The number that a whole part, perhaps a fraction and perhaps a power of ten come to. -/
def assembled (negative : Bool) (whole : List Char) (places : Option (List Char))
    (power : Option Int) :
    Json :=
  if places.isNone && power.isNone then .integer negative (numeral whole)
  else
    .decimal
      ⟨negative, numeral (whole ++ places.getD []), power.getD 0 - (places.getD []).length⟩

/-- A number is read part by part. -/
theorem readMagnitude_eq_some_iff {negative : Bool} : readMagnitude negative cs = some (j, left) ↔
    ∃ whole behind places further power, readWhole cs = some (whole, behind) ∧
      readFraction behind = some (places, further) ∧ readPower further = some (power, left) ∧
      assembled negative whole places power = j := by
  have hif : ∀ (b : Bool) (n d : Json) (l : List Char),
      (if b then some (n, l) else some (d, l)) = some (if b then n else d, l) := by
    intro b n d l
    cases b <;> rfl
  simp only [readMagnitude, Option.bind_eq_bind, Option.bind_eq_some_iff, Option.pure_def,
    Prod.exists, hif, Option.some.injEq, Prod.mk.injEq]
  constructor
  · rintro ⟨whole, behind, hwhole, places, further, hplaces, power, _, hpower, hj, rfl⟩
    exact ⟨whole, behind, places, further, power, hwhole, hplaces, hpower, hj⟩
  · rintro ⟨whole, behind, places, further, power, hwhole, hplaces, hpower, hj⟩
    exact ⟨whole, behind, hwhole, places, further, hplaces, power, left, hpower, hj, rfl⟩

/-- and so is all of it behind the sign. -/
theorem readMagnitude_append {negative : Bool} (h : readMagnitude negative cs = some (j, left))
    (hrest : left = [] → EndsNumber rest) :
    readMagnitude negative (cs ++ rest) = some (j, left ++ rest) := by
  obtain ⟨whole, behind, places, further, power, hwhole, hplaces, hpower, hj⟩ :=
    readMagnitude_eq_some_iff.1 h
  -- where one part leaves nothing, no later one does
  have hfurther : further = [] → EndsNumber rest := by
    rintro rfl
    cases hpower
    exact hrest rfl
  have hbehind : behind = [] → EndsNumber rest := by
    rintro rfl
    cases hplaces
    exact hfurther rfl
  exact readMagnitude_eq_some_iff.2 ⟨whole, behind ++ rest, places, further ++ rest, power,
    readWhole_append hwhole hbehind, readFraction_append hplaces hfurther,
    readPower_append hpower hrest, hj⟩

/-- **What stands behind a number** does not matter if the number could not go on with it. -/
theorem readNumber_append (h : readNumber cs = some (j, left))
    (hrest : left = [] → EndsNumber rest) :
    readNumber (cs ++ rest) = some (j, left ++ rest) := by
  cases cs with
  | nil => cases h
  | cons c more =>
    by_cases hminus : c = '-'
    · subst hminus
      have hmagnitude : readMagnitude true more = some (j, left) := h
      exact readMagnitude_append hmagnitude hrest
    · have hplain : ∀ t x, c :: t = '-' :: x → False := fun _ _ heq ↦ hminus (List.cons.inj heq).1
      rw [readNumber.eq_2 _ (hplain more)] at h
      rw [List.cons_append, readNumber.eq_2 _ (hplain _)]
      exact readMagnitude_append h hrest

/-! ### Whole numbers -/

/-- The digits of a whole number are read as that number. -/
theorem readNumber_digits (n : Nat) :
    readNumber (Nat.toDigits 10 n) = some (.integer false n, []) := by
  have hdigits : ∀ c ∈ Nat.toDigits 10 n, isDigit c = true := fun _ ↦ Text.isDigit_of_mem_toDigits
  have hplain : ∀ more, Nat.toDigits 10 n = '-' :: more → False := by
    intro more heq
    have hminus := hdigits '-' (heq ▸ List.mem_cons_self)
    cases hminus
  have hwhole : readWhole (Nat.toDigits 10 n) = some (Nat.toDigits 10 n, []) := by
    -- A zero in front is read by itself. It is all there is for zero, and no other number has one.
    by_cases hzero : n = 0
    · subst hzero
      rfl
    · rw [readWhole.eq_2 _ fun _ heq ↦ hzero (Text.eq_zero_of_toDigits heq),
        List.takeWhile_eq_self_iff.2 hdigits, List.dropWhile_eq_nil_iff.2 hdigits]
      split
      · next hnone => exact absurd hnone Nat.toDigits_ne_nil
      · rfl
  rw [readNumber.eq_2 _ hplain, readMagnitude, hwhole]
  show some (Json.integer false (numeral (Nat.toDigits 10 n)), []) = _
  rw [Text.numeral_toDigits]

/-- A number begins with a minus or with a digit. -/
theorem head_of_readNumber (h : readNumber cs = some (j, left)) :
    ∃ c more, cs = c :: more ∧ (c = '-' ∨ isDigit c = true) := by
  cases cs with
  | nil => cases h
  | cons c more =>
    refine ⟨c, more, rfl, Classical.or_iff_not_imp_left.2 fun hminus ↦ ?_⟩
    rw [readNumber.eq_2 _ fun _ heq ↦ hminus (List.cons.inj heq).1] at h
    refine Classical.byContradiction fun hdigit ↦ ?_
    have hnone : readWhole (c :: more) = none := by
      rw [readWhole.eq_2 _ fun _ heq ↦ ?_, List.takeWhile_cons_of_neg hdigit]
      obtain rfl := (List.cons.inj heq).1
      exact hdigit rfl
    rw [readMagnitude, hnone] at h
    cases h

/-! ### What is left -/

/-- Each part leaves an end of the text: the whole part, -/
theorem suffix_of_readWhole {digits : List Char} (h : readWhole cs = some (digits, left)) :
    left <:+ cs := by
  rw [readWhole.eq_def] at h
  split at h
  · next more =>
    obtain ⟨-, rfl⟩ := Prod.mk.inj (Option.some.inj h)
    exact List.suffix_cons _ _
  · split at h
    · cases h
    · obtain ⟨-, rfl⟩ := Prod.mk.inj (Option.some.inj h)
      exact List.dropWhile_suffix _

/-- the fraction, -/
theorem suffix_of_readFraction {places : Option (List Char)}
    (h : readFraction cs = some (places, left)) : left <:+ cs := by
  rw [readFraction.eq_def] at h
  split at h
  · next more =>
    split at h
    · cases h
    · obtain ⟨-, rfl⟩ := Prod.mk.inj (Option.some.inj h)
      exact (List.dropWhile_suffix _).trans (List.suffix_cons _ _)
  · obtain ⟨-, rfl⟩ := Prod.mk.inj (Option.some.inj h)
    exact List.suffix_refl _

theorem splitSign_suffix (cs : List Char) : (Text.splitSign cs).2 <:+ cs := by
  rw [Text.splitSign.eq_def]
  split
  · exact List.suffix_cons _ _
  · exact List.suffix_cons _ _
  · exact List.suffix_refl _

/-- the power of ten, -/
theorem suffix_of_readPower {power : Option Int} (h : readPower cs = some (power, left)) :
    left <:+ cs := by
  cases cs with
  | nil =>
    obtain ⟨-, rfl⟩ := Prod.mk.inj (Option.some.inj h)
    exact List.suffix_refl _
  | cons c more =>
    rw [readPower] at h
    split at h
    · dsimp only at h
      split at h
      · cases h
      · obtain ⟨-, rfl⟩ := Prod.mk.inj (Option.some.inj h)
        exact ((List.dropWhile_suffix _).trans (splitSign_suffix more)).trans (List.suffix_cons _ _)
    · obtain ⟨-, rfl⟩ := Prod.mk.inj (Option.some.inj h)
      exact List.suffix_refl _

theorem suffix_of_readMagnitude {negative : Bool} (h : readMagnitude negative cs = some (j, left)) :
    left <:+ cs := by
  obtain ⟨whole, behind, places, further, power, hwhole, hplaces, hpower, -⟩ :=
    readMagnitude_eq_some_iff.1 h
  exact ((suffix_of_readPower hpower).trans (suffix_of_readFraction hplaces)).trans
    (suffix_of_readWhole hwhole)

/-- So what a number leaves is an end of the text that it was read from. -/
theorem suffix_of_readNumber (h : readNumber cs = some (j, left)) : left <:+ cs := by
  rw [readNumber.eq_def] at h
  split at h
  · exact (suffix_of_readMagnitude h).trans (List.suffix_cons _ _)
  · exact suffix_of_readMagnitude h

end Json

end SensorCluster
