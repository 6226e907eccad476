import SensorCluster.KeyMap

/-!
# Texts in the order of their bytes

Texts are compared character by character, by the numbers of the characters. Written as UTF-8 they
are compared byte by byte, and **the two orders are the same** (`bytes_lt_iff`), although a
character takes from one to four bytes.

UTF-8 writes a number in base 64 (`encoded`). The digits behind the first byte have a marker of
their own, so of two characters that take equally many bytes the first digit that differs decides.
And the marker of the first byte grows with the number of bytes behind it (`leading_lt_or`), so of
two that do not it is the first byte that decides. Either way a byte decides that belongs to the two
characters, and what follows does not matter.
-/

namespace SensorCluster.Text

/-! ### Numbers in base 64 -/

/-- The bytes of a number in base 64: the leading digits in one byte over `marker`, each of the
`more` digits behind them in a byte over 128. -/
def encoded (marker : Nat) : Nat → Nat → List UInt8
  | 0, n => [UInt8.ofNat (n + marker)]
  | more + 1, n => encoded marker more (n / 64) ++ [UInt8.ofNat (n % 64 + 128)]

/-- The number without its last `more` digits. -/
def leading : Nat → Nat → Nat
  | 0, n => n
  | more + 1, n => leading more (n / 64)

/-- The first byte carries the leading digits of the number, and the marker that tells how many
bytes follow. -/
theorem head_encoded (marker more n : Nat) :
    ∃ rest, encoded marker more n = UInt8.ofNat (leading more n + marker) :: rest := by
  induction more generalizing n with
  | zero => exact ⟨[], rfl⟩
  | succ more ih =>
    obtain ⟨rest, hrest⟩ := ih (n / 64)
    exact ⟨rest ++ [UInt8.ofNat (n % 64 + 128)], by rw [encoded, hrest]; rfl⟩

/-- The first byte decides when it differs. -/
theorem cons_lt_cons_of_lt {m n : Nat} (h : m < n) (hn : n < 256) (xs ys : List UInt8) :
    UInt8.ofNat m :: xs < UInt8.ofNat n :: ys :=
  List.cons_lt_cons_iff.2 (.inl ((UInt8.ofNat_lt_iff_lt (Nat.lt_trans h hn) hn).2 h))

/-- **A smaller number has smaller bytes**, whatever follows. -/
theorem encoded_lt_encoded {marker more m n : Nat} (h : m < n) (hn : leading more n + marker < 256)
    (xs ys : List UInt8) : encoded marker more m ++ xs < encoded marker more n ++ ys := by
  induction more generalizing m n xs ys with
  | zero => exact cons_lt_cons_of_lt (Nat.add_lt_add_right h _) hn xs ys
  | succ more ih =>
    rw [encoded, encoded, List.append_assoc, List.append_assoc]
    rcases Nat.lt_or_ge (m / 64) (n / 64) with hlt | hge
    · exact ih hlt hn _ _
    · -- the digits in front are the same, so the last ones decide
      have heq : m / 64 = n / 64 := by omega
      rw [heq]
      exact List.append_left_lt (cons_lt_cons_of_lt (by omega) (by omega) xs ys)

/-! ### Characters -/

/-- How the number of a character is written: the marker of its first byte, and how many more
follow. -/
def form (n : Nat) : Nat × Nat :=
  if n ≤ 127 then (0, 0)
  else if n ≤ 2047 then (192, 1)
  else if n ≤ 65535 then (224, 2)
  else (240, 3)

theorem toNat_lt (c : Char) : c.toNat < 1114112 := by
  have hvalid : c.toNat < 55296 ∨ 57343 < c.toNat ∧ c.toNat < 1114112 := c.valid
  omega

/-- UTF-8 is this way of writing, with a form for each range of numbers. -/
theorem utf8EncodeChar_eq_encoded (c : Char) :
    String.utf8EncodeChar c = encoded (form c.toNat).1 (form c.toNat).2 c.toNat := by
  have hbound := toNat_lt c
  have hval : c.val.toNat = c.toNat := rfl
  rw [String.utf8EncodeChar.eq_1, form, hval]
  split
  · rfl
  · split
    · rw [Nat.mod_eq_of_lt (by omega)]
      rfl
    · split
      · rw [Nat.mod_eq_of_lt (by omega)]
        simp [encoded, Nat.div_div_eq_div_mul]
      · rw [Nat.mod_eq_of_lt (by omega)]
        simp [encoded, Nat.div_div_eq_div_mul]

/-- Of two characters that are not written in the same form the larger one has the larger first
byte. -/
theorem leading_lt_or {m n : Nat} (h : m < n) (hn : n < 1114112) :
    leading (form n).2 n + (form n).1 < 256 ∧
      (form m = form n ∨ leading (form m).2 m + (form m).1 <
        leading (form n).2 n + (form n).1) := by
  unfold form
  repeat' split
  all_goals simp only [leading, true_or, and_true]; omega

/-- **A smaller character is written by smaller bytes**, whatever follows the two. -/
theorem utf8EncodeChar_lt {c d : Char} (h : c < d) (xs ys : List UInt8) :
    String.utf8EncodeChar c ++ xs < String.utf8EncodeChar d ++ ys := by
  have hlt : c.toNat < d.toNat := h
  obtain ⟨hlast, hsame | hless⟩ := leading_lt_or hlt (toNat_lt d)
  · rw [utf8EncodeChar_eq_encoded, utf8EncodeChar_eq_encoded, hsame]
    exact encoded_lt_encoded hlt hlast xs ys
  · obtain ⟨cs, hc⟩ := head_encoded (form c.toNat).1 (form c.toNat).2 c.toNat
    obtain ⟨ds, hd⟩ := head_encoded (form d.toNat).1 (form d.toNat).2 d.toNat
    rw [utf8EncodeChar_eq_encoded, utf8EncodeChar_eq_encoded, hc, hd]
    exact cons_lt_cons_of_lt hless hlast _ _

/-! ### Texts -/

/-- The UTF-8 bytes of a text. -/
def bytes (s : String) : List UInt8 := s.toUTF8.data.toList

theorem bytes_eq_flatMap (s : String) : bytes s = s.toList.flatMap String.utf8EncodeChar := by
  rw [bytes, String.toUTF8, ← String.utf8Encode_toList, List.utf8Encode]
  simp

theorem bytes_lt_of_lt {s t : String} (h : s < t) : bytes s < bytes t := by
  rw [bytes_eq_flatMap, bytes_eq_flatMap]
  have hlist : s.toList < t.toList := h
  generalize s.toList = cs at hlist ⊢
  generalize t.toList = ds at hlist ⊢
  induction cs generalizing ds with
  | nil =>
    cases ds with
    | nil => exact absurd hlist (List.lt_irrefl [])
    | cons d ds =>
      obtain ⟨rest, hrest⟩ := head_encoded (form d.toNat).1 (form d.toNat).2 d.toNat
      rw [List.flatMap_cons, utf8EncodeChar_eq_encoded, hrest]
      exact List.nil_lt_cons ..
  | cons c cs ih =>
    cases ds with
    | nil => exact absurd hlist (List.not_lt_nil _)
    | cons d ds =>
      rw [List.flatMap_cons, List.flatMap_cons]
      rcases List.cons_lt_cons_iff.1 hlist with hlt | ⟨rfl, hlt⟩
      · exact utf8EncodeChar_lt hlt _ _
      · exact List.append_left_lt (ih ds hlt)

/-- **Texts are in the order of their bytes.** -/
theorem bytes_lt_iff {s t : String} : bytes s < bytes t ↔ s < t := by
  refine ⟨fun hbytes ↦ Decidable.byContradiction fun hnot ↦ ?_, bytes_lt_of_lt⟩
  rcases Decidable.em (s = t) with rfl | hne
  · exact List.lt_irrefl _ hbytes
  · have hlt : t < s := Std.lt_of_le_of_ne (Std.not_lt.1 hnot) (Ne.symm hne)
    exact List.lt_asymm hbytes (bytes_lt_of_lt hlt)

end SensorCluster.Text
