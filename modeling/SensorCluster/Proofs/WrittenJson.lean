import SensorCluster.Proofs.WrittenNumbers
import Mathlib.Data.List.Forall2

/-!
# Written JSON reads back

What `Json.render` writes, `Json.read?` reads. `Json.Rereads` says of two values that the text of
the one is read as the other, **wherever it stands in a longer text**, so it passes from the items
of a list to the list and from the members of an object to the object.

Most values are read back as themselves. A decimal need not be: `100.0` is written for `1 * 10 ^ 2`
and read as `1000 * 10 ^ -1`. So what is asked of a float is that it is read back as the same float
(`Json.ReadsBack`), and not that its decimal is.
-/

namespace SensorCluster.Json

/-! ### Texts -/

/-- What a written character is read as: the character, or the unit that it is written by. -/
def piece (c : Char) : Piece := if (escape c).length = 6 then .unit c.toNat else .char c

/-- The three ways to write a character: by a letter, by its number, or as it is. -/
theorem escape_cases (c : Char) :
    (∃ letter, letter ≠ 'u' ∧ unescape? letter = some c ∧ escape c = ['\\', letter]) ∨
      (c.toNat < 32 ∧
        escape c = ['\\', 'u', '0', '0', hexDigit (c.toNat / 16), hexDigit c.toNat]) ∨
      (c ≠ '"' ∧ c ≠ '\\' ∧ ¬c.toNat < 32 ∧ escape c = [c]) := by
  by_cases hnamed : c ∈ ['"', '\\', '\x08', '\t', '\n', '\x0c', '\r']
  · left
    simp only [List.mem_cons, List.not_mem_nil, or_false] at hnamed
    rcases hnamed with rfl | rfl | rfl | rfl | rfl | rfl | rfl <;> exact ⟨_, by decide, rfl, rfl⟩
  · right
    simp only [List.mem_cons, List.not_mem_nil, or_false, not_or] at hnamed
    obtain ⟨hquote, hslash, hback, htab, hline, hfeed, hreturn⟩ := hnamed
    simp only [escape, hquote, hslash, hback, htab, hline, hfeed, hreturn, if_false]
    by_cases hcontrol : c.toNat < 32
    · exact .inl ⟨hcontrol, if_pos hcontrol⟩
    · exact .inr ⟨hquote, hslash, hcontrol, if_neg hcontrol⟩

/-- The four digits of a control character's number. -/
theorem unit?_hexDigits : ∀ n < 32, unit? '0' '0' (hexDigit (n / 16)) (hexDigit n) = some n := by
  decide

/-- **A written character is read as its piece.** -/
theorem readPieces_escape (c : Char) {rest left : List Char} {pieces : List Piece}
    (h : readPieces rest = some (pieces, left)) :
    readPieces (escape c ++ rest) = some (piece c :: pieces, left) := by
  rcases escape_cases c with ⟨letter, hletter, hchar, heq⟩ | ⟨hcontrol, heq⟩ |
    ⟨hquote, hslash, hplain, heq⟩ <;> rw [piece, heq]
  · show readPieces ('\\' :: letter :: rest) = _
    rw [readPieces.eq_4 _ _ fun _ _ _ _ _ hu _ ↦ hletter hu, hchar, h]
    rfl
  · show readPieces ('\\' :: 'u' :: '0' :: '0' :: _ :: _ :: rest) = _
    rw [readPieces, unit?_hexDigits c.toNat hcontrol, h]
    rfl
  · show readPieces (c :: rest) = _
    rw [readPieces.eq_5 _ _ (fun h ↦ hquote h) (fun _ _ _ _ _ h _ ↦ hslash h)
      (fun _ _ h _ ↦ hslash h), if_neg hplain, h]
    rfl

/-- A written text is read character by character up to its closing quote. -/
theorem readPieces_written (cs rest : List Char) :
    readPieces (cs.flatMap escape ++ '"' :: rest) = some (cs.map piece, rest) := by
  induction cs with
  | nil => rw [List.flatMap_nil, List.nil_append, readPieces, List.map_nil]
  | cons c more ih =>
    rw [List.flatMap_cons, List.append_assoc]
    exact readPieces_escape c ih

/-- Only control characters are written by their numbers, and these are no halves of surrogate
pairs. -/
theorem assemble?_cons_piece (c : Char) (pieces : List Piece) :
    assemble? (piece c :: pieces) = (assemble? pieces).map (c :: ·) := by
  rcases escape_cases c with ⟨letter, -, -, heq⟩ | ⟨hcontrol, heq⟩ | ⟨-, -, -, heq⟩ <;>
    rw [piece, heq]
  · exact assemble?.eq_2 _ _
  · have hhigh : isHighSurrogate c.toNat = false := by
      simp only [isHighSurrogate, Bool.and_eq_false_iff, decide_eq_false_iff_not]
      omega
    have hlow : isLowSurrogate c.toNat = false := by
      simp only [isLowSurrogate, Bool.and_eq_false_iff, decide_eq_false_iff_not]
      omega
    have hchar : Char.ofNat c.toNat = c := Char.ofNat_toNat c
    show assemble? (.unit c.toNat :: pieces) = _
    -- The reader looks for a pair of halves first. This unit is no half, so it does not matter
    -- whether another one follows.
    by_cases hpair : ∃ low rest, pieces = .unit low :: rest
    · obtain ⟨low, rest, rfl⟩ := hpair
      rw [assemble?, hhigh, hlow, hchar]
      rfl
    · rw [assemble?.eq_4 _ _ fun low rest heq ↦ hpair ⟨low, rest, heq⟩, hhigh, hlow, hchar]
      rfl
  · exact assemble?.eq_2 _ _

/-- The pieces of a written text come to that text. -/
theorem assemble?_pieces (cs : List Char) : assemble? (cs.map piece) = some cs := by
  induction cs with
  | nil => rfl
  | cons c more ih => rw [List.map_cons, assemble?_cons_piece, ih, Option.map_some]

/-- **A written text is read as it was.** -/
theorem readText_written (s : String) (rest : List Char) :
    readText (s.toList.flatMap escape ++ '"' :: rest) = some (some s, rest) := by
  rw [readText, readPieces_written, Option.map_some]
  dsimp only
  rw [assemble?_pieces, Option.map_some, String.ofList_toList]

/-! ### Where a value begins -/

/-- The characters of a written value. -/
def written (j : Json) : List Char := j.render.toList

/-- The characters that no written value begins with: the blanks, and the bracket behind a list. -/
def nonOpening : List Char := [' ', '\n', '\t', '\r', ']']

theorem skipBlank_cons {c : Char} (h : c ∉ nonOpening) (more : List Char) :
    skipBlank (c :: more) = c :: more := by
  simp only [nonOpening, List.mem_cons, List.not_mem_nil, or_false, not_or] at h
  exact if_neg (by simp [h])

variable {j j' : Json} {cs left rest : List Char} {fuel : Nat}

/-- A number begins like no other value. -/
theorem opens_of_readNumber (h : readNumber cs = some (j, left)) :
    ∃ c more, cs = c :: more ∧ c ∉ nonOpening ∧ c ∉ ['n', 't', 'f', '"', '[', '\x7b'] := by
  obtain ⟨c, more, rfl, hc⟩ := head_of_readNumber h
  have hother : ∀ x ∈ nonOpening ++ ['n', 't', 'f', '"', '[', '\x7b'],
      x ≠ '-' ∧ Text.isDigit x = false := by simp [nonOpening, Text.isDigit]
  have hnone : c ∉ nonOpening ++ ['n', 't', 'f', '"', '[', '\x7b'] := by
    intro hmem
    obtain ⟨hminus, hdigit⟩ := hother c hmem
    rcases hc with hc | hc
    · exact hminus hc
    · rw [hdigit] at hc
      cases hc
  rw [List.mem_append, not_or] at hnone
  exact ⟨c, more, rfl, hnone⟩

/-- A number is a value. -/
theorem readValue_of_readNumber (h : readNumber cs = some (j, left)) :
    readValue (fuel + 1) cs = some (j, left) := by
  obtain ⟨c, more, rfl, hopening, hother⟩ := opens_of_readNumber h
  rw [readValue, skipBlank_cons hopening]
  split
  case h_7 => exact h
  all_goals
    next heq =>
      rw [(List.cons.inj heq).1] at hother
      exact absurd hother (by decide)

/-- Only a number is read as a float. -/
theorem readNumber_of_readValue {x : Float} (h : readValue fuel cs = some (j, left))
    (hfloat : j.float? = some x) : readNumber (skipBlank cs) = some (j, left) := by
  -- All other branches build a value that is no float: from parts that were read, here,
  have hmap : ∀ {α : Type} {parts : Option (α × List Char)} {build : α → Json},
      (∀ a, (build a).float? = none) →
        (parts.map fun part ↦ (build part.1, part.2)) = some (j, left) →
          readNumber (skipBlank cs) = some (j, left) := by
    intro α parts build hnone heq
    obtain ⟨part, -, hpart⟩ := Option.map_eq_some_iff.1 heq
    rw [← (Prod.mk.inj hpart).1, hnone] at hfloat
    cases hfloat
  -- or at once, here.
  have hvalue : ∀ {value : Json} {rest : List Char}, value.float? = none →
      some (value, rest) = some (j, left) → readNumber (skipBlank cs) = some (j, left) := by
    intro value rest hnone heq
    rw [← (Prod.mk.inj (Option.some.inj heq)).1, hnone] at hfloat
    cases hfloat
  cases fuel with
  | zero => cases h
  | succ fuel =>
    rw [readValue] at h
    split at h
    case h_7 => exact h
    case h_4 => exact hmap (fun _ ↦ rfl) h
    case h_5 =>
      split at h
      · exact hvalue rfl h
      · exact hmap (fun _ ↦ rfl) h
    case h_6 =>
      split at h
      · exact hvalue rfl h
      · exact hmap (fun _ ↦ rfl) h
    all_goals exact hvalue rfl h

/-! ### Values that read back -/

/-- The text of `j` is read as `j'`, wherever it stands. -/
structure Rereads (j j' : Json) : Prop where
  opens : ∃ c more, j.written = c :: more ∧ c ∉ nonOpening
  reads : ∀ {fuel rest}, 2 * j.written.length ≤ fuel → EndsNumber rest →
    readValue fuel (j.written ++ rest) = some (j', rest)

/-- A text is read to its end. -/
theorem Rereads.read? (h : j.Rereads j') : Json.read? j.render = some j' := by
  have hread : readValue (2 * j.written.length + 2) (j.written ++ []) = some (j', []) :=
    h.reads (Nat.le_add_right _ _) endsNumber_nil
  rw [List.append_nil] at hread
  rw [Json.read?]
  rw [show readValue (2 * j.render.toList.length + 2) j.render.toList = _ from hread]
  rfl

/-- A number that reads alone reads everywhere. -/
theorem Rereads.of_readNumber (h : readNumber j.written = some (j', [])) : j.Rereads j' where
  opens := by
    obtain ⟨c, more, heq, hopening, -⟩ := opens_of_readNumber h
    exact ⟨c, more, heq, hopening⟩
  reads {fuel rest} hfuel hrest := by
    obtain ⟨c, more, heq, -⟩ := head_of_readNumber h
    cases fuel with
    | zero => simp [heq] at hfuel
    | succ fuel => exact readValue_of_readNumber (readNumber_append h fun _ ↦ hrest)

/-- A whole number is read back as itself, -/
theorem rereads_nat (n : Nat) : (nat n).Rereads (nat n) := by
  refine .of_readNumber ?_
  have hwritten : (nat n).written = Nat.toDigits 10 n := by
    simp [written, nat, render]
  rw [hwritten]
  exact readNumber_digits n

/-- and so is a truth value, -/
theorem rereads_bool (b : Bool) : (bool b).Rereads (bool b) := by
  cases b <;> refine ⟨⟨_, _, rfl, by decide⟩, fun {fuel rest} hfuel _ ↦ ?_⟩ <;> cases fuel
  · cases hfuel
  · rfl
  · cases hfuel
  · rfl

theorem written_str (s : String) : (str s).written = '"' :: s.toList.flatMap escape ++ ['"'] :=
  String.toList_ofList

/-- and so is a text, whatever characters it has. -/
theorem rereads_str (s : String) : (str s).Rereads (str s) where
  opens := ⟨'"', _, written_str s, by decide⟩
  reads {fuel rest} hfuel _ := by
    rw [written_str] at hfuel ⊢
    cases fuel with
    | zero => cases hfuel
    | succ fuel =>
      have hcons : '"' :: s.toList.flatMap escape ++ ['"'] ++ rest =
          '"' :: (s.toList.flatMap escape ++ '"' :: rest) := by simp
      rw [hcons, readValue, skipBlank_cons (by decide)]
      exact congrArg (Option.map fun part ↦ (text part.1, part.2)) (readText_written s rest)

/-! ### Lists and objects -/

/-- What is written behind an opening bracket: the parts with commas between them, and the closing
bracket. -/
def joined (close : Char) : List (List Char) → List Char
  | [] => [close]
  | [part] => part ++ [close]
  | part :: rest => part ++ ',' :: joined close rest

theorem joined_eq (close : Char) (parts : List String) :
    joined close (parts.map String.toList) = (",".intercalate parts).toList ++ [close] := by
  rw [String.toList_intercalate]
  induction parts with
  | nil => rfl
  | cons part rest ih =>
    cases rest with
    | nil => exact congrArg (· ++ [close]) List.intercalate_singleton.symm
    | cons next more =>
      rw [List.map_cons, List.map_cons, joined, ← List.map_cons, ih, List.map_cons,
        List.intercalate_cons_cons]
      · simp
      · simp

/-- A member of an object as it is written. -/
def writtenMember (m : String × Json) : List Char := (str m.1).written ++ ':' :: m.2.written

/-- A list is written with commas between its items, -/
theorem written_list (items : List Json) :
    (list items).written = '[' :: joined ']' (items.map written) := by
  have hitems : items.map written = (render.renderItems items).map String.toList := by
    induction items with
    | nil => rfl
    | cons item rest ih => exact congrArg (item.written :: ·) ih
  rw [hitems, joined_eq]
  simp [written, render]

/-- and an object with commas between its members. -/
theorem written_obj (members : List (String × Json)) :
    (obj members).written = '\x7b' :: joined '\x7d' (members.map writtenMember) := by
  have hmembers : members.map writtenMember =
      (render.renderMembers (members.map fun m ↦ (some m.1, m.2))).map String.toList := by
    induction members with
    | nil => rfl
    | cons m rest ih =>
      rw [List.map_cons, ih, List.map_cons, render.renderMembers, List.map_cons]
      simp [writtenMember, written, str, render]
  rw [hmembers, joined_eq]
  simp [written, obj, render]

theorem endsNumber_cons {c : Char} (h : c ∈ [',', ']', '\x7d']) : EndsNumber (c :: rest) := by
  intro d hd
  obtain rfl : c = d := Option.some.inj hd
  have hall : ∀ x ∈ [',', ']', '\x7d'], Text.isDigit x = false ∧ x ≠ '.' ∧ x ≠ 'e' ∧ x ≠ 'E' := by
    simp [Text.isDigit]
  exact hall c h

/-- The items of a list are read one by one. -/
theorem readItems_joined {items items' : List Json} (h : List.Forall₂ Rereads items items')
    (hitems : items ≠ []) (hfuel : 2 * (joined ']' (items.map written)).length ≤ fuel) :
    readItems fuel (joined ']' (items.map written) ++ rest) = some (items', rest) := by
  induction h generalizing fuel with
  | nil => exact absurd rfl hitems
  | @cons item item' more more' hitem hmore ih =>
    cases hmore with
    | nil =>
      have hjoined : joined ']' ([item].map written) = item.written ++ [']'] := rfl
      rw [hjoined] at hfuel ⊢
      simp only [List.length_append, List.length_cons] at hfuel
      obtain ⟨fuel, rfl⟩ : ∃ n, fuel = n + 1 := ⟨fuel - 1, by omega⟩
      have hread : readValue fuel (item.written ++ ']' :: rest) = some (item', ']' :: rest) :=
        hitem.reads (by omega) (endsNumber_cons (by decide))
      rw [List.append_assoc, List.singleton_append, readItems, hread]
      rfl
    | @cons next next' further further' hnext hfurther =>
      have hjoined : joined ']' ((item :: next :: further).map written) =
          item.written ++ ',' :: joined ']' ((next :: further).map written) := rfl
      rw [hjoined] at hfuel ⊢
      simp only [List.length_append, List.length_cons] at hfuel
      obtain ⟨fuel, rfl⟩ : ∃ n, fuel = n + 1 := ⟨fuel - 1, by omega⟩
      -- A comma ends a number too, so the item is read as if it stood alone.
      have hread : ∀ tail, readValue fuel (item.written ++ ',' :: tail) =
          some (item', ',' :: tail) :=
        fun _ ↦ hitem.reads (by omega) (endsNumber_cons (by decide))
      have hrest := ih (List.cons_ne_nil _ _) (show 2 * _ ≤ fuel by omega)
      rw [List.append_assoc, List.cons_append, readItems, hread]
      exact congrArg (Option.map fun part ↦ (item' :: part.1, part.2)) hrest

/-- Members have one name and the text of the one value is read as the other. -/
def RereadsMember (m m' : String × Json) : Prop := m'.1 = m.1 ∧ m.2.Rereads m'.2

/-- A member is read, and then the brace that closes the object, or the members behind a comma. -/
theorem readMembers_written {m m' : String × Json} (h : RereadsMember m m')
    (hfuel : 2 * (writtenMember m).length ≤ fuel) (rest : List Char) :
    readMembers (fuel + 1) (writtenMember m ++ '\x7d' :: rest) = some ([(some m'.1, m'.2)], rest) ∧
      readMembers (fuel + 1) (writtenMember m ++ ',' :: rest) =
        (readMembers fuel rest).map fun part ↦ ((some m'.1, m'.2) :: part.1, part.2) := by
  obtain ⟨hname, hvalue⟩ := h
  have hwritten : ∀ tail, writtenMember m ++ tail =
      '"' :: (m.1.toList.flatMap escape ++ '"' :: ':' :: (m.2.written ++ tail)) := by
    simp [writtenMember, written_str]
  have hlength : (writtenMember m).length =
      (str m.1).written.length + (m.2.written.length + 1) := by
    simp [writtenMember]
  -- Whatever of the three stands behind the value, no number goes on with it.
  have hread : ∀ c ∈ [',', ']', '\x7d'],
      readValue fuel (m.2.written ++ c :: rest) = some (m'.2, c :: rest) :=
    fun c hc ↦ hvalue.reads (by omega) (endsNumber_cons hc)
  have hcolon : ∀ tail, skipBlank (':' :: tail) = ':' :: tail := skipBlank_cons (by decide)
  constructor
  · rw [hwritten, readMembers, skipBlank_cons (by decide), hname]
    simp only [readText_written, hcolon, hread '\x7d' (by decide)]
    rfl
  · rw [hwritten, readMembers, skipBlank_cons (by decide), hname]
    simp only [readText_written, hcolon, hread ',' (by decide)]
    rfl

/-- The members of an object are read one by one. -/
theorem readMembers_joined {members members' : List (String × Json)}
    (h : List.Forall₂ RereadsMember members members') (hmembers : members ≠ [])
    (hfuel : 2 * (joined '\x7d' (members.map writtenMember)).length ≤ fuel) :
    readMembers fuel (joined '\x7d' (members.map writtenMember) ++ rest) =
      some (members'.map fun m ↦ (some m.1, m.2), rest) := by
  induction h generalizing fuel with
  | nil => exact absurd rfl hmembers
  | @cons m m' more more' hm hmore ih =>
    cases hmore with
    | nil =>
      have hjoined : joined '\x7d' ([m].map writtenMember) = writtenMember m ++ ['\x7d'] := rfl
      rw [hjoined] at hfuel ⊢
      simp only [List.length_append, List.length_cons] at hfuel
      obtain ⟨fuel, rfl⟩ : ∃ n, fuel = n + 1 := ⟨fuel - 1, by omega⟩
      rw [List.append_assoc]
      exact (readMembers_written hm (by omega) rest).1
    | @cons next next' further further' hnext hfurther =>
      have hjoined : joined '\x7d' ((m :: next :: further).map writtenMember) =
          writtenMember m ++ ',' :: joined '\x7d' ((next :: further).map writtenMember) := rfl
      rw [hjoined] at hfuel ⊢
      simp only [List.length_append, List.length_cons] at hfuel
      obtain ⟨fuel, rfl⟩ : ∃ n, fuel = n + 1 := ⟨fuel - 1, by omega⟩
      have hrest := ih (List.cons_ne_nil _ _) (show 2 * _ ≤ fuel by omega)
      rw [List.append_assoc, List.cons_append, (readMembers_written hm (by omega) _).2, hrest]
      rfl

theorem head_joined {close : Char} {part : List Char} {parts : List (List Char)} {c : Char}
    {more : List Char} (h : part = c :: more) :
    ∃ more', joined close (part :: parts) = c :: more' := by
  subst h
  cases parts with
  | nil => exact ⟨_, rfl⟩
  | cons => exact ⟨_, rfl⟩

/-- Behind an opening bracket stand the items of a list, unless it is closed at once. -/
theorem readValue_bracket {c : Char} (h : c ∉ nonOpening) (more : List Char) :
    readValue (fuel + 1) ('[' :: c :: more) =
      (readItems fuel (c :: more)).map fun part ↦ (Json.list part.1, part.2) := by
  rw [readValue, skipBlank_cons (by decide)]
  simp only [skipBlank_cons h]
  split
  · next heq =>
    rw [(List.cons.inj heq).1] at h
    exact absurd (by decide) h
  · rfl

theorem readValue_brace (more : List Char) :
    readValue (fuel + 1) ('\x7b' :: '"' :: more) =
      (readMembers fuel ('"' :: more)).map fun part ↦ (Json.object part.1, part.2) := by
  have hquote : '"' ∉ nonOpening := by decide
  rw [readValue, skipBlank_cons (by decide)]
  simp only [skipBlank_cons hquote]
  rfl

/-- **A list is read back item by item.** -/
theorem Rereads.list {items items' : List Json} (h : List.Forall₂ Rereads items items') :
    (Json.list items).Rereads (Json.list items') where
  opens := ⟨'[', _, written_list items, by decide⟩
  reads {fuel rest} hfuel _ := by
    rw [written_list] at hfuel ⊢
    simp only [List.length_cons] at hfuel
    obtain ⟨fuel, rfl⟩ : ∃ n, fuel = n + 1 := ⟨fuel - 1, by omega⟩
    cases h with
    | nil => rfl
    | @cons item _ more _ hitem hmore =>
      obtain ⟨c, tail, hwritten, hopening⟩ := hitem.opens
      obtain ⟨tail', hjoined⟩ : ∃ tail', joined ']' ((item :: more).map written) = c :: tail' :=
        head_joined hwritten
      have hitems : readItems fuel (joined ']' ((item :: more).map written) ++ rest) =
          some (_, rest) :=
        readItems_joined (.cons hitem hmore) (List.cons_ne_nil _ _) (by omega)
      rw [hjoined] at hitems ⊢
      rw [List.cons_append, List.cons_append, readValue_bracket hopening,
        ← List.cons_append, hitems]
      rfl

/-- **An object is read back member by member.** -/
theorem Rereads.obj {members members' : List (String × Json)}
    (h : List.Forall₂ RereadsMember members members') :
    (Json.obj members).Rereads (Json.obj members') where
  opens := ⟨'\x7b', _, written_obj members, by decide⟩
  reads {fuel rest} hfuel _ := by
    rw [written_obj] at hfuel ⊢
    simp only [List.length_cons] at hfuel
    obtain ⟨fuel, rfl⟩ : ∃ n, fuel = n + 1 := ⟨fuel - 1, by omega⟩
    cases h with
    | nil => rfl
    | @cons m _ more _ hm hmore =>
      have hwritten : writtenMember m =
          '"' :: (m.1.toList.flatMap escape ++ '"' :: ':' :: m.2.written) := by
        simp [writtenMember, written_str]
      obtain ⟨tail, hjoined⟩ :
          ∃ tail, joined '\x7d' ((m :: more).map writtenMember) = '"' :: tail :=
        head_joined hwritten
      have hmembers : readMembers fuel (joined '\x7d' ((m :: more).map writtenMember) ++ rest) =
          some (_, rest) :=
        readMembers_joined (.cons hm hmore) (List.cons_ne_nil _ _) (by omega)
      rw [hjoined] at hmembers ⊢
      rw [List.cons_append, List.cons_append, readValue_brace, ← List.cons_append, hmembers]
      rfl

/-- What is written and read alike in all its items is read as itself. -/
theorem rereads_list_self {items : List Json} (h : ∀ item ∈ items, item.Rereads item) :
    (list items).Rereads (list items) :=
  .list (List.forall₂_same.2 h)

/-- If the value of each member is read back as itself, the object is. -/
theorem rereads_obj_self {members : List (String × Json)} (h : ∀ m ∈ members, m.2.Rereads m.2) :
    (obj members).Rereads (obj members) :=
  .obj (List.forall₂_same.2 fun m hm ↦ ⟨rfl, h m hm⟩)

/-! ### Floats -/

/-- Is the printed decimal of a float read as that float? -/
def ReadsBack (x : Float) : Prop := (Json.read? (float x).render).bind float? = some x

instance (x : Float) : Decidable (ReadsBack x) :=
  inferInstanceAs (Decidable (_ = _))

/-- A character that numbers are written with. -/
def IsNumeric (c : Char) : Prop := Text.isDigit c = true ∨ c ∈ ['.', 'e', '+', '-']

/-- Whatever its style, a decimal is written with digits, a point, the letter of a power and signs.
-/
theorem isNumeric_of_mem_render {style : Decimal.Style} {d : Decimal} {c : Char}
    (h : c ∈ (d.render style).toList) : IsNumeric c := by
  have hpower : ∀ n, ∀ c ∈ Nat.toDigits 10 n, IsNumeric c :=
    fun _ _ hc ↦ .inl (Text.isDigit_of_mem_toDigits hc)
  have hdigits : ∀ c ∈ d.digits, IsNumeric c := hpower _
  have htake : ∀ n, ∀ c ∈ d.digits.take n, IsNumeric c :=
    fun _ c hc ↦ hdigits c (List.mem_of_mem_take hc)
  have hdrop : ∀ n, ∀ c ∈ d.digits.drop n, IsNumeric c :=
    fun _ c hc ↦ hdigits c (List.mem_of_mem_drop hc)
  have hzeros : ∀ n, ∀ c ∈ List.replicate n '0', IsNumeric c := by
    intro n c hc
    rw [(List.mem_replicate.1 hc).2]
    exact .inl rfl
  have hzero : IsNumeric '0' := .inl rfl
  have hsigns : ∀ c ∈ ['.', 'e', '+', '-'], IsNumeric c := fun _ ↦ .inr
  -- Each layout consists of the parts above, so there is a case for each of its pieces.
  rw [Decimal.render, String.toList_ofList] at h
  grind

theorem IsNumeric.not_mem {c : Char} (h : IsNumeric c) : c ∉ nonOpening := by
  have hnone : ∀ x ∈ nonOpening, Text.isDigit x = false ∧ x ∉ ['.', 'e', '+', '-'] := by
    simp [nonOpening, Text.isDigit]
  intro hmem
  obtain ⟨hdigit, hsign⟩ := hnone c hmem
  rcases h with h | h
  · rw [hdigit] at h
    cases h
  · exact hsign h

/-- There is no blank in the text of a float. -/
theorem not_mem_of_mem_float {x : Float} {c : Char} (h : c ∈ (float x).written) :
    c ∉ nonOpening := by
  rw [float] at h
  split at h
  · exact (isNumeric_of_mem_render h).not_mem
  · have hnull : ∀ c ∈ ['n', 'u', 'l', 'l'], c ∉ nonOpening := by simp [nonOpening]
    exact hnull c h

theorem skipBlank_eq_self (h : ∀ c ∈ cs, c ∉ nonOpening) : skipBlank cs = cs := by
  cases cs with
  | nil => rfl
  | cons c more => exact skipBlank_cons (h c List.mem_cons_self) more

/-- **A float that reads back alone reads back everywhere.** -/
theorem rereads_float {x : Float} (h : ReadsBack x) :
    ∃ j, (float x).Rereads j ∧ j.float? = some x := by
  obtain ⟨j, hread, hfloat⟩ := Option.bind_eq_some_iff.1 h
  refine ⟨j, .of_readNumber ?_, hfloat⟩
  rw [Json.read?] at hread
  split at hread
  · next value left hvalue =>
    split at hread
    · next hblank =>
      obtain rfl := Option.some.inj hread
      have hnumber : readNumber (float x).written = some (value, left) := by
        have hskipped : readNumber (skipBlank (float x).written) = some (value, left) :=
          readNumber_of_readValue hvalue hfloat
        rwa [skipBlank_eq_self fun c ↦ not_mem_of_mem_float (x := x)] at hskipped
      have hleft : ∀ c ∈ left, c ∉ nonOpening :=
        fun c hc ↦ not_mem_of_mem_float ((suffix_of_readNumber hnumber).subset hc)
      rw [skipBlank_eq_self hleft] at hblank
      rwa [hblank] at hnumber
    · cases hread
  · cases hread

end SensorCluster.Json
