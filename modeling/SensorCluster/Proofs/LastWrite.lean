import SensorCluster.Proofs.ArrivalOrder
import Mathlib.Data.List.MinMax

/-!
# The last write wins

An index is offered a stream of candidates, of one sensor and of others, and decides about each as
it comes. **Both its decisions and the record that it ends with can be read off the stream**
(`last_write_wins`). The record is the earliest of those candidates of the sensor that were written
last, by timestamp and then by clock. A candidate is stored when it was written after all earlier
ones of its sensor, so the conflicts are the candidates that are no strict left-to-right maxima.

## What it rests on

* Of all that was offered an index keeps one candidate for each sensor. `Remembers` says which one
  it is, and one more candidate leaves it so (`Remembers.own`).
* The decision about a candidate compares it with that one only. As all earlier candidates are no
  later than that one, this is as good as a comparison with all of them (`judged_resolve`).
* A stream may be thinned out to the candidates of one sensor (`applyAll_ofSensor`).
-/

namespace SensorCluster

namespace SensorRecord

variable {a b : SensorRecord}

/-- When a record was written: its timestamp, and its clock among records of one time. -/
def written (r : SensorRecord) : ℕ ×ₗ ℕ := toLex (r.timestamp.toNat, r.clock.toNat)

/-- The order of writing is the order of the timestamps, and of the clocks among equal timestamps.
-/
theorem written_lt_iff : a.written < b.written ↔
    a.timestamp < b.timestamp ∨ a.timestamp = b.timestamp ∧ a.clock < b.clock := by
  rw [written, written, Prod.Lex.toLex_lt_toLex, UInt64.lt_iff_toNat_lt, UInt64.lt_iff_toNat_lt,
    ← UInt64.toNat_inj]

theorem written_le_iff : a.written ≤ b.written ↔
    a.timestamp < b.timestamp ∨ a.timestamp = b.timestamp ∧ a.clock ≤ b.clock := by
  rw [written, written, Prod.Lex.toLex_le_toLex, UInt64.lt_iff_toNat_lt, UInt64.le_iff_toNat_le,
    ← UInt64.toNat_inj]

theorem timestamp_le_of_written_le (h : a.written ≤ b.written) : a.timestamp ≤ b.timestamp := by
  rcases written_le_iff.1 h with hlt | ⟨heq, -⟩
  · exact UInt64.le_of_lt hlt
  · rw [heq]
    exact UInt64.le_refl _

end SensorRecord

namespace RecordIndex

variable {i j : RecordIndex} {sensor : String} {earlier mine : List SensorRecord}
  {candidate : SensorRecord}

/-! ### Decisions -/

/-- **What becomes of a candidate** after the earlier ones of its sensor. -/
structure Judged (earlier : List SensorRecord) (candidate : SensorRecord) (answer : Resolution) :
    Prop where
  inserted_iff : answer = .inserted ↔ earlier = []
  replaced_iff : answer = .replaced ↔
    earlier ≠ [] ∧ ∀ e ∈ earlier, e.written < candidate.written
  /-- It is stale when its timestamp is below the largest one so far. -/
  stale_iff : answer = .discarded .stale ↔ ∃ e ∈ earlier, candidate.timestamp < e.timestamp
  /-- Its timestamp is the largest one so far, but at this time there is a clock that is no
  lower. -/
  lowerClock_iff : answer = .discarded .lowerClock ↔
    (∀ e ∈ earlier, e.timestamp ≤ candidate.timestamp) ∧
      ∃ e ∈ earlier, e.timestamp = candidate.timestamp ∧ candidate.clock ≤ e.clock

/-- A stored record makes way exactly for what was written after it. -/
theorem resolve_eq_replaced_iff {stored : SensorRecord} :
    resolve (some stored) candidate = .replaced ↔ stored.written < candidate.written := by
  rw [SensorRecord.written_lt_iff, resolve]
  grind

theorem resolve_eq_stale_iff {stored : SensorRecord} :
    resolve (some stored) candidate = .discarded .stale ↔
      candidate.timestamp < stored.timestamp := by
  rw [resolve]
  grind

/-- Among equal timestamps the clock decides, and a tie of both is decided for what is stored. -/
theorem resolve_eq_lowerClock_iff {stored : SensorRecord} :
    resolve (some stored) candidate = .discarded .lowerClock ↔
      stored.timestamp = candidate.timestamp ∧ candidate.clock ≤ stored.clock := by
  rw [resolve]
  grind

/-- **The latest of the earlier candidates stands for all of them**, the earliest one where several
tie. -/
theorem judged_resolve (earlier : List SensorRecord) (candidate : SensorRecord) :
    Judged earlier candidate (resolve (earlier.argmax SensorRecord.written) candidate) := by
  cases hlatest : earlier.argmax SensorRecord.written with
  | none =>
    obtain rfl := List.argmax_eq_none.1 hlatest
    constructor <;> simp [resolve]
  | some latest =>
    have hmem : latest ∈ earlier := List.argmax_mem hlatest
    have hle : ∀ e ∈ earlier, e.written ≤ latest.written :=
      fun e he ↦ List.le_of_mem_argmax he hlatest
    have htime : ∀ e ∈ earlier, e.timestamp ≤ latest.timestamp :=
      fun e he ↦ SensorRecord.timestamp_le_of_written_le (hle e he)
    refine ⟨?_, ?_, ?_, ?_⟩
    · have hkept : resolve (some latest) candidate ≠ .inserted := by
        rw [resolve]
        grind
      exact iff_of_false hkept (List.ne_nil_of_mem hmem)
    · rw [resolve_eq_replaced_iff]
      constructor
      · intro hlater
        exact ⟨List.ne_nil_of_mem hmem, fun e he ↦ (hle e he).trans_lt hlater⟩
      · rintro ⟨-, hlater⟩
        exact hlater latest hmem
    · rw [resolve_eq_stale_iff]
      constructor
      · intro hstale
        exact ⟨latest, hmem, hstale⟩
      · rintro ⟨e, he, hstale⟩
        exact UInt64.lt_of_lt_of_le hstale (htime e he)
    · rw [resolve_eq_lowerClock_iff]
      constructor
      · rintro ⟨hsame, hclock⟩
        exact ⟨fun e he ↦ hsame ▸ htime e he, latest, hmem, hsame, hclock⟩
      · rintro ⟨hlargest, e, he, hsame, hclock⟩
        have hlatest : latest.timestamp = e.timestamp :=
          UInt64.le_antisymm (hsame ▸ hlargest latest hmem) (htime e he)
        -- at one time the record that was written last has the highest clock
        rcases SensorRecord.written_le_iff.1 (hle e he) with hlt | ⟨-, hhigher⟩
        · exact absurd (hlatest ▸ hlt) (UInt64.lt_irrefl _)
        · exact ⟨hlatest.trans hsame, UInt64.le_trans hclock hhigher⟩

/-- A candidate is stored when it was written after all earlier ones. -/
theorem Judged.isConflict_iff {answer : Resolution} (h : Judged earlier candidate answer) :
    answer.isConflict = true ↔ ¬∀ e ∈ earlier, e.written < candidate.written := by
  cases answer with
  | inserted =>
    have hfirst : earlier = [] := h.inserted_iff.1 rfl
    simp [Resolution.isConflict, hfirst]
  | replaced =>
    have hlater := (h.replaced_iff.1 rfl).2
    exact iff_of_false Bool.false_ne_true (not_not_intro hlater)
  | discarded reason =>
    refine iff_of_true rfl fun hlater ↦ ?_
    by_cases hseen : earlier = []
    · cases h.inserted_iff.2 hseen
    · cases h.replaced_iff.2 ⟨hseen, hlater⟩

/-! ### Streams -/

/-- Offers candidates, one after the other; the answer is what becomes of each. -/
def applyAll (i : RecordIndex) : List SensorRecord → List Resolution × RecordIndex
  | [] => ([], i)
  | candidate :: rest =>
    let (answer, i) := i.apply candidate
    let (answers, i) := i.applyAll rest
    (answer :: answers, i)

/-- The candidates of a sensor. -/
def ofSensor (sensor : String) (candidates : List SensorRecord) : List SensorRecord :=
  candidates.filter (·.sensor = sensor)

/-- What became of the candidates of a sensor. -/
def answersOf (sensor : String) (candidates : List SensorRecord) (answers : List Resolution) :
    List Resolution :=
  ((candidates.zip answers).filter (·.1.sensor = sensor)).map (·.2)

/-- Those that were written after the given ones and after all before them: the strict left-to-right
maxima. -/
def maximaAfter (earlier : List SensorRecord) : List SensorRecord → List SensorRecord
  | [] => []
  | candidate :: rest =>
    if ∀ e ∈ earlier, e.written < candidate.written
    then candidate :: maximaAfter (earlier ++ [candidate]) rest
    else maximaAfter (earlier ++ [candidate]) rest

theorem applyAll_cons (i : RecordIndex) (candidate : SensorRecord) (rest : List SensorRecord) :
    i.applyAll (candidate :: rest) =
      ((i.apply candidate).1 :: ((i.apply candidate).2.applyAll rest).1,
        ((i.apply candidate).2.applyAll rest).2) := rfl

theorem ofSensor_cons_of_eq (h : candidate.sensor = sensor) (rest : List SensorRecord) :
    ofSensor sensor (candidate :: rest) = candidate :: ofSensor sensor rest :=
  List.filter_cons_of_pos (by simpa using h)

theorem ofSensor_cons_of_ne (h : candidate.sensor ≠ sensor) (rest : List SensorRecord) :
    ofSensor sensor (candidate :: rest) = ofSensor sensor rest :=
  List.filter_cons_of_neg (by simpa using h)

/-- Each candidate gets one answer. -/
theorem length_applyAll (i : RecordIndex) (candidates : List SensorRecord) :
    (i.applyAll candidates).1.length = candidates.length := by
  induction candidates generalizing i with
  | nil => rfl
  | cons candidate rest ih => exact congrArg (· + 1) (ih _)

/-- The answer at a place is that of the index at this place. -/
theorem getElem?_applyAll (i : RecordIndex) (front : List SensorRecord) (candidate : SensorRecord)
    (back : List SensorRecord) :
    (i.applyAll (front ++ candidate :: back)).1[front.length]? =
      some ((i.applyAll front).2.apply candidate).1 := by
  induction front generalizing i with
  | nil => rfl
  | cons first front ih => exact ih (i.apply first).2

/-- **Candidates of other sensors change nothing**: of what an index has for a sensor, and of what
becomes of its candidates, the candidates of that sensor decide alone. -/
theorem applyAll_ofSensor (h : i.get? sensor = j.get? sensor) (candidates : List SensorRecord) :
    answersOf sensor candidates (i.applyAll candidates).1 =
      (j.applyAll (ofSensor sensor candidates)).1 ∧
      (i.applyAll candidates).2.get? sensor =
        (j.applyAll (ofSensor sensor candidates)).2.get? sensor := by
  induction candidates generalizing i j with
  | nil => exact ⟨rfl, h⟩
  | cons candidate rest ih =>
    have hget : ∀ i : RecordIndex, (i.apply candidate).2.get? sensor =
        if sensor = candidate.sensor then latest (i.get? sensor) candidate else i.get? sensor :=
      fun i ↦ i.get?_apply_eq_latest candidate sensor
    rw [applyAll_cons]
    -- A candidate of this sensor is decided alike on both sides; one of another sensor is met on
    -- the left only, and leaves what is kept for this one.
    by_cases hsensor : candidate.sensor = sensor
    · have hanswer : (i.apply candidate).1 = (j.apply candidate).1 := by
        rw [apply, apply, hsensor, h]
      obtain ⟨hanswers, hrecord⟩ := ih (i := (i.apply candidate).2) (j := (j.apply candidate).2)
        (by rw [hget, hget, h])
      rw [ofSensor_cons_of_eq hsensor, applyAll_cons, ← hanswers, ← hanswer]
      exact ⟨by simp [answersOf, hsensor], hrecord⟩
    · obtain ⟨hanswers, hrecord⟩ := ih (i := (i.apply candidate).2) (j := j)
        (by rw [hget, if_neg (Ne.symm hsensor), h])
      rw [ofSensor_cons_of_ne hsensor, ← hanswers]
      exact ⟨by simp [answersOf, hsensor], hrecord⟩

/-! ### What an index remembers -/

/-- Of the earlier candidates of a sensor the index has the earliest of the latest. -/
def Remembers (i : RecordIndex) (sensor : String) (earlier : List SensorRecord) : Prop :=
  i.get? sensor = earlier.argmax SensorRecord.written

/-- The later one of what is latest so far and of a candidate is latest. -/
theorem latest_argmax (earlier : List SensorRecord) (candidate : SensorRecord) :
    latest (earlier.argmax SensorRecord.written) candidate =
      (earlier ++ [candidate]).argmax SensorRecord.written := by
  rw [List.argmax_concat]
  cases earlier.argmax SensorRecord.written with
  | none => exact latest_of_lt (WithBot.bot_lt_coe _)
  | some best =>
    have hrank : rank (some best) < rank (some candidate) ↔ best.written < candidate.written :=
      WithBot.coe_lt_coe
    simp only [latest, hrank]

namespace Remembers

/-- **One candidate more** of the sensor. -/
theorem own (h : i.Remembers sensor earlier) (hsensor : candidate.sensor = sensor) :
    (i.apply candidate).2.Remembers sensor (earlier ++ [candidate]) := by
  rw [Remembers, get?_apply_eq_latest, if_pos hsensor.symm, h, latest_argmax]

/-- One candidate more of another sensor. -/
theorem other (h : i.Remembers sensor earlier) (hsensor : candidate.sensor ≠ sensor) :
    (i.apply candidate).2.Remembers sensor earlier := by
  rw [Remembers, get?_apply_eq_latest, if_neg (Ne.symm hsensor), h]

/-- **A stream of candidates.** -/
theorem applyAll (h : i.Remembers sensor earlier) (candidates : List SensorRecord) :
    (i.applyAll candidates).2.Remembers sensor (earlier ++ ofSensor sensor candidates) := by
  induction candidates generalizing i earlier with
  | nil =>
    rw [ofSensor, List.filter_nil, List.append_nil]
    exact h
  | cons candidate rest ih =>
    by_cases hsensor : candidate.sensor = sensor
    · rw [ofSensor_cons_of_eq hsensor, List.append_cons]
      exact ih (h.own hsensor)
    · rw [ofSensor_cons_of_ne hsensor]
      exact ih (h.other hsensor)

/-- An index that remembers the earlier candidates of a sensor judges the next one rightly. -/
theorem judged (h : i.Remembers sensor earlier) (hsensor : candidate.sensor = sensor) :
    Judged earlier candidate (i.apply candidate).1 := by
  rw [RecordIndex.apply, hsensor, h]
  exact judged_resolve earlier candidate

/-- **Conflicts and strict left-to-right maxima** are all candidates of a sensor. -/
theorem conflicts_add_maxima (h : i.Remembers sensor earlier)
    (hmine : ∀ c ∈ mine, c.sensor = sensor) :
    (i.applyAll mine).1.countP Resolution.isConflict + (maximaAfter earlier mine).length =
      mine.length := by
  induction mine generalizing i earlier with
  | nil => rfl
  | cons candidate rest ih =>
    obtain ⟨hsensor, hrest⟩ := List.forall_mem_cons.1 hmine
    have hnext := ih (h.own hsensor) hrest
    have hconflict := (h.judged hsensor).isConflict_iff
    rw [applyAll_cons, List.countP_cons, maximaAfter, List.length_cons]
    by_cases hlater : ∀ e ∈ earlier, e.written < candidate.written
    · rw [if_neg (mt hconflict.1 (not_not_intro hlater)), if_pos hlater, List.length_cons]
      omega
    · rw [if_pos (hconflict.2 hlater), if_neg hlater]
      omega

end Remembers

/-- **The last write wins.** An index without a record of a sensor is offered a stream of
candidates, of this sensor and of others.

* In the end the record of the sensor is the earliest of those of its candidates that were written
  last.
* What becomes of a candidate is decided by the earlier ones of its sensor: the first is inserted,
  one that was written after all of them takes the place of the record, and others are discarded, by
  their timestamp or by their clock.
* The conflicts are as many as the candidates without the strict left-to-right maxima.
* Without the candidates of other sensors all this would be the same. -/
theorem last_write_wins (i : RecordIndex) (sensor : String) (hnone : i.get? sensor = none)
    (candidates : List SensorRecord) :
    let mine := ofSensor sensor candidates
    let answers := (i.applyAll candidates).1
    let i' := (i.applyAll candidates).2
    i'.get? sensor = mine.argmax SensorRecord.written ∧
    answers.length = candidates.length ∧
    (∀ front candidate back, candidates = front ++ candidate :: back → candidate.sensor = sensor →
      ∃ answer, answers[front.length]? = some answer ∧
        Judged (ofSensor sensor front) candidate answer) ∧
    (answersOf sensor candidates answers).countP Resolution.isConflict +
      (maximaAfter [] mine).length =
      mine.length ∧
    answersOf sensor candidates answers = (i.applyAll mine).1 ∧
    i'.get? sensor = (i.applyAll mine).2.get? sensor := by
  intro mine answers i'
  -- Nothing was stored of the sensor, which is the earliest of the latest of no candidates at all.
  have hstart : i.Remembers sensor [] := hnone
  obtain ⟨hanswers, hrecord⟩ := applyAll_ofSensor (rfl : i.get? sensor = i.get? sensor) candidates
  have hmine : ∀ c ∈ mine, c.sensor = sensor :=
    fun c hc ↦ of_decide_eq_true (List.mem_filter.1 hc).2
  refine ⟨hstart.applyAll candidates, i.length_applyAll candidates, ?_, ?_, hanswers, hrecord⟩
  · rintro front candidate back rfl hsensor
    exact ⟨_, i.getElem?_applyAll front candidate back, (hstart.applyAll front).judged hsensor⟩
  · rw [hanswers]
    exact hstart.conflicts_add_maxima hmine

/-- Six candidates of a sensor and one of another: a tie with an earlier clock, a stale one, and a
repetition of what is stored. -/
def mixedStream : List SensorRecord :=
  [⟨"s", 1.0, "t", 7, 2⟩, ⟨"s", 2.0, "t", 7, 1⟩, ⟨"u", 3.0, "t", 9, 9⟩, ⟨"s", 4.0, "t", 7, 3⟩,
    ⟨"s", 5.0, "t", 6, 8⟩, ⟨"s", 6.0, "t", 8, 1⟩, ⟨"s", 7.0, "t", 8, 1⟩]

/-- Three of the six are stored one after the other, and the last of these is the record in the end.
The one that repeats it is a conflict by its clock. -/
theorem last_write_wins_mixedStream :
    let i' := (empty.applyAll mixedStream).2
    (i'.get? "s").map (·.value) = some 6.0 ∧
      (empty.applyAll mixedStream).1[6]? = some (.discarded .lowerClock) ∧
      (answersOf "s" mixedStream
        (empty.applyAll mixedStream).1).countP Resolution.isConflict = 3 := by
  intro i'
  obtain ⟨hrecord, -, hjudged, hcount, -⟩ := last_write_wins empty "s" rfl mixedStream
  obtain ⟨answer, hanswer, hlast⟩ :=
    hjudged (mixedStream.take 6) ⟨"s", 7.0, "t", 8, 1⟩ [] rfl rfl
  have htie : answer = .discarded .lowerClock := hlast.lowerClock_iff.2 (by decide +kernel)
  have hmaxima : (maximaAfter [] (ofSensor "s" mixedStream)).length = 3 := by decide +kernel
  have hmine : (ofSensor "s" mixedStream).length = 6 := by decide +kernel
  refine ⟨?_, ?_, by omega⟩
  · rw [hrecord]
    rfl
  · rw [← htie]
    exact hanswer

end RecordIndex

end SensorCluster
