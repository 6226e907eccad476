import SensorCluster.Config
import Mathlib.Data.List.Nodup

/-!
# What a valid configuration promises

`Config.validate` looks for a first defect. That it finds none says something about every part of
the configuration, and that is what the rest of the cluster may rely on. **There is nothing else to
it**: a configuration of which all this can be said has no defect (`validate_eq_ok_iff`).
-/

namespace SensorCluster

/-- Nothing is less than what is no number. -/
theorem not_lt_of_isNaN {x : Float} (h : x.isNaN = true) (y : Float) : ¬y < x := by
  intro hlt
  have hless : y.toModel.unpack.lt x.toModel.unpack = true :=
    of_decide_eq_true (p := y.toModel < x.toModel) hlt
  have hnan : x.toModel.unpack.isNaN = true := h
  rw [Float.Model.UnpackedFloat.lt] at hless
  cases hx : x.toModel.unpack with
  | notANumber =>
    rw [hx] at hless
    cases hy : y.toModel.unpack <;> rw [hy] at hless <;> cases hless
  | _ =>
    rw [hx] at hnan
    cases hnan

namespace Config

/-- What a node can run with. -/
structure Valid (config : Config) : Prop where
  syncs : 0 < config.replication.syncInterval
  backs : 0 < config.replication.backupInterval
  recovers : 0 < config.replication.recoveryInterval
  checks : 0 < config.faultTolerance.healthCheckInterval
  balances : 0 < config.faultTolerance.loadBalanceInterval
  floor : 1 ≤ config.faultTolerance.minHealthyReceivers
  threshold : 0.0 < config.faultTolerance.imbalanceThreshold
  named : ∀ id ∈ config.ids, id ≠ ""
  distinct : config.ids.Nodup
  attempts : ∀ slot ∈ config.faultTolerance.backupPool, 1 ≤ slot.maxAttempts

/-- Ids without a defect are ids, distinct, and none of them was seen before. -/
theorem idDefect?_eq_none_iff {seen ids : List String} :
    idDefect? seen ids = none ↔ (∀ id ∈ ids, id ≠ "") ∧ ids.Nodup ∧ ∀ id ∈ ids, id ∉ seen := by
  induction ids generalizing seen with
  | nil => simp [idDefect?]
  | cons head rest ih =>
    rw [idDefect?]
    split
    · next hempty => simp [hempty]
    · next hnamed =>
      split
      · next hseen => simp [hseen]
      · next hnew =>
        rw [ih, List.forall_mem_cons, List.forall_mem_cons, List.nodup_cons]
        simp only [List.mem_cons, not_or]
        constructor
        · rintro ⟨hrest, hnodup, hother⟩
          exact ⟨⟨hnamed, hrest⟩, ⟨fun hmem ↦ (hother head hmem).1 rfl, hnodup⟩, hnew,
            fun id hid ↦ (hother id hid).2⟩
        · rintro ⟨⟨-, hrest⟩, ⟨hhead, hnodup⟩, -, hother⟩
          exact ⟨hrest, hnodup, fun id hid ↦ ⟨fun heq ↦ hhead (heq ▸ hid), hother id hid⟩⟩

/-- **A configuration has no defect when it is valid**, and only then. -/
theorem defect?_eq_none_iff {config : Config} : config.defect? = none ↔ config.Valid := by
  have hpos : ∀ n : UInt64, ¬n = 0 ↔ 0 < n := fun n ↦ UInt64.pos_iff_ne_zero.symm
  have hfloor : ∀ n : UInt64, 0 < n ↔ 1 ≤ n := fun n ↦ by
    rw [UInt64.lt_iff_toNat_lt, UInt64.le_iff_toNat_le]
    rfl
  have hattempts : ∀ n : UInt32, ¬n = 0 ↔ 1 ≤ n := fun n ↦ by
    rw [← Ne, ← UInt32.pos_iff_ne_zero, UInt32.lt_iff_toNat_lt, UInt32.le_iff_toNat_le]
    rfl
  rw [defect?]
  simp only [Option.orElse_eq_orElse, Option.orElse_eq_or, Option.or_eq_none_iff,
    Option.map_eq_none_iff, List.find?_eq_none, decide_eq_true_eq, ite_eq_right_iff,
    ite_eq_left_iff, reduceCtorEq, imp_false, not_not, idDefect?_eq_none_iff, intervals,
    List.forall_mem_cons, hpos, hattempts]
  constructor
  · rintro ⟨⟨hsync, hback, hrecover, hcheck, hbalance, -⟩, hmin, hthreshold,
      ⟨hnamed, hdistinct, -⟩, hslots⟩
    exact ⟨hsync, hback, hrecover, hcheck, hbalance, (hfloor _).1 hmin, hthreshold, hnamed,
      hdistinct, hslots⟩
  · rintro ⟨hsync, hback, hrecover, hcheck, hbalance, hmin, hthreshold, hnamed, hdistinct, hslots⟩
    exact ⟨⟨hsync, hback, hrecover, hcheck, hbalance, fun _ h ↦ absurd h List.not_mem_nil⟩,
      (hfloor _).2 hmin, hthreshold, ⟨hnamed, hdistinct, fun _ _ ↦ List.not_mem_nil⟩, hslots⟩

theorem validate_eq_ok_iff {config : Config} : config.validate = .ok () ↔ config.Valid := by
  rw [← defect?_eq_none_iff, validate]
  cases config.defect? <;> simp

/-- What is not valid is refused, with its first defect. -/
theorem validate_of_not_valid {config : Config} (h : ¬config.Valid) :
    ∃ defect, config.defect? = some defect ∧
      config.validate = .error (.invalidConfig defect.message) := by
  obtain ⟨defect, hdefect⟩ := Option.ne_none_iff_exists'.1 (mt defect?_eq_none_iff.1 h)
  refine ⟨defect, hdefect, ?_⟩
  rw [validate, hdefect]

/-- In a valid configuration the ids of all receivers and slots are distinct, and each slot may be
tried at least once. -/
theorem slots_of_validate {config : Config} (h : config.validate = .ok ()) :
    config.ids.Nodup ∧ ∀ slot ∈ config.faultTolerance.backupPool, 1 ≤ slot.maxAttempts :=
  ⟨(validate_eq_ok_iff.1 h).distinct, (validate_eq_ok_iff.1 h).attempts⟩

end Config

end SensorCluster
