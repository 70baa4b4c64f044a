import Mathlib.Order.Bounds.Basic
import MFiWrapper.Backend.HIDPad

/-!
# Automatic calibration of a stick axis

Two drivers calibrate their sticks while they are used: the first raw value
fixes the dead zone and an initial outer range, every value widens the outer
range, and the reading is taken under the calibration so updated.  They differ
in the widths and in the place where they remember that an axis was seen.  What
a calibration period then guarantees is stated and proved here for any widths.
-/

namespace MFiWrapper
namespace HIDPad

/-- The stick axes of an input state. -/
inductive StickAxis
  | leftX | leftY | rightX | rightY
  deriving DecidableEq

end HIDPad

open HIDPad in
def MFiWInputStatePacket.stick {α : Type} (packet : MFiWInputStatePacket α) : StickAxis → α
  | .leftX => packet.leftStickX
  | .leftY => packet.leftStickY
  | .rightX => packet.rightStickX
  | .rightY => packet.rightStickY

namespace HIDPad

/-- A report a driver has accepted: the raw stick positions in it and the input
states sent in answer to it. -/
structure AcceptedReport where
  raw : StickAxis → Int
  sent : List (MFiWInputStatePacket ℚ)

/-! ## The update of a calibration -/

namespace Calibration

/-- The calibration around a first raw value. -/
def around (raw dead outer : Int) : Calibration :=
  ⟨raw - outer, raw - dead, raw + dead, raw + outer⟩

/-- The outer range is widened to contain a raw value. -/
def widen (c : Calibration) (raw : Int) : Calibration :=
  { c with c0 := min c.c0 raw, c3 := max c.c3 raw }

/-- The update made by every raw value. -/
def update (dead outer : Int) (initialized : Bool) (c : Calibration) (raw : Int) :
    Calibration :=
  (if !initialized then around raw dead outer else c).widen raw

end Calibration

/-! ## Calibration periods -/

/-- What holds of one axis after the reports `first :: later` of a period. -/
structure AxisCalibrated (dead outer : Int) (axis : StickAxis) (first : AcceptedReport)
    (later : List AcceptedReport) (c : Calibration) : Prop where
  valid : c.Valid
  low : c.c1 = first.raw axis - dead
  high : c.c2 = first.raw axis + dead
  least : IsLeast (insert (first.raw axis - outer)
    {x | ∃ report ∈ first :: later, report.raw axis = x}) c.c0
  greatest : IsGreatest (insert (first.raw axis + outer)
    {x | ∃ report ∈ first :: later, report.raw axis = x}) c.c3
  /-- Every report was answered by one input state, with a value in range. -/
  emitted : ∀ report ∈ first :: later,
    ∃ packet, report.sent = [packet] ∧ |packet.stick axis| ≤ 1
  /-- The same raw value never gives a larger value later. -/
  shrinking : (first :: later).Pairwise fun earlier later =>
    earlier.raw axis = later.raw axis →
      ∀ p ∈ earlier.sent, ∀ q ∈ later.sent, |q.stick axis| ≤ |p.stick axis|

/-- The calibration of all axes after a period, which is empty until the first
report is accepted. -/
def AutoCalibrated (dead outer : Int) (period : List AcceptedReport)
    (calibration : StickAxis → Calibration) : Prop :=
  ∀ first later, period = first :: later →
    ∀ axis, AxisCalibrated dead outer axis first later (calibration axis)

/-- The invariant of one axis: beyond `AxisCalibrated`, what was sent for a raw
value is at least what the present calibration makes of it. -/
def AxisTracked (dead outer : Int) (axis : StickAxis) :
    List AcceptedReport → Bool → Calibration → Prop
  | [], initialized, _ => initialized = false
  | first :: later, initialized, c =>
      initialized = true ∧ AxisCalibrated dead outer axis first later c ∧
        ∀ report ∈ first :: later, ∀ p ∈ report.sent,
          |c.reading (report.raw axis)| ≤ |p.stick axis|

section Updates

variable {dead outer : Int} {axis : StickAxis} {initialized : Bool} {c : Calibration}
  {period : List AcceptedReport} {report : AcceptedReport}
  {packet : MFiWInputStatePacket ℚ}

theorem Calibration.around_widen (hDead : 0 ≤ dead) (hOuter : dead < outer) (raw : Int) :
    (Calibration.around raw dead outer).widen raw = .around raw dead outer := by
  have hLow : min (raw - outer) raw = raw - outer := by omega
  have hHigh : max (raw + outer) raw = raw + outer := by omega
  simp only [Calibration.widen, Calibration.around, hLow, hHigh]

theorem Calibration.around_valid (hDead : 0 ≤ dead) (hOuter : dead < outer) (raw : Int) :
    (Calibration.around raw dead outer).Valid := by
  simp only [Calibration.Valid, Calibration.around]
  omega

theorem Calibration.widen_valid (hValid : c.Valid) (raw : Int) : (c.widen raw).Valid := by
  simp only [Calibration.Valid, Calibration.widen] at hValid ⊢
  omega

/-- A raw value seen in the period is inside the outer range. -/
theorem AxisCalibrated.in_range {first : AcceptedReport} {later : List AcceptedReport}
    (hAxis : AxisCalibrated dead outer axis first later c) {seen : AcceptedReport}
    (hSeen : seen ∈ first :: later) : c.c0 ≤ seen.raw axis ∧ seen.raw axis ≤ c.c3 :=
  ⟨hAxis.least.2 (.inr ⟨seen, hSeen, rfl⟩), hAxis.greatest.2 (.inr ⟨seen, hSeen, rfl⟩)⟩

/-- The raw values after one more report. -/
theorem insert_raw (bound : Int) (first : AcceptedReport) (later : List AcceptedReport) :
    (insert bound {x | ∃ r ∈ first :: (later ++ [report]), r.raw axis = x} : Set Int) =
      insert (report.raw axis)
        (insert bound {x | ∃ r ∈ first :: later, r.raw axis = x}) := by
  ext x
  simp only [Set.mem_insert_iff, Set.mem_ofPred_eq, List.mem_cons, List.mem_append,
    List.not_mem_nil, or_false]
  constructor
  · rintro (rfl | ⟨r, hFirst | hLater | rfl, rfl⟩)
    · exact .inr (.inl rfl)
    · exact .inr (.inr ⟨r, .inl hFirst, rfl⟩)
    · exact .inr (.inr ⟨r, .inr hLater, rfl⟩)
    · exact .inl rfl
  · rintro (rfl | rfl | ⟨r, hFirst | hLater, rfl⟩)
    · exact .inr ⟨report, .inr (.inr rfl), rfl⟩
    · exact .inl rfl
    · exact .inr ⟨r, .inl hFirst, rfl⟩
    · exact .inr ⟨r, .inr (.inl hLater), rfl⟩

theorem AxisTracked.update_valid (hDead : 0 ≤ dead) (hOuter : dead < outer)
    (hTracked : AxisTracked dead outer axis period initialized c) (raw : Int) :
    (c.update dead outer initialized raw).Valid := by
  cases period with
  | nil =>
      obtain rfl : initialized = false := hTracked
      exact Calibration.widen_valid (Calibration.around_valid hDead hOuter raw) raw
  | cons first later =>
      obtain ⟨rfl, hAxis, -⟩ := hTracked
      exact Calibration.widen_valid hAxis.valid raw

theorem axisCalibrated_first (hDead : 0 ≤ dead) (hOuter : dead < outer)
    (hSent : report.sent = [packet]) (hRange : |packet.stick axis| ≤ 1) :
    AxisCalibrated dead outer axis report [] (.around (report.raw axis) dead outer) where
  valid := Calibration.around_valid hDead hOuter _
  low := rfl
  high := rfl
  least := by
    refine ⟨.inl rfl, ?_⟩
    rintro x (rfl | ⟨r, hr, rfl⟩)
    · exact le_rfl
    · obtain rfl := List.mem_singleton.mp hr
      show r.raw axis - outer ≤ r.raw axis
      omega
  greatest := by
    refine ⟨.inl rfl, ?_⟩
    rintro x (rfl | ⟨r, hr, rfl⟩)
    · exact le_rfl
    · obtain rfl := List.mem_singleton.mp hr
      show r.raw axis ≤ r.raw axis + outer
      omega
  emitted := by
    intro r hr
    obtain rfl := List.mem_singleton.mp hr
    exact ⟨packet, hSent, hRange⟩
  shrinking := List.pairwise_singleton _ _

/-- Widening shrinks the reading of every value of the period. -/
theorem AxisCalibrated.reading_widen {first : AcceptedReport} {later : List AcceptedReport}
    (hAxis : AxisCalibrated dead outer axis first later c) {seen : AcceptedReport}
    (hSeen : seen ∈ first :: later) (raw : Int) :
    |(c.widen raw).reading (seen.raw axis)| ≤ |c.reading (seen.raw axis)| := by
  obtain ⟨hLow, hHigh⟩ := hAxis.in_range hSeen
  apply abs_reading_widen
  · rfl
  · rfl
  · exact min_le_left _ _
  · exact le_max_left _ _
  · exact hLow
  · exact hHigh

/-- One more report of a period; `hShrunk` compares it with the earlier ones. -/
theorem AxisCalibrated.accept {first : AcceptedReport} {later : List AcceptedReport}
    (hAxis : AxisCalibrated dead outer axis first later c)
    (hSent : report.sent = [packet]) (hRange : |packet.stick axis| ≤ 1)
    (hShrunk : ∀ seen ∈ first :: later, seen.raw axis = report.raw axis →
      ∀ p ∈ seen.sent, |packet.stick axis| ≤ |p.stick axis|) :
    AxisCalibrated dead outer axis first (later ++ [report])
      (c.widen (report.raw axis)) where
  valid := Calibration.widen_valid hAxis.valid _
  low := hAxis.low
  high := hAxis.high
  least := by
    rw [insert_raw]
    have hLeast := hAxis.least.insert (report.raw axis)
    rwa [min_comm] at hLeast
  greatest := by
    rw [insert_raw]
    have hGreatest := hAxis.greatest.insert (report.raw axis)
    rwa [max_comm] at hGreatest
  emitted := by
    intro r hr
    rw [← List.cons_append, List.mem_append, List.mem_singleton] at hr
    rcases hr with hr | rfl
    · exact hAxis.emitted r hr
    · exact ⟨packet, hSent, hRange⟩
  shrinking := by
    rw [← List.cons_append, List.pairwise_append]
    refine ⟨hAxis.shrinking, List.pairwise_singleton _ _, ?_⟩
    intro seen hSeen r hr hRaw p hp q hq
    obtain rfl := List.mem_singleton.mp hr
    rw [hSent] at hq
    obtain rfl := List.mem_singleton.mp hq
    exact hShrunk seen hSeen hRaw p hp

/-- Accepting a report: the calibration is updated with its raw value, and the
packet sent carries the reading under the updated calibration. -/
theorem AxisTracked.accept (hDead : 0 ≤ dead) (hOuter : dead < outer)
    (hTracked : AxisTracked dead outer axis period initialized c)
    (hSent : report.sent = [packet])
    (hValue : packet.stick axis =
      (c.update dead outer initialized (report.raw axis)).reading (report.raw axis)) :
    AxisTracked dead outer axis (period ++ [report]) true
      (c.update dead outer initialized (report.raw axis)) := by
  have hRange : |packet.stick axis| ≤ 1 := hValue ▸ abs_reading_le_one _ _
  have hOnly {p : MFiWInputStatePacket ℚ} (hp : p ∈ report.sent) : p = packet := by
    rw [hSent] at hp
    exact List.mem_singleton.mp hp
  cases period with
  | nil =>
      obtain rfl : initialized = false := hTracked
      have hUpdate : c.update dead outer false (report.raw axis) =
          .around (report.raw axis) dead outer :=
        Calibration.around_widen hDead hOuter _
      rw [hUpdate] at hValue ⊢
      refine ⟨rfl, axisCalibrated_first hDead hOuter hSent hRange, fun r hr p hp => ?_⟩
      obtain rfl := List.mem_singleton.mp hr
      rw [hOnly hp, hValue]
  | cons first later =>
      obtain ⟨rfl, hAxis, hRemembered⟩ := hTracked
      change _ = (c.widen (report.raw axis)).reading (report.raw axis) at hValue
      -- what was sent before is at least the reading under the widened calibration
      have hShrunk : ∀ seen ∈ first :: later, ∀ p ∈ seen.sent,
          |(c.widen (report.raw axis)).reading (seen.raw axis)| ≤ |p.stick axis| := by
        intro seen hSeen p hp
        calc |(c.widen (report.raw axis)).reading (seen.raw axis)|
            ≤ |c.reading (seen.raw axis)| := hAxis.reading_widen hSeen _
          _ ≤ |p.stick axis| := hRemembered seen hSeen p hp
      refine ⟨rfl, hAxis.accept hSent hRange fun seen hSeen hRaw p hp => ?_, ?_⟩
      · rw [hValue, ← hRaw]
        have hOld := hShrunk seen hSeen p hp
        rwa [← hRaw] at hOld
      · intro r hr p hp
        replace hr : r ∈ (first :: later) ++ [report] := hr
        rw [List.mem_append, List.mem_singleton] at hr
        rcases hr with hr | rfl
        · exact hShrunk r hr p hp
        · rw [hOnly hp, hValue]
          rfl

theorem autoCalibrated_of_tracked {calibration : StickAxis → Calibration}
    {flags : StickAxis → Bool}
    (hTracked : ∀ axis, AxisTracked dead outer axis period (flags axis) (calibration axis)) :
    AutoCalibrated dead outer period calibration := by
  rintro first later rfl axis
  exact (hTracked axis).2.1

end Updates

end HIDPad
end MFiWrapper
