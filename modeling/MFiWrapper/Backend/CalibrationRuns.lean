import MFiWrapper.Backend.HIDPadWiiMote
import MFiWrapper.Backend.HIDPadWiiUPro

/-!
# Automatic calibration over whole runs

The two drivers that calibrate their sticks do so correctly in every run: no
assertion about a calibration fails, and every calibration period has the
properties of `AutoCalibrated`, for the widths of the driver.
-/

namespace MFiWrapper

open Library HIDPad

/-- The calibrations of the classic controller. -/
def WiiMote.Trace.calibration (trace : WiiMote.Trace) (axis : StickAxis) : Calibration :=
  (WiiMote.axisOf trace.device.exp.classic axis).calibration

/-- In every run of the Wii Remote driver and of the Wii U Pro driver, whatever
the reports hold, every event is handled to the end and the axes are calibrated
by the reports accepted so far. -/
theorem autoCalibrated_runs :
    (∀ events, ∃ trace, WiiMote.Trace.after events = some trace ∧
      AutoCalibrated 2 3 trace.period trace.calibration) ∧
    (∀ memory events, ∃ trace,
      run WiiUPro.Trace.step (WiiUPro.Trace.start memory) events = some trace ∧
        AutoCalibrated 0x80 0x100 trace.period trace.device.calibration) := by
  constructor
  · intro events
    obtain ⟨trace, phase, hAfter, hInv⟩ := WiiMote.Trace.after_inv events
    exact ⟨trace, hAfter, autoCalibrated_of_tracked hInv.axes⟩
  · intro memory events
    obtain ⟨trace, hRun, hInv⟩ :=
      run_invariant (fun trace e hInv => WiiUPro.Trace.Inv.step hInv e)
        (WiiUPro.Trace.start_inv memory) events
    exact ⟨trace, hRun, autoCalibrated_of_tracked hInv⟩

/-- A stick of a Wii U Pro Controller is at 0x800, and then left of where its range began. -/
example : (run WiiUPro.Trace.step (WiiUPro.Trace.start fun _ => ⟨0, 0, 0, 0⟩)
    [.handlePacket (fun i => [0xA1, 0x34, 0, 0, 0, 8].getD i 0) 23,
      .handlePacket (fun i => [0xA1, 0x34, 0, 0, 0, 6].getD i 0) 23]).map (fun trace =>
        (trace.period.map fun report => report.raw .leftX, trace.device.calibration .leftX)) =
    some ([0x800, 0x600], ⟨0x600, 0x780, 0x880, 0x900⟩) := by decide +kernel

end MFiWrapper
