import MFiWrapper.Frontend.Keyboard

/-!
# The state packet of the iCade and the keys that are held

Every field of the packet was written by the last key that writes it.  For a button
that is the last key of its control, so the field says whether the control is held.
The directions of an axis share a field: the last key of the axis decides, also
when it lets go of one direction while the other is held.
-/

namespace MFiWrapper
namespace Frontend

open Library

/-! ## The last key -/

/-- The most recent key of some controls; the keys come most recent first. -/
def lastKey (among : ICade8BittySym → Bool) (keys : List ICadeKey) : Option ICadeKey :=
  keys.find? fun key => among key.button

/-- The press key of the control came after its release key. -/
def Held (keys : List ICadeKey) (control : ICade8BittySym) : Prop :=
  (lastKey (· = control) keys).any (!·.up) = true

instance (keys : List ICadeKey) (control : ICade8BittySym) : Decidable (Held keys control) :=
  inferInstanceAs (Decidable (_ = _))

/-- What the keys make of the packet. -/
def shown (keys : List ICadeKey) : MFiWInputStatePacket ℚ := keys.foldr ICadeKey.assign .zero

/-- The keys among the calls, most recent first. -/
def keysOf (calls : List ICadeCall) : List ICadeKey := (calls.filterMap ICadeCall.key).reverse

/-- The two directions of an axis. -/
structure DPadAxis where
  negative : ICade8BittySym
  positive : ICade8BittySym
  distinct : negative ≠ positive

def DPadAxis.x : DPadAxis := ⟨.left, .right, by decide⟩

def DPadAxis.y : DPadAxis := ⟨.up, .down, by decide⟩

def DPadAxis.among (axis : DPadAxis) (control : ICade8BittySym) : Bool :=
  control = axis.negative || control = axis.positive

/-- The value is that of the direction that is held; nothing is said of both. -/
structure DPadAxis.Tracks (axis : DPadAxis) (keys : List ICadeKey) (value : ℚ) : Prop where
  negative : Held keys axis.negative → ¬ Held keys axis.positive → value = -1
  positive : Held keys axis.positive → ¬ Held keys axis.negative → value = 1
  neither : ¬ Held keys axis.negative → ¬ Held keys axis.positive → value = 0

/-- The packet tells which controls are held. -/
structure TracksHeld (keys : List ICadeKey) (state : MFiWInputStatePacket ℚ) : Prop where
  a : state.a = if Held keys .lwLf then 1 else 0
  b : state.b = if Held keys .lwRt then 1 else 0
  x : state.x = if Held keys .upLf then 1 else 0
  y : state.y = if Held keys .upRt then 1 else 0
  leftShoulder : state.leftShoulder = if Held keys .l1 then 1 else 0
  rightShoulder : state.rightShoulder = if Held keys .r1 then 1 else 0
  dPadX : DPadAxis.x.Tracks keys state.dPadX
  dPadY : DPadAxis.y.Tracks keys state.dPadY
  others : state.leftStickX = 0 ∧ state.leftStickY = 0 ∧ state.rightStickX = 0 ∧
    state.rightStickY = 0 ∧ state.leftTrigger = 0 ∧ state.rightTrigger = 0 ∧
    state.select = 0 ∧ state.start = 0 ∧ state.leftStickButton = 0 ∧ state.rightStickButton = 0

/-- The last key of the axis did not let go of one direction while the other is held. -/
def DPadAxis.Settled (axis : DPadAxis) (keys : List ICadeKey) : Prop :=
  ∀ key, lastKey axis.among keys = some key → key.up = true →
    ¬ Held keys axis.negative ∧ ¬ Held keys axis.positive

variable {keys : List ICadeKey}

theorem lastKey_cons (among : ICade8BittySym → Bool) (key : ICadeKey) (keys : List ICadeKey) :
    lastKey among (key :: keys) = if among key.button then some key else lastKey among keys := by
  rw [lastKey, List.find?_cons]
  cases among key.button
  · rfl
  · rfl

theorem held_cons (key : ICadeKey) (keys : List ICadeKey) (control : ICade8BittySym) :
    Held (key :: keys) control ↔
      if key.button = control then key.up = false else Held keys control := by
  rw [Held, lastKey_cons]
  by_cases hControl : key.button = control
  · simp [hControl]
  · simp [hControl, Held]

/-- The last key of several controls is the last one of its own. -/
theorem lastKey_own {among : ICade8BittySym → Bool} {key : ICadeKey}
    (hLast : lastKey among keys = some key) : lastKey (· = key.button) keys = some key := by
  obtain ⟨hAmong, before, after, rfl, hBefore⟩ := List.find?_eq_some_iff_append.mp hLast
  refine List.find?_eq_some_iff_append.mpr ⟨by simp, before, after, rfl, fun other hMem => ?_⟩
  have hOther := hBefore other hMem
  simp only [Bool.not_eq_true', decide_eq_false_iff_not]
  intro hSame
  rw [hSame, hAmong] at hOther
  cases hOther

theorem held_iff_of_last {among : ICade8BittySym → Bool} {key : ICadeKey}
    (hLast : lastKey among keys = some key) : Held keys key.button ↔ key.up = false := by
  rw [Held, lastKey_own hLast]
  simp

theorem not_held_of_none {among : ICade8BittySym → Bool} {control : ICade8BittySym}
    (hAmong : among control = true) (hNone : lastKey among keys = none) :
    ¬ Held keys control := by
  have hOwn : lastKey (· = control) keys = none := by
    refine List.find?_eq_none.mpr fun key hMem hSame => ?_
    obtain rfl := of_decide_eq_true hSame
    exact List.find?_eq_none.mp hNone key hMem hAmong
  rw [Held, hOwn]
  simp

/-! ## The fields -/

/-- A field that is written by the keys of one control. -/
theorem shown_button {field : MFiWInputStatePacket ℚ → ℚ} {control : ICade8BittySym}
    (hZero : field .zero = 0)
    (hWrites : ∀ key state, field (ICadeKey.assign key state) =
      if key.button = control then key.check 1 else field state) (keys : List ICadeKey) :
    field (shown keys) = if Held keys control then 1 else 0 := by
  induction keys with
  | nil => exact hZero
  | cons key keys ih =>
      show field (key.assign (shown keys)) = _
      rw [hWrites, if_congr (held_cons key keys control) rfl rfl]
      by_cases hControl : key.button = control
      · simp only [if_pos hControl, ICadeKey.check]
        cases key.up
        · rfl
        · rfl
      · simp only [if_neg hControl]
        exact ih

/-- A field that no key writes. -/
theorem shown_unwritten {field : MFiWInputStatePacket ℚ → ℚ} (hZero : field .zero = 0)
    (hKeeps : ∀ key state, field (ICadeKey.assign key state) = field state)
    (keys : List ICadeKey) : field (shown keys) = 0 := by
  induction keys with
  | nil => exact hZero
  | cons key keys ih => exact (hKeeps key (shown keys)).trans ih

theorem DPadAxis.among_iff {axis : DPadAxis} {control : ICade8BittySym} :
    axis.among control = true ↔ control = axis.negative ∨ control = axis.positive := by
  simp [among]

/-- The value that the last key of an axis leaves. -/
def DPadAxis.valueAfter (axis : DPadAxis) : Option ICadeKey → ℚ
  | none => 0
  | some key => if key.button = axis.negative then key.check (-1) else key.check 1

/-- A field that is written by the keys of two directions. -/
theorem shown_axis {field : MFiWInputStatePacket ℚ → ℚ} (axis : DPadAxis)
    (hZero : field .zero = 0)
    (hWrites : ∀ key state, field (ICadeKey.assign key state) =
      if key.button = axis.negative then key.check (-1)
      else if key.button = axis.positive then key.check 1 else field state)
    (keys : List ICadeKey) :
    field (shown keys) = axis.valueAfter (lastKey axis.among keys) := by
  induction keys with
  | nil => exact hZero
  | cons key keys ih =>
      show field (key.assign (shown keys)) = _
      rw [hWrites, lastKey_cons]
      by_cases hNegative : key.button = axis.negative
      · have hAmong : axis.among key.button = true := DPadAxis.among_iff.mpr (.inl hNegative)
        rw [if_pos hNegative, if_pos hAmong, DPadAxis.valueAfter, if_pos hNegative]
      · by_cases hPositive : key.button = axis.positive
        · have hAmong : axis.among key.button = true := DPadAxis.among_iff.mpr (.inr hPositive)
          rw [if_neg hNegative, if_pos hPositive, if_pos hAmong, DPadAxis.valueAfter,
            if_neg hNegative]
        · have hAmong : ¬ axis.among key.button = true := by
            simp [DPadAxis.among, hNegative, hPositive]
          rw [if_neg hNegative, if_neg hPositive, if_neg hAmong]
          exact ih

theorem DPadAxis.last_among {axis : DPadAxis} {key : ICadeKey}
    (hLast : lastKey axis.among keys = some key) :
    key.button = axis.negative ∨ key.button = axis.positive := by
  have hAmong := List.find?_some hLast
  exact among_iff.mp hAmong

/-- After a press its direction is held and the value is that of the direction. -/
theorem DPadAxis.tracks_press {axis : DPadAxis} {key : ICadeKey}
    (hLast : lastKey axis.among keys = some key) (hPress : key.up = false) :
    axis.Tracks keys (axis.valueAfter (some key)) := by
  have hOwn : Held keys key.button := (held_iff_of_last hLast).mpr hPress
  rcases last_among hLast with hButton | hButton
  · rw [valueAfter, if_pos hButton, ICadeKey.check, hPress]
    rw [hButton] at hOwn
    exact ⟨fun _ _ => rfl, fun _ hNot => absurd hOwn hNot, fun hNot => absurd hOwn hNot⟩
  · have hOther : ¬ key.button = axis.negative := fun hSame =>
      axis.distinct (hSame.symm.trans hButton)
    rw [valueAfter, if_neg hOther, ICadeKey.check, hPress]
    rw [hButton] at hOwn
    exact ⟨fun _ hNot => absurd hOwn hNot, fun _ _ => rfl, fun _ hNot => absurd hOwn hNot⟩

/-- A release leaves 0, which is right if the other direction is not held either. -/
theorem DPadAxis.tracks_release_iff {axis : DPadAxis} {key : ICadeKey}
    (hLast : lastKey axis.among keys = some key) (hRelease : key.up = true) :
    axis.Tracks keys (axis.valueAfter (some key)) ↔
      ¬ Held keys axis.negative ∧ ¬ Held keys axis.positive := by
  have hZero : axis.valueAfter (some key) = 0 := by
    rw [valueAfter, ICadeKey.check, ICadeKey.check, hRelease]
    exact ite_self 0
  have hNotOwn : ¬ Held keys key.button := by
    rw [held_iff_of_last hLast, hRelease]
    exact Bool.noConfusion
  have hNotBoth : ¬ (Held keys axis.negative ∧ Held keys axis.positive) := by
    rintro ⟨hNegative, hPositive⟩
    rcases last_among hLast with hButton | hButton
    · exact hNotOwn (hButton ▸ hNegative)
    · exact hNotOwn (hButton ▸ hPositive)
  rw [hZero]
  constructor
  · intro hTracks
    refine ⟨fun hHeld => ?_, fun hHeld => ?_⟩
    · exact absurd (hTracks.negative hHeld fun hOther => hNotBoth ⟨hHeld, hOther⟩) (by norm_num)
    · exact absurd (hTracks.positive hHeld fun hOther => hNotBoth ⟨hOther, hHeld⟩) (by norm_num)
  · rintro ⟨hNot, hNot'⟩
    exact ⟨fun hHeld => absurd hHeld hNot, fun hHeld => absurd hHeld hNot', fun _ _ => rfl⟩

/-- The last key of an axis decides, so its value is right if that is a press, or if
nothing else is held. -/
theorem DPadAxis.tracks_iff_settled (axis : DPadAxis) (keys : List ICadeKey) :
    axis.Tracks keys (axis.valueAfter (lastKey axis.among keys)) ↔ axis.Settled keys := by
  cases hLast : lastKey axis.among keys with
  | none =>
      have hNegative := not_held_of_none (among_iff.mpr (.inl rfl)) hLast
      have hPositive := not_held_of_none (among_iff.mpr (.inr rfl)) hLast
      refine iff_of_true ⟨fun hHeld => absurd hHeld hNegative,
        fun hHeld => absurd hHeld hPositive, fun _ _ => rfl⟩ fun key hKey => ?_
      rw [hLast] at hKey
      cases hKey
  | some key =>
      have hSettled : axis.Settled keys ↔
          (key.up = true → ¬ Held keys axis.negative ∧ ¬ Held keys axis.positive) := by
        simp [Settled, hLast]
      rw [hSettled]
      cases hUp : key.up with
      | false => exact iff_of_true (tracks_press hLast hUp) fun hAbsurd => nomatch hAbsurd
      | true =>
          rw [tracks_release_iff hLast hUp]
          exact ⟨fun hNone _ => hNone, fun hNone => hNone rfl⟩

/-- The packet tells which controls are held exactly if both axes are settled. -/
theorem tracksHeld_shown_iff (keys : List ICadeKey) :
    TracksHeld keys (shown keys) ↔ DPadAxis.x.Settled keys ∧ DPadAxis.y.Settled keys := by
  have hX : (shown keys).dPadX = DPadAxis.x.valueAfter (lastKey DPadAxis.x.among keys) :=
    shown_axis DPadAxis.x rfl (by rintro ⟨up, button⟩ state; cases button <;> rfl) keys
  have hY : (shown keys).dPadY = DPadAxis.y.valueAfter (lastKey DPadAxis.y.among keys) :=
    shown_axis DPadAxis.y rfl (by rintro ⟨up, button⟩ state; cases button <;> rfl) keys
  rw [← DPadAxis.tracks_iff_settled, ← DPadAxis.tracks_iff_settled, ← hX, ← hY]
  refine ⟨fun hTracks => ⟨hTracks.dPadX, hTracks.dPadY⟩, fun hAxes => ?_⟩
  constructor
  · exact shown_button rfl (by rintro ⟨up, button⟩ state; cases button <;> rfl) keys
  · exact shown_button rfl (by rintro ⟨up, button⟩ state; cases button <;> rfl) keys
  · exact shown_button rfl (by rintro ⟨up, button⟩ state; cases button <;> rfl) keys
  · exact shown_button rfl (by rintro ⟨up, button⟩ state; cases button <;> rfl) keys
  · exact shown_button rfl (by rintro ⟨up, button⟩ state; cases button <;> rfl) keys
  · exact shown_button rfl (by rintro ⟨up, button⟩ state; cases button <;> rfl) keys
  · exact hAxes.1
  · exact hAxes.2
  · refine ⟨?_, ?_, ?_, ?_, ?_, ?_, ?_, ?_, ?_, ?_⟩ <;>
      exact shown_unwritten rfl (by rintro ⟨up, button⟩ state; cases button <;> rfl) keys

/-! ## Runs -/

/-- In every run the packet is what the keys make of it. -/
theorem run_shown (calls : List ICadeCall) :
    ∃ after, run ICade.step ICade.initial calls = some after ∧
      after.frontend.Sound ∧ after.state = shown (keysOf calls) := by
  induction calls using List.reverseRecOn with
  | nil =>
      exact ⟨_, rfl, ⟨fun ref hRef => (nomatch hRef), fun tweak hMem => (nomatch hMem)⟩, rfl⟩
  | append_singleton calls call ih =>
      obtain ⟨iCade, hRun, hSound, hState⟩ := ih
      obtain ⟨after, hStep, hSound', hState'⟩ := ICade.step_completes hSound call
      refine ⟨after, ?_, hSound', ?_⟩
      · rw [run_append, hRun]
        exact (run_singleton _ _ _).trans hStep
      · rw [hState', hState, keysOf, keysOf, List.filterMap_append, List.reverse_append]
        cases hKey : call.key with
        | none => simp [hKey]
        | some key =>
            simp only [List.filterMap_cons, hKey, List.filterMap_nil, List.reverse_singleton]
            rfl

/-- After every sequence of key events, with any other calls between them, the state
packet tells which controls are held if and only if on neither axis the last key let
go of one direction while the other was held. -/
theorem iCade_tracks_iff (calls : List ICadeCall) :
    ∃ after, run ICade.step ICade.initial calls = some after ∧
      (TracksHeld (keysOf calls) after.state ↔
        DPadAxis.x.Settled (keysOf calls) ∧ DPadAxis.y.Settled (keysOf calls)) := by
  obtain ⟨after, hRun, -, hState⟩ := run_shown calls
  exact ⟨after, hRun, hState ▸ tracksHeld_shown_iff (keysOf calls)⟩

/-- LEFT goes down, then RIGHT, then LEFT comes up. -/
def rollOver : List ICadeCall :=
  [.event true 0x04, .event true 0x07, .event true 0x14]

/-- RIGHT is held, but the packet has 0. -/
theorem iCade_loses_right :
    ∃ after, run ICade.step ICade.initial rollOver = some after ∧
      ¬ TracksHeld (keysOf rollOver) after.state := by
  obtain ⟨after, hRun, -, hState⟩ := run_shown rollOver
  refine ⟨after, hRun, fun hTracks => ?_⟩
  rw [hState, tracksHeld_shown_iff] at hTracks
  exact absurd (hTracks.1 ⟨true, .left⟩ (by decide) rfl).2 (by decide)

end Frontend
end MFiWrapper
