import MFiWrapper.Frontend.ReceivedPackets

/-!
# Change notifications

When the handlers of an element are called, in terms of the packet before and the
packet now.  Values are floats as they arrive: `!=` does not tell the zeros apart and
tells a NaN from itself, so what is stored need not be what the last packet had.
-/

namespace MFiWrapper
namespace Frontend

open Library

/-! ## Floats -/

namespace Single

theorem ne_iff {x y : Single} : Scalar.ne x y ↔ x.IsNaN ∨ y.IsNaN ∨ x.rank ≠ y.rank := Iff.rfl

theorem lt_iff {x y : Single} : x < y ↔ ¬ x.IsNaN ∧ ¬ y.IsNaN ∧ x.rank < y.rank := Iff.rfl

/-- `==`. -/
theorem not_ne_iff {x y : Single} :
    ¬ Scalar.ne x y ↔ ¬ x.IsNaN ∧ ¬ y.IsNaN ∧ x.rank = y.rank := by
  rw [ne_iff, not_or, not_or, not_not]

theorem ne_swap {x y : Single} : Scalar.ne x y ↔ Scalar.ne y x := by
  rw [ne_iff, ne_iff, or_left_comm, ne_comm]

theorem not_ne_self {x : Single} (hNumber : ¬ x.IsNaN) : ¬ Scalar.ne x x :=
  not_ne_iff.mpr ⟨hNumber, hNumber, rfl⟩

theorem zero_rank : (0 : Single).rank = 0 := by decide

theorem zero_number : ¬ (0 : Single).IsNaN := by decide

theorem magnitude_magnitude (x : Single) : (⟨x.magnitude⟩ : Single).magnitude = x.magnitude := by
  rw [magnitude, magnitude, UInt32.and_assoc, UInt32.and_self]

/-- `fabsf` of a negative number. -/
theorem fabsf_rank (x : Single) : (Scalar.fabsf x).rank = x.magnitude.toNat := by
  show (⟨x.magnitude⟩ : Single).rank = _
  rw [rank, magnitude_magnitude, if_pos rfl]

theorem fabsf_isNaN {x : Single} : (Scalar.fabsf x).IsNaN ↔ x.IsNaN := by
  show (⟨x.magnitude⟩ : Single).magnitude > _ ↔ _
  rw [magnitude_magnitude]
  exact Iff.rfl

theorem magnitude_of_neg {x : Single} (hNegative : x.rank < 0) :
    (x.magnitude.toNat : Int) = -x.rank := by
  unfold rank at hNegative ⊢
  split_ifs at hNegative ⊢
  · omega
  · omega

end Single

/-! ## What a packet makes of a value -/

section Due

variable {α : Type}

/-- The calls of the handler of a part. -/
def callsOf (part : Part) (calls : List (Part × HandlerCall α)) : List (HandlerCall α) :=
  (calls.filter (·.1 = part)).map Prod.snd

theorem callsOf_append (part : Part) (first second : List (Part × HandlerCall α)) :
    callsOf part (first ++ second) = callsOf part first ++ callsOf part second := by
  rw [callsOf, List.filter_append, List.map_append, callsOf, callsOf]

theorem callsOf_map (part other : Part) (calls : List (HandlerCall α)) :
    callsOf part (calls.map (other, ·)) = if other = part then calls else [] := by
  unfold callsOf
  split_ifs with hSame
  · rw [List.filter_eq_self.mpr (by simp [hSame]), List.map_map]
    exact List.map_id calls
  · rw [List.filter_eq_nil_iff.mpr (by simp [hSame])]
    rfl

variable [Scalar α]

/-- The value of the left and upper buttons of a pad. -/
def negativePart (value : α) : α := if value < 0 then Scalar.fabsf value else 0

/-- The value of the right and lower buttons of a pad. -/
def positivePart (value : α) : α := if value > 0 then value else 0

/-- Which parts of an element have a `valueChangedHandler`. -/
def GCControllerElement.handlerSet : GCControllerElement α → Part → Bool
  | .button input, .self => input.valueChangedHandler
  | .button _, _ => false
  | .directionPad pad, .self => pad.valueChangedHandler
  | .directionPad pad, .xAxis => pad.xAxis.valueChangedHandler
  | .directionPad pad, .yAxis => pad.yAxis.valueChangedHandler
  | .directionPad pad, .up => pad.up.valueChangedHandler
  | .directionPad pad, .down => pad.down.valueChangedHandler
  | .directionPad pad, .left => pad.left.valueChangedHandler
  | .directionPad pad, .right => pad.right.valueChangedHandler

/-- The application sets or clears the handler of a part. -/
def GCControllerElement.setHandler (part : Part) (isSet : Bool) :
    GCControllerElement α → GCControllerElement α
  | .button input =>
      match part with
      | .self => .button { input with valueChangedHandler := isSet }
      | _ => .button input
  | .directionPad pad =>
      match part with
      | .self => .directionPad { pad with valueChangedHandler := isSet }
      | .xAxis =>
          .directionPad { pad with xAxis := { pad.xAxis with valueChangedHandler := isSet } }
      | .yAxis =>
          .directionPad { pad with yAxis := { pad.yAxis with valueChangedHandler := isSet } }
      | .up => .directionPad { pad with up := { pad.up with valueChangedHandler := isSet } }
      | .down => .directionPad { pad with down := { pad.down with valueChangedHandler := isSet } }
      | .left => .directionPad { pad with left := { pad.left with valueChangedHandler := isSet } }
      | .right => .directionPad { pad with right := { pad.right with valueChangedHandler := isSet } }

/-- One call, if there is a handler and the value changes. -/
def callIf (isSet : Bool) (changes : Prop) [Decidable changes] (call : HandlerCall α) :
    List (HandlerCall α) := if isSet = true ∧ changes then [call] else []

/-- The call of a button's handler for its new value, with the flag for that value. -/
def buttonDue (isSet : Bool) (before now : α) : List (HandlerCall α) :=
  callIf isSet (Scalar.ne now before) (.button now (decide (now > Scalar.threshold)))

def axisDue (isSet : Bool) (before now : α) : List (HandlerCall α) :=
  callIf isSet (Scalar.ne now before) (.axis now)

/-- The calls that are due when an element had some values and has others now: one for
each part with a handler whose value changes. -/
def due (isSet : Part → Bool) : List α → List α → Part → List (HandlerCall α)
  | [before], [now], .self => buttonDue (isSet .self) before now
  | [x₀, y₀], [x, y], part =>
      match part with
      | .self => callIf (isSet .self) (Scalar.ne x x₀ ∨ Scalar.ne y y₀) (.directionPad x y)
      | .xAxis => axisDue (isSet .xAxis) x₀ x
      | .yAxis => axisDue (isSet .yAxis) y₀ y
      | .left => buttonDue (isSet .left) (negativePart x₀) (negativePart x)
      | .right => buttonDue (isSet .right) (positivePart x₀) (positivePart x)
      | .up => buttonDue (isSet .up) (negativePart y₀) (negativePart y)
      | .down => buttonDue (isSet .down) (positivePart y₀) (positivePart y)
  | _, _, _ => []

omit [Scalar α] in
theorem callIf_unchanged (isSet : Bool) {changes : Prop} [Decidable changes]
    (call : HandlerCall α) (hSame : ¬ changes) : callIf isSet changes call = [] :=
  if_neg fun hDue => hSame hDue.2

omit [Scalar α] in
theorem callIf_changed (isSet : Bool) {changes : Prop} [Decidable changes]
    (call : HandlerCall α) (hChanges : changes) :
    callIf isSet changes call = if isSet then [call] else [] :=
  if_congr (and_iff_left hChanges) rfl rfl

end Due

/-! ## What is stored -/

/-- The value that is stored for one that was received: that value, or another that
`!=` does not tell from it. -/
def StoredFor (stored received : Single) : Prop :=
  stored = received ∨ ¬ Scalar.ne stored received

theorem StoredFor.ne_iff {stored received : Single} (hStored : StoredFor stored received)
    (now : Single) : Scalar.ne now stored ↔ Scalar.ne now received := by
  rcases hStored with rfl | hSame
  · exact Iff.rfl
  · obtain ⟨hNumber, hNumber', hRank⟩ := Single.not_ne_iff.mp hSame
    rw [Single.ne_iff, Single.ne_iff, hRank]
    simp only [hNumber, hNumber', false_or]

theorem StoredFor.unchanged {stored received now : Single} (hStored : StoredFor stored received)
    (hSame : ¬ Scalar.ne now received) : StoredFor stored now :=
  .inr (mt Single.ne_swap.mp (mt (hStored.ne_iff now).mp hSame))

/-- A value that is set is another than the one stored if and only if it is another than the
one received last; if it is not, what is stored will do for it. -/
theorem StoredFor.changes_or {stored received : Single} (hStored : StoredFor stored received)
    (now : Single) : (Scalar.ne now stored ∧ Scalar.ne now received) ∨
      (¬ Scalar.ne now stored ∧ ¬ Scalar.ne now received ∧ StoredFor stored now) := by
  by_cases hChanges : Scalar.ne now stored
  · exact .inl ⟨hChanges, (hStored.ne_iff now).mp hChanges⟩
  · exact .inr ⟨hChanges, mt (hStored.ne_iff now).mpr hChanges,
      .inr (mt Single.ne_swap.mp hChanges)⟩

/-- Values that are not told apart have parts that are not. -/
theorem parts_congr {x y : Single} (hSame : ¬ Scalar.ne x y) :
    ¬ Scalar.ne (negativePart x) (negativePart y) ∧
      ¬ Scalar.ne (positivePart x) (positivePart y) := by
  obtain ⟨hx, hy, hRank⟩ := Single.not_ne_iff.mp hSame
  have hNegative (z : Single) (hz : ¬ z.IsNaN) : z < 0 ↔ z.rank < 0 := by
    rw [Single.lt_iff, Single.zero_rank]
    simp [hz, Single.zero_number]
  have hPositive (z : Single) (hz : ¬ z.IsNaN) : z > 0 ↔ 0 < z.rank := by
    rw [gt_iff_lt, Single.lt_iff, Single.zero_rank]
    simp [hz, Single.zero_number]
  constructor
  · unfold negativePart
    rw [if_congr (hNegative x hx) rfl rfl, if_congr (hNegative y hy) rfl rfl, hRank]
    split_ifs with hBelow
    · refine Single.not_ne_iff.mpr ⟨mt Single.fabsf_isNaN.mp hx, mt Single.fabsf_isNaN.mp hy, ?_⟩
      rw [Single.fabsf_rank, Single.fabsf_rank, Single.magnitude_of_neg hBelow,
        Single.magnitude_of_neg (hRank ▸ hBelow), hRank]
    · exact Single.not_ne_self Single.zero_number
  · unfold positivePart
    rw [if_congr (hPositive x hx) rfl rfl, if_congr (hPositive y hy) rfl rfl, hRank]
    split_ifs
    · exact hSame
    · exact Single.not_ne_self Single.zero_number

/-- The element stores the values of the packet. -/
def GCControllerElement.Stores : GCControllerElement Single → List Single → Prop
  | .button input, [value] => StoredFor input.value value
  | .directionPad pad, [x, y] =>
      StoredFor pad.xAxis.value x ∧ StoredFor pad.yAxis.value y ∧
        StoredFor pad.left.value (negativePart x) ∧ StoredFor pad.right.value (positivePart x) ∧
        StoredFor pad.up.value (negativePart y) ∧ StoredFor pad.down.value (positivePart y)
  | _, _ => False

/-- A button is called for a change of its value. -/
theorem GCControllerButtonInput.tweakSetValue_due {input : GCControllerButtonInput Single}
    {before : Single} (hStored : StoredFor input.value before) (now : Single) :
    StoredFor (input.tweakSetValue now).1.value now ∧
      (input.tweakSetValue now).2 = buttonDue input.valueChangedHandler before now := by
  rcases hStored.changes_or now with ⟨hChanges, hDue⟩ | ⟨hSame, hNotDue, hStored'⟩
  · rw [tweakSetValue, if_pos hChanges]
    exact ⟨.inl rfl, (callIf_changed _ _ hDue).symm⟩
  · rw [tweakSetValue, if_neg hSame]
    exact ⟨hStored', (callIf_unchanged _ _ hNotDue).symm⟩

theorem GCControllerAxisInput.tweakSetValue_due {input : GCControllerAxisInput Single}
    {before : Single} (hStored : StoredFor input.value before) (now : Single) :
    StoredFor (input.tweakSetValue now).1.value now ∧
      (input.tweakSetValue now).2 = axisDue input.valueChangedHandler before now := by
  rcases hStored.changes_or now with ⟨hChanges, hDue⟩ | ⟨hSame, hNotDue, hStored'⟩
  · rw [tweakSetValue, if_pos hChanges]
    exact ⟨.inl rfl, (callIf_changed _ _ hDue).symm⟩
  · rw [tweakSetValue, if_neg hSame]
    exact ⟨hStored', (callIf_unchanged _ _ hNotDue).symm⟩

section Pad

variable {pad : GCControllerDirectionPad Single} {x₀ y₀ : Single}

/-- No call is due to a pad whose coordinates do not change. -/
theorem due_pad_unchanged (isSet : Part → Bool) {x y : Single} (hSameX : ¬ Scalar.ne x x₀)
    (hSameY : ¬ Scalar.ne y y₀) (part : Part) : due isSet [x₀, y₀] [x, y] part = [] := by
  obtain ⟨hNegativeX, hPositiveX⟩ := parts_congr hSameX
  obtain ⟨hNegativeY, hPositiveY⟩ := parts_congr hSameY
  cases part with
  | self => exact callIf_unchanged _ _ (not_or.mpr ⟨hSameX, hSameY⟩)
  | xAxis => exact callIf_unchanged _ _ hSameX
  | yAxis => exact callIf_unchanged _ _ hSameY
  | up => exact callIf_unchanged _ _ hNegativeY
  | down => exact callIf_unchanged _ _ hPositiveY
  | left => exact callIf_unchanged _ _ hNegativeX
  | right => exact callIf_unchanged _ _ hPositiveX

/-- The early return of `tweakSetValues:`: the parts are still those of the coordinates. -/
theorem GCControllerDirectionPad.stores_unchanged
    (hStores : (GCControllerElement.directionPad pad).Stores [x₀, y₀]) {x y : Single}
    (hSameX : ¬ Scalar.ne x x₀) (hSameY : ¬ Scalar.ne y y₀) :
    (GCControllerElement.directionPad pad).Stores [x, y] := by
  obtain ⟨hX, hY, hLeft, hRight, hUp, hDown⟩ := hStores
  obtain ⟨hNegativeX, hPositiveX⟩ := parts_congr hSameX
  obtain ⟨hNegativeY, hPositiveY⟩ := parts_congr hSameY
  exact ⟨hX.unchanged hSameX, hY.unchanged hSameY, hLeft.unchanged hNegativeX,
    hRight.unchanged hPositiveX, hUp.unchanged hNegativeY, hDown.unchanged hPositiveY⟩

/-- `tweakSetValues:` of a direction pad: what is stored follows the coordinates, and each
part gives the calls that are due. -/
theorem GCControllerDirectionPad.tweakSetValues_due
    (hStores : (GCControllerElement.directionPad pad).Stores [x₀, y₀]) (x y : Single) :
    (GCControllerElement.directionPad (pad.tweakSetValues x y).1).Stores [x, y] ∧
      ∀ part, callsOf part (pad.tweakSetValues x y).2 =
        due (GCControllerElement.directionPad pad).handlerSet [x₀, y₀] [x, y] part := by
  have hStores' := hStores
  obtain ⟨hX, hY, hLeft, hRight, hUp, hDown⟩ := hStores
  have hChangesX : Scalar.ne pad.xAxis.value x ↔ Scalar.ne x x₀ :=
    Single.ne_swap.trans (hX.ne_iff x)
  have hChangesY : Scalar.ne pad.yAxis.value y ↔ Scalar.ne y y₀ :=
    Single.ne_swap.trans (hY.ne_iff y)
  unfold tweakSetValues
  by_cases hEarly : ¬ Scalar.ne pad.xAxis.value x ∧ ¬ Scalar.ne pad.yAxis.value y
  · have hSameX := mt hChangesX.mpr hEarly.1
    have hSameY := mt hChangesY.mpr hEarly.2
    rw [if_pos hEarly]
    exact ⟨stores_unchanged hStores' hSameX hSameY,
      fun part => (due_pad_unchanged _ hSameX hSameY part).symm⟩
  · rw [if_neg hEarly]
    obtain ⟨hX', hXCalls⟩ := GCControllerAxisInput.tweakSetValue_due hX x
    obtain ⟨hY', hYCalls⟩ := GCControllerAxisInput.tweakSetValue_due hY y
    obtain ⟨hLeft', hLeftCalls⟩ :=
      GCControllerButtonInput.tweakSetValue_due hLeft (negativePart x)
    obtain ⟨hRight', hRightCalls⟩ :=
      GCControllerButtonInput.tweakSetValue_due hRight (positivePart x)
    obtain ⟨hUp', hUpCalls⟩ := GCControllerButtonInput.tweakSetValue_due hUp (negativePart y)
    obtain ⟨hDown', hDownCalls⟩ :=
      GCControllerButtonInput.tweakSetValue_due hDown (positivePart y)
    refine ⟨⟨hX', hY', hLeft', hRight', hUp', hDown'⟩, fun part => ?_⟩
    have hChanges : Scalar.ne x x₀ ∨ Scalar.ne y y₀ := by
      rw [← hChangesX, ← hChangesY]
      exact (not_and_or.mp hEarly).imp not_not.mp not_not.mp
    -- the pad's own call, in the form of the calls of its parts
    have hSelf : (if pad.valueChangedHandler then
        [(Part.self, HandlerCall.directionPad x y)] else []) =
        (callIf pad.valueChangedHandler (Scalar.ne x x₀ ∨ Scalar.ne y y₀)
          (.directionPad x y)).map (Part.self, ·) := by
      rw [callIf_changed _ _ hChanges]
      cases pad.valueChangedHandler <;> rfl
    rw [hSelf]
    show callsOf part ((pad.xAxis.tweakSetValue x).2.map _ ++
      (pad.left.tweakSetValue (negativePart x)).2.map _ ++
      (pad.right.tweakSetValue (positivePart x)).2.map _ ++ (pad.yAxis.tweakSetValue y).2.map _ ++
      (pad.up.tweakSetValue (negativePart y)).2.map _ ++
      (pad.down.tweakSetValue (positivePart y)).2.map _ ++ _) = _
    simp only [callsOf_append, callsOf_map, hXCalls, hLeftCalls, hRightCalls, hYCalls, hUpCalls,
      hDownCalls]
    cases part <;> simp only [reduceCtorEq, if_false, if_true, List.append_nil, List.nil_append] <;>
      rfl

end Pad

/-- One element and its slice of the buffer. -/
theorem GCControllerElement.tweakSetValues_due {element : GCControllerElement Single}
    {before now : List Single} (hStores : element.Stores before)
    (hLength : now.length = before.length) (rest : List Single) :
    ∃ element' calls, element.tweakSetValues (now ++ rest) = some (element', now.length, calls) ∧
      element'.Stores now ∧ ∀ part, callsOf part calls = due element.handlerSet before now part := by
  cases element with
  | button input =>
      match before, hStores, now, hLength with
      | [before], hStored, [now], _ =>
          obtain ⟨hStored', hCalls⟩ := GCControllerButtonInput.tweakSetValue_due hStored now
          refine ⟨.button (input.tweakSetValue now).1,
            (input.tweakSetValue now).2.map (Part.self, ·), rfl, hStored', fun part => ?_⟩
          rw [callsOf_map, hCalls]
          cases part <;> rfl
  | directionPad pad =>
      match before, hStores, now, hLength with
      | [x₀, y₀], hStored, [x, y], _ =>
          obtain ⟨hStored', hCalls⟩ := GCControllerDirectionPad.tweakSetValues_due hStored x y
          exact ⟨.directionPad (pad.tweakSetValues x y).1, (pad.tweakSetValues x y).2, rfl,
            hStored', hCalls⟩

/-- The loop, element by element. -/
theorem updateElements_due {elements : List (GCControllerElement Single)}
    {before now : List (List Single)}
    (hStores : List.Forall₂ GCControllerElement.Stores elements before)
    (hLengths : now.map List.length = before.map List.length) :
    ∃ elements' calls, updateElements elements now.flatten = some (elements', [], calls) ∧
      List.Forall₂ GCControllerElement.Stores elements' now ∧
      ∀ (i : Nat) (element : GCControllerElement Single) (before' now' : List Single),
        elements[i]? = some element → before[i]? = some before' → now[i]? = some now' →
        ∃ elementCalls, calls[i]? = some elementCalls ∧
          ∀ part, callsOf part elementCalls = due element.handlerSet before' now' part := by
  induction hStores generalizing now with
  | nil =>
      obtain rfl : now = [] := List.map_eq_nil_iff.mp hLengths
      exact ⟨[], [], rfl, .nil, fun i element before' now' hElement => (nomatch hElement)⟩
  | @cons element before elements befores hStored _ ih =>
      obtain ⟨slice, now, rfl, hLength, hRest⟩ := List.map_eq_cons_iff.mp hLengths
      obtain ⟨element', calls, hSet, hStored', hCalls⟩ :=
        element.tweakSetValues_due hStored hLength now.flatten
      obtain ⟨elements', restCalls, hUpdate, hStores', hRestCalls⟩ := ih hRest
      refine ⟨element' :: elements', calls :: restCalls, ?_, .cons hStored' hStores', ?_⟩
      · rw [updateElements, List.flatten_cons, hSet]
        simp only [Option.bind_eq_bind, Option.bind_some, List.drop_left, hUpdate]
        rfl
      · intro i other before' now' hElement hBefore hNow
        cases i with
        | zero =>
            obtain rfl := Option.some.inj hElement
            obtain rfl := Option.some.inj hBefore
            obtain rfl := Option.some.inj hNow
            exact ⟨calls, rfl, hCalls⟩
        | succ i => exact hRestCalls i other before' now' hElement hBefore hNow

/-! ## Runs -/

/-- A packet arrives, or the application sets or clears a `valueChangedHandler`. -/
inductive ElementEvent
  | packet (data : MFiWInputStatePacket Single)
  | setHandler (control : MFiButtons) (part : Part) (isSet : Bool)

def GCController.onEvent (tweak : GCController Single) :
    ElementEvent → Option (GCController Single)
  | .packet data => (tweak.tweakUpdateButtons data).map Prod.fst
  | .setHandler control part isSet =>
      some { tweak with
        tweakElements := tweak.tweakElements.modify control.index (·.setHandler part isSet) }

/-- The last packet after the event. -/
def ElementEvent.last (last : MFiWInputStatePacket Single) :
    ElementEvent → MFiWInputStatePacket Single
  | .packet data => data
  | .setHandler _ _ _ => last

/-- The last packet of a run; all values are 0 at first. -/
def lastPacket (events : List ElementEvent) : MFiWInputStatePacket Single :=
  events.foldl ElementEvent.last .zero

/-- The elements store the packet. -/
def GCController.Stores (tweak : GCController Single) (data : MFiWInputStatePacket Single) :
    Prop :=
  List.Forall₂ GCControllerElement.Stores tweak.tweakElements (MFiButtons.all.map (fieldsOf data))

theorem fieldsOf_lengths (first second : MFiWInputStatePacket Single) :
    (MFiButtons.all.map (fieldsOf first)).map List.length =
      (MFiButtons.all.map (fieldsOf second)).map List.length := rfl

theorem controllerForHandle_stores (handle : UInt32) (data : MFiWConnectPacket) :
    (controllerForHandle handle data : GCController Single).Stores .zero := by
  have hZero : StoredFor (0 : Single) 0 := .inl rfl
  have hButton (control : MFiButtons) : (button data control).Stores [(0 : Single)] := hZero
  have hPad (control : MFiButtons) : (dpad data control).Stores [(0 : Single), 0] :=
    ⟨hZero, hZero, hZero, hZero, hZero, hZero⟩
  simp only [GCController.Stores, controllerForHandle, elementsFor, MFiButtons.all]
  exact .cons (hPad _) (.cons (hButton _) (.cons (hButton _) (.cons (hButton _) (.cons (hButton _)
    (.cons (hButton _) (.cons (hButton _) (.cons (hPad _) (.cons (hPad _) (.cons (hButton _)
    (.cons (hButton _) (.cons (hButton _) (.cons (hButton _) (.cons (hButton _)
    (.cons (hButton _) .nil))))))))))))))

/-- A handler does not touch what is stored. -/
theorem GCControllerElement.setHandler_stores {element : GCControllerElement Single}
    {values : List Single} (hStores : element.Stores values) (part : Part) (isSet : Bool) :
    (element.setHandler part isSet).Stores values := by
  cases element with
  | button input =>
      match values, hStores with
      | [value], hStored => cases part <;> exact hStored
  | directionPad pad =>
      match values, hStores with
      | [x, y], hStored => cases part <;> exact hStored

theorem forall₂_modify {β γ : Type} {R : β → γ → Prop} {f : β → β}
    (hKept : ∀ b c, R b c → R (f b) c) {bs : List β} {cs : List γ} (hAll : List.Forall₂ R bs cs)
    (i : Nat) : List.Forall₂ R (bs.modify i f) cs := by
  induction hAll generalizing i with
  | nil =>
      rw [List.modify_nil]
      exact .nil
  | cons hHead hTail ih =>
      cases i with
      | zero =>
          rw [List.modify_zero_cons]
          exact .cons (hKept _ _ hHead) hTail
      | succ i =>
          rw [List.modify_succ_cons]
          exact .cons hHead (ih i)

/-- One packet: what is stored follows it, and the calls are those that are due. -/
theorem GCController.Stores.tweakUpdateButtons {tweak : GCController Single}
    {before : MFiWInputStatePacket Single} (hStores : tweak.Stores before)
    (now : MFiWInputStatePacket Single) :
    ∃ tweak' calls, tweak.tweakUpdateButtons now = some (tweak', [], calls) ∧
      tweak'.Stores now ∧ ∀ control : MFiButtons, ∃ element elementCalls,
        tweak.tweakElements[control.index]? = some element ∧
        calls[control.index]? = some elementCalls ∧
        ∀ part, callsOf part elementCalls =
          due element.handlerSet (fieldsOf before control) (fieldsOf now control) part := by
  obtain ⟨elements, calls, hUpdate, hStores', hCalls⟩ :=
    updateElements_due hStores (fieldsOf_lengths now before)
  refine ⟨{ tweak with tweakElements := elements }, calls, ?_, hStores', fun control => ?_⟩
  · rw [GCController.tweakUpdateButtons, fields_eq, hUpdate]
    rfl
  · have hAt (data : MFiWInputStatePacket Single) :
        (MFiButtons.all.map (fieldsOf data))[control.index]? = some (fieldsOf data control) := by
      cases control <;> rfl
    have hInside : control.index < tweak.tweakElements.length := by
      rw [hStores.length_eq, List.length_map]
      cases control <;> decide
    obtain ⟨elementCalls, hElementCalls, hDue⟩ := hCalls control.index _ _ _
      (List.getElem?_eq_getElem hInside) (hAt before) (hAt now)
    exact ⟨_, elementCalls, List.getElem?_eq_getElem hInside, hElementCalls, hDue⟩

theorem GCController.Stores.onEvent {tweak : GCController Single}
    {data : MFiWInputStatePacket Single} (hStores : tweak.Stores data) (event : ElementEvent) :
    ∃ tweak', tweak.onEvent event = some tweak' ∧ tweak'.Stores (ElementEvent.last data event) := by
  cases event with
  | packet now =>
      obtain ⟨tweak', calls, hUpdate, hStores', -⟩ := hStores.tweakUpdateButtons now
      exact ⟨tweak', by rw [GCController.onEvent, hUpdate]; rfl, hStores'⟩
  | setHandler control part isSet =>
      exact ⟨_, rfl, forall₂_modify
        (fun _ _ hStored => GCControllerElement.setHandler_stores hStored part isSet) hStores _⟩

theorem GCController.Stores.run {tweak : GCController Single}
    {data : MFiWInputStatePacket Single} (hStores : tweak.Stores data)
    (events : List ElementEvent) :
    ∃ tweak', Library.run GCController.onEvent tweak events = some tweak' ∧
      tweak'.Stores (events.foldl ElementEvent.last data) := by
  induction events generalizing tweak data with
  | nil => exact ⟨tweak, rfl, hStores⟩
  | cons event events ih =>
      obtain ⟨tweak₁, hStep, hStores₁⟩ := hStores.onEvent event
      obtain ⟨tweak₂, hRun, hStores₂⟩ := ih hStores₁
      exact ⟨tweak₂, by rw [run_cons, hStep]; exact hRun, hStores₂⟩

/-! ## The same packet again -/

/-- Numbers are the same as themselves, and so are their parts. -/
theorem due_self (isSet : Part → Bool) {values : List Single}
    (hNumbers : ∀ value ∈ values, ¬ value.IsNaN) (part : Part) :
    due isSet values values part = [] := by
  match values, hNumbers with
  | [], _ => rfl
  | [value], hNumbers =>
      have hSame := Single.not_ne_self (hNumbers value (List.mem_singleton.mpr rfl))
      cases part with
      | self => exact callIf_unchanged _ _ hSame
      | xAxis | yAxis | up | down | left | right => rfl
  | [x, y], hNumbers =>
      exact due_pad_unchanged isSet (Single.not_ne_self (hNumbers x (by simp)))
        (Single.not_ne_self (hNumbers y (by simp))) part
  | _ :: _ :: _ :: _, _ => cases part <;> rfl

theorem eq_nil_of_callsOf {calls : List (Part × HandlerCall Single)}
    (hNone : ∀ part, callsOf part calls = []) : calls = [] := by
  refine List.eq_nil_iff_forall_not_mem.mpr fun call hCall => ?_
  have hMem : call.2 ∈ callsOf call.1 calls :=
    List.mem_map_of_mem (List.mem_filter.mpr ⟨hCall, decide_eq_true rfl⟩)
  rw [hNone] at hMem
  cases hMem

/-- After any packets, and whatever handlers have been set, a packet calls the handler of
each part that has one and whose value it changes, once and with the new value, and
no other; one that is the same as the last calls none for an element without NaNs. -/
theorem notified_exactly (handle : UInt32) (data : MFiWConnectPacket)
    (events : List ElementEvent) (state : MFiWInputStatePacket Single) :
    ∃ tweak tweak' calls,
      run GCController.onEvent (controllerForHandle handle data) events = some tweak ∧
      tweak.tweakUpdateButtons state = some (tweak', [], calls) ∧
      ∀ control : MFiButtons, ∃ element elementCalls,
        tweak.tweakElements[control.index]? = some element ∧
        calls[control.index]? = some elementCalls ∧
        (∀ part, callsOf part elementCalls = due element.handlerSet
          (fieldsOf (lastPacket events) control) (fieldsOf state control) part) ∧
        (lastPacket events = state → (∀ value ∈ fieldsOf state control, ¬ value.IsNaN) →
          elementCalls = []) := by
  obtain ⟨tweak, hRun, hStores⟩ := (controllerForHandle_stores handle data).run events
  obtain ⟨tweak', calls, hUpdate, -, hCalls⟩ := hStores.tweakUpdateButtons state
  refine ⟨tweak, tweak', calls, hRun, hUpdate, fun control => ?_⟩
  obtain ⟨element, elementCalls, hElement, hElementCalls, hDue⟩ := hCalls control
  refine ⟨element, elementCalls, hElement, hElementCalls, hDue, fun hSame hNumbers => ?_⟩
  refine eq_nil_of_callsOf fun part => ?_
  calc callsOf part elementCalls
      = due element.handlerSet (fieldsOf (lastPacket events) control)
          (fieldsOf state control) part := hDue part
    _ = [] := by rw [hSame, due_self _ hNumbers]

/-- A NaN for the A button comes twice, and its handler is called both times. -/
theorem notified_again :
    ¬ ∀ (handle : UInt32) (data : MFiWConnectPacket) (state : MFiWInputStatePacket Single),
      ∃ tweak tweak' calls,
        run GCController.onEvent (controllerForHandle handle data)
          [.setHandler .a .self true, .packet state] = some tweak ∧
        tweak.tweakUpdateButtons state = some (tweak', [], calls) ∧
        ∀ elementCalls ∈ calls, elementCalls = [] := by
  intro hAll
  let state : MFiWInputStatePacket Single := { (.zero : MFiWInputStatePacket Single) with
    a := ⟨0x7FC00000⟩ }
  have hSecond : ((run GCController.onEvent
      (controllerForHandle 5 ⟨Vector.replicate 256 0, mfiNormalElements, 0⟩)
      [.setHandler .a .self true, .packet state]).bind fun tweak =>
        (tweak.tweakUpdateButtons state).map fun result => result.2.2[1]?) =
      some (some [(.self, .button ⟨0x7FC00000⟩ false)]) := by decide +kernel
  obtain ⟨tweak, tweak', calls, hRun, hUpdate, hNone⟩ :=
    hAll 5 ⟨Vector.replicate 256 0, mfiNormalElements, 0⟩ state
  rw [hRun, Option.bind_some, hUpdate] at hSecond
  have hCalled : calls[1]? = some [(.self, .button ⟨0x7FC00000⟩ false)] :=
    Option.some.inj hSecond
  cases hNone _ (List.mem_of_getElem? hCalled)

end Frontend
end MFiWrapper
