import Mathlib.Data.List.Infix
import Mathlib.Tactic.Basic

/-!
# Positions in a stream of frames

A stream is the concatenation of frames.  `locate` finds the frame that a
position lies in, together with the number of the frame's symbols before the
position; beyond the end of the stream there is none.
-/

namespace MFiWrapper
namespace Library

variable {φ α : Type*}

/-- The stream of the frames. -/
def stream (symbols : φ → List α) (frames : List φ) : List α := frames.flatMap symbols

/-- The frame being received after `n` symbols, and how many of its symbols have
been received. -/
def locate (symbols : φ → List α) : List φ → Nat → Option (φ × Nat)
  | [], _ => none
  | frame :: frames, n =>
      if n < (symbols frame).length then some (frame, n)
      else locate symbols frames (n - (symbols frame).length)

variable {symbols : φ → List α} {frames before after : List φ} {frame : φ} {n k : Nat}

@[simp] theorem stream_nil : stream symbols [] = [] := rfl

@[simp] theorem stream_cons :
    stream symbols (frame :: frames) = symbols frame ++ stream symbols frames := rfl

theorem stream_append :
    stream symbols (before ++ after) = stream symbols before ++ stream symbols after :=
  List.flatMap_append

/-- Another version of the frames with the same lengths gives a stream of the
same length. -/
theorem stream_length_congr {symbols' : φ → List α}
    (hLength : ∀ frame, (symbols' frame).length = (symbols frame).length) (frames : List φ) :
    (stream symbols' frames).length = (stream symbols frames).length := by
  induction frames with
  | nil => rfl
  | cons frame frames ih =>
      rw [stream_cons, stream_cons, List.length_append, List.length_append, hLength, ih]

/-- A symbol of a frame, by its position in the stream. -/
theorem getElem?_stream_inside (hInside : k < (symbols frame).length) :
    (stream symbols (before ++ frame :: after))[(stream symbols before).length + k]? =
      (symbols frame)[k]? := by
  rw [stream_append, List.getElem?_append_right (Nat.le_add_right _ _), Nat.add_sub_cancel_left,
    stream_cons, List.getElem?_append_left hInside]

/-- The rest of the stream from a position inside a frame. -/
theorem drop_stream_inside (hInside : k ≤ (symbols frame).length) :
    (stream symbols (before ++ frame :: after)).drop ((stream symbols before).length + k) =
      (symbols frame).drop k ++ stream symbols after := by
  rw [stream_append, List.drop_length_add_append, stream_cons,
    List.drop_append_of_le_length hInside]

/-- Frames that lie before the position do not matter. -/
theorem locate_append (before after : List φ) (k : Nat) :
    locate symbols (before ++ after) ((stream symbols before).length + k) =
      locate symbols after k := by
  induction before with
  | nil => rw [stream_nil, List.length_nil, Nat.zero_add, List.nil_append]
  | cons frame before ih =>
      rw [List.cons_append, locate, if_neg (by simp [Nat.add_assoc]), ← ih]
      congr 1
      simp only [stream_cons, List.length_append]
      omega

/-- A position inside a frame. -/
theorem locate_inside (hInside : k < (symbols frame).length) :
    locate symbols (before ++ frame :: after) ((stream symbols before).length + k) =
      some (frame, k) := by
  rw [locate_append, locate, if_pos hInside]

/-- The frames before and after a position. -/
theorem exists_of_locate (hLocate : locate symbols frames n = some (frame, k)) :
    ∃ before after, frames = before ++ frame :: after ∧
      n = (stream symbols before).length + k ∧ k < (symbols frame).length := by
  induction frames generalizing n with
  | nil => cases hLocate
  | cons first frames ih =>
      rw [locate] at hLocate
      split_ifs at hLocate with hInside
      · -- the position is in the first frame
        cases hLocate
        exact ⟨[], frames, rfl, by simp, hInside⟩
      · obtain ⟨before, after, rfl, hn, hk⟩ := ih hLocate
        refine ⟨first :: before, after, rfl, ?_, hk⟩
        rw [stream_cons, List.length_append]
        omega

theorem locate_eq_none_iff :
    locate symbols frames n = none ↔ (stream symbols frames).length ≤ n := by
  induction frames generalizing n with
  | nil => simp [locate]
  | cons frame frames ih =>
      rw [locate, stream_cons, List.length_append]
      split_ifs with hInside
      · exact iff_of_false (by simp) (by omega)
      · rw [ih]
        omega

end Library
end MFiWrapper
