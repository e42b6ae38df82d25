/-
  Call stack — the return addresses of the calls in progress, at most sixteen.

  The frames in use are the lowest ones.  A return address stays in its frame
  when its call is left, until another call takes the frame; `bottomUp` are the
  addresses that are in use.
-/
import ChipEight.Fault

namespace ChipEight

/-- The number of frames of the call stack. -/
def stackSize : Nat := 16

/-- The frames, of which the lowest are in use. -/
structure CallStack where
  /-- The return addresses, the oldest first, and what was left in the frames
      above them. -/
  frames : Vector Address stackSize
  /-- The number of frames in use, one for each call in progress. -/
  depth : Nat
  depth_le : depth ≤ stackSize
deriving DecidableEq

namespace CallStack

/-- No call is in progress, and the frames are erased. -/
def empty : CallStack := ⟨Vector.replicate stackSize 0, 0, by decide⟩

/-- The return addresses, the oldest first. -/
def bottomUp (s : CallStack) : List Address := s.frames.toList.take s.depth

/-- Enter a call that returns to `address`. -/
def push (s : CallStack) (address : Address) : Except Fault CallStack :=
  if room : s.depth < stackSize then
    .ok ⟨s.frames.set s.depth address room, s.depth + 1, room⟩
  else .error .stackOverflow

/-- Leave the latest call. -/
def pop (s : CallStack) : Except Fault (Address × CallStack) :=
  match s with
  | ⟨_, 0, _⟩ => .error .stackUnderflow
  | ⟨frames, depth + 1, depth_le⟩ =>
    .ok (frames[depth], ⟨frames, depth, Nat.le_of_succ_le depth_le⟩)

/-- A call enters the lowest frame that is free. -/
theorem push_spec {s t : CallStack} {address : Address} (h : s.push address = .ok t) :
    ∃ room : s.depth < stackSize, t = ⟨s.frames.set s.depth address room, s.depth + 1, room⟩ := by
  unfold push at h
  split at h
  · next room => exact ⟨room, (Except.ok.inj h).symm⟩
  · cases h

/-- The latest call is the first one to be left. -/
theorem pop_push {s t : CallStack} {address : Address} (h : s.push address = .ok t) :
    ∃ u, t.pop = .ok (address, u) ∧ u.bottomUp = s.bottomUp := by
  obtain ⟨room, rfl⟩ := push_spec h
  refine ⟨⟨s.frames.set s.depth address room, s.depth, s.depth_le⟩, ?_, ?_⟩
  · simp [pop]
  · simp [bottomUp, Vector.toList_set, List.take_set_of_le]

end CallStack

end ChipEight
