/-
  Timers — the delay and the sound timer, which count down to zero sixty
  times a second.  The buzzer sounds while the sound timer is not zero, and
  `buzzerChange` reports each change of it once.
-/
namespace ChipEight

/-- How often the timers count down, in hertz. -/
def timerFrequency : Nat := 60

/-- The two timers. -/
structure Timers where
  delay : UInt8
  sound : UInt8
  /-- The state of the buzzer that was reported last. -/
  reported : Bool
deriving DecidableEq

namespace Timers

/-- Both timers stand at zero and the buzzer is silent. -/
def initial : Timers := ⟨0, 0, false⟩

/-- One less, but not less than zero. -/
def countDown (value : UInt8) : UInt8 := if value = 0 then 0 else value - 1

/-- Count both timers down once. -/
def tick (t : Timers) : Timers :=
  { t with delay := countDown t.delay, sound := countDown t.sound }

/-- The buzzer sounds. -/
def buzzing (t : Timers) : Bool := t.sound != 0

/-- The state of the buzzer, if it differs from the one reported last. -/
def buzzerChange (t : Timers) : Option Bool × Timers :=
  if t.buzzing = t.reported then (none, t)
  else (some t.buzzing, { t with reported := t.buzzing })

theorem toNat_countDown (value : UInt8) : (countDown value).toNat = value.toNat - 1 := by
  unfold countDown
  split
  · next h => simp [h]
  · next h =>
    have pos : 1 ≤ value := by
      have : value.toNat ≠ 0 := fun e => h (UInt8.toNat_inj.1 e)
      exact UInt8.le_iff_toNat_le.2 (Nat.pos_of_ne_zero this)
    simp [UInt8.toNat_sub_of_le _ _ pos]

@[simp] theorem delay_buzzerChange (t : Timers) : t.buzzerChange.2.delay = t.delay := by
  unfold buzzerChange; split <;> rfl

@[simp] theorem sound_buzzerChange (t : Timers) : t.buzzerChange.2.sound = t.sound := by
  unfold buzzerChange; split <;> rfl

/-- Nothing is remembered if there is nothing to report. -/
theorem buzzerChange_of_none {t : Timers} (h : t.buzzerChange.1 = none) :
    t.buzzerChange.2 = t := by
  unfold buzzerChange at h ⊢
  split
  · rfl
  · next h' => simp [h'] at h

end Timers

end ChipEight
