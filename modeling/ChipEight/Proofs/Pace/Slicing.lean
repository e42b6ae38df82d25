/-
  Time may be cut anywhere.

  An update by a sum of two spans is an update by the one and then by the other
  (`update_add`): the pacer, the console and the panel end up the same, and the
  results of the parts make up that of the whole.  A panel is a state that every
  signal changes, and it is arbitrary here; that it ends up the same for a panel
  that keeps all signals means that the signals are the same.
-/
import ChipEight.Proofs.Pace.Timeline

namespace ChipEight

variable {δ : Type}

/-- The result of two episodes of which at most one has a fault. -/
theorem Episode.result_followedBy {e later : Episode δ} (h : e.fault = none ∨ later.fault = none) :
    (e.followedBy later).result = do
      let r ← e.result
      let s ← later.result
      return r + s := by
  unfold Episode.result Episode.followedBy
  cases first : e.fault with
  | none => cases second : later.fault <;> rfl
  | some fault =>
    have second : later.fault = none := by simpa [first] using h
    rw [second]
    rfl

variable [Panel δ]

/-- Of two episodes, one after the other, at most one has a fault. -/
theorem Episode.fault_once (console : Console) (panel : δ) (earlier later : List Event) :
    let first := (start console panel).performAll earlier
    first.fault = none ∨ ((start first.console first.panel).performAll later).fault = none := by
  intro first
  rw [fault_performAll first.console]
  cases halted : first.console.machine.isHalted with
  | true => exact Or.inr rfl
  | false =>
    left
    rw [fault_performAll, Machine.fault?_eq_none.2 halted, ite_self]

/-- **Time may be cut anywhere.** -/
theorem Pacer.update_add (p : Pacer) (console : Console) (panel : δ) (a b : Nat) :
    let first := p.update console panel a
    let second := first.1.update first.2.console first.2.panel b
    let whole := p.update console panel (a + b)
    whole.1 = second.1 ∧ whole.2.console = second.2.console ∧ whole.2.panel = second.2.panel ∧
      (whole.2.result = do
        let r ← first.2.result
        let s ← second.2.result
        return r + s) ∧
      (first.2.fault = none ∨ second.2.fault = none) := by
  intro first second whole
  have hfirst : first = (p.after a, (Episode.start console panel).performAll (p.agenda a)) :=
    p.update_eq console panel a
  have hpacer : first.1 = p.after a := congrArg Prod.fst hfirst
  have hepisode : first.2 = (Episode.start console panel).performAll (p.agenda a) :=
    congrArg Prod.snd hfirst
  have hsecond : second = (first.1.after b,
      (Episode.start first.2.console first.2.panel).performAll (first.1.agenda b)) :=
    first.1.update_eq first.2.console first.2.panel b
  have hwhole : whole = (second.1, first.2.followedBy second.2) := by
    rw [hsecond, ← Episode.performAll_eq_followedBy, hpacer, hepisode, ← after_add,
      ← Episode.performAll_append, ← agenda_add]
    exact p.update_eq console panel (a + b)
  have once : first.2.fault = none ∨ second.2.fault = none := by
    rw [hsecond, hepisode]
    exact Episode.fault_once console panel (p.agenda a) _
  rw [hwhole]
  exact ⟨rfl, rfl, rfl, Episode.result_followedBy once, once⟩

end ChipEight
