/-
  How sessions start.

  What a session has before anything happens: an idle keypad, the machine with its
  program, and a pacer at the beginning of its periods (`Run.start_spec`,
  `Stepping.start_spec`).
-/
import ChipEight.Proofs.Failing
import ChipEight.Proofs.Machine.Loading
import ChipEight.Proofs.Pace.History
import ChipEight.Session.Basic

namespace ChipEight

variable {settings : Settings} {chance : UInt64} {program : List UInt8}

/-- A console after power-up holds a program that fits, and nothing else. -/
theorem Console.load_powerUp {machine : MachineSettings} {console : Console}
    (h : (powerUp machine chance).load program = .ok console) :
    program.length ≤ maxProgramSize ∧
      console =
        ⟨Machine.loaded program (Machine.new (machine.seed.getD chance)).random, .idle⟩ := by
  obtain ⟨m, loaded, h⟩ := bind_eq_ok_iff.1 h
  cases h
  obtain ⟨fits, rfl⟩ := Machine.load_eq_ok_iff.1 loaded
  exact ⟨fits, rfl⟩

/-- **A run starts** with nothing done yet, and with all of the script. -/
theorem Run.start_spec {δ : Type} {panel : δ} {run : Run δ}
    (h : Run.start settings chance program panel = .ok run) :
    run.console =
        ⟨Machine.loaded program (Machine.new (settings.machine.seed.getD chance)).random, .idle⟩ ∧
      run.elapsed = 0 ∧ settings.runLimit = .ok run.limit ∧
      Script.ofPresses settings.presses = .ok run.script := by
  obtain ⟨pacer, -, h⟩ := bind_eq_ok_iff.1 h
  obtain ⟨console, loaded, h⟩ := bind_eq_ok_iff.1 h
  obtain ⟨limit, limited, h⟩ := bind_eq_ok_iff.1 h
  obtain ⟨script, scripted, h⟩ := bind_eq_ok_iff.1 h
  cases h
  rw [failOnFault, mapError_eq_ok_iff] at loaded
  rw [failOnSetting, mapError_eq_ok_iff] at limited scripted
  exact ⟨(Console.load_powerUp loaded).2, rfl, limited, scripted⟩

/-- **A session starts stepping** with a stepped pacer of which no step is asked yet. -/
theorem Stepping.start_spec {state : Stepping}
    (h : Stepping.start settings chance program = .ok state) :
    state.console =
        ⟨Machine.loaded program (Machine.new (settings.machine.seed.getD chance)).random, .idle⟩ ∧
      state.pacer.isStepped = true ∧ state.pacer.pending = 0 ∧
      state.terminal = .new settings.render := by
  obtain ⟨pacer, paced, h⟩ := bind_eq_ok_iff.1 h
  obtain ⟨console, loaded, h⟩ := bind_eq_ok_iff.1 h
  cases h
  rw [failOnFault, mapError_eq_ok_iff] at paced loaded
  have start := Pacer.atStart_of_new paced
  exact ⟨(Console.load_powerUp loaded).2, start.isStepped, start.pending, rfl⟩

end ChipEight
