/-
  Sessions — the program from its command line to its exit code.

  A session that is under way waits for time to pass or for a line of input,
  and answers with text to show.  The files it needs are read through a
  function that is given to it; the settings are read before the program.
-/
import ChipEight.Instruction.Listing
import ChipEight.Session.Command
import ChipEight.Session.Stepping
import ChipEight.Settings.FromYaml

namespace ChipEight

/-- The content of a file, or the report of why it cannot be read. -/
abbrev Content := Except String ByteArray

/-- A session, by what it waits for. -/
inductive Session where
  /-- Time is to pass. -/
  | running (run : Run Terminal)
  /-- A line is to be entered. -/
  | stepping (state : Stepping)
  /-- Nothing: it has ended with an exit code. -/
  | ended (code : Nat)

namespace Session

/-! ## Exit codes -/

/-- The exit code of success. -/
def success : Nat := 0

/-- The exit code of a failure. -/
def failed : Nat := 1

/-- The exit code of a command line that asks for nothing. -/
def misused : Nat := 64

/-! ## The beginning -/

/-- A failure ends the session. -/
def fail (failure : Failure) : String × Session :=
  (errorLine "chip8" failure.message, .ended failed)

/-- The settings of a file, if there is one. -/
def settingsOf : Option Content → Except Failure Settings
  | none => .ok .default
  | some (.error report) => .error (.reading report)
  | some (.ok bytes) =>
    match (String.fromUTF8? bytes).bind Settings.ofYaml? with
    | some settings => .ok settings
    | none => .error .document

/-- The bytes of a program's file. -/
def programOf (content : Content) : Except Failure (List UInt8) :=
  match content with
  | .ok bytes => .ok bytes.toList
  | .error report => .error (.reading report)

/-- A session that steps through a program shows its prompt. -/
def prompted (state : Stepping) : String × Session :=
  let (text, terminal) := (state.print state.promptText).terminal.takeOutput
  (text, .stepping { state with terminal })

/-- Begin to run or to step through a program. -/
def beginProgram (settings? : Option Content) (program? : Content) (stepped : Bool)
    (chance : UInt64) : Except Failure (String × Session) := do
  let settings ← settingsOf settings?
  let program ← programOf program?
  if stepped ∨ settings.machine.stepMode then
    return prompted (← Stepping.start settings chance program)
  else return ("", .running (← Run.start settings chance program (.new settings.render)))

/-- The text of a program's listing. -/
def listing (content : Content) : Except Failure (String × Session) := do
  let program ← programOf content
  return (Listing.text (UInt16.ofNat programStart) program, .ended success)

/-- Begin to do what a command line asks for. -/
def start (read : String → Content) (chance : UInt64) (arguments : List String) :
    String × Session :=
  match Command.ofArguments arguments with
  | none => (Command.help, .ended misused)
  | some command =>
    let begun := match command with
      | .run program settings => beginProgram (settings.map read) (read program) false chance
      | .step program settings => beginProgram (settings.map read) (read program) true chance
      | .list program => listing (read program)
    match begun with
    | .ok answer => answer
    | .error failure => fail failure

/-! ## Under way -/

/-- A run ends, after its last picture, with the registers and its fault. -/
def finish (run : Run Terminal) (outcome : Except Fault Report) : String × Session :=
  let shown := run.panel.takeOutput.1 ++ run.console.machine.registersText ++ "\n"
  match outcome with
  | .ok _ => (shown, .ended success)
  | .error fault =>
    let (text, session) := fail (.fault fault)
    (shown ++ text, session)

/-- A slice of time passes. -/
def pass (slice : Slice) : Session → String × Session
  | .running run =>
    let (outcome, after) := run.advance slice
    if after.endsWith outcome then finish after outcome
    else
      let (text, panel) := after.panel.takeOutput
      (text, .running { after with panel })
  | session => ("", session)

/-- The report of input that is no text. -/
def notText : String := "stream did not contain valid UTF-8"

/-- A line is entered, the given time after the one before; the input is at its
    end if it is empty. -/
def enter (line : ByteArray) (elapsed : Nat) : Session → String × Session
  | .stepping state =>
    if line.isEmpty then ("", .ended success)
    else
      match String.fromUTF8? line with
      | none => fail (.reading notText)
      | some text =>
        match Entry.ofLine text with
        | .quit => ("", .ended success)
        | .cycle key => prompted (state.cycle key elapsed)
  | session => ("", session)

end Session

end ChipEight
