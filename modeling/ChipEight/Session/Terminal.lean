/-
  Terminals — where a session shows what it has to tell: pictures, and lines
  that report that the machine stops or that the session fails.
-/
import ChipEight.Panel.Printer
import ChipEight.Settings.Basic

namespace ChipEight

/-- A line that reports an error in a part of the program. -/
def errorLine (part report : String) : String := "ERROR [" ++ part ++ "] " ++ report ++ "\n"

/-! ## Failures -/

/-- The reason why a session fails. -/
inductive Failure where
  /-- The machine or its pacer refuses. -/
  | fault (cause : Fault)
  /-- A file or the input cannot be read. -/
  | reading (report : String)
  /-- The settings' document cannot be read. -/
  | document
  /-- The settings cannot be used. -/
  | settings (report : String)
deriving DecidableEq

/-- The report of a failure. -/
def Failure.message (failure : Failure) : String :=
  "application error: " ++
    match failure with
    | .fault cause => cause.message
    | .reading report => report
    | .document => "config file:"
    | .settings report => "config: " ++ report

/-- A fault ends the session. -/
def failOnFault {α : Type} (result : Except Fault α) : Except Failure α :=
  result.mapError .fault

/-- Settings that cannot be used end the session. -/
def failOnSetting {α : Type} (result : Except SettingFault α) : Except Failure α :=
  result.mapError fun fault => .settings fault.message

/-! ## Terminals -/

/-- A printer that also reports that the machine stops. -/
structure Terminal where
  printer : Printer
deriving DecidableEq

namespace Terminal

/-- A terminal on which nothing is printed yet. -/
def new (renders : Bool) : Terminal := ⟨.new renders⟩

/-- Print text. -/
def print (terminal : Terminal) (text : String) : Terminal := ⟨terminal.printer.print text⟩

/-- Take the text printed so far off the terminal. -/
def takeOutput (terminal : Terminal) : String × Terminal :=
  let (text, printer) := terminal.printer.takeOutput
  (text, ⟨printer⟩)

/-- The line that reports that the machine stops. -/
def haltLine (address : Address) (fault : Fault) : String :=
  errorLine "chip8::vm" ("halting VM at 0x" ++ hex 4 address.toNat ++ ": " ++ fault.message)

instance : Panel Terminal where
  receive
    | _, .halt address fault, terminal => terminal.print (haltLine address fault)
    | keypad, signal, terminal => ⟨Panel.receive keypad signal terminal.printer⟩

end Terminal

end ChipEight
