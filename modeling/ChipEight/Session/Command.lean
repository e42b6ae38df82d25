/-
  Commands — what the command line asks for, and the help for a command line
  that asks for nothing.
-/
namespace ChipEight

/-- The version of the program. -/
def version : String := "0.4.0"

/-- What to do with the program in a file. -/
inductive Command where
  /-- Run it as time passes, under the settings of a file if one is named. -/
  | run (program : String) (settings : Option String)
  /-- Step through it, under the settings of a file if one is named. -/
  | step (program : String) (settings : Option String)
  /-- List it as assembly text. -/
  | list (program : String)
deriving DecidableEq

namespace Command

/-- The command of a command line's arguments.  More arguments than three do not
    count, but a listing takes no settings. -/
def ofArguments : List String → Option Command
  | "run" :: program :: rest => some (.run program rest.head?)
  | "step" :: program :: rest => some (.step program rest.head?)
  | ["dis", program] => some (.list program)
  | _ => none

/-- The files that a command reads. -/
def files : Command → List String
  | .run program settings | .step program settings => settings.toList ++ [program]
  | .list program => [program]

/-- The help. -/
def help : String := "\n".intercalate [
  "Chip8 v" ++ version,
  "",
  "usage: chip8 CMD ROM [CONFIG]",
  "",
  "commands:",
  "    run     Run the target ROM file in real time",
  "    step    Execute the target ROM one instruction per input line",
  "    dis     Disassemble the target ROM into readable assembly",
  "",
  "In step mode, enter a hex digit to hold that key down",
  "for the next instruction, or q to quit.",
  "",
  "examples:",
  "    chip8 run breakout.rom",
  "    chip8 run breakout.rom breakout.yaml",
  "    chip8 step breakout.rom",
  "    chip8 dis breakout.rom",
  "",
  ""]

end Command

end ChipEight
