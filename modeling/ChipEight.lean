import ChipEight.Binary64.Basic
import ChipEight.Binary64.Shortest
import ChipEight.Binary64.Text
import ChipEight.Fault
import ChipEight.InPlace
import ChipEight.Instruction.Basic
import ChipEight.Instruction.Listing
import ChipEight.Instruction.Mnemonic
import ChipEight.Instruction.Word
import ChipEight.Keypad.Basic
import ChipEight.Keypad.Script
import ChipEight.Machine.Basic
import ChipEight.Machine.CallStack
import ChipEight.Machine.Dump
import ChipEight.Machine.Keystream
import ChipEight.Machine.Memory
import ChipEight.Machine.Registers
import ChipEight.Machine.Screen
import ChipEight.Machine.Step
import ChipEight.Machine.Timers
import ChipEight.Pace.Cadence
import ChipEight.Pace.Pacer
import ChipEight.Panel.Basic
import ChipEight.Panel.Printer
import ChipEight.Proofs.Failing
import ChipEight.Proofs.Instruction.Formats
import ChipEight.Proofs.Instruction.Labels
import ChipEight.Proofs.Instruction.Listing
import ChipEight.Proofs.Instruction.Phrases
import ChipEight.Proofs.Keypad.Holds
import ChipEight.Proofs.Keypad.Log
import ChipEight.Proofs.Keypad.Presses
import ChipEight.Proofs.Keypad.Replay
import ChipEight.Proofs.Machine.Arithmetic
import ChipEight.Proofs.Machine.Bounds
import ChipEight.Proofs.Machine.Calls
import ChipEight.Proofs.Machine.Course
import ChipEight.Proofs.Machine.Dumps
import ChipEight.Proofs.Machine.Faults
import ChipEight.Proofs.Machine.Footprint
import ChipEight.Proofs.Machine.HazardFree
import ChipEight.Proofs.Machine.Hazards
import ChipEight.Proofs.Machine.Hidden
import ChipEight.Proofs.Machine.KeyWait
import ChipEight.Proofs.Machine.Listed
import ChipEight.Proofs.Machine.Loading
import ChipEight.Proofs.Machine.ProgramCounter
import ChipEight.Proofs.Machine.Raw
import ChipEight.Proofs.Machine.Reach
import ChipEight.Proofs.Machine.Runs
import ChipEight.Proofs.Machine.Step
import ChipEight.Proofs.Machine.Store
import ChipEight.Proofs.Machine.Synonyms
import ChipEight.Proofs.Machine.Transfer
import ChipEight.Proofs.Machine.Turns
import ChipEight.Proofs.Machine.Untimed
import ChipEight.Proofs.Pace.Cadence
import ChipEight.Proofs.Pace.Deadlines
import ChipEight.Proofs.Pace.Drift
import ChipEight.Proofs.Pace.Episode
import ChipEight.Proofs.Pace.Faults
import ChipEight.Proofs.Pace.History
import ChipEight.Proofs.Pace.Laps
import ChipEight.Proofs.Pace.Lifetime
import ChipEight.Proofs.Pace.Order
import ChipEight.Proofs.Pace.Refinement
import ChipEight.Proofs.Pace.Slicing
import ChipEight.Proofs.Pace.Stepped
import ChipEight.Proofs.Pace.Timeline
import ChipEight.Proofs.Pace.Words
import ChipEight.Proofs.Panel.Buzzer
import ChipEight.Proofs.Panel.Cabinets
import ChipEight.Proofs.Panel.Devices
import ChipEight.Proofs.Panel.Frames
import ChipEight.Proofs.Panel.Independence
import ChipEight.Proofs.Panel.Printout
import ChipEight.Proofs.Panel.Recorder
import ChipEight.Proofs.Text.Hexadecimal
import ChipEight.Proofs.Text.Lines
import ChipEight.Session.Basic
import ChipEight.Session.Command
import ChipEight.Session.Running
import ChipEight.Session.Stepping
import ChipEight.Session.Terminal
import ChipEight.Settings.Basic
import ChipEight.Settings.FromValue
import ChipEight.Settings.FromYaml
import ChipEight.Settings.Value
import ChipEight.Text.Hexadecimal
import ChipEight.Text.Quoted
import ChipEight.Text.Vacant
import ChipEight.Yaml.Character
import ChipEight.Yaml.Content
import ChipEight.Yaml.Cursor
import ChipEight.Yaml.Document
import ChipEight.Yaml.Layout
import ChipEight.Yaml.Node
import ChipEight.Yaml.Reader
import ChipEight.Yaml.Scalar
import ChipEight.Yaml.Tag
import ChipEight.Yaml.Text.Gap
import ChipEight.Yaml.Text.Lines
import ChipEight.Yaml.Text.Plain
import ChipEight.Yaml.Text.Quoted
import ChipEight.Yaml.Token
import ChipEight.Main
import ChipEight.Proofs.Machine.Drawing
import ChipEight.Proofs.Session.Ending
import ChipEight.Proofs.Session.Halting
import ChipEight.Proofs.Session.Prompts
import ChipEight.Proofs.Session.Stepping
