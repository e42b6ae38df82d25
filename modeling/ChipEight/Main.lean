/-
  The command line — reads files and lines, lets the time pass, and shows what
  a session answers.
-/
import ChipEight.Session.Basic

namespace ChipEight.CommandLine

/-- The number of an error of the system, whatever its sign. -/
def errorNumber (code : UInt32) : String := toString (if code < 0x80000000 then code else 0 - code)

/-- The report of a file that cannot be read. -/
def readFault (fault : IO.Error) : String :=
  match fault with
  | .noFileOrDirectory _ code _ => "No such file or directory (os error " ++ errorNumber code ++ ")"
  | .permissionDenied _ code _ => "Permission denied (os error " ++ errorNumber code ++ ")"
  | .inappropriateType _ code _ => "Is a directory (os error " ++ errorNumber code ++ ")"
  | _ => toString fault

/-- The content of a file. -/
def readContent (path : String) : IO Content := do
  try return .ok (← IO.FS.readBinFile path)
  catch fault => return .error (readFault fault)

/-- The rest of a line of input, up to its newline or the end of the input. -/
partial def readLine (input : IO.FS.Stream) (line : ByteArray) : IO ByteArray := do
  let next ← input.read 1
  if next.isEmpty then return line
  let line := line ++ next
  if next.toList = [10] then return line
  readLine input line

/-- Show text. -/
def shown (text : String) : IO Unit := do
  let output ← IO.getStdout
  output.putStr text
  output.flush

/-- Give a session what it waits for until it has ended.  `last` is the time of its
    last answer and `measured` the time up to which its pacer was told, if it was told
    of any, in nanoseconds. -/
partial def drive (session : Session) (last : Nat) (measured : Option Nat) : IO UInt32 := do
  match session with
  | .ended code => return UInt32.ofNat code
  | .running _ =>
    let now ← IO.monoNanosNow
    let polled ← IO.monoNanosNow
    -- nothing has been measured before the first slice
    let (text, next) := session.pass ⟨now - last, polled - measured.getD polled⟩
    shown text
    IO.sleep 1
    drive next now (some polled)
  | .stepping _ =>
    let line ← readLine (← IO.getStdin) .empty
    let polled ← IO.monoNanosNow
    let (text, next) := session.enter line (polled - measured.getD polled)
    shown text
    drive next polled (some polled)

/-- The content that was read from a file. -/
def lookUp (contents : List (String × Content)) (path : String) : Content :=
  (contents.lookup path).getD (.error "No such file or directory (os error 2)")

end ChipEight.CommandLine

open ChipEight ChipEight.CommandLine in
/-- Do what the command line asks for. -/
def main (arguments : List String) : IO UInt32 := do
  let paths := ((Command.ofArguments arguments).map Command.files).getD []
  let contents ← paths.mapM fun path => return (path, ← readContent path)
  let chance ← IO.rand 0 (UInt64.size - 1)
  let (text, session) := Session.start (lookUp contents) (UInt64.ofNat chance) arguments
  shown text
  let now ← IO.monoNanosNow
  -- a run starts its pacer's clock itself, with its first slice
  let measured := match session with
    | .running _ => none
    | _ => some now
  drive session now measured
