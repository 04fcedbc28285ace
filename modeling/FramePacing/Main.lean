import FramePacing.Session.Run

/-!
# The command line

`[OUTPUT]` names the timeline file that a sample session writes. The environment variable
`PACING_LOG` holds the session's log filter.
-/

namespace FramePacing.Session

/-- Says why the system refused to create a file. -/
def systemCause (e : IO.Error) : String :=
  match e with
  | .noFileOrDirectory _ code details => s!"{details} (os error {code})"
  | .permissionDenied _ code details => s!"{details} (os error {code})"
  | .inappropriateType _ code details => s!"{details} (os error {code})"
  | .invalidArgument _ code details => s!"{details} (os error {code})"
  | .resourceExhausted _ code details => s!"{details} (os error {code})"
  | other => toString other

/-- Tries to create a file. -/
def createFile (path : String) : IO (Except String Unit) := do
  try
    IO.FS.writeFile path ""
    return .ok ()
  catch e => return .error (systemCause e)

end FramePacing.Session

open FramePacing.Session in
/-- Plays a sample session. -/
def main (args : List String) : IO UInt32 := do
  let path := args.head?
  let created ← createFile (path.getD defaultPath)
  let ending := play (← IO.getEnv "PACING_LOG") path fun _ => created
  ending.console.forM fun line => IO.println line
  IO.eprint ending.complaints
  if let some text := ending.file then IO.FS.writeFile (path.getD defaultPath) text
  return ending.exit.toUInt32
