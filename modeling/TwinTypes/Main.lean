import TwinTypes.Run.Invoke
import TwinTypes.Run.System

/-!
# The command line

Runs `TwinTypes.runArguments` on the arguments and the environment of the process.
-/

/-- What the environment of the process says. -/
def environment : IO TwinTypes.Environment := do
  pure ⟨← IO.getEnv "KTMAP_CONFIG_PATH", ← IO.getEnv "RUST_LOG"⟩

/-- The program. -/
def main (arguments : List String) : IO UInt32 := do
  let program := TwinTypes.runArguments (← environment) arguments
  let code ← program.perform (← TwinTypes.Session.start)
  pure code.toUInt32
