import RollupLedger.Command.Basic

/-!
The program: reads its arguments and the environment and says what comes of them. Where the node
would have to be asked, it says that it has no connection.
-/

set_option autoImplicit false
set_option relaxedAutoImplicit false

namespace RollupLedger.Program

/-- The variables that stand for options, as far as they are set. -/
def environment : IO Environment := do
  let names := Configuration.choices.filterMap Arguments.Choice.fromVariable
  let values ← names.mapM fun name => do return (name, ← IO.getEnv name)
  return values.filterMap fun (name, value) => value.map (name, ·)

def usage : String :=
  "usage: rollup-ledger [options] <" ++ "|".intercalate Command.names ++ "> [arguments]\n"

/-- Says what came of the arguments. -/
def conclude (conclusion : Command.Conclusion) : IO UInt32 := do
  match conclusion with
  | .help => (← IO.getStdout).putStr usage
  | .misuse _ => (← IO.getStderr).putStr usage
  | .failed failure => (← IO.getStderr).putStr failure.text
  | .ask _ _ => (← IO.getStderr).putStr "Error: no connection to a node\n"
  return UInt32.ofNat conclusion.exitCode

end RollupLedger.Program

def main (arguments : List String) : IO UInt32 := do
  let environment ← RollupLedger.Program.environment
  RollupLedger.Program.conclude (RollupLedger.Command.conclude arguments environment)
