import RulePlane.CommandLine

/-!
# The program

Shows the settings that a command line gives to the control plane, or what is wrong with it.
-/

open RulePlane in
/-- Run the program on the arguments behind its name. -/
def main (arguments : List String) : IO UInt32 := do
  let outcome := CommandLine.outcome arguments
  for line in outcome.lines do
    IO.println line
  for complaint in outcome.complaint do
    IO.eprintln complaint
  return outcome.exitCode
