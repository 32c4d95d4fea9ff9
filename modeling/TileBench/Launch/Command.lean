import TileBench.Fault

/-!
# Commands

A command starts a number of processes of one executable through a launcher program, as in
`mpirun -np 8 idx_write -g 24x24x24`. The launcher's own options stand before the process count.
-/

namespace TileBench

/-- One launch of an executable. -/
structure Command where
  /-- The launcher program. -/
  launcher : String
  /-- The launcher's options. -/
  launcherArgs : List String
  procs : UInt32
  executable : String
  /-- The options of the executable. -/
  args : List String
  deriving DecidableEq

namespace Command

/-- Adds an option and its value to those of the executable. -/
def withOption (c : Command) (flag value : String) : Command :=
  { c with args := c.args ++ [flag, value] }

/-- The arguments of the launcher program. -/
def argv (c : Command) : List String :=
  c.launcherArgs ++ ["-np", toString c.procs.toNat, c.executable] ++ c.args

/-- The launcher program and its arguments with single blanks between them. -/
def text (c : Command) : String := " ".intercalate (c.launcher :: c.argv)

end Command

end TileBench
