import CompileCommands.Proofs.Host.Program
import CompileCommands.Shell.Launch

/-!
# Scripts as programs

What a script does is one thing that a program may do when it runs. A call that is answered by
running a script runs the program that it leads to from its directory, so that what is known of
calls that run programs holds for scripts.

* `behaviour`: what scripts and the programs of the system do.
* `runOn_launch`: calls run them like any other programs.
-/

namespace CompileCommands.Shell

variable {host : Host} {call : Call}

/-- What a file that is a script or a program of the system does when a call leads to it. -/
def behaviour (host : Host) : Behaviour := fun here _ call => do
  let fs ← FileTask.look
  let (path, _) ← .ofExcept (call.programIn host fs here)
  let image ← .ofExcept (image fs here (Text.Octets.ofText path) (Text.Octets.ofText call.program)
    (call.arguments.map Text.Octets.ofText))
  reply { host with directory := here } image

/-- A call that can be made at all runs the program that it leads to from its directory. -/
theorem runOn_launch (h : callError? call = none) (journal : Journal) :
    (launch host call).runOn journal =
      (Launch.running host (behaviour host) call).runOn journal := by
  simp only [launch, Launch.running, behaviour, h, FileTask.runOn_bind, FileTask.runOn_look,
    FileTask.runOn_ofExcept]
  -- The program is found from the same directory in the same file system.
  cases call.directoryOn host journal.now with
  | error e => rfl
  | ok here =>
    dsimp only
    cases hfound : call.programIn host journal.now here with
    | error e => rfl
    | ok found => simp only [hfound]

end CompileCommands.Shell
