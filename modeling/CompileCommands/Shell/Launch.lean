import CompileCommands.Shell.Run

/-!
# Answering calls of programs

A call is answered by running the program in a process of its own, whose standard output and
standard error are collected and whose standard input is empty.

This is one way to answer calls, for hosts on which the build tool is a script: the whole course of
the command line can then be followed in one file system. The command line itself takes any other,
and what is known about it does not depend on scripts or on the programs that they use.
-/

namespace CompileCommands.Shell

/-- How many octets an argument may have. -/
def maxArgument : Nat := 131071

/-- Why a call can be made nowhere. -/
def callError? (call : Call) : Option OsError :=
  let texts := call.directory.toList ++ call.program :: call.arguments
  if texts.any (·.toList.contains '\x00') then some .zeroInArgument
  else if call.arguments.any fun argument => maxArgument < argument.utf8ByteSize then
    some .listTooLong
  else none

/-- How deep commands may be inside one another. -/
def maxDepth : Nat := 100000

/-- What a program leaves that is run on a host. -/
def reply (host : Host) (image : Image) : FileTask OsError Reply := do
  let shell : Shell :=
    { host, name := image.title
      bindings := [("HOME", Text.Octets.ofText host.home),
        ("PATH", Text.Octets.ofText host.searchPath)]
      exported := ["HOME", "PATH"]
      descriptors := [(0, .nowhere), (1, .buffer 0), (2, .buffer 1)]
      buffers := ["", ""] }
  let (result, shell) ← ExceptT.lift ((ExceptT.run (runImage (runUpTo maxDepth) image)).run shell)
  return {
    status := match result with
      | .error (.killed _ number) => .signaled number
      | _ => .exited shell.status
    output := Text.Octets.toBytes (shell.buffers[0]?.getD "")
    complaints := Text.Octets.toBytes (shell.buffers[1]?.getD "") }

/-- How calls are answered on a host. -/
def launch (host : Host) : Launch := fun call => do
  if let some e := callError? call then throw e
  let fs ← FileTask.look
  let here ← .ofExcept (call.directoryOn host fs)
  let (path, _) ← .ofExcept (call.programIn host fs here)
  let image ← .ofExcept (image fs here (Text.Octets.ofText path) (Text.Octets.ofText call.program)
    (call.arguments.map Text.Octets.ofText))
  reply { host with directory := here } image

end CompileCommands.Shell
