import CompileCommands.Shell.Utility.Expression
import CompileCommands.Shell.Utility.Running
import CompileCommands.Shell.Utility.Search

/-!
# The programs of the system

What each program that comes with the system does when it is called under a title with some
arguments.
-/

namespace CompileCommands.Shell

open Utility

/-- The programs that come with the system, the shell apart. -/
def utilities (run : (tested : Bool) → Command → ShellTask Unit) :
    List (String × ((title : String) → List String → ShellTask Unit)) :=
  [("[", fun title => examine title true),
    ("base64", base64),
    ("basename", printBaseNames),
    ("cat", concatenate),
    ("chmod", changeMode),
    ("cp", copy),
    ("cut", cut),
    ("dirname", printDirectoryNames),
    ("echo", fun _ => echoPlainly false true),
    ("env", fun title arguments => withVariables run title (arguments.length + 64) arguments),
    ("expr", evaluate),
    ("false", fun _ _ => finish 1),
    ("grep", grep),
    ("head", head),
    ("kill", fun title arguments => do
      modify ({ · with name := title })
      kill arguments),
    ("ln", link),
    ("ls", list),
    ("mkdir", makeDirectories),
    ("mktemp", makeTemporary),
    ("mv", move),
    ("printf", format),
    ("pwd", fun _ arguments => printPlace (arguments.contains "-L")),
    ("readlink", readLink),
    ("realpath", realPath),
    ("rev", reverseCharacters),
    ("rm", remove),
    ("rmdir", removeDirectories),
    ("sed", sed),
    ("seq", sequence),
    ("sleep", fun _ _ => finish 0),
    ("sort", sort),
    ("tac", reverseLines),
    ("tail", tail),
    ("tee", tee),
    ("test", fun title => examine title false),
    ("touch", touch),
    ("tr", translate),
    ("true", fun _ _ => finish 0),
    ("uname", fun _ _ => do
      print "Linux\n"
      finish 0),
    ("uniq", unique),
    ("wc", count),
    ("which", fun _ => whichPrograms),
    ("xargs", withWords run)]

end CompileCommands.Shell
