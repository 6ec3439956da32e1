import TaskRunner.Program.Compare
import TaskRunner.Program.Convert
import TaskRunner.Program.Copy
import TaskRunner.Program.Count
import TaskRunner.Program.Digest
import TaskRunner.Program.Dump
import TaskRunner.Program.Edit
import TaskRunner.Program.Find
import TaskRunner.Program.Launch
import TaskRunner.Program.List
import TaskRunner.Program.Order
import TaskRunner.Program.Part
import TaskRunner.Program.Remove
import TaskRunner.Program.Report
import TaskRunner.Program.Say
import TaskRunner.Program.Search
import TaskRunner.Program.Snippet
import TaskRunner.Program.Sort
import TaskRunner.Program.Translate
import TaskRunner.Shell.Start

/-! The programs of a machine, by name. -/

namespace TaskRunner.Program

/-- The programs that read and write text. -/
def textPrograms : List (String × (Call → Task)) :=
  [("awk", awk), ("base64", base64), ("cat", cat), ("cmp", cmp), ("comm", comm), ("cut", cut),
    ("dd", dd), ("diff", diff), ("egrep", grepAs ["E"]), ("expand", expand),
    ("fgrep", grepAs ["F"]), ("fold", fold_), ("grep", grep), ("head", head), ("join", join),
    ("mawk", awk), ("nawk", awk), ("nl", nl), ("od", od), ("paste", paste), ("rev", rev),
    ("sed", sed), ("shuf", shuf), ("sort", sort), ("split", split), ("tac", tac), ("tail", tail),
    ("tee", tee), ("tr", tr), ("tsort", tsort), ("unexpand", unexpand), ("uniq", uniq),
    ("wc", wc)]

/-- The programs that tell digests. -/
def digestPrograms : List (String × (Call → Task)) :=
  [("b2sum", b2sum), ("cksum", cksum), ("md5sum", digestsAs .md5), ("sha1sum", digestsAs .sha1),
    ("sha224sum", digestsAs .sha224), ("sha256sum", digestsAs .sha256),
    ("sha384sum", digestsAs .sha384), ("sha512sum", digestsAs .sha512), ("sum", sum)]

/-- The programs that look at files and change them. -/
def filePrograms : List (String × (Call → Task)) :=
  [("basename", basename), ("chmod", chmod), ("cp", cp), ("dirname", dirname), ("find", find),
    ("install", install), ("link", link), ("ln", ln), ("ls", ls), ("mkdir", mkdir),
    ("mkfifo", mkfifo), ("mktemp", mktemp), ("mv", mv), ("readlink", readlink),
    ("realpath", realpath), ("rm", rm), ("rmdir", rmdir), ("stat", stat), ("touch", touch),
    ("truncate", truncate), ("unlink", unlink)]

/-- The programs that start others, and the shells. -/
def startingPrograms : List (String × (Call → Task)) :=
  [("bash", Shell.shell .rich), ("dash", Shell.shell .plain), ("env", env), ("nice", nice),
    ("nohup", nohup), ("python3", python), ("setsid", setsid), ("sh", Shell.shell .plain),
    ("stdbuf", stdbuf), ("timeout", timeout), ("xargs", xargs)]

/-- The programs that tell or reckon something. -/
def tellingPrograms : List (String × (Call → Task)) :=
  [("[", test true), ("arch", arch), ("date", date), ("echo", echo), ("expr", expr),
    ("factor", factor), ("false", refuse), ("groups", groups), ("hostname", hostname), ("id", id),
    ("logname", logname), ("nproc", nproc), ("printenv", printenv), ("printf", printf),
    ("pwd", pwd), ("seq", seq), ("sleep", sleep), ("sync", sync), ("test", test false),
    ("true", succeed), ("tty", tty), ("uname", uname), ("users", nobody), ("which", which),
    ("who", nobody), ("whoami", whoami), ("yes", yes)]

/-- All programs. -/
def table : List (String × (Call → Task)) :=
  textPrograms ++ digestPrograms ++ filePrograms ++ startingPrograms ++ tellingPrograms

/-- The task of the program with a name. -/
def named : Programs :=
  fun name call =>
    match table.lookup name with
    | some program => program call
    | none => .exit 127

end TaskRunner.Program
