/-
All tools by the names of their programs.
-/
import Configurator.Tool.Calculate
import Configurator.Tool.Edit
import Configurator.Tool.Lines
import Configurator.Tool.Listing
import Configurator.Tool.Print
import Configurator.Tool.Search
import Configurator.Tool.Start
import Configurator.Tool.Translate
import Configurator.Tool.View

namespace Configurator.Tool

open Host

/-- A program that does one job. -/
structure Entry where
  name : String
  run : Call → Action Unit

/-- Tools that show files or parts of them. -/
def viewers : List Entry :=
  [⟨"cat", View.cat⟩, ⟨"head", View.head⟩, ⟨"tail", View.tail⟩, ⟨"wc", View.wc⟩, ⟨"tee", View.tee⟩]

/-- Tools that work on lines. -/
def editors : List Entry :=
  [⟨"cut", Lines.cut⟩, ⟨"uniq", Lines.uniq⟩, ⟨"tr", Translate.tr⟩, ⟨"grep", Search.grep⟩, ⟨"sed", Edit.sed⟩]

/-- Tools that work on names and on what stands under them. -/
def keepers : List Entry :=
  [⟨"basename", Name.basename⟩, ⟨"dirname", Name.dirname⟩, ⟨"touch", Files.touch⟩, ⟨"mkdir", Files.mkdir⟩,
    ⟨"rm", Files.rm⟩, ⟨"cp", Files.cp⟩, ⟨"mv", Files.mv⟩, ⟨"ln", Files.ln⟩, ⟨"chmod", Files.chmod⟩,
    ⟨"ls", Listing.ls⟩]

/-- Tools that print and count, and those that only end. -/
def printers : List Entry :=
  [⟨"echo", Print.echo⟩, ⟨"printf", Print.printf⟩, ⟨"seq", Print.seq⟩, ⟨"expr", Calculate.expr⟩,
    ⟨"true", fun _ => Work.exit 0⟩, ⟨"false", fun _ => Work.exit 1⟩]

/-- Tools that start programs or wait. -/
def starters : List Entry :=
  [⟨"env", Start.env⟩, ⟨"sleep", Start.sleep⟩, ⟨"xargs", Start.xargs⟩]

def all : List Entry := viewers ++ editors ++ keepers ++ printers ++ starters

def find? (name : String) : Option Entry := all.find? (·.name = name)

/-- A tool at work, with its arguments, the name under which it is started first, and the variables it gets
to see. -/
def Entry.start (e : Entry) (argv : List String) (environment : List (String × String)) (k : Kernel) : Step :=
  e.run { program := argv.head?.getD e.name, args := argv.drop 1, environment := environment }
    (fun _ _ k => .ended k (.exited 0)) {} k

end Configurator.Tool
