import Shell.FileSystem.Make
import Shell.Process.Collect
import Shell.Program.Arrange
import Shell.Program.Copy
import Shell.Program.Count
import Shell.Program.Present
import Shell.Program.Print
import Shell.Program.Replace
import Shell.Program.Select
import Shell.Script.Start

/-!
# The installed programs

The programs that a machine comes with and the files that they are.
-/

namespace Shell

namespace Programs

/-- What the installed programs do. -/
def standard : Programs := fun program inv =>
  match program with
  | "sh" => Script.sh inv
  | "cat" => (Program.cat inv).toProc
  | "tr" => (Program.tr inv).toCollecting { name := inv.name }
  | "sort" => (Program.sort inv).toProc
  | "head" => (Program.head inv).toCollecting { name := inv.name }
  | "tail" => (Program.tail inv).toCollecting { name := inv.name }
  | "wc" => (Program.wc inv).toProc
  | "printf" => (Program.printf inv).toCollecting { name := inv.name, watchful := false }
  | "yes" => (Program.yes inv).toProc
  | "true" => .exit 0
  | "false" => .exit 1
  | "sleep" => (Program.sleep inv).toProc
  | "who" => (Program.who inv).toCollecting { name := inv.name, watchful := false }
  | _ => .exit 127

/-- The names of the installed programs. -/
def installed : List String :=
  ["cat", "false", "head", "printf", "sh", "sleep", "sort", "tail", "tr", "true", "wc", "who", "yes"]

end Programs

namespace FileSystem

/-- The devices and where they are. -/
def devices : List (String × Device) :=
  [("/dev/null", .null), ("/dev/full", .full), ("/dev/zero", .zero),
   ("/dev/fd/0", .descriptor 0), ("/dev/fd/1", .descriptor 1), ("/dev/fd/2", .descriptor 2),
   ("/dev/stdin", .descriptor 0), ("/dev/stdout", .descriptor 1), ("/dev/stderr", .descriptor 2)]

/-- The directories of a machine on which nothing was done yet. -/
def directories : List String :=
  ["/etc", "/home", "/opt", "/root", "/tmp", "/usr/lib", "/usr/local/bin", "/usr/sbin", "/usr/share",
   "/var/lib", "/var/tmp"]

/-- The files of a machine on which nothing was done yet. -/
def initial : FileSystem :=
  let fs : FileSystem := directories.foldl makeDirectory {}
  let fs := Programs.installed.foldl
    (fun fs name => fs.make ("/usr/bin/" ++ name) (.program name)) fs
  let fs := fs.make "/bin" (.link "usr/bin")
  let fs := fs.make "/sbin" (.link "usr/sbin")
  devices.foldl (fun fs (path, device) => fs.make path (.device device)) fs

end FileSystem

end Shell
