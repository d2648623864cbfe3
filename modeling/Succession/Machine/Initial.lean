import Succession.Machine.Host

/-!
# A machine at its beginning

Every machine has the usual directories and devices, and a directory in which its processes begin.

* `Kernel.initial`, `Process.initial`;
* `Kernel.hold`      another process takes the lock of a file that is there;
* `Host.edit`        an operator changes files.
-/

namespace Succession

def usualDirectories : List String := ["/boot", "/dev", "/dev/pts", "/dev/shm", "/etc", "/home",
  "/media", "/mnt", "/opt", "/proc", "/root", "/run", "/run/lock", "/srv", "/sys", "/tmp", "/usr",
  "/usr/bin", "/usr/include", "/usr/lib", "/usr/lib64", "/usr/local", "/usr/local/bin",
  "/usr/local/etc", "/usr/local/include", "/usr/local/lib", "/usr/local/sbin", "/usr/local/share",
  "/usr/sbin", "/usr/share", "/usr/src", "/var", "/var/cache", "/var/lib", "/var/log", "/var/spool",
  "/var/tmp"]

/-- other names of usual directories, and what they lead to -/
def usualLinks : List (String × String) := [("/bin", "usr/bin"), ("/lib", "usr/lib"),
  ("/lib64", "usr/lib64"), ("/sbin", "usr/sbin"), ("/var/lock", "/run/lock"), ("/var/run", "/run")]

/-- the usual directories and devices, and `home` -/
def FileSystem.initial (home : Path) : FileSystem :=
  let root := Path.ofText "/"
  let fs := (usualDirectories.map Path.ofText ++ [home]).foldl
    (fun fs directory => fs.makeDirectory root directory) FileSystem.empty
  let fs := usualLinks.foldl (fun fs link =>
    fs.makeLink root (Path.ofText link.1) (Path.ofText link.2)) fs
  let fs := fs.makeDevice root (Path.ofText "/dev/full") true
  fs.makeDevice root (Path.ofText "/dev/null") false

/-- opens what is there; a machine at its beginning has it -/
def FileSystem.openDevice (fs : FileSystem) (path : Path) : Handle × FileSystem :=
  match fs.openFile (Path.ofText "/") path .appending with
  | (.ok h, fs) => (h, fs)
  | (.error _, fs) => (0, fs)

namespace Kernel

def initial (home : Path) (now : Int) (nextPid : Nat) : Kernel :=
  let (stdout, fs) := (FileSystem.initial home).openDevice (Path.ofText "/dev/null")
  let (stderr, fs) := fs.openDevice (Path.ofText "/dev/null")
  ⟨fs, now, nextPid, none, none, [], stdout, stderr⟩

def edit (k : Kernel) (f : FileSystem → FileSystem) : Kernel := { k with fs := f k.fs }

/-- another process opens a file that is there, and takes its lock -/
def hold (k : Kernel) (workDir path : Path) : Option (Handle × Kernel) :=
  match k.fs.openFile workDir path .reading with
  | (.ok h, fs) => some (h, { k with fs := (fs.lock h).2 })
  | (.error _, _) => none

def unhold (k : Kernel) (h : Handle) : Kernel := k.edit (·.close h)

end Kernel

def Process.initial (pid parent : Nat) (executable : Path) (arguments : List Bytes)
    (workDir : Path) : Process :=
  ⟨pid, parent, executable, arguments, workDir, false, [], .none, .absent, (none, none), [], [], []⟩

/-- a process that begins in `home` on a machine of its own -/
def Host.initial (home : Path) (now : Int) (pid : Nat) : Host :=
  ⟨.initial home now 5000, .initial pid 1 (Path.ofText "/usr/local/bin/app") [] home⟩

def Host.edit (host : Host) (f : FileSystem → FileSystem) : Host := host.withFs (f host.kernel.fs)

end Succession
