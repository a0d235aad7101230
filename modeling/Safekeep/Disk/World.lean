import Safekeep.Disk.Basic

/-!
# The machine's disk

The disk a program starts from: `/tmp`, the system programs in `/usr/bin` (with `/bin` a link to
it), the null device `/dev/null`, and a fresh private directory for the program's files. A system program's file starts with
the bytes of an executable image followed by the program's name, which is how running it finds
what it does. The clock shows a fixed recent time.
-/

namespace Safekeep

def imageMagic : List UInt8 := [0x7f, 0x45, 0x4c, 0x46]

def programImage (name : String) : ByteArray := ⟨(imageMagic ++ [0x20]).toArray⟩ ++ name.toUTF8

def imageProgram? (data : ByteArray) : Option String :=
  let bytes := data.toList
  if bytes.take 5 = imageMagic ++ [0x20] then String.fromUTF8? ⟨(bytes.drop 5).toArray⟩ else none

def systemPrograms : List String :=
  ["sh", "dash", "true", "false", "echo", "printf", "rm", "cat", "mkdir", "touch", "cp", "mv",
   "sleep", "kill", "test", "[", "env", "ls", "chmod", "ln", "rmdir", "basename", "dirname",
   "readlink", "pwd", "printenv", "wc", "tr", "head", "tail", "cut", "sort", "uniq", "tee", "rev",
   "yes", "seq", "expr"]

/-- The search path of a shell whose environment has none. -/
def searchPath : String := "/usr/local/sbin:/usr/local/bin:/usr/sbin:/usr/bin:/sbin:/bin"

def clockNow : FileTime := ⟨1750000000, 0⟩

def installTime : FileTime := ⟨1690000000, 0⟩

/-- The machine's disk with an empty private directory at `home`. -/
def Disk.machine (home : Loc) : Disk where
  nodes :=
    let base : List (Loc × Node) :=
      [(["tmp"], .dir 0o1777), (["usr"], .dir 0o755), (["usr", "bin"], .dir 0o755), (["bin"], .link "usr/bin"),
       (["dev"], .dir 0o755), (nullDevice, .file ByteArray.empty 0o666 installTime)]
    let programs : List (Loc × Node) :=
      systemPrograms.map fun p => (["usr", "bin", p], .file (programImage p) 0o755 installTime)
    let homes : List (Loc × Node) :=
      (((List.range home.length).map fun k => home.take (k + 1)).filter fun l => l ≠ ["tmp"]).map
        fun l => (l, .dir 0o700)
    base ++ programs ++ homes
  now := clockNow

end Safekeep
