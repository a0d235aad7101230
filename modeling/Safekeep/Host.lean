import Safekeep.Disk.Basic

/-!
# The host

What the program meets of its machine besides the disk: its environment variables, whether it
runs as the superuser, and a way to start another program. Starting a program is a parameter of
everything that does it; the library's own shell gives one launcher (`Host.machine`).

A copy's chunk may fail to be read (an I/O error) or written (no space left). The program is
taken to own every file. Listing a directory needs the owner's read permission,
and looking up a name in it the owner's search permission; the superuser needs neither.
-/

namespace Safekeep

/-- How a process ended. -/
inductive Ending
  | exited (code : Nat)
  | signalled (sig : Nat)
  deriving DecidableEq, Repr

/-- The machine a program runs on. `start d cwd env path argv` runs the program at `path` with
the arguments `argv` (its name first) and the environment `env`, from the working directory
`cwd`: the disk after it, and how it ended or why it could not start. `ioFault path k` is how
the chunk of the file at `path` from offset `k` fails to be read or written, if it does. -/
structure Host where
  env : List (String × String)
  superuser : Bool
  start : Disk → Loc → List (String × String) → String → List String → Disk × Except Errno Ending
  ioFault : String → Nat → Option Errno

namespace Host

/-- The program search path of the environment, if it has one. -/
def searchPath? (h : Host) : Option String := h.env.lookup "PATH"

/-- Whether a directory of these permission bits may be listed. -/
def mayList (h : Host) (mode : Nat) : Bool := h.superuser || mode &&& 0o400 != 0

/-- Whether names may be looked up in a directory of these permission bits. -/
def maySearch (h : Host) (mode : Nat) : Bool := h.superuser || mode &&& 0o100 != 0

@[simp] theorem mayList_superuser {h : Host} (hs : h.superuser = true) (mode : Nat) :
    h.mayList mode = true := by
  simp [mayList, hs]

@[simp] theorem maySearch_superuser {h : Host} (hs : h.superuser = true) (mode : Nat) :
    h.maySearch mode = true := by
  simp [maySearch, hs]

end Host

end Safekeep
