import Safekeep.Disk.Ops

/-!
# Copying a file

A copy waits for the business pause to lift, creates the target's missing parent directories,
opens the source, creates or truncates the target, then moves the bytes over in chunks of at
most 1 MiB, waiting for the pause before every read, and last gives the target the modification
time the source had when it was opened. What the copy reads is the source as it is once the
target has been opened, so copying a file onto itself leaves it empty. A directory opens as a
source but cannot be read: the copy then fails after creating an empty target.

A read may hand back fewer bytes than asked, never none while bytes remain, and the read of a
chunk or the write of it may fail (an I/O error, no space left): the copy then stops with that
error, the chunk unwritten. A wait ends with the pause lifted or with the run found cancelled,
which stops the copy. What the copy meets at its waits, reads and writes comes from outside it
(`CopyWorld`); a copy that meets no cancellation, no failure and only whole reads is what a run
sees on a regular file that nothing else touches.

Each step's effects stay when a later step fails.
-/

namespace Safekeep

def chunkSize : Nat := 1024 * 1024

/-- Why a copy stopped short: a file operation failed, or the run was found cancelled at one of
the copy's pause waits. -/
inductive CopyError
  | io (e : Errno)
  | cancelled
  deriving DecidableEq, Repr

/-- What a copy meets from outside, read by the offset the copy has reached: whether the run is
found cancelled at the pause wait before opening (`none`) and before the read at an offset, at
most how many bytes the read at an offset hands back, and how the chunk read at an offset fails
to be read or written, if it does. Successive reads start at growing offsets, so these describe
every course of cancellations, short reads and failures. -/
structure CopyWorld where
  cancelledAt : Option Nat → Bool
  readLimit : Nat → Nat
  fault : Nat → Option Errno

/-- A copy left alone: never cancelled, every read as long as asked. -/
def CopyWorld.calm : CopyWorld := ⟨fun _ => false, fun _ => chunkSize, fun _ => none⟩

def CopyWorld.halted : CopyWorld := ⟨fun _ => true, fun _ => chunkSize, fun _ => none⟩

/-- A copy under way. -/
structure Copying where
  -- The bytes the source gives, or none when it cannot be read (a directory).
  data : Option ByteArray
  -- Where the bytes go.
  target : Loc
  -- The target's path, for the final time stamp.
  targetPath : String
  -- How many bytes one read asks for.
  buffer : Nat
  buffer_pos : 0 < buffer
  -- How many bytes were copied.
  done : Nat
  -- The source's modification time when it was opened.
  mtime : FileTime

/-- Copies are equal when their fields are, the bytes compared one by one. -/
instance : DecidableEq Copying := fun a b =>
  have : DecidableEq ByteArray := ByteArray.instDecidableEq
  decidable_of_iff (a.data = b.data ∧ a.target = b.target ∧ a.targetPath = b.targetPath ∧
      a.buffer = b.buffer ∧ a.done = b.done ∧ a.mtime = b.mtime) (by
    cases a
    cases b
    simp)

def Copying.left (c : Copying) : Nat :=
  match c.data with
  | some bytes => bytes.size - c.done
  | none => 0

/-- The next chunk of a copy when the system hands back at most `limit` bytes, and at least one:
its bytes and the copy after it, or none at the end. -/
def Copying.readChunk (c : Copying) (limit : Nat) : Except Errno (Option (ByteArray × Copying)) :=
  match c.data with
  | none => .error .isDir
  | some bytes =>
    if c.done ≥ bytes.size then .ok none
    else
      let n := min (min c.buffer (max limit 1)) (bytes.size - c.done)
      .ok (some (bytes.extract c.done (c.done + n), { c with done := c.done + n }))

/-- Each chunk leaves fewer bytes to read. -/
theorem Copying.readChunk_left {c c' : Copying} {limit : Nat} {bytes : ByteArray}
    (h : c.readChunk limit = .ok (some (bytes, c'))) : c'.left < c.left := by
  unfold readChunk at h
  split at h
  · cases h
  · rename_i data hdata
    split at h
    · cases h
    · cases h
      have := c.buffer_pos
      simp only [left, hdata]
      omega

namespace Disk

def createParents (d : Disk) (cwd : Loc) (target : String) : Except Errno Disk :=
  match Path.parent? target with
  | some q => d.createDirAll cwd q
  | none => .ok d

/-- Start a copy: create the target's parents, open the source, create the target. -/
def openCopy (d : Disk) (cwd : Loc) (source target : String) : Disk × Except Errno Copying :=
  match d.createParents cwd target with
  | .error e => (d, .error e)
  | .ok d =>
    match d.resolve cwd source true with
    | .error e => (d, .error e)
    | .ok (.absent _ _ _) => (d, .error .noEntry)
    | .ok (.found src n) =>
      let st := n.stat
      match d.openWrite cwd target true with
      | .error e => (d, .error e)
      | .ok (d, loc) =>
        let data := match d.get? src with
          | some (.file bytes _ _) => some bytes
          | _ => none
        (d, .ok ⟨data, loc, target, min chunkSize (max st.size 1),
          by unfold chunkSize; omega, 0, st.mtime⟩)

/-- The next chunk of a copy, a whole buffer's worth when the file has that much left. -/
def nextChunk (c : Copying) : Except Errno (Option (ByteArray × Copying)) :=
  c.readChunk c.buffer

def writeChunk (d : Disk) (c : Copying) (bytes : ByteArray) : Disk := d.appendAt c.target bytes

/-- End a copy: give the target the source's time. -/
def finishCopy (d : Disk) (cwd : Loc) (c : Copying) : Except Errno Disk := d.setMtime cwd c.targetPath c.mtime

/-- Move the remaining chunks of a copy, each after a pause wait. -/
def copyChunks (d : Disk) (w : CopyWorld) (c : Copying) : Disk × Except CopyError Copying :=
  if w.cancelledAt (some c.done) then (d, .error .cancelled)
  else
    match _h : c.readChunk (w.readLimit c.done) with
    | .error e => (d, .error (.io e))
    | .ok none => (d, .ok c)
    | .ok (some (bytes, c')) =>
      match w.fault c.done with
      | some e => (d, .error (.io e))
      | none => (d.writeChunk c bytes).copyChunks w c'
termination_by c.left
decreasing_by exact Copying.readChunk_left _h

/-- Copy a file whole; the number of bytes copied. -/
def copyFile (d : Disk) (cwd : Loc) (w : CopyWorld) (source target : String) :
    Disk × Except CopyError Nat :=
  if w.cancelledAt none then (d, .error .cancelled)
  else
    match d.openCopy cwd source target with
    | (d, .error e) => (d, .error (.io e))
    | (d, .ok c) =>
      match d.copyChunks w c with
      | (d, .error e) => (d, .error e)
      | (d, .ok c) =>
        match d.finishCopy cwd c with
        | .ok d => (d, .ok c.done)
        | .error e => (d, .error (.io e))

/-- Give the target the source's modification time (following links on both). -/
def copyMtime (d : Disk) (cwd : Loc) (source target : String) : Except Errno Disk := do
  let st ← d.stat cwd source
  d.setMtime cwd target st.mtime

end Disk

end Safekeep
