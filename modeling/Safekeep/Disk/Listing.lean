import Safekeep.Disk.Ops
import Safekeep.Json.Value

/-!
# Listing a disk

The listing of a directory names every entry below it, depth first, the entries of each directory
by name, with paths relative to the listed directory. A directory shows its kind, a link its
target, a file its modification time and what it holds: up to 1024 bytes as text (when they are
UTF-8) or as hexadecimal, larger files by size and FNV-1a 64-bit hash.

Times from 1700000000 on are those the disk's own clock gives; they are shown as `recent`. A
nanosecond part is shown only when it is not zero.
-/

namespace Safekeep

open Safekeep.Json

def fnv1a64 (bytes : ByteArray) : UInt64 :=
  bytes.foldl (fun h b => (h ^^^ b.toUInt64) * 0x100000001b3) 0xcbf29ce484222325

def hexDigits (width n : Nat) : String :=
  String.ofList ((List.range width).reverse.map fun k => Json.hexDigit (n / Nat.pow 16 k % 16))

def hexOfBytes (bytes : ByteArray) : String :=
  String.join (bytes.toList.map fun b => hexDigits 2 b.toNat)

def recentFrom : Int := 1700000000

/-- The listing of one entry at a relative path. -/
def Node.listing (path : String) : Node → Value
  | .dir _ => Value.object [("path", .str path), ("type", .str "dir")]
  | .link t => Value.object [("path", .str path), ("type", .str "symlink"), ("target", .str t)]
  | .file data _ mtime =>
    let time : List (String × Value) :=
      if mtime.secs ≥ recentFrom then [("mtime", .str "recent")]
      else [("mtime", Value.int mtime.secs)] ++ (if mtime.nanos = 0 then [] else [("mtime_ns", Value.nat mtime.nanos)])
    let body : List (String × Value) :=
      if data.size ≤ 1024 then
        match String.fromUTF8? data with
        | some s => [("content", .str s)]
        | none => [("hex", .str (hexOfBytes data))]
      else [("size", Value.nat data.size), ("fnv1a64", .str (hexDigits 16 (fnv1a64 data).toNat))]
    Value.object ([("path", .str path), ("type", .str "file")] ++ time ++ body)

def Disk.below (d : Disk) (dir : Loc) : List (String × Node) :=
  let inside := d.nodes.filter fun e => dir.isPrefixOf e.1 ∧ e.1.length > dir.length
  let sorted := inside.mergeSort fun a b => Loc.le a.1 b.1
  sorted.map fun e => ("/".intercalate (e.1.drop dir.length), e.2)

def Disk.listing (d : Disk) (dir : Loc) : Value :=
  .arr ((d.below dir).map fun (p, n) => n.listing p)

def Node.kindName : Node → String
  | .dir _ => "dir"
  | .link _ => "symlink"
  | .file _ _ _ => "file"

def Disk.outline (d : Disk) (dir : Loc) : Value :=
  .arr ((d.below dir).map fun (p, n) => Value.object [("path", .str p), ("type", .str n.kindName)])

end Safekeep
