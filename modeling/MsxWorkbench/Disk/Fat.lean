/-
# The allocation table

A FAT12 table packs one entry of twelve bits for each cluster, two entries to three bytes: the entry
of an even cluster lies in the low bits of the word at its place, that of an odd cluster in the high
ones. An entry tells the cluster that follows in a file.
-/
namespace MsxWorkbench.Disk

/-- The place in a sequence of `size` elements that an index names; negative ones count from the end,
and all are kept inside. -/
def place (size : Nat) (index : Int) : Nat :=
  if index < 0 then (size + index).toNat else min index.toNat size

/-- The number of a word with the low byte first; `none` unless there are two bytes. -/
def word? : List UInt8 → Option Nat
  | [low, high] => some (low.toNat + 256 * high.toNat)
  | _ => none

/-- The number of four bytes with the lowest first; `none` unless there are four. -/
def longWord? : List UInt8 → Option Nat
  | [a, b, c, d] => some (a.toNat + 256 * (b.toNat + 256 * (c.toNat + 256 * d.toNat)))
  | _ => none

/-- An allocation table. -/
abbrev Fat := Array UInt8

namespace Fat

/-- Where the word that holds an entry starts. -/
def wordIndex (cluster : Int) : Int := Int.fdiv (cluster * 3) 2

/-- The two bytes that hold an entry; fewer when it does not lie in the table. -/
def wordBytes (fat : Fat) (cluster : Int) : List UInt8 :=
  (fat.extract (place fat.size (wordIndex cluster)) (place fat.size (wordIndex cluster + 2))).toList

/-- The entry of a cluster; `none` when the table does not hold both of its bytes. Negative clusters
count from the end of the table. -/
def entry? (fat : Fat) (cluster : Int) : Option Nat :=
  (word? (fat.wordBytes cluster)).map fun w =>
    if Int.fmod cluster 2 = 1 then w / 16 else w % 4096

/-- The low twelve bits of a value. -/
def lowBits (value : Int) : Nat := (value % 4096).toNat

/-- The table with the entry of a cluster set to the low twelve bits of a value (`set_fat`). -/
def setEntry (fat : Fat) (cluster : Nat) (value : Int) : Fat :=
  let i := cluster * 3 / 2
  let v := lowBits value
  let low := (fat.getD i 0).toNat
  let high := (fat.getD (i + 1) 0).toNat
  if cluster % 2 = 1 then
    (fat.setIfInBounds i (UInt8.ofNat (low % 16 + 16 * (v % 16)))).setIfInBounds (i + 1)
      (UInt8.ofNat (v / 16))
  else
    (fat.setIfInBounds i (UInt8.ofNat (v % 256))).setIfInBounds (i + 1)
      (UInt8.ofNat (high / 16 * 16 + v / 256))

end Fat

end MsxWorkbench.Disk
