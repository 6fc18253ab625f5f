import Mathlib.Data.Int.Basic
import Mathlib.Logic.Function.Basic
import Xupnp.Library.CString
import Xupnp.Library.Run

/-!
# The device-protection white list (`dp_wlist`)

A table of 2048 entries in shared memory. An address has its own entry among
the first 1024 (`dp_hashindex`); further addresses with the same index go to
the other 1024, linked through `ofb_index`, whose free indices a FIFO hands
out. The functions are those of `xdiscovery.c`. A read or write outside the
table is a fault, and so is a walk that revisits entries for ever; the
uninitialised locals `stat` and `pindex` of the callers are arguments.
-/

namespace Xupnp.WhiteList

open Xupnp.Library

def maxEntries : ℕ := 1024
def maxOverflow : ℕ := 1024
def maxBufSize : ℕ := 2048
def macAddressSize : ℕ := 20

/-- `dp_wlist_ss_t` -/
inductive DpStat where
  | success
  | invalidMac
  | collision
  | wlistError
deriving DecidableEq

/-- The enumerator's value; `dpnode_lookup` may return it in place of an
index. -/
def DpStat.code : DpStat → ℕ
  | success => 0
  | invalidMac => 1
  | collision => 2
  | wlistError => 3

/-- `dp_wlist_t` -/
structure DpNode where
  ipaddr : ℤ
  macaddr : CStr.Buffer macAddressSize
  ofbIndex : ℤ
deriving DecidableEq

/-! ## The FIFO of free overflow indices -/

/-- `DEF_FIFO (dp_wlist_fifo, MAX_OVERFLOW, unsigned int)`: the entries from
`tail` to `size` are in it. -/
structure DpFifo where
  entries : ℕ → ℕ
  tail : ℕ
  size : ℕ
  tail_le : tail ≤ size
  size_le : size ≤ maxOverflow

namespace DpFifo

/-- The object of static storage duration before any statement ran. -/
def zero : DpFifo := ⟨fun _ => 0, 0, 0, Nat.le_refl 0, Nat.zero_le _⟩

/-- `INIT_FIFO (name, MAX_OVERFLOW)` -/
def initFifo (f : DpFifo) : DpFifo :=
  ⟨f.entries, maxOverflow, maxOverflow, Nat.le_refl _, Nat.le_refl _⟩

/-- `ENQUEUE_FIFO`; `none` is `FIFO_FULL`. -/
def enqueue (f : DpFifo) (value : ℕ) : Option DpFifo :=
  if 0 < f.tail then
    some ⟨Function.update f.entries (f.tail - 1) value, f.tail - 1, f.size,
      (Nat.sub_le _ _).trans f.tail_le, f.size_le⟩
  else none

/-- `DEQUEUE_FIFO`; `none` is `FIFO_EMPTY`. -/
def dequeue (f : DpFifo) : Option (ℕ × DpFifo) :=
  if h : f.tail ≠ f.size then
    some (f.entries f.tail, ⟨f.entries, f.tail + 1, f.size,
      Nat.lt_of_le_of_ne f.tail_le h, f.size_le⟩)
  else none

/-- What the FIFO holds, next one out first. -/
def contents (f : DpFifo) : List ℕ :=
  (List.range' f.tail (f.size - f.tail)).map f.entries

end DpFifo

/-! ## The table -/

/-- Undefined behaviour of the source. -/
inductive Fault where
  | outOfBounds
  | diverges
deriving DecidableEq

/-- `dp_wlist` and `dp_wlist_fifo`. `attached` is `dp_wlist != (void *) -1`. -/
structure Wlist where
  attached : Bool
  slots : ℕ → DpNode
  fifo : DpFifo

namespace Wlist

/-- Read `dp_wlist[i]`. -/
def slot (w : Wlist) (i : ℕ) : Except Fault DpNode :=
  if i < maxBufSize then .ok (w.slots i) else .error .outOfBounds

/-- Write fields of `dp_wlist[i]`. -/
def modify (w : Wlist) (i : ℕ) (f : DpNode → DpNode) : Except Fault Wlist :=
  if i < maxBufSize then
    .ok { w with slots := Function.update w.slots i (f (w.slots i)) }
  else .error .outOfBounds

/-- `ENQUEUE_FIFO (dp_wlist_fifo, value, ret)`, where `ret` is not looked
at. -/
def enqueue (w : Wlist) (value : ℕ) : Wlist :=
  { w with fifo := (w.fifo.enqueue value).getD w.fifo }

end Wlist

/-- Conversion to `unsigned short`. -/
def toUShort (x : ℤ) : ℕ := (x % 65536).toNat

/-- Conversion of an `unsigned int` to `short`. -/
def toShort (n : ℕ) : ℤ := (n + 32768 : ℤ) % 65536 - 32768

/-- Folds an address into ten bits. The second fold is the source's
`(ret >> 10) && 0x3FF`, which is 0 or 1. -/
def dpHashindex (ipaddr : ℤ) : ℕ :=
  let sum := (ipaddr % 1024 + ipaddr / 2 ^ 10 % 1024 + ipaddr / 2 ^ 20 % 1024
    + ipaddr / 2 ^ 30 % 1024).toNat
  let ret := (sum % 1024 + if sum / 1024 ≠ 0 then 1 else 0) % 1024
  if ret ≠ 0 then ret - 1 else ret

/-- The first loop of `dp_wlistInit`: push the indices until one does not
fit. -/
def pushIndices : DpFifo → List ℕ → DpFifo
  | f, [] => f
  | f, i :: is =>
      match f.enqueue i with
      | some f' => pushIndices f' is
      | none => f

/-- `dp_wlistInit` with the global FIFO as it finds it; `shm` is what `shmat`
attaches, `none` where the memory cannot be had. -/
def dpWlistInit (fifo : DpFifo) (shm : Option (ℕ → DpNode)) : Wlist :=
  match shm with
  | none => ⟨false, fun _ => ⟨0, CStr.strncpy macAddressSize [], 0⟩, fifo⟩
  | some mem =>
      -- `INIT_FIFO` is not run, so the FIFO has the room it had.
      { attached := true
        fifo := pushIndices fifo
          (List.range' maxEntries (maxBufSize - maxEntries))
        slots := fun i =>
          if i < maxBufSize then { mem i with ofbIndex := -1 } else mem i }

/-- The loop of `dpnode_lookup` over the overflow entries. An unfinished walk
of `fuel` steps has met some entry twice, and then never ends. -/
def dpnodeSearch (w : Wlist) (ipaddr : ℤ) (mac : CStr) :
    (fuel index lastnode : ℕ) → Except Fault (ℤ × DpStat × ℕ)
  | 0, _, _ => .error .diverges
  | fuel + 1, index, lastnode => do
      let node ← w.slot index
      if node.ofbIndex > 0 then
        let next := node.ofbIndex.toNat
        let node ← w.slot next
        if node.ipaddr = ipaddr then
          .ok (next,
            if CStr.strncmpEq mac node.macaddr then .collision
            else .invalidMac, index)
        else dpnodeSearch w ipaddr mac fuel next index
      -- The last node is reached, `*lastnode` is still the one before it.
      else .ok (-1, .collision, lastnode)

/-- `dpnode_lookup`: the returned index, and `*stat` and `*lastnode` as it
leaves them. -/
def dpnodeLookup (w : Wlist) (ipaddr : ℤ) (mac : CStr) (stat : DpStat)
    (lastnode : ℕ) : Except Fault (ℤ × DpStat × ℕ) :=
  if w.attached = false then .ok (DpStat.wlistError.code, stat, lastnode)
  else do
    let index := dpHashindex ipaddr
    let node ← w.slot index
    -- A free entry: `*stat` and `*lastnode` are left as they are.
    if node.ofbIndex = -1 then .ok (-1, stat, lastnode)
    else if node.ipaddr = ipaddr then
      .ok (index,
        if CStr.strncmpEq mac node.macaddr then .success else .invalidMac,
        lastnode)
    else dpnodeSearch w ipaddr mac (maxBufSize + 1) index index

/-- `dpnode_insert`; `stat` and `pindex` are what its locals start with. -/
def dpnodeInsert (w : Wlist) (ipaddr : ℤ) (mac : CStr) (stat : DpStat)
    (pindex : ℕ) : Except Fault (DpStat × Wlist) :=
  if w.attached = false then .ok (.wlistError, w)
  else do
    let (index, stat, pindex) ← dpnodeLookup w ipaddr mac stat pindex
    if index = -1 then
      if stat = .collision then
        match w.fifo.dequeue with
        | some (value, fifo) =>
            let index := toShort value
            let w ← { w with fifo := fifo }.modify pindex
              fun n => { n with ofbIndex := index }
            let w ← w.modify (toUShort index) fun _ =>
              ⟨ipaddr, CStr.strncpy macAddressSize mac.bytes, 0⟩
            .ok (.success, w)
        | none => .ok (.success, w)
      else
        let w ← w.modify (dpHashindex ipaddr) fun _ =>
          ⟨ipaddr, CStr.strncpy macAddressSize mac.bytes, 0⟩
        .ok (.success, w)
    else if stat = .invalidMac then
      let w ← w.modify index.toNat fun n =>
        { n with macaddr := CStr.strncpy macAddressSize mac.bytes }
      .ok (.success, w)
    else .ok (.wlistError, w)

/-- `dpnode_delete`. The looked-up `short` is stored in an `unsigned short`,
so `-1` becomes `65535` and the test `>= 0` holds of every index. -/
def dpnodeDelete (w : Wlist) (ipaddr : ℤ) (mac : CStr) (stat : DpStat)
    (pindex : ℕ) : Except Fault Wlist := do
  let (found, _, pindex) ← dpnodeLookup w ipaddr mac stat pindex
  let index := toUShort found
  if index ≠ DpStat.wlistError.code then
    let node ← w.slot index
    if index < maxEntries then
      if node.ofbIndex = 0 then
        w.modify index fun n => { n with ofbIndex := -1, ipaddr := 0 }
      else
        -- The node behind the head moves into its place.
        let tindex := toUShort node.ofbIndex
        let t ← w.slot tindex
        let w ← w.modify index fun _ =>
          ⟨t.ipaddr, CStr.strncpy macAddressSize t.macaddr.chars, t.ofbIndex⟩
        let w ← w.modify tindex fun n => { n with ofbIndex := -1, ipaddr := 0 }
        .ok (w.enqueue tindex)
    else
      -- `pindex` is the node in front of the one found.
      let w ← w.modify pindex fun n => { n with ofbIndex := node.ofbIndex }
      let w ← w.modify index fun n => { n with ofbIndex := -1, ipaddr := 0 }
      .ok (w.enqueue index)
  else .ok w

/-! ## Runs -/

/-- What the locals `stat` and `pindex` of a caller hold before it runs. -/
structure Locals where
  stat : DpStat
  pindex : ℕ
deriving DecidableEq

/-- The calls that change the white list. -/
inductive DpOp where
  | insert (ipaddr : ℤ) (mac : CStr) (locals : Locals)
  | delete (ipaddr : ℤ) (mac : CStr) (locals : Locals)
deriving DecidableEq

/-- One call; `none` where it faults. -/
def dpStep (w : Wlist) : DpOp → Option Wlist
  | .insert ip mac l =>
      ((dpnodeInsert w ip mac l.stat l.pindex).map Prod.snd).toOption
  | .delete ip mac l => (dpnodeDelete w ip mac l.stat l.pindex).toOption

end Xupnp.WhiteList
