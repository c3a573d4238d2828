/-
  Kernel BPF maps, by what a program observes of them.

  * `ArrayMap n V`        — `BPF_MAP_TYPE_ARRAY`: always `n` entries, indexed from 0; a lookup at or
    past `n` answers NULL.
  * `LruHash K V`         — `BPF_MAP_TYPE_LRU_HASH`: a partial function.  What the kernel evicts is a
    separate step (`evict`), so an update touches its own key only.
  * `LruPercpuHash C K V` — `BPF_MAP_TYPE_LRU_PERCPU_HASH`: ONE key set for all CPUs, one value per
    CPU.  A program's update of a NEW key stores the value for the executing CPU and ZERO-FILLS the
    other CPUs'; an update of a present key writes the executing CPU's value only; a lookup reads the
    executing CPU's value; a delete removes the key for everybody.
  * `LpmTrie V`           — `BPF_MAP_TYPE_LPM_TRIE` over 32-bit addresses: longest prefix wins.
-/
import Mathlib.Algebra.Group.Int.Defs
import Mathlib.Algebra.Group.Nat.Defs
import Mathlib.Data.Fintype.Card

namespace FluxWAN.BpfMap

/-! ## Arrays -/

abbrev ArrayMap (n : Nat) (V : Type) := Fin n → V

namespace ArrayMap

variable {n : Nat} {V : Type}

def lookup (m : ArrayMap n V) (k : Nat) : Option V :=
  if h : k < n then some (m ⟨k, h⟩) else none

def update (m : ArrayMap n V) (k : Nat) (v : V) : ArrayMap n V :=
  fun i => if i.val = k then v else m i

theorem lookup_of_lt (m : ArrayMap n V) (h : k < n) : m.lookup k = some (m ⟨k, h⟩) :=
  dif_pos h

theorem lookup_val (m : ArrayMap n V) (i : Fin n) : m.lookup i.val = some (m i) := dif_pos i.isLt

end ArrayMap

/-! ## LRU hashes -/

abbrev LruHash (K V : Type) := K → Option V

namespace LruHash

variable {K V : Type}

def lookup (m : LruHash K V) (k : K) : Option V := m k

def update [DecidableEq K] (m : LruHash K V) (k : K) (v : V) : LruHash K V :=
  fun k' => if k' = k then some v else m k'

def delete [DecidableEq K] (m : LruHash K V) (k : K) : LruHash K V :=
  fun k' => if k' = k then none else m k'

/-- The kernel reclaims the entries of `gone`. -/
def evict (m : LruHash K V) (gone : K → Bool) : LruHash K V :=
  fun k => if gone k then none else m k

end LruHash

/-! ## Per-CPU LRU hashes -/

abbrev LruPercpuHash (C K V : Type) := K → Option (C → V)

namespace LruPercpuHash

variable {C K V : Type}

/-- The value the executing CPU sees. -/
def lookup (m : LruPercpuHash C K V) (cpu : C) (k : K) : Option V := (m k).map (· cpu)

/-- Write the executing CPU's value; the other CPUs keep theirs, or see `zero` if the key is new. -/
def update [DecidableEq C] [DecidableEq K] (zero : V) (m : LruPercpuHash C K V) (cpu : C) (k : K)
    (v : V) : LruPercpuHash C K V :=
  fun k' => if k' = k then some fun c => if c = cpu then v else (m.lookup c k).getD zero else m k'

def delete [DecidableEq K] (m : LruPercpuHash C K V) (k : K) : LruPercpuHash C K V :=
  fun k' => if k' = k then none else m k'

/-- The kernel reclaims the entries of `gone`, on every CPU. -/
def evict (m : LruPercpuHash C K V) (gone : K → Bool) : LruPercpuHash C K V :=
  fun k => if gone k then none else m k

end LruPercpuHash

/-! ## Longest-prefix tries -/

structure LpmEntry (V : Type) where
  prefixlen : Nat
  /-- Most significant bit first. -/
  addr : UInt32
  value : V

abbrev LpmTrie (V : Type) := List (LpmEntry V)

/-- The entry's prefix covers `a`. -/
def LpmEntry.covers {V : Type} (e : LpmEntry V) (a : UInt32) : Bool :=
  e.prefixlen ≤ 32 && a.toNat / 2 ^ (32 - e.prefixlen) = e.addr.toNat / 2 ^ (32 - e.prefixlen)

/-- The value of the longest covering prefix. -/
def LpmTrie.lookup {V : Type} (t : LpmTrie V) (a : UInt32) : Option V :=
  let best := (t.filter (LpmEntry.covers · a)).foldl
    (fun (b : Option (LpmEntry V)) e =>
      match b with
      | none => some e
      | some b => if b.prefixlen < e.prefixlen then some e else some b) none
  best.map LpmEntry.value

end FluxWAN.BpfMap
