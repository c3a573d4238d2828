/-
  Default routes over netlink (`src/netlink_manager.c`).

  A request is a header, a route message and attributes, each with its length and type in front.  The table has
  eight bits in the route message; for larger numbers there is an attribute, which the kernel prefers.

  1. **Program** — `addRtattr`, and the requests of `addDefaultRoute` and `delDefaultRoute`.
  2. **Kernel** — `attributes`, the walk with `RTA_OK` and `RTA_NEXT`, and `tableOf`, the table it arrives at.
  3. **Tables** — an addition names the table it is given (`tableOf_addDefaultRoute`).  A deletion never has the
     attribute: `tableOf_delDefaultRoute`, the main table for every number that needs it.
-/
import FluxWAN.Lib.Slices

namespace FluxWAN.Netlink

open Bytes

/-! ## Requests -/

/-- What is set of the header, and the bytes behind it. -/
structure Request where
  type : UInt16
  flags : UInt16
  seq : UInt32
  body : List UInt8

/-- `nlmsg_len`. -/
def Request.len (n : Request) : Nat := 16 + n.body.length

/-- `NLMSG_ALIGN` and `RTA_ALIGN`. -/
def align (len : Nat) : Nat := (len + 3) / 4 * 4

/-- `add_rtattr`.  The buffer is zeroed before, so what is skipped is zero. -/
def addRtattr (n : Request) (maxlen : Nat) (type : UInt16) (data : List UInt8) : Request :=
  let len := 4 + data.length
  if align n.len + align len > maxlen then n
  else
    { n with
      body := n.body ++ List.replicate (align n.len - n.len) 0 ++ (bytes16 (UInt16.ofNat len) ++ bytes16 type) ++
        data ++ List.replicate (align len - len) 0 }

def rtmNewroute : UInt16 := 24
def rtmDelroute : UInt16 := 25
def rtaOif : UInt16 := 4
def rtaGateway : UInt16 := 5
def rtaTable : UInt16 := 15
def rtTableMain : UInt8 := 254

/-- `rtm_table`. -/
def rtmTable (table : UInt32) : UInt8 := if table < 256 then table.toUInt8 else rtTableMain

/-- `netlink_add_default_route`: AF_INET, RTPROT_STATIC, RT_SCOPE_UNIVERSE, RTN_UNICAST. -/
def addDefaultRoute (seq table gateway : UInt32) (ifindex : Int32) : Request :=
  -- NLM_F_REQUEST | NLM_F_CREATE | NLM_F_REPLACE
  let n : Request :=
    { type := rtmNewroute, flags := 0x501, seq, body := [2, 0, 0, 0, rtmTable table, 4, 0, 1, 0, 0, 0, 0] }
  let n := addRtattr n 1024 rtaGateway (bytes32 gateway)
  let n := if ifindex > 0 then addRtattr n 1024 rtaOif (bytes32 ifindex.toUInt32) else n
  if table ≥ 256 then addRtattr n 1024 rtaTable (bytes32 table) else n

/-- `netlink_del_default_route`; the interface is not used. -/
def delDefaultRoute (seq table gateway : UInt32) : Request :=
  let n : Request := { type := rtmDelroute, flags := 1, seq, body := [2, 0, 0, 0, rtmTable table, 0, 0, 0, 0, 0, 0, 0] }
  addRtattr n 1024 rtaGateway (bytes32 gateway)

/-! ## The kernel -/

/-- The attributes: `RTA_OK` stops the walk, `RTA_NEXT` goes on. -/
def attributes : Nat → List UInt8 → List (UInt16 × List UInt8)
  | 0, _ => []
  | fuel + 1, bytes =>
    let len := (le16 bytes 0).toNat
    if 4 ≤ bytes.length ∧ 4 ≤ len ∧ len ≤ bytes.length then
      (le16 bytes 2, (bytes.take len).drop 4) :: attributes fuel (bytes.drop (align len))
    else []

/-- The table that a request is about: the one in the route message, or in the last attribute for it. -/
def tableOf (n : Request) : UInt32 :=
  (attributes n.body.length (n.body.drop 12)).foldl (fun table a => if a.1 = rtaTable then le32 a.2 0 else table)
    (byteAt n.body 4).toUInt32

/-! ## Requests with words for attributes -/

/-- An attribute with one word. -/
def word (a : UInt16 × UInt32) : List UInt8 := bytes16 8 ++ bytes16 a.1 ++ bytes32 a.2

theorem attributes_word (fuel : Nat) (a : UInt16 × UInt32) :
    attributes (fuel + 1) (word a ++ rest) = (a.1, bytes32 a.2) :: attributes fuel rest := by
  have hlen : le16 (word a ++ rest) 0 = 8 := le16_of_slice rfl
  have htype : le16 (word a ++ rest) 2 = a.1 := le16_of_slice rfl
  have hlong : (word a ++ rest).length = rest.length + 8 := rfl
  rw [attributes, hlen, htype, hlong]
  exact if_pos ⟨by omega, by decide, Nat.le_add_left 8 _⟩

/-- What the kernel finds is what was put there. -/
theorem attributes_words (attrs : List (UInt16 × UInt32)) : ∀ fuel, attrs.length < fuel →
    attributes fuel (attrs.flatMap word) = attrs.map fun a => (a.1, bytes32 a.2) := by
  induction attrs with
  | nil =>
    intro fuel hfuel
    obtain ⟨k, rfl⟩ : ∃ k, fuel = k + 1 := ⟨fuel - 1, by omega⟩
    rfl
  | cons a attrs ih =>
    intro fuel hfuel
    rw [List.length_cons] at hfuel
    obtain ⟨k, rfl⟩ : ∃ k, fuel = k + 1 := ⟨fuel - 1, by omega⟩
    rw [List.flatMap_cons, attributes_word, ih k (by omega), List.map_cons]

theorem length_words (attrs : List (UInt16 × UInt32)) : (attrs.flatMap word).length = 8 * attrs.length := by
  induction attrs with
  | nil => rfl
  | cons a attrs ih =>
    rw [List.flatMap_cons, List.length_append, ih, List.length_cons, Nat.mul_succ, Nat.add_comm]
    rfl

/-- The request has this route message and these attributes. -/
structure Carries (n : Request) (rtm : List UInt8) (attrs : List (UInt16 × UInt32)) : Prop where
  length : rtm.length = 12
  body : n.body = rtm ++ attrs.flatMap word

theorem carries_nil (type flags : UInt16) (seq : UInt32) {rtm : List UInt8} (h : rtm.length = 12) :
    Carries ⟨type, flags, seq, rtm⟩ rtm [] :=
  ⟨h, (List.append_nil rtm).symm⟩

section
variable {n : Request} {rtm : List UInt8} {attrs : List (UInt16 × UInt32)} (h : Carries n rtm attrs)
include h

/-- An attribute is put behind the others; there is room for three. -/
theorem Carries.add (hfew : attrs.length < 3) (type : UInt16) (x : UInt32) :
    Carries (addRtattr n 1024 type (bytes32 x)) rtm (attrs ++ [(type, x)]) := by
  have hlen : n.len = 4 * (7 + 2 * attrs.length) := by
    rw [Request.len, h.body, List.length_append, h.length, length_words]
    omega
  have haligned : align n.len = n.len := by
    unfold align
    omega
  have hroom : ¬ align n.len + align (4 + (bytes32 x).length) > 1024 := by
    have hattr : align (4 + (bytes32 x).length) = 8 := by simp [align, bytes32]
    omega
  refine ⟨h.length, ?_⟩
  rw [addRtattr, if_neg hroom, haligned, Nat.sub_self, h.body, List.flatMap_append, List.flatMap_singleton]
  simp [word, bytes32, align]

/-- The table is in the last attribute for it, or in the route message. -/
theorem Carries.tableOf_eq : tableOf n =
    attrs.foldl (fun table a => if a.1 = rtaTable then a.2 else table) (byteAt rtm 4).toUInt32 := by
  have hdrop : n.body.drop 12 = attrs.flatMap word := by rw [h.body, List.drop_left' h.length]
  have hfuel : attrs.length < n.body.length := by
    rw [h.body, List.length_append, length_words, h.length]
    omega
  have hfield : byteAt n.body 4 = byteAt rtm 4 := by
    rw [h.body, byteAt, byteAt, List.getD_eq_getElem?_getD, List.getD_eq_getElem?_getD,
      List.getElem?_append_left (by rw [h.length]; decide)]
  have hword : ∀ x : UInt32, le32 (bytes32 x) 0 = x := fun x => le32_of_slice rfl
  rw [tableOf, hdrop, attributes_words attrs _ hfuel, hfield, List.foldl_map]
  simp only [hword]

end

/-! ## Tables -/

theorem rtmTable_of_lt (h : table < 256) : (rtmTable table).toUInt32 = table := by
  have hlt : table.toNat < 256 := h
  rw [rtmTable, if_pos h]
  apply UInt32.toNat_inj.mp
  rw [UInt8.toNat_toUInt32, UInt32.toNat_toUInt8, Nat.mod_eq_of_lt hlt]

/-- **An addition** names its table, … -/
theorem tableOf_addDefaultRoute (seq table gateway : UInt32) (ifindex : Int32) :
    tableOf (addDefaultRoute seq table gateway ifindex) = table := by
  have hroute := (carries_nil rtmNewroute 0x501 seq
    (rfl : [2, 0, 0, 0, rtmTable table, 4, 0, 1, 0, 0, 0, 0].length = 12)).add (by decide) rtaGateway gateway
  have hfield : table < 256 → (byteAt [2, 0, 0, 0, rtmTable table, 4, 0, 1, 0, 0, 0, 0] 4).toUInt32 = table :=
    rtmTable_of_lt
  unfold addDefaultRoute
  dsimp only
  split_ifs with hbig hindex hindex
  · rw [((hroute.add (by simp) rtaOif _).add (by simp) rtaTable table).tableOf_eq]
    rfl
  · rw [(hroute.add (by simp) rtaTable table).tableOf_eq]
    rfl
  · rw [(hroute.add (by simp) rtaOif _).tableOf_eq]
    exact hfield (UInt32.not_le.mp hbig)
  · rw [hroute.tableOf_eq]
    exact hfield (UInt32.not_le.mp hbig)

/-- … **a deletion** only if eight bits are enough. -/
theorem tableOf_delDefaultRoute (seq table gateway : UInt32) :
    tableOf (delDefaultRoute seq table gateway) = if table < 256 then table else 254 := by
  have hroute := (carries_nil rtmDelroute 1 seq
    (rfl : [2, 0, 0, 0, rtmTable table, 0, 0, 0, 0, 0, 0, 0].length = 12)).add (by decide) rtaGateway gateway
  rw [delDefaultRoute, hroute.tableOf_eq]
  show (rtmTable table).toUInt32 = _
  split_ifs with hsmall
  · exact rtmTable_of_lt hsmall
  · rw [rtmTable, if_neg hsmall]
    rfl

/-- **Addition and deletion name the given table** exactly if it has eight bits. -/
theorem same_table_iff (addSeq delSeq table gateway : UInt32) (ifindex : Int32) :
    (tableOf (addDefaultRoute addSeq table gateway ifindex) = table ∧
        tableOf (delDefaultRoute delSeq table gateway) = table) ↔ table < 256 := by
  rw [tableOf_addDefaultRoute, tableOf_delDefaultRoute]
  constructor
  · rintro ⟨-, hdel⟩
    by_contra hbig
    rw [if_neg hbig] at hdel
    exact hbig (hdel ▸ by decide)
  · intro hsmall
    exact ⟨rfl, if_pos hsmall⟩

/-- The route of table 1000 is deleted from the main table. -/
theorem deletes_from_main : tableOf (delDefaultRoute 2 1000 0x0100000A) = rtTableMain.toUInt32 ∧
    ¬ (tableOf (addDefaultRoute 1 1000 0x0100000A 2) = 1000 ∧ tableOf (delDefaultRoute 2 1000 0x0100000A) = 1000) := by
  have hmain : tableOf (delDefaultRoute 2 1000 0x0100000A) = 254 := tableOf_delDefaultRoute 2 1000 _
  refine ⟨hmain, fun h => ?_⟩
  exact absurd (hmain.symm.trans h.2) (by decide)

end FluxWAN.Netlink
