/-
  Whose entry a new client gets (`src/dhcp_server.c`: `update_lease_record`).

  The table has 254 entries.  While there is room, a new client gets a new one.  When the table is full it gets
  entry 0 — "Overwrite oldest if full" says the source, but nothing moves in the table, so entry 0 is the client
  that came first, and then the one that came last.  Neither `is_active` nor the times are looked at.

  1. **What to expect** — `Considerate`: a lease in use is left alone as long as there is a spare entry, and the
     entry that changes hands is the oldest of those that may.
  2. **One recording** — `updateLeaseRecord_of_unknown` says what is written; `considerate_iff` when that is
     what one may expect: there is room, or entry 0 happens to be the right one.
  3. **Histories** — `recordings_considerate_iff`.
-/
import FluxWAN.Dhcp.Interleaving
import FluxWAN.Lib.Trace

namespace FluxWAN.Dhcp

open CString Trace

/-- Nobody uses the entry any more: it was released, or its time is over. -/
def Lease.Spare (l : Lease) (now : Nat) : Prop := l.isActive = false ∨ l.leaseExpireSec ≤ now

instance (l : Lease) (now : Nat) : Decidable (l.Spare now) := inferInstanceAs (Decidable (_ ∨ _))

/-- A call of `update_lease_record`. -/
structure Recording where
  mac : Mac
  ip : UInt32
  hostname : CStr := []
  now : Nat

def Server.record (s : Server) (r : Recording) : Server := s.updateLeaseRecord r.mac r.ip r.hostname r.now

/-- The client has no entry. -/
def Server.Unknown (s : Server) (mac : Mac) : Prop := ∀ l ∈ s.leases, l.macAddr ≠ mac

/-- The entries that may change hands: the spare ones; all, if there is none. -/
def Server.Reusable (s : Server) (now : Nat) (l : Lease) : Prop :=
  l.Spare now ∨ ∀ l' ∈ s.leases, ¬ l'.Spare now

/-- What a recording for a new client may do to the entries of others. -/
structure Server.Considerate (s : Server) (r : Recording) (s' : Server) : Prop where
  keeps : (∃ l ∈ s.leases, l.Spare r.now) →
    ∀ (i : Nat) (l : Lease), s.leases[i]? = some l → ¬ l.Spare r.now → s'.leases[i]? = some l
  oldest : ∀ (i : Nat) (l : Lease), s.leases[i]? = some l → s'.leases[i]? ≠ some l →
    ∀ l' ∈ s.leases, s.Reusable r.now l' → l.leaseStartSec ≤ l'.leaseStartSec

/-- Entry 0 is the oldest of those that may change hands. -/
def Server.ZeroIsOldest (s : Server) (now : Nat) : Prop :=
  ∃ l, s.leases[0]? = some l ∧ s.Reusable now l ∧
    ∀ l' ∈ s.leases, s.Reusable now l' → l.leaseStartSec ≤ l'.leaseStartSec

section
variable {s : Server} {r : Recording}

theorem findIdx?_of_unknown (h : s.Unknown mac) : s.leases.findIdx? (·.macAddr = mac) = none := by
  refine List.findIdx?_eq_none_iff.mpr fun l hl => ?_
  simpa using h l hl

/-- A new client is appended, or written over entry 0. -/
theorem updateLeaseRecord_of_unknown (h : s.Unknown r.mac) :
    (s.record r).leases = if s.leases.length < maxDhcpLeases then
        s.leases ++ [writeLease s.config.lan r.mac r.ip r.hostname r.now {}]
      else s.leases.modify 0 (writeLease s.config.lan r.mac r.ip r.hostname r.now) := by
  rw [Server.record, Server.updateLeaseRecord, findIdx?_of_unknown h]
  dsimp only [Server.addLease]
  split <;> rfl

/-- **One recording.** -/
theorem considerate_iff (h : s.Unknown r.mac) :
    s.Considerate r (s.record r) ↔ s.leases.length < maxDhcpLeases ∨ s.ZeroIsOldest r.now := by
  have hleases := updateLeaseRecord_of_unknown h
  by_cases hroom : s.leases.length < maxDhcpLeases
  · -- nothing changes hands
    rw [if_pos hroom] at hleases
    have hkept : ∀ (i : Nat) (l : Lease), s.leases[i]? = some l → (s.record r).leases[i]? = some l := by
      intro i l hl
      have hi : i < s.leases.length := (List.getElem?_eq_some_iff.mp hl).1
      rw [hleases, List.getElem?_append_left hi, hl]
    exact iff_of_true ⟨fun _ i l hl _ => hkept i l hl, fun i l hl hne => absurd (hkept i l hl) hne⟩ (.inl hroom)
  · rw [if_neg hroom] at hleases
    rw [or_iff_right hroom]
    obtain ⟨l₀, hzero⟩ : ∃ l₀, s.leases[0]? = some l₀ := by
      refine ⟨_, List.getElem?_eq_getElem (Nat.lt_of_lt_of_le ?_ (Nat.le_of_not_lt hroom))⟩
      decide
    -- entry 0 is another client's afterwards, and every other entry stays
    have hchanged : (s.record r).leases[0]? ≠ some l₀ := by
      rw [hleases, List.getElem?_modify_eq, hzero]
      intro heq
      have hmac : (writeLease s.config.lan r.mac r.ip r.hostname r.now l₀).macAddr = r.mac :=
        (writeLease_fields _).1
      rw [Option.some.inj heq] at hmac
      exact h l₀ (List.mem_of_getElem? hzero) hmac
    have hkept : ∀ (i : Nat) (l : Lease), i ≠ 0 → s.leases[i]? = some l → (s.record r).leases[i]? = some l := by
      intro i l hi hl
      rw [hleases, List.getElem?_modify_ne _ _ (Ne.symm hi), hl]
    constructor
    · intro hc
      refine ⟨l₀, hzero, ?_, hc.oldest 0 l₀ hzero hchanged⟩
      by_cases hspare : l₀.Spare r.now
      · exact .inl hspare
      · refine .inr fun l hl hsp => ?_
        exact hchanged (hc.keeps ⟨l, hl, hsp⟩ 0 l₀ hzero hspare)
    · rintro ⟨l, hl, hreuse, hold⟩
      obtain rfl := Option.some.inj (hzero.symm.trans hl)
      refine ⟨fun hex i l' hl' hnot => ?_, fun i l' hl' hne => ?_⟩
      · by_cases hi : i = 0
        · subst hi
          obtain rfl := Option.some.inj (hzero.symm.trans hl')
          obtain ⟨l', hmem, hsp⟩ := hex
          exact absurd hsp ((hreuse.resolve_left hnot) l' hmem)
        · exact hkept i l' hi hl'
      · by_cases hi : i = 0
        · subst hi
          obtain rfl := Option.some.inj (hzero.symm.trans hl')
          exact hold
        · exact absurd (hkept i l' hi hl') hne

end

/-! ## Histories -/

/-- What happens to the table: leases are recorded and released, the configuration changes, and each reserved
    address of the new one is entered. -/
inductive TableEvent where
  | record (r : Recording)
  | release (mac : Mac)
  | configure (config : Config)
  | reserve (sl : StaticLease) (now : Nat)

def Server.tableStep (s : Server) : TableEvent → Server
  | .record r => s.record r
  | .release mac => s.releaseLease mac
  | .configure config => { s with config }
  | .reserve sl now => s.reloadLease now sl

def Server.history (s : Server) (events : List TableEvent) : Server := events.foldl Server.tableStep s

theorem history_concat (s : Server) : s.history (events ++ [e]) = (s.history events).tableStep e := by
  rw [Server.history, List.foldl_append]
  rfl

theorem history_record (s : Server) (r : Recording) : s.history [.record r] = s.record r := rfl

/-- The recording that an event makes for a client without an entry. -/
def TableEvent.recording : TableEvent → Option Recording
  | .record r => some r
  | .reserve sl now => some { mac := sl.macAddr, ip := sl.ipAddr, hostname := sl.hostname, now }
  | .release _ | .configure _ => none

theorem tableStep_of_recording {s : Server} {e : TableEvent} {r : Recording} (he : e.recording = some r)
    (hnew : s.Unknown r.mac) : s.tableStep e = s.record r := by
  cases e with
  | record r' => rw [Option.some.inj he, Server.tableStep]
  | release mac => cases he
  | configure config => cases he
  | reserve sl now =>
    obtain rfl := Option.some.inj he
    show s.reloadLease now sl = _
    rw [Server.reloadLease, findIdx?_of_unknown hnew]
    rfl

/-- `dhcp_server_reload_config` is a history. -/
theorem reloadConfig_eq_history (s : Server) (config : Config) : s.reloadConfig config now = s.history
      (.configure config :: (config.lan.staticLeases.filter (·.enabled)).map (.reserve · now)) := by
  rw [Server.history, List.foldl_cons, List.foldl_map]
  rfl

/-- **Whole histories**, from any table: every recording for a new client is considerate exactly if each one finds
    room, or an entry 0 that is the oldest of those that may change hands. -/
theorem recordings_considerate_iff (s : Server) (events : List TableEvent) :
    AtEach (fun before e => ∀ r, e.recording = some r → (s.history before).Unknown r.mac →
        (s.history before).Considerate r (s.history (before ++ [e]))) events ↔
      AtEach (fun before e => ∀ r, e.recording = some r → (s.history before).Unknown r.mac →
        (s.history before).leases.length < maxDhcpLeases ∨ (s.history before).ZeroIsOldest r.now) events := by
  refine forall₄_congr fun before e after _ => forall₃_congr fun r he hnew => ?_
  rw [history_concat, tableStep_of_recording he hnew]
  exact considerate_iff hnew

/-- A lease in use. -/
def liveLease : Lease :=
  { macAddr := clientA, ipAddr := 0x0A00A8C0, leaseStartSec := 10, leaseExpireSec := 3610, isActive := true }

theorem fullTable_le : (liveLease :: List.replicate 253 ({} : Lease)).length ≤ maxDhcpLeases := by
  rw [List.length_cons, List.length_replicate, maxDhcpLeases]

/-- A full table: one lease in use, in entry 0, and 253 spare entries. -/
def fullTable : Server where
  leases := liveLease :: List.replicate 253 {}
  leases_le := fullTable_le

/-- The client that comes next. -/
def newcomer : Recording := { mac := clientB, ip := 0x0B00A8C0, now := 20 }

/-- The next client gets the entry in use. -/
theorem live_lease_overwritten :
    (∃ l ∈ fullTable.leases, l.Spare newcomer.now) ∧ ¬ liveLease.Spare newcomer.now ∧
      fullTable.leases[0]? = some liveLease ∧ fullTable.Unknown newcomer.mac ∧
      ((fullTable.history [.record newcomer]).leases[0]?).map Lease.macAddr = some newcomer.mac ∧
      ¬ fullTable.Considerate newcomer (fullTable.history [.record newcomer]) := by
  have hspare : ∃ l ∈ fullTable.leases, l.Spare newcomer.now :=
    ⟨{}, List.mem_cons_of_mem _ (List.mem_replicate.mpr ⟨by decide, rfl⟩), by decide⟩
  have hlive : ¬ liveLease.Spare newcomer.now := by decide
  have hnew : fullTable.Unknown newcomer.mac := by
    intro l hl
    rcases List.mem_cons.mp hl with rfl | hl
    · decide
    · rw [(List.mem_replicate.mp hl).2]
      decide
  have hmac : ((fullTable.history [.record newcomer]).leases[0]?).map Lease.macAddr = some newcomer.mac := by
    have hfull : ¬ fullTable.leases.length < maxDhcpLeases := by
      show ¬ (liveLease :: List.replicate 253 ({} : Lease)).length < 254
      rw [List.length_cons, List.length_replicate]
      exact Nat.lt_irrefl 254
    rw [history_record, updateLeaseRecord_of_unknown hnew, if_neg hfull, List.getElem?_modify_eq]
    rfl
  refine ⟨hspare, hlive, rfl, hnew, hmac, fun hc => ?_⟩
  rw [hc.keeps hspare 0 liveLease rfl hlive] at hmac
  exact absurd hmac (by decide)

end FluxWAN.Dhcp
