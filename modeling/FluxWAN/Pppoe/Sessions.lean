/-
  Sessions of subscribers (`src/pppoe_server.c`).

  A subscriber whose name is in the secrets file can connect; the hook script then leaves a session file.
  Losing the entitlement afterwards — by being disabled, by expiring, by being deleted or replaced — is
  enforced in two places: some operations disconnect the subscriber, and `pppoe_server_periodic_tick` scans
  the sessions every five seconds.

  1. **System** — `Server`: the configuration, the secrets, the session files.  `Event`: edits, connections,
     hang-ups and ticks in any order, with any clock readings.
  2. **One scan** — `mem_sweep`: a session survives exactly if it is not listed or not condemned.
     Listing stops at 1024 sessions; condemning needs a record of the subscriber.
  3. **Result** — `enforced_sessions_iff`: after every effective tick all sessions belong to entitled subscribers,
     if and only if at each such tick every session's subscriber was still in the table and those that
     lost their entitlement were listed.  Deletion removes the record and leaves the session.
-/
import FluxWAN.Pppoe.Subscribers

namespace FluxWAN.Pppoe

open CString KeyedTable

variable {sessions : List Session}

/-! ## The secrets -/

/-- A line of `pap-secrets` or `chap-secrets`: client, any server, secret, address. -/
structure Secret where
  client : CStr
  password : CStr
  address : CStr
  deriving DecidableEq

/-- `u->expires_at > 0 && now >= u->expires_at`. -/
def Expired (now : UInt64) (u : PppoeUser) : Prop := u.expiresAt > 0 ∧ now ≥ u.expiresAt

instance (now : UInt64) (u : PppoeUser) : Decidable (Expired now u) := inferInstanceAs (Decidable (_ ∧ _))

/-- `write_pppoe_secrets`: the lines after the header. -/
def secretsOf (now : UInt64) (cfg : PppoeServerConfig) : List Secret :=
  (cfg.users.filter fun u => u.enabled = true ∧ u.username ≠ [] ∧ ¬ Expired now u).map fun u =>
    { client := u.username
      password := u.password
      address := if u.staticIp ≠ [] then u.staticIp else ['*'] }

/-! ## Session files -/

/-- `/run/fluxwan/pppoe/<ifname>.session`. -/
structure Session where
  ifname : CStr
  username : CStr
  deriving DecidableEq

/-- One file per interface. -/
def OneFileEach (sessions : List Session) : Prop := (sessions.map Session.ifname).Nodup

instance (sessions : List Session) : Decidable (OneFileEach sessions) :=
  inferInstanceAs (Decidable (List.Nodup _))

/-- `MAX_PPPOE_SESSIONS`. -/
def maxPppoeSessions : Nat := 1024

/-- `pppoe_server_get_sessions`, in the order of the directory. -/
def listed (sessions : List Session) : List Session :=
  (sessions.filter fun s => s.ifname ≠ []).take maxPppoeSessions

/-- `pppoe_server_disconnect_session`. -/
def disconnect (ifname : CStr) (sessions : List Session) : List Session :=
  if ifname = [] then sessions else sessions.filter fun s => s.ifname ≠ ifname

/-- The loop over the listed sessions, which disconnects those of `condemned`. -/
def sweep (condemned : Session → Bool) (sessions : List Session) : List Session :=
  (listed sessions).foldl (fun acc s => if condemned s = true then disconnect s.ifname acc else acc) sessions

theorem sweep_sublist (condemned : Session → Bool) : (sweep condemned sessions).Sublist sessions := by
  have hfold : ∀ (ls acc : List Session), (ls.foldl (fun acc s =>
      if condemned s = true then disconnect s.ifname acc else acc) acc).Sublist acc := by
    intro ls
    induction ls with
    | nil => exact fun acc => List.Sublist.refl acc
    | cons s ls ih =>
      intro acc
      refine (ih _).trans ?_
      dsimp only [disconnect]
      split_ifs
      · exact List.Sublist.refl acc
      · exact List.filter_sublist
      · exact List.Sublist.refl acc
  exact hfold _ _

theorem OneFileEach.sweep (h : OneFileEach sessions) (condemned : Session → Bool) :
    OneFileEach (sweep condemned sessions) :=
  List.Nodup.sublist ((sweep_sublist condemned).map Session.ifname) h

/-- **One scan.** -/
theorem mem_sweep (h : OneFileEach sessions) :
    x ∈ sweep condemned sessions ↔ x ∈ sessions ∧ ¬ (x ∈ listed sessions ∧ condemned x = true) := by
  -- the loop removes the interfaces of the condemned sessions it meets
  have hfold : ∀ (ls acc : List Session), (∀ s ∈ ls, s.ifname ≠ []) →
      (x ∈ ls.foldl (fun acc s => if condemned s = true then disconnect s.ifname acc else acc) acc ↔
        x ∈ acc ∧ ∀ s ∈ ls, condemned s = true → x.ifname ≠ s.ifname) := by
    intro ls
    induction ls with
    | nil => exact fun acc _ => by simp
    | cons s ls ih =>
      intro acc hne
      rw [List.foldl_cons, ih _ fun t ht => hne t (List.mem_cons_of_mem s ht), List.forall_mem_cons]
      by_cases hs : condemned s = true
      · rw [if_pos hs, disconnect, if_neg (hne s List.mem_cons_self), List.mem_filter]
        simp [hs, and_assoc]
      · simp [hs]
  have hlisted : ∀ s ∈ listed sessions, s ∈ sessions ∧ s.ifname ≠ [] := by
    intro s hs
    simpa using List.mem_filter.mp (List.mem_of_mem_take hs)
  rw [sweep, hfold _ _ fun s hs => (hlisted s hs).2]
  refine and_congr_right fun hx => ⟨?_, ?_⟩
  · rintro hall ⟨hmem, hcond⟩
    exact hall x hmem hcond rfl
  · intro hnot s hs hcond heq
    obtain rfl := List.inj_on_of_nodup_map h hx (hlisted s hs).1 heq
    exact hnot ⟨hs, hcond⟩

/-! ## The server -/

/-- The server, its secrets and its sessions. -/
structure Server where
  cfg : PppoeServerConfig
  secrets : List Secret := []
  sessions : List Session
  oneFileEach : OneFileEach sessions
  /-- The `static` of the tick. -/
  lastCheckMs : UInt64 := 0

/-- `pppoe_server_start`, as far as secrets go. -/
def boot (now : UInt64) (cfg : PppoeServerConfig) : Server :=
  { cfg, secrets := secretsOf now cfg, sessions := [], oneFileEach := List.nodup_nil }

/-- The sessions that are left when those of `condemned` have been disconnected. -/
def Server.sweep (s : Server) (condemned : Session → Bool) : Server :=
  { s with sessions := Pppoe.sweep condemned s.sessions, oneFileEach := s.oneFileEach.sweep condemned }

/-- An edit: the table, then the secrets, then the sessions of the subscriber it is about. -/
def Server.edit (s : Server) (op : Op) (now : UInt64) : Server :=
  match op.outcome s.cfg with
  | none => s
  | some out =>
    let s' : Server :=
      { s with
        cfg := out.cfg
        secrets := if out.secretsWritten = true then secretsOf now out.cfg else s.secrets }
    match out.kicked with
    | some name => s'.sweep fun x => x.username = name
    | none => s'

/-- The subscriber is disabled or expired. -/
def Lapsed (now : UInt64) (u : PppoeUser) : Prop := u.enabled = false ∨ Expired now u

instance (now : UInt64) (u : PppoeUser) : Decidable (Lapsed now u) := inferInstanceAs (Decidable (_ ∨ _))

/-- The tick does something: the server is enabled, and five seconds have passed. -/
def Server.Effective (s : Server) (nowMs : UInt64) : Prop :=
  s.cfg.enabled = true ∧ ¬ nowMs - s.lastCheckMs < 5000

instance (s : Server) (nowMs : UInt64) : Decidable (s.Effective nowMs) := inferInstanceAs (Decidable (_ ∧ _))

/-- "if user is expired or disabled, kick them immediately!" -/
def condemned (now : UInt64) (cfg : PppoeServerConfig) (x : Session) : Bool :=
  (view cfg x.username).any fun u => Lapsed now u

/-- `pppoe_server_periodic_tick`; the secrets are rewritten if an enabled subscriber has expired. -/
def Server.tick (s : Server) (nowMs now written : UInt64) : Server :=
  if s.Effective nowMs then
    let s' : Server :=
      { s with
        lastCheckMs := nowMs
        secrets := if s.cfg.users.any (fun u => u.enabled = true ∧ Expired now u) = true then
            secretsOf written s.cfg
          else s.secrets }
    s'.sweep (condemned now s.cfg)
  else s

/-- What happens to the server. -/
inductive Event where
  | edit (op : Op) (now : UInt64)
  /-- A subscriber connects; its file appears somewhere in the directory. -/
  | connect (position : Nat) (session : Session)
  | hangup (ifname : CStr)
  | tick (nowMs now written : UInt64)

/-- A client with a line in the secrets gets a session on an unused interface. -/
def Server.MayConnect (s : Server) (x : Session) : Prop :=
  x.username ∈ s.secrets.map Secret.client ∧ x.ifname ∉ s.sessions.map Session.ifname

instance (s : Server) (x : Session) : Decidable (s.MayConnect x) := inferInstanceAs (Decidable (_ ∧ _))

theorem OneFileEach.insert (h : OneFileEach sessions) {x : Session}
    (hx : x.ifname ∉ sessions.map Session.ifname) (i : Nat) :
    OneFileEach (sessions.take i ++ x :: sessions.drop i) := by
  have hperm : (sessions.take i ++ x :: sessions.drop i).Perm (x :: sessions) := by
    have hmid : (sessions.take i ++ x :: sessions.drop i).Perm (x :: (sessions.take i ++ sessions.drop i)) :=
      List.perm_middle
    rwa [List.take_append_drop] at hmid
  refine (hperm.map Session.ifname).nodup_iff.mpr ?_
  exact List.nodup_cons.mpr ⟨hx, h⟩

def Server.step (s : Server) : Event → Server
  | .edit op now => s.edit op now
  | .connect i x =>
    if h : s.MayConnect x then
      { s with sessions := s.sessions.take i ++ x :: s.sessions.drop i, oneFileEach := s.oneFileEach.insert h.2 i }
    else s
  | .hangup ifname =>
    { s with
      sessions := s.sessions.filter fun x => x.ifname ≠ ifname
      oneFileEach := List.Nodup.sublist (List.filter_sublist.map Session.ifname) s.oneFileEach }
  | .tick nowMs now written => s.tick nowMs now written

def Server.run (s : Server) (events : List Event) : Server := events.foldl Server.step s

/-! ## Enforcement -/

/-- The session belongs to a subscriber that exists, is enabled and is not expired. -/
def Entitled (now : UInt64) (cfg : PppoeServerConfig) (x : Session) : Prop :=
  ∃ u, view cfg x.username = some u ∧ ¬ Lapsed now u

/-- Every session's subscriber has a record, and sessions past the listing are entitled. -/
def Covered (now : UInt64) (s : Server) : Prop :=
  ∀ x ∈ s.sessions, (∃ u, view s.cfg x.username = some u) ∧ (x ∈ listed s.sessions ∨ Entitled now s.cfg x)

/-- After each effective tick every session is entitled. -/
def Enforced (s : Server) (events : List Event) : Prop :=
  ∀ before nowMs now written, before ++ [Event.tick nowMs now written] <+: events →
    (s.run before).Effective nowMs →
    ∀ x ∈ (s.run (before ++ [Event.tick nowMs now written])).sessions,
      Entitled now (s.run (before ++ [Event.tick nowMs now written])).cfg x

/-- **One tick.** -/
theorem tick_entitled_iff {s : Server} (now written : UInt64) (h : s.Effective nowMs) :
    (∀ x ∈ (s.tick nowMs now written).sessions, Entitled now (s.tick nowMs now written).cfg x) ↔
      Covered now s := by
  have hsess : (s.tick nowMs now written).sessions = sweep (condemned now s.cfg) s.sessions := by
    rw [Server.tick, if_pos h]
    rfl
  have hcfg : (s.tick nowMs now written).cfg = s.cfg := by
    rw [Server.tick, if_pos h]
    rfl
  have hcond : ∀ x, condemned now s.cfg x = true ↔ ∃ u, view s.cfg x.username = some u ∧ Lapsed now u := by
    intro x
    unfold condemned
    cases view s.cfg x.username <;> simp
  rw [hsess, hcfg]
  constructor
  · intro hall x hx
    by_cases hgone : x ∈ listed s.sessions ∧ condemned now s.cfg x = true
    · obtain ⟨u, hu, -⟩ := (hcond x).mp hgone.2
      exact ⟨⟨u, hu⟩, .inl hgone.1⟩
    · have hent := hall x ((mem_sweep s.oneFileEach).mpr ⟨hx, hgone⟩)
      obtain ⟨u, hu, -⟩ := id hent
      exact ⟨⟨u, hu⟩, .inr hent⟩
  · intro hcov x hx
    obtain ⟨hx, hkept⟩ := (mem_sweep s.oneFileEach).mp hx
    obtain ⟨⟨u, hu⟩, hlist | hent⟩ := hcov x hx
    · refine ⟨u, hu, fun hlapsed => hkept ⟨hlist, ?_⟩⟩
      exact (hcond x).mpr ⟨u, hu, hlapsed⟩
    · exact hent

/-- **When the scan is enough.**  In every run from any state: each effective tick leaves entitled sessions
    only, if and only if each found all subscribers of sessions in the table and listed the lapsed ones. -/
theorem enforced_sessions_iff (s : Server) (events : List Event) :
    Enforced s events ↔
      ∀ before nowMs now written, before ++ [Event.tick nowMs now written] <+: events →
        (s.run before).Effective nowMs → Covered now (s.run before) := by
  have hstep : ∀ before nowMs now written, s.run (before ++ [Event.tick nowMs now written]) =
      (s.run before).tick nowMs now written := by
    intro before nowMs now written
    simp [Server.run, Server.step]
  unfold Enforced
  simp only [hstep]
  constructor
  · intro h before nowMs now written hpre heff
    exact (tick_entitled_iff now written heff).mp (h before nowMs now written hpre heff)
  · intro h before nowMs now written hpre heff
    exact (tick_entitled_iff now written heff).mpr (h before nowMs now written hpre heff)

/-- The default subscriber connects, is deleted, and a tick passes. -/
def deletedOnline : List Event :=
  [.connect 0 { ifname := "ppp10".toList, username := "fluxwan".toList }, .edit (.deleteUser "fluxwan".toList) 1,
    .tick 5000 5 5]

/-- The session of the deleted subscriber stays up. -/
theorem deletedOnline_not_enforced :
    ((boot 0 sampleServer).run deletedOnline).sessions.map Session.username = ["fluxwan".toList] ∧
      ((boot 0 sampleServer).run deletedOnline).cfg.users = [] ∧
      ¬ Enforced (boot 0 sampleServer) deletedOnline := by
  have hsess : { ifname := "ppp10".toList, username := "fluxwan".toList } ∈
      ((boot 0 sampleServer).run deletedOnline).sessions := by
    decide
  have hview : view ((boot 0 sampleServer).run deletedOnline).cfg "fluxwan".toList = none := by
    decide
  refine ⟨by decide, by decide, fun h => ?_⟩
  obtain ⟨u, hu, -⟩ := h (deletedOnline.take 2) 5000 5 5 (List.prefix_refl _) (by decide) _ hsess
  exact nomatch hview.symm.trans hu

end FluxWAN.Pppoe
