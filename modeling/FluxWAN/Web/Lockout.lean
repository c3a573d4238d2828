/-
  What the login rate limiter enforces (`src/web_server.c`: `login_is_locked_out`, `login_record_failure`,
  `login_record_success`, and the login branch that calls them).

  The law is stated on one address's OWN attempts: `ownFailures` lists its failures since its last success
  or expired lockout, five of them lock it out for 300 s after the latest.  The table is shared, and a
  failure of an address without a slot may be booked on a slot that still belongs to another address: an
  address that is not locked out has `lockout_until = 0`, which is always more than an hour ago.  The slot
  changes hands together with its failure count.

  `Faithful` says the table is the table of own histories; every attempt keeps it, unless it takes over a
  slot with failures on it (`Undisturbed` excludes exactly that).
-/
import FluxWAN.Web.Handlers

namespace FluxWAN.Web

/-! ## Attempts -/

/-- One `POST /api/v1/login`: from where, when (seconds since the Epoch), with the right credentials or not. -/
structure Attempt where
  ip : UInt32
  now : Nat
  ok : Bool
  deriving DecidableEq, Repr

/-- What the login branch does to the table: a locked-out address is turned away before its credentials
    are looked at. -/
def LoginTrackers.attempt (ts : LoginTrackers) (a : Attempt) : LoginTrackers :=
  if (ts.isLockedOut a.ip a.now).1 then (ts.isLockedOut a.ip a.now).2
  else if a.ok then (ts.isLockedOut a.ip a.now).2.recordSuccess a.ip
  else (ts.isLockedOut a.ip a.now).2.recordFailure a.ip a.now

def LoginTrackers.run (ts : LoginTrackers) (as : List Attempt) : LoginTrackers :=
  as.foldl LoginTrackers.attempt ts

/-- `g_login_trackers` at start. -/
def LoginTrackers.init : LoginTrackers := Vector.replicate maxLoginTrackers {}

theorem login_trackers (env : WebEnv) (st : WebState) (req : CString.CStr) (now : Nat)
    (hnow : env.now = now) :
    (login env st req).state.trackers = st.trackers.attempt ⟨env.peerIp, now, credentialsMatch st.config.auth req⟩ := by
  simp only [login, LoginTrackers.attempt, hnow]
  split
  · rfl
  · split <;> rfl

/-! ## The law, on the attempts of one address -/

/-- Five failures (times, the latest first), the latest less than 300 s ago. -/
def Locked (fs : List Nat) (t : Nat) : Prop := 5 ≤ fs.length ∧ t < fs.headD 0 + 300

instance (fs : List Nat) (t : Nat) : Decidable (Locked fs t) := inferInstanceAs (Decidable (_ ∧ _))

/-- The failures that count at `t`: none of them once a lockout has expired. -/
def unexpired (fs : List Nat) (t : Nat) : List Nat := if 5 ≤ fs.length ∧ ¬ Locked fs t then [] else fs

/-- The failures since the last success or expired lockout, after one more attempt. -/
def book (fs : List Nat) (a : Attempt) : List Nat :=
  if Locked fs a.now then fs
  else if a.ok then []
  else a.now :: unexpired fs a.now

/-- The failures of one address, from its own attempts alone. -/
def ownFailures (ip : UInt32) (as : List Attempt) : List Nat :=
  (as.filter (·.ip = ip)).foldl book []

/-! ## The table against the histories -/

/-- The slot an address with these failures has. -/
def trackerOf (ip : UInt32) (fs : List Nat) : LoginTracker :=
  { ip, failedAttempts := fs.length, lockoutUntil := if 5 ≤ fs.length then (fs.headD 0 + 300 : Nat) else 0 }

/-- The table holds the histories `own` of addresses in `known`, one slot each; an address without a slot
    has no failures. -/
structure Faithful (known : Finset UInt32) (ts : LoginTrackers) (own : UInt32 → List Nat) : Prop where
  slot : ∀ i, ts.get i = trackerOf (ts.get i).ip (own (ts.get i).ip)
  distinct : ∀ i j, (ts.get i).ip = (ts.get j).ip → (ts.get i).ip ≠ 0 → i = j
  known : ∀ i, (ts.get i).ip ≠ 0 → (ts.get i).ip ∈ known
  absent : ∀ ip, (∀ i, (ts.get i).ip ≠ ip) → own ip = []
  zero : own 0 = []

/-- No failure is booked on a slot that carries another address's failures. -/
def Undisturbed (ts : LoginTrackers) (a : Attempt) : Prop :=
  a.ok = false → (∀ i, (ts.get i).ip ≠ a.ip) →
    ∀ i, ts.firstSlot (fun t => t.ip = 0 || t.lockoutUntil < a.now - 3600) = some i →
      (ts.get i).failedAttempts = 0

instance (ts : LoginTrackers) (a : Attempt) : Decidable (Undisturbed ts a) := by
  unfold Undisturbed
  infer_instance

/-- `Undisturbed` before every attempt of a run. -/
def UndisturbedRun (ts : LoginTrackers) : List Attempt → Prop
  | [] => True
  | a :: as => Undisturbed ts a ∧ UndisturbedRun (ts.attempt a) as

section
variable {known : Finset UInt32} {ts : LoginTrackers} {own : UInt32 → List Nat} {ip : UInt32}

theorem firstSlot_some (h : ts.firstSlot p = some i) : p (ts.get i) = true := by
  have hfind : (List.finRange maxLoginTrackers).find? (fun j => p (ts.get j)) = some i := h
  exact List.find?_some (p := fun j => p (ts.get j)) hfind

theorem firstSlot_none (h : ts.firstSlot p = none) (i : Fin maxLoginTrackers) : p (ts.get i) = false := by
  have := List.find?_eq_none.mp h i (List.mem_finRange i)
  exact Bool.eq_false_iff.mpr this

/-- The slot of an address is its only one, so the search finds it. -/
theorem Faithful.firstSlot_ip (h : Faithful known ts own) (hip : ip ≠ 0)
    (hi : (ts.get i).ip = ip) : ts.firstSlot (·.ip = ip) = some i := by
  cases hs : ts.firstSlot (·.ip = ip) with
  | none => exact absurd hi (of_decide_eq_false (firstSlot_none hs i))
  | some j =>
    have hj : (ts.get j).ip = ip := of_decide_eq_true (firstSlot_some hs)
    rw [h.distinct j i (hj.trans hi.symm) (hj ▸ hip)]

theorem firstSlot_ip_none (h : ∀ i, (ts.get i).ip ≠ ip) : ts.firstSlot (·.ip = ip) = none := by
  cases hs : ts.firstSlot (·.ip = ip) with
  | none => rfl
  | some j => exact absurd (of_decide_eq_true (firstSlot_some hs)) (h j)

theorem get_set (ts : LoginTrackers) (i j : Fin maxLoginTrackers) (t : LoginTracker) :
    (ts.set i t i.isLt).get j = if i = j then t else ts.get j := by
  show (ts.set i t i.isLt)[j] = _
  rw [Fin.getElem_fin, Vector.getElem_set]
  simp only [Fin.ext_iff]
  rfl

/-- A slot may be rewritten for an address that owns it, or that owns none if nobody's failures are lost. -/
theorem Faithful.assign (h : Faithful known ts own) (hip : ip ≠ 0) (hknown : ip ∈ known)
    {i : Fin maxLoginTrackers}
    (hi : (ts.get i).ip = ip ∨ ((∀ j, (ts.get j).ip ≠ ip) ∧ own (ts.get i).ip = [])) (fs : List Nat) :
    Faithful known (ts.set i (trackerOf ip fs) i.isLt) (Function.update own ip fs) := by
  -- away from slot `i` nobody is `ip`
  have hother : ∀ j, i ≠ j → (ts.get j).ip ≠ ip := by
    intro j hij hj
    rcases hi with hi | ⟨hall, _⟩
    · exact hij (h.distinct i j (hi.trans hj.symm) (hi ▸ hip))
    · exact hall j hj
  refine ⟨?_, ?_, ?_, ?_, ?_⟩
  · intro j
    rw [get_set]
    split
    · simp [trackerOf]
    · rename_i hij
      rw [Function.update_of_ne (hother j hij)]
      exact h.slot j
  · intro j k
    rw [get_set, get_set]
    split <;> split
    · intros; omega
    · rename_i hij hik
      intro heq _
      exact absurd heq.symm (hother k hik)
    · rename_i hij hik
      intro heq _
      exact absurd heq (hother j hij)
    · exact h.distinct j k
  · intro j
    rw [get_set]
    split
    · intro _; exact hknown
    · exact h.known j
  · intro ip' hall
    have hne : ip' ≠ ip := by
      have hat := hall i
      rw [get_set, if_pos rfl] at hat
      exact fun he => hat he.symm
    rw [Function.update_of_ne hne]
    by_cases hwas : (ts.get i).ip = ip'
    · rcases hi with hi | ⟨_, hnil⟩
      · exact absurd (hwas.symm.trans hi) hne
      · exact hwas ▸ hnil
    · refine h.absent ip' fun j => ?_
      by_cases hij : i = j
      · exact hij ▸ hwas
      · have hat := hall j
        rwa [get_set, if_neg hij] at hat
  · rw [Function.update_of_ne (Ne.symm hip)]
    exact h.zero

/-! ## One attempt -/

theorem Faithful.update_self (h : Faithful known ts own) :
    Faithful known ts (Function.update own ip (own ip)) := by
  rwa [Function.update_eq_self]

/-- An address without failures may be forgotten, so writing `[]` for an absent one changes nothing. -/
theorem Faithful.update_absent (h : Faithful known ts own) (hall : ∀ i, (ts.get i).ip ≠ ip) :
    Faithful known ts (Function.update own ip []) := by
  rw [← h.absent ip hall]
  exact h.update_self

theorem trackerOf_locked {fs : List Nat} {t : Nat} :
    (trackerOf ip fs).lockoutUntil > (t : Int) ↔ Locked fs t := by
  simp only [trackerOf, Locked]
  split <;> omega

theorem trackerOf_lockoutUntil_ne_zero {fs : List Nat} :
    (trackerOf ip fs).lockoutUntil ≠ 0 ↔ 5 ≤ fs.length := by
  simp only [trackerOf]
  split <;> omega

/-- `login_is_locked_out` answers from the address's own failures, and drops those of an expired lockout. -/
theorem Faithful.isLockedOut (h : Faithful known ts own) (hip : ip ≠ 0) (t : Nat) :
    ((ts.isLockedOut ip t).1 = true ↔ Locked (own ip) t) ∧
      (∀ i, ((ts.isLockedOut ip t).2.get i).ip = (ts.get i).ip) ∧
      Faithful known (ts.isLockedOut ip t).2 (Function.update own ip (unexpired (own ip) t)) := by
  unfold LoginTrackers.isLockedOut
  rw [if_neg hip]
  by_cases hex : ∃ i, (ts.get i).ip = ip
  · obtain ⟨i, hi⟩ := hex
    have hslot : ts.get i = trackerOf ip (own ip) := by rw [h.slot i, hi]
    have hmem : ip ∈ known := hi ▸ h.known i (hi ▸ hip)
    rw [h.firstSlot_ip hip hi]
    simp only [show ts[i] = trackerOf ip (own ip) from hslot, trackerOf_locked, trackerOf_lockoutUntil_ne_zero]
    split
    · rename_i hl
      refine ⟨by simp [hl], fun _ => rfl, ?_⟩
      rw [unexpired, if_neg (by tauto)]
      exact h.update_self
    · rename_i hl
      split
      · rename_i h5
        refine ⟨by simp [hl], fun j => ?_, ?_⟩
        · rw [get_set]
          split
          · rename_i hij
            rw [← hij, hi]
            rfl
          · rfl
        · rw [unexpired, if_pos ⟨h5, hl⟩]
          exact h.assign hip hmem (.inl hi) []
      · rename_i h5
        refine ⟨by simp [hl], fun _ => rfl, ?_⟩
        rw [unexpired, if_neg (by tauto)]
        exact h.update_self
  · have hall : ∀ i, (ts.get i).ip ≠ ip := fun i hi => hex ⟨i, hi⟩
    rw [firstSlot_ip_none hall, h.absent ip hall]
    exact ⟨by simp [Locked], fun _ => rfl, h.update_absent hall⟩

theorem Faithful.recordSuccess (h : Faithful known ts own) (hip : ip ≠ 0) :
    Faithful known (ts.recordSuccess ip) (Function.update own ip []) := by
  unfold LoginTrackers.recordSuccess
  rw [if_neg hip]
  by_cases hex : ∃ i, (ts.get i).ip = ip
  · obtain ⟨i, hi⟩ := hex
    rw [h.firstSlot_ip hip hi]
    have hset : { ts[i] with failedAttempts := 0, lockoutUntil := 0 } = trackerOf ip [] := by
      rw [← hi]
      rfl
    simp only [hset]
    exact h.assign hip (hi ▸ h.known i (hi ▸ hip)) (.inl hi) []
  · have hall : ∀ i, (ts.get i).ip ≠ ip := fun i hi => hex ⟨i, hi⟩
    rw [firstSlot_ip_none hall]
    exact h.update_absent hall

/-- With at most 64 addresses around, one that has no slot leaves a free one. -/
theorem Faithful.exists_free (h : Faithful known ts own) (hmem : ip ∈ known)
    (hcard : known.card ≤ maxLoginTrackers) (hall : ∀ i, (ts.get i).ip ≠ ip) :
    ∃ i, (ts.get i).ip = 0 := by
  by_contra hfree
  have hnone : ∀ i, (ts.get i).ip ≠ 0 := fun i hi => hfree ⟨i, hi⟩
  -- otherwise the 64 slots inject into the other addresses, of which there are at most 63
  have hinj : Function.Injective fun i => (ts.get i).ip := fun i j hij => h.distinct i j hij (hnone i)
  have hsub : Finset.univ.image (fun i => (ts.get i).ip) ⊆ known.erase ip := by
    intro x hx
    obtain ⟨i, _, rfl⟩ := Finset.mem_image.mp hx
    exact Finset.mem_erase.mpr ⟨hall i, h.known i (hnone i)⟩
  have hle := Finset.card_le_card hsub
  rw [Finset.card_image_of_injective _ hinj, Finset.card_univ, Fintype.card_fin, Finset.card_erase_of_mem hmem] at hle
  have hpos := Finset.card_pos.mpr ⟨ip, hmem⟩
  omega

/-- One more failure on the slot that carries `fs`. -/
theorem trackerOf_cons (ip' : UInt32) {fs : List Nat} (hlt : fs.length < 5) (now : Nat) :
    { ip := ip
      failedAttempts := (trackerOf ip' fs).failedAttempts + 1
      lockoutUntil := if (trackerOf ip' fs).failedAttempts + 1 ≥ 5 then (now : Int) + 300
        else (trackerOf ip' fs).lockoutUntil } = trackerOf ip (now :: fs) := by
  show LoginTracker.mk ip (fs.length + 1) (if fs.length + 1 ≥ 5 then (now : Int) + 300 else
      if 5 ≤ fs.length then (fs.headD 0 + 300 : Nat) else 0) =
    LoginTracker.mk ip (fs.length + 1) (if 5 ≤ fs.length + 1 then (now + 300 : Nat) else 0)
  rw [if_neg (show ¬ 5 ≤ fs.length by omega)]
  rfl

theorem Faithful.recordFailure (h : Faithful known ts own) (hip : ip ≠ 0) (hmem : ip ∈ known)
    (hcard : known.card ≤ maxLoginTrackers) (now : Nat) (hlt : (own ip).length < 5)
    (hclean : (∀ i, (ts.get i).ip ≠ ip) →
      ∀ i, ts.firstSlot (fun t => t.ip = 0 || t.lockoutUntil < now - 3600) = some i →
        (ts.get i).failedAttempts = 0) :
    Faithful known (ts.recordFailure ip now) (Function.update own ip (now :: own ip)) := by
  unfold LoginTrackers.recordFailure LoginTrackers.failureSlot
  rw [if_neg hip]
  by_cases hex : ∃ i, (ts.get i).ip = ip
  · obtain ⟨i, hi⟩ := hex
    rw [h.firstSlot_ip hip hi, Option.some_or]
    have hslot : ts[i] = trackerOf ip (own ip) := by
      have := h.slot i
      rwa [hi] at this
    simp only [hslot, trackerOf_cons ip hlt]
    exact h.assign hip hmem (.inl hi) _
  · have hall : ∀ i, (ts.get i).ip ≠ ip := fun i hi => hex ⟨i, hi⟩
    rw [firstSlot_ip_none hall, Option.none_or, h.absent ip hall]
    cases hs : ts.firstSlot (fun t => t.ip = 0 || t.lockoutUntil < now - 3600) with
    | none =>
      obtain ⟨i, hi⟩ := h.exists_free hmem hcard hall
      have := firstSlot_none hs i
      simp [hi] at this
    | some i =>
      have hnil : own (ts.get i).ip = [] := by
        have hzero := hclean hall i hs
        rw [h.slot i] at hzero
        exact List.eq_nil_of_length_eq_zero hzero
      have hslot : ts[i] = trackerOf (ts.get i).ip [] := by
        have := h.slot i
        rwa [hnil] at this
      simp only
      rw [hslot, trackerOf_cons (ts.get i).ip (show ([] : List Nat).length < 5 by decide)]
      exact h.assign hip hmem (.inr ⟨hall, hnil⟩) _

theorem Faithful.attempt {a : Attempt} (h : Faithful known ts own) (hip : a.ip ≠ 0)
    (hmem : a.ip ∈ known) (hcard : known.card ≤ maxLoginTrackers) (hclean : Undisturbed ts a) :
    Faithful known (ts.attempt a) (Function.update own a.ip (book (own a.ip) a)) := by
  obtain ⟨hlocked, hips, hfaith⟩ := h.isLockedOut hip a.now
  unfold LoginTrackers.attempt book
  by_cases hl : Locked (own a.ip) a.now
  · rw [if_pos (hlocked.mpr hl), if_pos hl]
    rwa [unexpired, if_neg (by tauto)] at hfaith
  · rw [if_neg (mt hlocked.mp hl), if_neg hl]
    cases hok : a.ok with
    | true =>
      have := hfaith.recordSuccess hip
      rwa [Function.update_idem] at this
    | false =>
      have hlt : (Function.update own a.ip (unexpired (own a.ip) a.now) a.ip).length < 5 := by
        rw [Function.update_self, unexpired]
        split
        · exact Nat.zero_lt_succ 4
        · rename_i h5
          by_contra hge
          exact h5 ⟨by omega, hl⟩
      have := hfaith.recordFailure hip hmem hcard a.now hlt ?_
      · rwa [Function.update_idem, Function.update_self] at this
      · -- an address without a slot is not in the table the lockout test looks at, which stays as it was
        intro hall
        have hall' : ∀ i, (ts.get i).ip ≠ a.ip := fun i => hips i ▸ hall i
        have hsame : (ts.isLockedOut a.ip a.now).2 = ts := by
          unfold LoginTrackers.isLockedOut
          rw [if_neg hip, firstSlot_ip_none hall']
        rw [hsame]
        exact hclean hok hall'

/-! ## Runs -/

theorem Faithful.run (hcard : known.card ≤ maxLoginTrackers) :
    ∀ {ts : LoginTrackers} {own : UInt32 → List Nat} (as : List Attempt), Faithful known ts own →
      (∀ a ∈ as, a.ip ≠ 0 ∧ a.ip ∈ known) → UndisturbedRun ts as →
      Faithful known (ts.run as) fun ip => (as.filter (·.ip = ip)).foldl book (own ip) := by
  intro ts own as
  induction as generalizing ts own with
  | nil => intro h _ _; exact h
  | cons a as ih =>
    intro h haddr hclean
    obtain ⟨hip, hmem⟩ := haddr a List.mem_cons_self
    have hstep := h.attempt hip hmem hcard hclean.1
    have hrun := ih hstep (fun b hb => haddr b (List.mem_cons_of_mem _ hb)) hclean.2
    refine Eq.mp ?_ hrun
    congr 1
    funext ip
    by_cases hown : a.ip = ip
    · subst hown
      rw [List.filter_cons_of_pos (by simp), List.foldl_cons, Function.update_self]
    · rw [List.filter_cons_of_neg (by simpa using hown), Function.update_of_ne (Ne.symm hown)]

theorem Faithful.init (known : Finset UInt32) : Faithful known LoginTrackers.init fun _ => [] := by
  have hget : ∀ i, LoginTrackers.init.get i = {} := fun i => by
    show (Vector.replicate maxLoginTrackers ({} : LoginTracker))[i] = _
    rw [Fin.getElem_fin, Vector.getElem_replicate]
  refine ⟨fun i => ?_, fun i j _ hne => ?_, fun i hne => ?_, fun _ _ => rfl, rfl⟩
  · rw [hget]
    rfl
  · rw [hget] at hne
    exact absurd rfl hne
  · rw [hget] at hne
    exact absurd rfl hne

/-- The failure count the table holds for an address. -/
def LoginTrackers.failuresOf (ts : LoginTrackers) (ip : UInt32) : Nat :=
  match ts.firstSlot (·.ip = ip) with
  | none => 0
  | some i => (ts.get i).failedAttempts

theorem Faithful.failuresOf (h : Faithful known ts own) (hip : ip ≠ 0) :
    ts.failuresOf ip = (own ip).length := by
  unfold LoginTrackers.failuresOf
  by_cases hex : ∃ i, (ts.get i).ip = ip
  · obtain ⟨i, hi⟩ := hex
    rw [h.firstSlot_ip hip hi]
    simp only
    rw [h.slot i, hi]
    rfl
  · have hall : ∀ i, (ts.get i).ip ≠ ip := fun i hi => hex ⟨i, hi⟩
    rw [firstSlot_ip_none hall, h.absent ip hall]
    rfl

end

/-- A sequence of attempts from at most 64 addresses other than 0, at times that do not decrease. -/
structure Attempts (as : List Attempt) : Prop where
  nonzero : ∀ a ∈ as, a.ip ≠ 0
  few : (as.map Attempt.ip).toFinset.card ≤ maxLoginTrackers
  timed : as.Pairwise fun a b => a.now ≤ b.now

/-- Whether an address is locked out depends on its own attempts alone, as long as no attempt takes over a
    slot with failures on it. -/
theorem isLockedOut_run_iff {as : List Attempt} (h : Attempts as)
    (hclean : UndisturbedRun LoginTrackers.init as) {ip : UInt32} (hip : ip ≠ 0) (t : Nat) :
    (((LoginTrackers.init.run as).isLockedOut ip t).1 = true ↔ Locked (ownFailures ip as) t) ∧
      (LoginTrackers.init.run as).failuresOf ip = (ownFailures ip as).length := by
  have hmem : ∀ a ∈ as, a.ip ≠ 0 ∧ a.ip ∈ (as.map Attempt.ip).toFinset := fun a ha =>
    ⟨h.nonzero a ha, List.mem_toFinset.mpr (List.mem_map_of_mem ha)⟩
  have hfaith := Faithful.run h.few as (Faithful.init _) hmem hclean
  exact ⟨(hfaith.isLockedOut hip t).1, hfaith.failuresOf hip⟩

instance (ts : LoginTrackers) (as : List Attempt) : Decidable (UndisturbedRun ts as) := by
  induction as generalizing ts with
  | nil => exact .isTrue trivial
  | cons a as ih =>
    have := ih (ts.attempt a)
    exact inferInstanceAs (Decidable (_ ∧ _))

/-- Address 1 is locked out by its fifth failure when address 2 fails for the first time. -/
def apart : List Attempt :=
  [⟨1, 10000, false⟩, ⟨1, 10001, false⟩, ⟨1, 10002, false⟩, ⟨1, 10003, false⟩, ⟨1, 10004, false⟩, ⟨2, 10005, false⟩]

theorem apart_attempts : Attempts apart := ⟨by decide, by decide, by decide⟩

theorem isLockedOut_run_apart :
    ((LoginTrackers.init.run apart).isLockedOut 1 10100).1 = true ∧
      ((LoginTrackers.init.run apart).isLockedOut 2 10100).1 = false := by
  have hclean : UndisturbedRun LoginTrackers.init apart := by decide +kernel
  have hone := isLockedOut_run_iff apart_attempts hclean (show (1 : UInt32) ≠ 0 by decide) 10100
  have htwo := isLockedOut_run_iff apart_attempts hclean (show (2 : UInt32) ≠ 0 by decide) 10100
  refine ⟨hone.1.mpr (by decide), ?_⟩
  rw [Bool.eq_false_iff]
  exact fun hl => absurd (htwo.1.mp hl) (by decide)

/-- Address 1 fails four times, then address 2 once: the slot of address 1 changes hands. -/
def crossed : List Attempt :=
  [⟨1, 10000, false⟩, ⟨1, 10001, false⟩, ⟨1, 10002, false⟩, ⟨1, 10003, false⟩, ⟨2, 10004, false⟩]

/-- Address 2 is locked out by its first failure, and the four of address 1 are forgotten. -/
theorem not_isLockedOut_run_iff_crossed :
    Attempts crossed ∧
      ¬ (((LoginTrackers.init.run crossed).isLockedOut 2 10005).1 = true ↔
        Locked (ownFailures 2 crossed) 10005) ∧
      (LoginTrackers.init.run crossed).failuresOf 1 = 0 ∧ (ownFailures 1 crossed).length = 4 := by
  refine ⟨⟨by decide, by decide, by decide⟩, ?_, by decide +kernel, by decide⟩
  have hlocked : ((LoginTrackers.init.run crossed).isLockedOut 2 10005).1 = true := by decide +kernel
  intro hiff
  exact absurd (hiff.mp hlocked) (by decide)

end FluxWAN.Web
