/-
  How grace time is counted (`src/license_manager.c`: `license_manager_tick`).

  A tick books the whole seconds since the reference and moves the reference to *now*.  The part of a second that
  was not booked is forgotten with it, and the count of seconds is cut to 32 bits: what has been booked depends
  on when the ticks came.

  1. **One tick** — `licenseManagerTick_grace`: what is booked, and where the reference goes.
  2. **The books** — `Booked t₀ g m`: as long as grace runs, what is left and the whole seconds between `t₀` and
     the reference make up the grace `g`.  `booked_tick_iff`: a tick keeps the books exactly if it is `Timely`,
     and that is also when it leaves the account that elapsed time asks for.
  3. **Any sequence of ticks** — `graceConsumed_iff`.
-/
import FluxWAN.License.Manager
import FluxWAN.Lib.Trace

namespace FluxWAN.License

open Trace

/-- The grace time left. -/
def Manager.graceLeft (m : Manager) : Nat := m.globals.info.graceSecondsRemaining.toNat

/-- The time that the next tick counts from. -/
def Manager.reference (m : Manager) : Nat := m.globals.lastTickMs.toNat

/-- The whole seconds that a tick at `t` finds, cut to 32 bits. -/
def Manager.secondsAt (m : Manager) (t : UInt64) : Nat := (t.toNat - m.reference) / 1000 % 2 ^ 32

/-- Ticks: what the monotonic clock and the wall clock show at each. -/
def Manager.ticks (m : Manager) (times : List (UInt64 × UInt64)) : Manager :=
  times.foldl (fun m t => licenseManagerTick t.1 t.2 m) m

theorem ticks_concat (m : Manager) (times : List (UInt64 × UInt64)) (t : UInt64 × UInt64) :
    m.ticks (times ++ [t]) = licenseManagerTick t.1 t.2 (m.ticks times) := by
  rw [Manager.ticks, List.foldl_append]
  rfl

/-! ## One tick -/

section Tick
variable {m : Manager} {t : UInt64}

theorem tickElapsed_toNat (hpos : 0 < m.reference) (ht : m.reference < t.toNat) :
    (tickElapsed m.globals.lastTickMs t).1.toNat = m.secondsAt t ∧
      (tickElapsed m.globals.lastTickMs t).2.toNat = if 0 < m.secondsAt t then t.toNat else m.reference := by
  have hcond : m.globals.lastTickMs > 0 ∧ t > m.globals.lastTickMs :=
    ⟨UInt64.lt_iff_toNat_lt.mpr hpos, UInt64.lt_iff_toNat_lt.mpr ht⟩
  have helapsed : ((t - m.globals.lastTickMs) / 1000).toUInt32.toNat = m.secondsAt t := by
    rw [UInt64.toNat_toUInt32, UInt64.toNat_div, UInt64.toNat_sub_of_le _ _ (UInt64.le_of_lt hcond.2)]
    rfl
  rw [tickElapsed, if_pos hcond]
  refine ⟨helapsed, ?_⟩
  show (if ((t - m.globals.lastTickMs) / 1000).toUInt32 > 0 then t else m.globals.lastTickMs).toNat = _
  by_cases hzero : 0 < m.secondsAt t
  · rw [if_pos (UInt32.lt_iff_toNat_lt.mpr (by rwa [helapsed])), if_pos hzero]
  · rw [if_neg (fun h => hzero (by rw [← helapsed]; exact UInt32.lt_iff_toNat_lt.mp h)), if_neg hzero]
    rfl

/-- The first tick books nothing and sets the reference. -/
theorem licenseManagerTick_first (now : UInt64) (hfresh : m.globals.lastTickMs = 0)
    (hinvalid : m.globals.info.isValid = false) :
    (licenseManagerTick t now m).globals.info = m.globals.info ∧
      (licenseManagerTick t now m).globals.lastTickMs = t := by
  have helapsed : tickElapsed m.globals.lastTickMs t = (0, t) := by
    rw [tickElapsed, hfresh, if_neg (fun h => absurd h.1 (by decide))]
  have hsub : m.globals.info.subscribes = false := by
    rw [LicenseInfo.subscribes, hinvalid, Bool.false_and]
  have hinfo := (licenseManagerTick_of_not_subscribes t now hsub).1
  rw [helapsed] at hinfo
  refine ⟨hinfo.trans ?_, congrArg Prod.snd helapsed⟩
  simp [tickGrace]

/-- **A tick in the grace state** books the seconds it finds, or all that is left; and it moves the reference if it
    finds any. -/
theorem licenseManagerTick_grace (now : UInt64) (hpos : 0 < m.reference) (ht : m.reference < t.toNat)
    (hinvalid : m.globals.info.isValid = false) (hgrace : m.globals.info.status = .grace) :
    let m' := licenseManagerTick t now m
    m'.globals.info.isValid = false ∧
      m'.reference = (if 0 < m.secondsAt t then t.toNat else m.reference) ∧
      m'.graceLeft = m.graceLeft - m.secondsAt t ∧
      (m'.globals.info.status = .grace ↔ m.secondsAt t = 0 ∨ m.secondsAt t < m.graceLeft) := by
  have hsub : m.globals.info.subscribes = false := by
    rw [LicenseInfo.subscribes, hinvalid, Bool.false_and]
  have hinfo := (licenseManagerTick_of_not_subscribes t now hsub).1
  obtain ⟨helapsed, href⟩ := tickElapsed_toNat hpos ht
  intro m'
  have hleft : m'.graceLeft = (tickGrace (tickElapsed m.globals.lastTickMs t).1 m.globals.info).graceSecondsRemaining.toNat :=
    congrArg (fun info => info.graceSecondsRemaining.toNat) hinfo
  rw [show m'.globals.info = _ from hinfo, hleft]
  generalize hsec : (tickElapsed m.globals.lastTickMs t).1 = elapsed at helapsed
  have hgt : m.globals.info.graceSecondsRemaining > elapsed ↔ m.secondsAt t < m.graceLeft := by
    rw [← helapsed]
    exact UInt32.lt_iff_toNat_lt
  by_cases hzero : m.secondsAt t = 0
  · have helapsed0 : elapsed = 0 := UInt32.toNat_inj.mp (helapsed.trans hzero)
    have hsame : tickGrace elapsed m.globals.info = m.globals.info := by
      simp [tickGrace, helapsed0]
    rw [hsame, hzero]
    exact ⟨hinvalid, href.trans (by rw [hzero]), rfl, iff_of_true hgrace (.inl rfl)⟩
  · have hcond : (!m.globals.info.isValid && m.globals.info.status = .grace && elapsed > 0) = true := by
      have h0 : elapsed > 0 := UInt32.lt_iff_toNat_lt.mpr (helapsed ▸ Nat.pos_of_ne_zero hzero)
      simp [hinvalid, hgrace, h0]
    rw [tickGrace, if_pos hcond]
    by_cases henough : m.secondsAt t < m.graceLeft
    · rw [if_pos (hgt.mpr henough)]
      refine ⟨hinvalid, href, ?_, iff_of_true hgrace (.inr henough)⟩
      rw [UInt32.toNat_sub_of_le _ _ (UInt32.le_of_lt (hgt.mpr henough)), helapsed]
      rfl
    · rw [if_neg (mt hgt.mp henough)]
      refine ⟨hinvalid, href, ?_, iff_of_false (by simp) (by simp [hzero, henough])⟩
      exact (Nat.sub_eq_zero_of_le (Nat.le_of_not_lt henough)).symm

/-- Without grace a tick books nothing. -/
theorem licenseManagerTick_spent (hpos : 0 < m.reference) (ht : m.reference < t.toNat)
    (hinvalid : m.globals.info.isValid = false) (hspent : m.globals.info.status ≠ .grace) :
    (licenseManagerTick t now m).globals.info = m.globals.info ∧
      (licenseManagerTick t now m).reference = if 0 < m.secondsAt t then t.toNat else m.reference := by
  have hsub : m.globals.info.subscribes = false := by
    rw [LicenseInfo.subscribes, hinvalid, Bool.false_and]
  refine ⟨?_, (tickElapsed_toNat hpos ht).2⟩
  rw [(licenseManagerTick_of_not_subscribes t now hsub).1, tickGrace_of_not_grace hspent]

end Tick

/-! ## The books -/

/-- What the account says if nothing was forgotten since `t₀`, when `g` seconds were left: what is left and the whole
    seconds up to the reference make up `g`; or all is used up, and rightly so. -/
structure Booked (t₀ g : Nat) (m : Manager) : Prop where
  invalid : m.globals.info.isValid = false
  pos : 0 < m.reference
  since : t₀ ≤ m.reference
  account :
    m.globals.info.status = .grace ∧ m.graceLeft + (m.reference - t₀) / 1000 = g ∨
      m.globals.info.status ≠ .grace ∧ m.graceLeft = 0 ∧ g ≤ (m.reference - t₀) / 1000

/-- A tick at `t` forgets nothing: it uses up the grace, or it finds fewer than 2^32 seconds, and the part of a
    second that the reference forgot does not make another second with the part that stands now. -/
def Timely (t₀ : Nat) (m : Manager) (t : UInt64) : Prop :=
  m.graceLeft ≤ m.secondsAt t ∨
    (t.toNat - m.reference) / 1000 < 2 ^ 32 ∧
      (m.reference - t₀) % 1000 + (t.toNat - m.reference) % 1000 < 1000

/-- The account that elapsed time asks for. -/
def Accounted (t₀ g : Nat) (m : Manager) (t : UInt64) : Prop :=
  g - m.graceLeft = min g ((t.toNat - t₀) / 1000)

section Books
variable {m : Manager} {t : UInt64} {t₀ g : Nat}

theorem booked_first (now : UInt64) (hfresh : m.globals.lastTickMs = 0) (hinvalid : m.globals.info.isValid = false)
    (hgrace : m.globals.info.status = .grace) (hpos : 0 < t) :
    Booked t.toNat m.graceLeft (licenseManagerTick t now m) := by
  obtain ⟨hinfo, hlast⟩ := licenseManagerTick_first (t := t) now hfresh hinvalid
  have href : (licenseManagerTick t now m).reference = t.toNat := congrArg UInt64.toNat hlast
  have hleft : (licenseManagerTick t now m).graceLeft = m.graceLeft :=
    congrArg (fun info => info.graceSecondsRemaining.toNat) hinfo
  refine ⟨by rw [hinfo, hinvalid], by rw [href]; exact UInt64.lt_iff_toNat_lt.mp hpos, by rw [href], .inl ⟨?_, ?_⟩⟩
  · rw [hinfo, hgrace]
  · rw [hleft, href, Nat.sub_self, Nat.zero_div, Nat.add_zero]

/-- **A tick keeps the books exactly if it is timely.** -/
theorem booked_tick_iff (h : Booked t₀ g m) (ht : m.reference < t.toNat) :
    (Accounted t₀ g (licenseManagerTick t now m) t ↔ Timely t₀ m t) ∧
      (Timely t₀ m t → Booked t₀ g (licenseManagerTick t now m)) := by
  have hsince := h.since
  rcases h.account with ⟨hgrace, haccount⟩ | ⟨hspent, hzero, hover⟩
  · obtain ⟨hinvalid', href', hleft', hstatus'⟩ := licenseManagerTick_grace now h.pos ht h.invalid hgrace
    have hsec : m.secondsAt t = (t.toNat - m.reference) / 1000 % 2 ^ 32 := rfl
    have hiff : Accounted t₀ g (licenseManagerTick t now m) t ↔ Timely t₀ m t := by
      -- both ask whether the seconds up to the reference and those found are the seconds up to now
      rw [Accounted, Timely, hleft', hsec]
      omega
    refine ⟨hiff, fun htimely => ?_⟩
    by_cases hfound : 0 < m.secondsAt t
    · rw [if_pos hfound] at href'
      refine ⟨hinvalid', by omega, by omega, ?_⟩
      rw [Ne, hstatus', hleft', href']
      rw [Timely] at htimely
      omega
    · rw [if_neg hfound] at href'
      refine ⟨hinvalid', href' ▸ h.pos, href' ▸ hsince, .inl ⟨hstatus'.mpr (.inl (by omega)), ?_⟩⟩
      rw [hleft', href']
      omega
  · obtain ⟨hinfo, href'⟩ := licenseManagerTick_spent h.pos ht h.invalid hspent
    have hleft' : (licenseManagerTick t now m).graceLeft = m.graceLeft :=
      congrArg (fun info => info.graceSecondsRemaining.toNat) hinfo
    refine ⟨iff_of_true ?_ (.inl (by omega)), fun _ => ?_⟩
    · rw [Accounted, hleft']
      omega
    · have hmono : m.reference ≤ (licenseManagerTick t now m).reference := by
        rw [href']
        split <;> omega
      refine ⟨by rw [hinfo, h.invalid], by have := h.pos; omega, by omega, .inr ⟨by rwa [hinfo], by omega, by omega⟩⟩

/-! ## Any sequence of ticks -/

/-- The reference is the time of some tick. -/
theorem reference_tick (now : UInt64) :
    (licenseManagerTick t now m).reference = t.toNat ∨ (licenseManagerTick t now m).reference = m.reference := by
  show (tickElapsed m.globals.lastTickMs t).2.toNat = _ ∨ (tickElapsed m.globals.lastTickMs t).2.toNat = _
  rw [tickElapsed]
  split
  · dsimp only
    split
    · exact .inl rfl
    · exact .inr rfl
  · exact .inl rfl

theorem reference_ticks_lt (h : m.reference < t.toNat)
    (hbefore : ∀ x ∈ times, x.1 < t) : (m.ticks times).reference < t.toNat := by
  induction times generalizing m with
  | nil => exact h
  | cons x times ih =>
    have hx := UInt64.lt_iff_toNat_lt.mp (hbefore x List.mem_cons_self)
    refine ih (m := licenseManagerTick x.1 x.2 m) ?_ fun y hy => hbefore y (List.mem_cons_of_mem _ hy)
    rcases reference_tick (m := m) (t := x.1) x.2 with href | href <;> omega

/-- While every tick is timely the books are kept, and they show at every tick what they should. -/
theorem booked_ticks (h : Booked t₀ g m) {times : List (UInt64 × UInt64)}
    (hinc : times.Pairwise fun x y => x.1 < y.1) (hlast : ∀ x ∈ times, m.reference < x.1.toNat) :
    (AtEach (fun before x => Accounted t₀ g (m.ticks (before ++ [x])) x.1) times ↔
        AtEach (fun before x => Timely t₀ (m.ticks before) x.1) times) ∧
      (AtEach (fun before x => Timely t₀ (m.ticks before) x.1) times → Booked t₀ g (m.ticks times)) := by
  induction times using List.reverseRecOn with
  | nil => exact ⟨iff_of_true atEach_nil atEach_nil, fun _ => h⟩
  | append_singleton times x ih =>
    rw [List.pairwise_append] at hinc
    obtain ⟨hinc, -, hx⟩ := hinc
    obtain ⟨hiff, hbooked⟩ := ih hinc fun y hy => hlast y (List.mem_append_left _ hy)
    have href : (m.ticks times).reference < x.1.toNat :=
      reference_ticks_lt (hlast x (List.mem_append_right _ (List.mem_singleton_self x)))
        fun y hy => hx y hy x (List.mem_singleton_self x)
    rw [atEach_append_singleton_iff, atEach_append_singleton_iff, hiff, ticks_concat]
    refine ⟨and_congr_right fun hall => (booked_tick_iff (hbooked hall) href).1, fun hall => ?_⟩
    exact (booked_tick_iff (hbooked hall.1) href).2 hall.2

end Books

/-- **Any sequence of ticks** from a start in the grace state: the seconds consumed are those elapsed since the first
    tick, after every tick, exactly if every later tick is timely. -/
theorem graceConsumed_iff (m : Manager) (hfresh : m.globals.lastTickMs = 0)
    (hinvalid : m.globals.info.isValid = false) (hgrace : m.globals.info.status = .grace)
    (first : UInt64 × UInt64) (hpos : 0 < first.1) (later : List (UInt64 × UInt64))
    (hinc : (first :: later).Pairwise fun x y => x.1 < y.1) :
    (∀ before x after, first :: later = before ++ x :: after →
        m.graceLeft - (m.ticks (before ++ [x])).graceLeft = min m.graceLeft ((x.1.toNat - first.1.toNat) / 1000)) ↔
      ∀ before x after, later = before ++ x :: after →
        Timely first.1.toNat (m.ticks (first :: before)) x.1 := by
  obtain ⟨hfirst, hinc⟩ := List.pairwise_cons.mp hinc
  have hbooked := booked_first first.2 hfresh hinvalid hgrace hpos
  have href : ∀ x ∈ later, (licenseManagerTick first.1 first.2 m).reference < x.1.toNat := by
    intro x hx
    have hlast := (licenseManagerTick_first (t := first.1) first.2 hfresh hinvalid).2
    rw [Manager.reference, hlast]
    exact UInt64.lt_iff_toNat_lt.mp (hfirst x hx)
  have hiff := (booked_ticks hbooked hinc href).1
  constructor
  · intro hall
    refine hiff.mp fun before x after hsplit => ?_
    exact hall (first :: before) x after (by rw [hsplit, List.cons_append])
  · intro hall before x after hsplit
    rcases List.cons_eq_append_iff.mp hsplit with ⟨rfl, hcons⟩ | ⟨before, rfl, hsplit⟩
    · -- the first tick
      obtain ⟨rfl, -⟩ := List.cons.inj hcons
      have hleft := congrArg (fun info => info.graceSecondsRemaining.toNat)
        (licenseManagerTick_first (t := x.1) x.2 hfresh hinvalid).1
      rw [Nat.sub_self]
      show m.graceLeft - (licenseManagerTick x.1 x.2 m).graceLeft = _
      rw [show (licenseManagerTick x.1 x.2 m).graceLeft = m.graceLeft from hleft]
      omega
    · exact hiff.mpr hall before x after (List.cons.inj hsplit).2

/-- Ticks one and a half seconds apart. -/
def slowTicks : List (UInt64 × UInt64) := [(1000, 0), (2500, 0), (4000, 0)]

/-- Ticks that are not timely: after three seconds two are booked. -/
theorem slowTicks_lose_a_second :
    (({} : Manager).globals.info.status = .grace ∧ slowTicks.Pairwise fun x y => x.1 < y.1) ∧
      ({} : Manager).graceLeft - (({} : Manager).ticks slowTicks).graceLeft = 2 ∧
      min ({} : Manager).graceLeft ((4000 - 1000) / 1000) = 3 := by
  decide +kernel

/-- Ticks a second apart are timely. -/
theorem graceConsumed_iff_second :
    ({} : Manager).graceLeft - (({} : Manager).ticks [(1000, 0), (2000, 0)]).graceLeft =
      min ({} : Manager).graceLeft ((2000 - 1000) / 1000) := by
  have h := (graceConsumed_iff {} rfl rfl rfl (1000, 0) (by decide) [(2000, 0)] (by decide)).mpr
  refine h (fun before x after hsplit => ?_) [(1000, 0)] (2000, 0) [] rfl
  rcases List.singleton_eq_append_iff.mp hsplit with ⟨rfl, hcons⟩ | ⟨rfl, hcons⟩
  · obtain ⟨rfl, rfl⟩ := List.cons.inj hcons
    exact .inr (by decide +kernel)
  · cases hcons

end FluxWAN.License
