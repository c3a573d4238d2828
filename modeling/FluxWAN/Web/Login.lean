/-
  The login rate limiter (`src/web_server.c`: `login_is_locked_out`, `login_record_failure`,
  `login_record_success`).

  64 slots, each with an address, a failure count and the end of a lockout; a slot with address 0 is free.
  Note that a slot taken over from another address keeps that address's failure COUNT: only the address is
  overwritten.
-/
import Mathlib.Data.Fintype.Card
import Mathlib.Data.Vector.Basic

namespace FluxWAN.Web

/-- `login_tracker_t`; times are seconds. -/
structure LoginTracker where
  ip : UInt32 := 0
  failedAttempts : Nat := 0
  lockoutUntil : Int := 0
  deriving DecidableEq, Repr

abbrev maxLoginTrackers : Nat := 64

/-- `g_login_trackers`. -/
abbrev LoginTrackers := Vector LoginTracker maxLoginTrackers

namespace LoginTrackers

/-- The first slot that passes the test. -/
def firstSlot (ts : LoginTrackers) (p : LoginTracker → Bool) : Option (Fin maxLoginTrackers) :=
  (List.finRange maxLoginTrackers).find? fun i => p ts[i]

/-- `login_is_locked_out`; an expired lockout is cleared on the way. -/
def isLockedOut (ts : LoginTrackers) (ip : UInt32) (now : Int) : Bool × LoginTrackers :=
  if ip = 0 then (false, ts)
  else
    match ts.firstSlot (·.ip = ip) with
    | none => (false, ts)
    | some i =>
      if ts[i].lockoutUntil > now then (true, ts)
      else if ts[i].lockoutUntil ≠ 0 then
        (false, ts.set i { ts[i] with failedAttempts := 0, lockoutUntil := 0 })
      else (false, ts)

/-- The slot a failure is booked on: the address's own, else the first that is free or whose lockout
    ended more than an hour ago. -/
def failureSlot (ts : LoginTrackers) (ip : UInt32) (now : Int) : Option (Fin maxLoginTrackers) :=
  (ts.firstSlot (·.ip = ip)).or (ts.firstSlot fun t => t.ip = 0 || t.lockoutUntil < now - 3600)

/-- `login_record_failure`: the fifth failure locks the address out for five minutes. -/
def recordFailure (ts : LoginTrackers) (ip : UInt32) (now : Int) : LoginTrackers :=
  if ip = 0 then ts
  else
    match ts.failureSlot ip now with
    | none => ts
    | some i =>
      let attempts := ts[i].failedAttempts + 1
      ts.set i
        { ip := ip
          failedAttempts := attempts
          lockoutUntil := if attempts ≥ 5 then now + 300 else ts[i].lockoutUntil }

/-- `login_record_success`. -/
def recordSuccess (ts : LoginTrackers) (ip : UInt32) : LoginTrackers :=
  if ip = 0 then ts
  else
    match ts.firstSlot (·.ip = ip) with
    | none => ts
    | some i => ts.set i { ts[i] with failedAttempts := 0, lockoutUntil := 0 }

end LoginTrackers

end FluxWAN.Web
