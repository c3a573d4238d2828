/-
  The option area, written and read back (`src/dhcp_server.c`: `append_option`, `get_dhcp_option`).

  An area is a run of options — code, length byte, data — closed by the END mark; codes 0 and 255 are the marks
  PAD and END and carry no length.

  1. **Writing** — `append_option` leaves out what does not fit.  `accepted` lists the options it took, and
     `appendOptions_eq` says that the area is their bytes and nothing else; one byte always stays free for END.
  2. **Reading** — `scanOptions_bytes` is one turn of the loop of `get_dhcp_option` on a whole option,
     `find_scanOptions` the loop on a whole area.
  3. **Arbitrary bytes** — every turn moves the cursor on, so the bound on the turns is no restriction
     (`scanOptions_fuel`), and what is found is part of the area (`scanOptions_inside`).
-/
import FluxWAN.Dhcp.Packet

namespace FluxWAN.Dhcp

/-- An option that is no mark and whose length fits in the length byte. -/
structure DhcpOption where
  type : UInt8
  data : List UInt8
  not_pad : type ≠ optPad
  not_end : type ≠ optEnd
  length_le : data.length ≤ 255

/-- An option as it stands in the area. -/
def DhcpOption.bytes (o : DhcpOption) : List UInt8 := o.type :: UInt8.ofNat o.data.length :: o.data

theorem DhcpOption.length_bytes (o : DhcpOption) : o.bytes.length = 2 + o.data.length := by
  rw [DhcpOption.bytes, List.length_cons, List.length_cons]
  omega

/-- The length byte says the length. -/
theorem DhcpOption.toNat_length (o : DhcpOption) : (UInt8.ofNat o.data.length).toNat = o.data.length :=
  UInt8.toNat_ofNat_of_lt' (Nat.lt_succ_of_le o.length_le)

/-! ## Writing -/

section Writing
variable {maxLen : Nat}

/-- `append_option`, option after option. -/
def appendOptions (maxLen : Nat) (written : List UInt8) (os : List DhcpOption) : List UInt8 :=
  os.foldl (fun area o => appendOption maxLen area o.type o.data) written

/-- The options that were taken: those that changed the area. -/
def accepted (maxLen : Nat) : List UInt8 → List DhcpOption → List DhcpOption
  | _, [] => []
  | written, o :: os =>
    let next := appendOption maxLen written o.type o.data
    if next = written then accepted maxLen written os else o :: accepted maxLen next os

/-- An option is left out, or appended as a whole with a byte to spare. -/
theorem appendOption_cases (written : List UInt8) (o : DhcpOption) :
    appendOption maxLen written o.type o.data = written ∨
      appendOption maxLen written o.type o.data = written ++ o.bytes ∧
        (written ++ o.bytes).length < maxLen := by
  rw [appendOption]
  split
  case isTrue => exact .inl rfl
  case isFalse hfits =>
    refine .inr ⟨rfl, ?_⟩
    rw [List.length_append, o.length_bytes]
    omega

theorem append_bytes_ne (written : List UInt8) (o : DhcpOption) : written ++ o.bytes ≠ written := by
  intro h
  have hlen := congrArg List.length h
  rw [List.length_append, o.length_bytes] at hlen
  omega

/-- The area is the bytes of the options that were taken. -/
theorem appendOptions_eq (written : List UInt8) :
    appendOptions maxLen written os = written ++ (accepted maxLen written os).flatMap DhcpOption.bytes := by
  induction os generalizing written with
  | nil => exact (List.append_nil written).symm
  | cons o os ih =>
    show appendOptions maxLen (appendOption maxLen written o.type o.data) os = _
    rw [ih, accepted]
    rcases appendOption_cases written o with h | ⟨h, -⟩
    · rw [h, if_pos rfl]
    · rw [h, if_neg (append_bytes_ne written o), List.flatMap_cons, List.append_assoc]

/-- There is always room for the END mark. -/
theorem length_appendOptions {written : List UInt8} (h : written.length < maxLen) :
    (appendOptions maxLen written os).length < maxLen := by
  induction os generalizing written with
  | nil => exact h
  | cons o os ih =>
    show (appendOptions maxLen (appendOption maxLen written o.type o.data) os).length < maxLen
    rcases appendOption_cases written o with heq | ⟨heq, hfits⟩
    · rw [heq]
      exact ih h
    · rw [heq]
      exact ih hfits

end Writing

/-! ## Reading -/

section Reading
variable {t : UInt8}

/-- One turn of the loop on a whole option. -/
theorem scanOptions_bytes (fuel : Nat) (o : DhcpOption) :
    scanOptions t (fuel + 1) (o.bytes ++ rest) =
      if o.type = t then some (o.data ++ rest, UInt8.ofNat o.data.length) else scanOptions t fuel rest := by
  show (if o.type = optPad then _ else if o.type = optEnd then _ else
    if (o.data ++ rest).length < (UInt8.ofNat o.data.length).toNat then _ else
    if o.type = t then some (o.data ++ rest, _) else
      scanOptions t fuel ((o.data ++ rest).drop (UInt8.ofNat o.data.length).toNat)) = _
  have hlen : ¬ (o.data ++ rest).length < o.data.length := by
    rw [List.length_append]
    omega
  rw [if_neg o.not_pad, if_neg o.not_end, o.toNat_length, if_neg hlen, List.drop_left]

theorem length_le_flatMap_bytes (os : List DhcpOption) :
    os.length ≤ (os.flatMap DhcpOption.bytes).length := by
  induction os with
  | nil => exact le_rfl
  | cons o os ih =>
    rw [List.flatMap_cons, List.length_append, o.length_bytes, List.length_cons]
    omega

/-- What `get_dhcp_option` gives its caller: the length and the data. -/
def optionValue (found : List UInt8 × UInt8) : Nat × List UInt8 :=
  (found.2.toNat, found.1.take found.2.toNat)

/-- The loop on a whole area: the first option with this code. -/
theorem find_scanOptions (os : List DhcpOption) (hfuel : os.length < fuel) :
    (scanOptions t fuel (os.flatMap DhcpOption.bytes ++ optEnd :: rest)).map optionValue =
      (os.find? (·.type = t)).map fun o => (o.data.length, o.data) := by
  induction os generalizing fuel with
  | nil =>
    -- the END mark
    obtain ⟨fuel, rfl⟩ := Nat.exists_eq_add_one_of_ne_zero (Nat.ne_of_gt hfuel)
    rfl
  | cons o os ih =>
    obtain ⟨fuel, rfl⟩ := Nat.exists_eq_add_one_of_ne_zero (Nat.ne_of_gt (Nat.zero_lt_of_lt hfuel))
    rw [List.flatMap_cons, List.append_assoc, scanOptions_bytes, List.find?_cons]
    by_cases htype : o.type = t
    · rw [if_pos htype, decide_eq_true htype, Option.map_some, optionValue, o.toNat_length, List.take_left]
      rfl
    · rw [if_neg htype, decide_eq_false htype]
      exact ih (Nat.lt_of_succ_lt_succ hfuel)

end Reading

/-! ## Arbitrary bytes -/

/-- The bound on the turns is no restriction: any two that let the cursor reach the end give the same. -/
theorem scanOptions_fuel (t : UInt8) {area : List UInt8} (h : area.length ≤ fuel)
    (h' : area.length ≤ fuel') : scanOptions t fuel area = scanOptions t fuel' area := by
  induction fuel generalizing fuel' area with
  | zero =>
    obtain rfl := List.length_eq_zero_iff.mp (Nat.le_zero.mp h)
    cases fuel' <;> rfl
  | succ fuel ih =>
    match area, fuel' with
    | [], 0 => rfl
    | [], _ + 1 => rfl
    | [type], fuel' + 1 =>
      show (if type = optPad then scanOptions t fuel [] else _) = if type = optPad then scanOptions t fuel' [] else _
      rw [ih (Nat.zero_le _) (Nat.zero_le fuel')]
    | type :: len :: data, fuel' + 1 =>
      -- the cursor goes on behind the code, or behind the data
      have hpad : scanOptions t fuel (len :: data) = scanOptions t fuel' (len :: data) :=
        ih (Nat.le_of_succ_le_succ h) (Nat.le_of_succ_le_succ h')
      have hdata : scanOptions t fuel (data.drop len.toNat) = scanOptions t fuel' (data.drop len.toNat) := by
        have hdrop : (data.drop len.toNat).length ≤ data.length := by
          rw [List.length_drop]
          exact Nat.sub_le _ _
        rw [List.length_cons, List.length_cons] at h h'
        exact ih (by omega) (by omega)
      rw [scanOptions, scanOptions, hpad, hdata]

/-- What is found stands in the area, behind its code and its length byte. -/
theorem scanOptions_inside {t len : UInt8} {area data : List UInt8} (h : scanOptions t fuel area = some (data, len)) :
    ∃ before, area = before ++ t :: len :: data ∧ len.toNat ≤ data.length := by
  induction fuel generalizing area with
  | zero => cases h
  | succ fuel ih =>
    match area with
    | [] => cases h
    | [type] =>
      rw [scanOptions] at h
      split at h
      case isTrue => cases fuel <;> cases h
      case isFalse => split at h <;> cases h
    | type :: len' :: data' =>
      rw [scanOptions] at h
      split at h
      case isTrue =>
        obtain ⟨before, heq, hle⟩ := ih h
        exact ⟨type :: before, by rw [heq, List.cons_append], hle⟩
      case isFalse =>
        split at h
        case isTrue => cases h
        case isFalse =>
          split at h
          case isTrue => cases h
          case isFalse hlen =>
            split at h
            case isTrue htype =>
              obtain ⟨rfl, rfl⟩ := Prod.mk.inj (Option.some.inj h)
              exact ⟨[], by rw [htype, List.nil_append], Nat.le_of_not_lt hlen⟩
            case isFalse =>
              obtain ⟨before, heq, hle⟩ := ih h
              refine ⟨type :: len' :: (data'.take len'.toNat ++ before), ?_, hle⟩
              rw [List.cons_append, List.cons_append, List.append_assoc, ← heq, List.take_append_drop]

/-- **Options written are options read**, whatever stands behind the END mark; and whatever the bytes, the search
    ends and stays inside them. -/
theorem options_round_trip {maxLen : Nat} (hpos : 0 < maxLen) (os : List DhcpOption) :
    (appendOptions maxLen [] os ++ [optEnd]).length ≤ maxLen ∧
      (∀ (rest : List UInt8) (t : UInt8),
        (getDhcpOption (appendOptions maxLen [] os ++ optEnd :: rest) t).map optionValue =
          ((accepted maxLen [] os).find? (·.type = t)).map fun o => (o.data.length, o.data)) ∧
      ∀ (area : List UInt8) (t : UInt8), (∀ fuel, area.length ≤ fuel → scanOptions t fuel area = getDhcpOption area t) ∧
          ∀ data len, getDhcpOption area t = some (data, len) →
            ∃ before, area = before ++ t :: len :: data ∧ len.toNat ≤ data.length := by
  refine ⟨?_, fun rest t => ?_, fun area t => ⟨fun fuel h => scanOptions_fuel t h le_rfl, fun data len h => ?_⟩⟩
  · rw [List.length_append]
    exact length_appendOptions hpos
  · have hturns : (accepted maxLen [] os).length <
        ((accepted maxLen [] os).flatMap DhcpOption.bytes ++ optEnd :: rest).length := by
      rw [List.length_append, List.length_cons]
      have hle := length_le_flatMap_bytes (accepted maxLen [] os)
      omega
    rw [appendOptions_eq, List.nil_append, getDhcpOption]
    exact find_scanOptions _ hturns
  · exact scanOptions_inside h

theorem msgType_ordinary : optMsgType ≠ optPad ∧ optMsgType ≠ optEnd := by decide

theorem hostname_ordinary : optHostname ≠ optPad ∧ optHostname ≠ optEnd := by decide

theorem one_le_255 : 1 ≤ 255 := by decide

/-- A message type, a name of no bytes, and a second message type. -/
def sampleOptions : List DhcpOption :=
  [⟨optMsgType, [ack], msgType_ordinary.1, msgType_ordinary.2, one_le_255⟩,
    ⟨optHostname, [], hostname_ordinary.1, hostname_ordinary.2, Nat.zero_le 255⟩,
    ⟨optMsgType, [release], msgType_ordinary.1, msgType_ordinary.2, one_le_255⟩]

/-- In an area of eight bytes the first two are taken, and found. -/
theorem options_round_trip_sample :
    (accepted 8 [] sampleOptions).map DhcpOption.type = [optMsgType, optHostname] ∧
      (getDhcpOption (appendOptions 8 [] sampleOptions ++ [optEnd]) optMsgType).map optionValue = some (1, [ack]) :=
  ⟨by decide, (options_round_trip (by decide : 0 < 8) sampleOptions).2.1 [] optMsgType⟩

end FluxWAN.Dhcp
