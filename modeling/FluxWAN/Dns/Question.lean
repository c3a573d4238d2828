/-
  Questions and their hash (`src/dns64_daemon.c`: `dns_compute_question_hash`).

  A DNS message is a header of 12 bytes and a question: a name, as labels with a length byte each and a
  zero at the end, then type and class.  The daemon never builds this structure; it walks over the bytes,
  once for the hash and once for the type.  Here a question is a value (`Question`), read by one scan
  (`scanName`), and

  * `SameQuestion`   — two messages ask the same: the labels agree one by one up to the case of ASCII
    letters, and type and class agree;
  * `hash_eq_fnv`    — the hash is FNV-1a over `Question.bytes`, the labels run together and the four bytes
    of type and class.  So it respects `SameQuestion`, but it cannot tell `ab.c` from `a.bc`.
-/
import FluxWAN.Lib.Bytes

namespace FluxWAN.Dns

open Bytes

/-- `sizeof (struct dns_header)`. -/
def headerSize : Nat := 12

/-- A datagram that the daemon looks at: it has a header. -/
structure Message where
  bytes : List UInt8
  header_le : headerSize ≤ bytes.length
  deriving DecidableEq

/-! ## Questions -/

/-- A name, and what follows its final zero: up to four bytes of type and class.  A message that ends
    inside the name has no tail. -/
structure Question where
  labels : List (List UInt8)
  tail : Option (List UInt8)
  deriving DecidableEq, Repr

/-- The scan over a name: `k` more bytes belong to the current label.  Returns the rest of the current
    label, the labels after it and the bytes behind the final zero. -/
def scanName : Nat → List UInt8 → List UInt8 × List (List UInt8) × Option (List UInt8)
  | _, [] => ([], [], none)
  | 0, b :: s =>
    if b = 0 then ([], [], some s)
    else
      let (label, labels, rest) := scanName b.toNat s
      ([], label :: labels, rest)
  | k + 1, b :: s =>
    let (label, labels, rest) := scanName k s
    (b :: label, labels, rest)

/-- The question of a message that is longer than its header. -/
def question (buf : List UInt8) : Option Question :=
  if buf.length ≤ headerSize then none
  else
    let (_, labels, rest) := scanName 0 (buf.drop headerSize)
    some { labels, tail := rest.map (·.take 4) }

/-- `tolower` in the C locale. -/
def tolower (c : UInt8) : UInt8 := if 0x41 ≤ c ∧ c ≤ 0x5A then c + 0x20 else c

/-- The question with its letters in lower case. -/
def Question.fold (q : Question) : Question := { q with labels := q.labels.map (·.map tolower) }

/-- The messages ask for the same name, label by label and ignoring case, with the same type and class. -/
def SameQuestion (buf buf' : List UInt8) : Prop :=
  (question buf).map Question.fold = (question buf').map Question.fold

instance (buf buf' : List UInt8) : Decidable (SameQuestion buf buf') :=
  inferInstanceAs (Decidable (_ = _))

theorem SameQuestion.refl (buf : List UInt8) : SameQuestion buf buf := rfl

theorem SameQuestion.trans (h : SameQuestion a b) (h' : SameQuestion b c) : SameQuestion a c := Eq.trans h h'

theorem SameQuestion.of_eq (h : question a = question b) : SameQuestion a b :=
  congrArg _ h

/-! ## The hash -/

/-- One step of FNV-1a. -/
def fnvStep (hash : UInt32) (c : UInt8) : UInt32 := (hash ^^^ c.toUInt32) * 16777619

/-- The loops over the labels: `k` more bytes belong to the current one. -/
def hashName : Nat → UInt32 → List UInt8 → UInt32 × Option (List UInt8)
  | _, hash, [] => (hash, none)
  | 0, hash, b :: s => if b = 0 then (hash, some s) else hashName b.toNat hash s
  | k + 1, hash, b :: s => hashName k (fnvStep hash (tolower b)) s

/-- `dns_compute_question_hash`. -/
def dnsComputeQuestionHash (buf : List UInt8) : UInt32 :=
  if buf.length ≤ headerSize then 0
  else
    let (hash, rest) := hashName 0 2166136261 (buf.drop headerSize)
    ((rest.getD []).take 4).foldl fnvStep hash

/-- The bytes that are hashed. -/
def Question.bytes (q : Question) : List UInt8 := q.fold.labels.flatten ++ q.tail.getD []

/-- The hash loop is the scan, with the bytes it passes folded into the hash. -/
theorem hashName_eq (bytes : List UInt8) : ∀ (k : Nat) (hash : UInt32), hashName k hash bytes =
      ((((scanName k bytes).1 ++ (scanName k bytes).2.1.flatten).map tolower).foldl fnvStep hash,
        (scanName k bytes).2.2) := by
  induction bytes with
  | nil => intro k hash; cases k <;> rfl
  | cons b s ih =>
    intro k hash
    cases k with
    | zero =>
      simp only [hashName, scanName]
      split
      · rfl
      · rw [ih]
        rfl
    | succ k =>
      simp only [hashName, scanName]
      rw [ih]
      rfl

/-- **What the hash sees of a message.** -/
theorem hash_eq_fnv (buf : List UInt8) :
    dnsComputeQuestionHash buf = ((question buf).map fun q => q.bytes.foldl fnvStep 2166136261).getD 0 := by
  unfold dnsComputeQuestionHash question
  split
  · rfl
  · rw [hashName_eq]
    -- between labels the scan has no label open
    have hopen : ∀ bytes, (scanName 0 bytes).1 = [] := by
      intro bytes
      cases bytes with
      | nil => rfl
      | cons b s =>
        simp only [scanName]
        split <;> rfl
    simp only [hopen, Option.map_some, Option.getD_some, Question.bytes, Question.fold,
      List.foldl_append, List.nil_append, List.map_flatten]
    rcases (scanName 0 (buf.drop headerSize)).2.2 with _ | rest <;> rfl

/-- Messages that ask the same have the same hash. -/
theorem SameQuestion.hash_eq (h : SameQuestion buf buf') :
    dnsComputeQuestionHash buf = dnsComputeQuestionHash buf' := by
  have hmap : ∀ b, ((question b).map fun q => q.bytes.foldl fnvStep 2166136261) =
      ((question b).map Question.fold).map fun q =>
        (q.labels.flatten ++ q.tail.getD []).foldl fnvStep 2166136261 := by
    intro b
    rw [Option.map_map]
    rfl
  rw [hash_eq_fnv, hash_eq_fnv, hmap, hmap, h]

/-! ## Messages with the same question -/

/-- The question depends on nothing before the name, and on nothing behind type and class. -/
theorem scanName_append : ∀ {k : Nat} {label : List UInt8}
    {labels : List (List UInt8)}, scanName k bytes = (label, labels, some rest) →
      ∃ name, bytes = name ++ 0 :: rest ∧
        ∀ rest', scanName k (name ++ 0 :: rest') = (label, labels, some rest') := by
  induction bytes with
  | nil =>
    intro k label labels h
    cases k <;> cases h
  | cons b s ih =>
    intro k label labels h
    cases k with
    | zero =>
      simp only [scanName] at h
      split at h
      case isTrue hb =>
        cases h
        refine ⟨[], by rw [hb]; rfl, fun rest' => ?_⟩
        simp [scanName]
      case isFalse hb =>
        rcases hscan : scanName b.toNat s with ⟨label', labels', rest'⟩
        rw [hscan] at h
        cases h
        obtain ⟨name, rfl, hname⟩ := ih hscan
        refine ⟨b :: name, rfl, fun rest' => ?_⟩
        simp [scanName, hb, hname rest']
    | succ k =>
      simp only [scanName] at h
      rcases hscan : scanName k s with ⟨label', labels', rest'⟩
      rw [hscan] at h
      cases h
      obtain ⟨name, rfl, hname⟩ := ih hscan
      refine ⟨b :: name, rfl, fun rest' => ?_⟩
      simp [scanName, hname rest']

end FluxWAN.Dns
