/-
  The replies that the resolver builds itself (`src/dns64_daemon.c`: `dns64_worker`).

  The daemon answers in the buffer the query came in.  For an AAAA query it clears the counts and cuts the message
  behind the question.  For an A query under NAT46 it sets the number of answers to 1 and writes a record behind the
  LAST byte of the query: behind the question if there is nothing else, and behind the additional records, which it
  keeps and still counts, if there are some.  A reader takes the first record for the answer.

  1. **Messages** — `parseMessage`: header, question and three sections, by the counts of the header;
     `parseMessage_eq_some_iff` says the same without a parser.
  2. **Replies** — `suppressed_parse`, `synthesized_parse`: what a reader makes of the two replies.
  3. **Result** — `goodReply_iff`.
-/
import FluxWAN.Dns.Worker

namespace FluxWAN.Dns

open Bytes

/-! ## Names and records -/

/-- A name in front of other bytes, `k` of its current label left: labels of at most 63 bytes up to a zero or, where
    names have come before, a pointer. -/
def splitName (pointers : Bool) : Nat → List UInt8 → Option (List UInt8 × List UInt8)
  | _, [] => none
  | 0, b :: s =>
    if b = 0 then some ([b], s)
    else if b < 64 then (splitName pointers b.toNat s).map fun r => (b :: r.1, r.2)
    else if pointers = true ∧ 192 ≤ b then
      match s with
      | [] => none
      | c :: s => some ([b, c], s)
    else none
  | k + 1, b :: s => (splitName pointers k s).map fun r => (b :: r.1, r.2)

/-- A record: name, type, class, time to live, length, and as many bytes of data. -/
def splitRecord (bytes : List UInt8) : Option (List UInt8 × List UInt8) :=
  (splitName true 0 bytes).bind fun (name, rest) =>
    let n := 10 + (be16 rest 8).toNat
    if name.length ≤ 255 ∧ n ≤ rest.length then some (name ++ rest.take n, rest.drop n) else none

def splitRecords : Nat → List UInt8 → Option (List (List UInt8) × List UInt8)
  | 0, bytes => some ([], bytes)
  | n + 1, bytes =>
    (splitRecord bytes).bind fun (record, rest) =>
      (splitRecords n rest).map fun r => (record :: r.1, r.2)

/-- A message with one question. -/
@[ext] structure Sections where
  question : List UInt8
  answers : List (List UInt8)
  authorities : List (List UInt8)
  additionals : List (List UInt8)
  deriving DecidableEq

/-- The sections of a message, by the counts of its header; nothing may be left. -/
def parseMessage (msg : List UInt8) : Option Sections :=
  if headerSize ≤ msg.length ∧ be16 msg 4 = 1 then
    (splitName false 0 (msg.drop headerSize)).bind fun (name, rest) =>
      if name.length ≤ 255 ∧ 4 ≤ rest.length then
        (splitRecords (be16 msg 6).toNat (rest.drop 4)).bind fun (answers, behind) =>
          (splitRecords (be16 msg 8).toNat behind).bind fun (authorities, behind) =>
            (splitRecords (be16 msg 10).toNat behind).bind fun (additionals, behind) =>
              if behind = [] then some { question := name ++ rest.take 4, answers, authorities, additionals }
              else none
      else none
  else none

/-! ## What a parser takes off -/

/-- What is taken off the front is taken off whatever follows. -/
def Splits (split : List UInt8 → Option (List UInt8 × List UInt8)) (front : List UInt8) : Prop :=
  ∀ rest, split (front ++ rest) = some (front, rest)

theorem map_cons_eq_some_iff {α β : Type} {o : Option (List α × β)} {x : α} {xs : List α} {rest : β} :
    o.map (fun r => (x :: r.1, r.2)) = some (xs, rest) ↔ ∃ ys, o = some (ys, rest) ∧ x :: ys = xs := by
  simp only [Option.map_eq_some_iff, Prod.exists, Prod.mk.injEq]
  exact ⟨fun ⟨ys, _, h, hxs, hrest⟩ => ⟨ys, hrest ▸ h, hxs⟩, fun ⟨ys, h, hxs⟩ => ⟨ys, rest, h, hxs, rfl⟩⟩

theorem splitName_spec {pointers : Bool} {k : Nat} {bytes name rest : List UInt8}
    (h : splitName pointers k bytes = some (name, rest)) :
    bytes = name ++ rest ∧ Splits (splitName pointers k) name := by
  fun_induction splitName pointers k bytes generalizing name rest with
  | case1 | case4 | case6 => cases h
  | case2 s =>
    cases h
    exact ⟨rfl, fun t => by simp [splitName]⟩
  | case3 b s hb hlabel ih =>
    obtain ⟨name, hsplit, rfl⟩ := map_cons_eq_some_iff.mp h
    obtain ⟨rfl, hstable⟩ := ih hsplit
    exact ⟨rfl, fun t => by simp [splitName, hb, hlabel, hstable t]⟩
  | case5 b hb hlabel hptr c s =>
    cases h
    exact ⟨rfl, fun t => by simp [splitName, hb, hlabel, hptr]⟩
  | case7 k b s ih =>
    obtain ⟨name, hsplit, rfl⟩ := map_cons_eq_some_iff.mp h
    obtain ⟨rfl, hstable⟩ := ih hsplit
    exact ⟨rfl, fun t => by simp [splitName, hstable t]⟩

/-- The daemon's walk over a name ends where the name does. -/
theorem skipName_of_splitName {k : Nat} {bytes name rest : List UInt8}
    (h : splitName false k bytes = some (name, rest)) : skipName k bytes = rest := by
  fun_induction splitName false k bytes generalizing name rest with
  | case1 | case4 | case6 => cases h
  | case2 s =>
    cases h
    exact if_pos rfl
  | case3 b s hb hlabel ih =>
    obtain ⟨name, hsplit, -⟩ := map_cons_eq_some_iff.mp h
    exact (if_neg hb).trans (ih hsplit)
  | case5 b hb hlabel hptr => exact absurd hptr.1 (by decide)
  | case7 k b s ih =>
    obtain ⟨name, hsplit, -⟩ := map_cons_eq_some_iff.mp h
    exact ih hsplit

theorem be16_append {front rest : List UInt8} (h : i + 2 ≤ front.length) : be16 (front ++ rest) i = be16 front i := by
  have hbyte : ∀ k < front.length, byteAt (front ++ rest) k = byteAt front k := by
    intro k hk
    rw [byteAt, byteAt, List.getD_eq_getElem?_getD, List.getD_eq_getElem?_getD, List.getElem?_append_left hk]
  rw [be16, hbyte _ (by omega), hbyte _ (by omega), be16]

theorem splitRecord_spec (h : splitRecord bytes = some (record, rest)) :
    bytes = record ++ rest ∧ Splits splitRecord record := by
  obtain ⟨⟨name, behind⟩, hname, hrest⟩ := Option.bind_eq_some_iff.mp h
  obtain ⟨⟨hshort, hlen⟩, heq⟩ := Option.ite_none_right_eq_some.mp hrest
  cases heq
  obtain ⟨rfl, hstable⟩ := splitName_spec hname
  refine ⟨by rw [List.append_assoc, List.take_append_drop], fun t => ?_⟩
  -- the length field lies in the part that is taken
  have htake : (behind.take (10 + (be16 behind 8).toNat)).length = 10 + (be16 behind 8).toNat := by
    rw [List.length_take]
    omega
  have hfield : be16 (behind.take (10 + (be16 behind 8).toNat) ++ t) 8 = be16 behind 8 := by
    rw [be16_append (by omega)]
    conv => rhs; rw [← List.take_append_drop (10 + (be16 behind 8).toNat) behind]
    rw [be16_append (by omega)]
  rw [splitRecord, List.append_assoc, hstable, Option.bind_some]
  dsimp only
  rw [hfield, if_pos ⟨hshort, by rw [List.length_append, htake]; omega⟩, List.take_left' htake, List.drop_left' htake]

theorem splitRecords_eq_some_iff {n : Nat} {bytes rest : List UInt8} {records : List (List UInt8)} :
    splitRecords n bytes = some (records, rest) ↔
      bytes = records.flatten ++ rest ∧ n = records.length ∧ ∀ r ∈ records, Splits splitRecord r := by
  induction n generalizing bytes records with
  | zero =>
    cases records with
    | nil => simp [splitRecords]
    | cons r records => simp [splitRecords]
  | succ n ih =>
    simp only [splitRecords, Option.bind_eq_some_iff, Prod.exists, map_cons_eq_some_iff, ih]
    constructor
    · rintro ⟨record, behind, hrecord, records, ⟨rfl, rfl, hall⟩, rfl⟩
      obtain ⟨rfl, hstable⟩ := splitRecord_spec hrecord
      exact ⟨by rw [List.flatten_cons, List.append_assoc], rfl, List.forall_mem_cons.mpr ⟨hstable, hall⟩⟩
    · rintro ⟨rfl, hlen, hall⟩
      obtain ⟨r, records, rfl⟩ := List.exists_cons_of_length_eq_add_one hlen.symm
      obtain ⟨hr, hall⟩ := List.forall_mem_cons.mp hall
      exact ⟨r, _, by rw [List.flatten_cons, List.append_assoc, hr], records, ⟨rfl, Nat.succ.inj hlen, hall⟩, rfl⟩

/-! ## Messages -/

/-- A name, type and class. -/
structure IsQuestion (question : List UInt8) (name type : List UInt8) : Prop where
  eq : question = name ++ type
  name : name.length ≤ 255 ∧ Splits (splitName false 0) name
  type : type.length = 4

/-- The bytes behind the header. -/
def Sections.body (s : Sections) : List UInt8 :=
  s.question ++ (s.answers.flatten ++ (s.authorities.flatten ++ s.additionals.flatten))

/-- The sections hold a question and records. -/
structure Sections.Proper (s : Sections) : Prop where
  question : ∃ name type, IsQuestion s.question name type
  answers : ∀ r ∈ s.answers, Splits splitRecord r
  authorities : ∀ r ∈ s.authorities, Splits splitRecord r
  additionals : ∀ r ∈ s.additionals, Splits splitRecord r

/-- The header counts what the sections hold. -/
structure Counts (msg : List UInt8) (s : Sections) : Prop where
  questions : be16 msg 4 = 1
  answers : (be16 msg 6).toNat = s.answers.length
  authorities : (be16 msg 8).toNat = s.authorities.length
  additionals : (be16 msg 10).toNat = s.additionals.length

/-- **Well-formed messages**, with their parts. -/
theorem parseMessage_eq_some_iff {msg : List UInt8} {s : Sections} :
    parseMessage msg = some s ↔
      headerSize ≤ msg.length ∧ Counts msg s ∧ msg.drop headerSize = s.body ∧ s.Proper := by
  simp only [parseMessage, Option.ite_none_right_eq_some, Option.bind_eq_some_iff, Prod.exists,
    splitRecords_eq_some_iff]
  constructor
  · rintro ⟨hheader, name, behind, hname, hquestion, answers, _, ⟨h₁, hlen₁, hall₁⟩, authorities, _,
      ⟨rfl, hlen₂, hall₂⟩, additionals, _, ⟨rfl, hlen₃, hall₃⟩, rfl, hs⟩
    cases hs
    obtain ⟨hdrop, hstable⟩ := splitName_spec hname
    refine ⟨hheader.1, ⟨hheader.2, hlen₁, hlen₂, hlen₃⟩, ?_, ⟨⟨name, behind.take 4, rfl,
      ⟨hquestion.1, hstable⟩, ?_⟩, hall₁, hall₂, hall₃⟩⟩
    · rw [hdrop, Sections.body, List.append_assoc]
      conv => lhs; rw [← List.take_append_drop 4 behind, h₁, List.append_nil]
    · rw [List.length_take]
      omega
  · rintro ⟨hlen, hcounts, hbody, hproper⟩
    obtain ⟨name, type, hquestion⟩ := hproper.question
    have htype := hquestion.type
    have hsplit : splitName false 0 (msg.drop headerSize) =
        some (name, type ++ (s.answers.flatten ++ (s.authorities.flatten ++ s.additionals.flatten))) := by
      rw [hbody, Sections.body, hquestion.eq, List.append_assoc, hquestion.name.2]
    refine ⟨⟨hlen, hcounts.questions⟩, name, _, hsplit, ⟨hquestion.name.1, by rw [List.length_append]; omega⟩,
      s.answers, _, ⟨List.drop_left' htype, hcounts.answers, hproper.answers⟩,
      s.authorities, _, ⟨rfl, hcounts.authorities, hproper.authorities⟩,
      s.additionals, [], ⟨(List.append_nil _).symm, hcounts.additionals, hproper.additionals⟩, rfl, ?_⟩
    rw [List.take_left' htype, ← hquestion.eq]

/-! ## The header of a reply -/

section
variable (m : Message)

theorem Message.byteAt_respond_of_outside {counts : List UInt8} (hcounts : counts.length ≤ 6)
    (hj : 4 ≤ j ∧ j < 6 ∨ 6 + counts.length ≤ j) : byteAt (m.respond counts) j = byteAt m.bytes j := by
  have hm := m.header_le
  have : headerSize = 12 := rfl
  have hflags : 2 + [(0x81 : UInt8), 0x80].length ≤ m.bytes.length := Nat.le_trans (by decide) hm
  rw [respond, byteAt_store_of_outside (by rw [length_store hflags]; omega) (by omega),
    byteAt_store_of_outside hflags (.inr (show 4 ≤ j by omega))]

theorem Message.byteAt_respond_count {counts : List UInt8} (hcounts : counts.length ≤ 6)
    (hk : k < counts.length) : byteAt (m.respond counts) (6 + k) = byteAt counts k := by
  have hm := m.header_le
  have : headerSize = 12 := rfl
  have hflags : 2 + [(0x81 : UInt8), 0x80].length ≤ m.bytes.length := Nat.le_trans (by decide) hm
  exact byteAt_store_of_inside (by rw [length_store hflags]; omega) hk

/-- Under NAT46 only the number of answers is written. -/
theorem Message.counts_respond_one {s s' : Sections} (h : Counts m.bytes s) (hanswers : s'.answers.length = 1)
    (hauthorities : s'.authorities.length = s.authorities.length)
    (hadditionals : s'.additionals.length = s.additionals.length) : Counts (m.respond [0, 1]) s' := by
  have hkept : ∀ i, 4 ≤ i ∧ i < 5 ∨ 8 ≤ i → be16 (m.respond [0, 1]) i = be16 m.bytes i := by
    intro i hi
    rw [be16, m.byteAt_respond_of_outside (by decide) (by simp only [List.length_cons, List.length_nil]; omega),
      m.byteAt_respond_of_outside (by decide) (by simp only [List.length_cons, List.length_nil]; omega), be16]
  have hone : be16 (m.respond [0, 1]) 6 = 1 := by
    have h₀ : byteAt (m.respond [0, 1]) 6 = 0 := m.byteAt_respond_count (k := 0) (by decide) (by decide)
    have h₁ : byteAt (m.respond [0, 1]) (6 + 1) = 1 := m.byteAt_respond_count (by decide) (by decide)
    rw [be16, h₀, h₁]
    rfl
  refine ⟨by rw [hkept 4 (by decide), h.questions], by rw [hone, hanswers]; rfl, ?_, ?_⟩
  · rw [hkept 8 (by decide), h.authorities, hauthorities]
  · rw [hkept 10 (by decide), h.additionals, hadditionals]

/-- For AAAA all three are cleared. -/
theorem Message.counts_respond_zeros (h : be16 m.bytes 4 = 1) (question : List UInt8) :
    Counts (m.respond [0, 0, 0, 0, 0, 0]) { question, answers := [], authorities := [], additionals := [] } := by
  have hzero : ∀ k < 6, byteAt (m.respond [0, 0, 0, 0, 0, 0]) (6 + k) = 0 := by
    intro k hk
    rw [m.byteAt_respond_count (by decide) hk]
    exact (by decide : ∀ k < 6, byteAt [0, 0, 0, 0, 0, 0] k = 0) k hk
  have hquestions : be16 (m.respond [0, 0, 0, 0, 0, 0]) 4 = be16 m.bytes 4 := by
    rw [be16, m.byteAt_respond_of_outside (by decide) (by decide), m.byteAt_respond_of_outside (by decide) (by decide),
      be16]
  refine ⟨by rw [hquestions, h], ?_, ?_, ?_⟩
  · rw [be16, hzero 0 (by decide), hzero 1 (by decide)]
    rfl
  · rw [be16, hzero 2 (by decide), hzero 3 (by decide)]
    rfl
  · rw [be16, hzero 4 (by decide), hzero 5 (by decide)]
    rfl

end

theorem Counts.congr (h : Counts msg s) (heq : ∀ i, i + 2 ≤ headerSize → be16 msg' i = be16 msg i) : Counts msg' s :=
  ⟨by rw [heq 4 (by decide), h.questions], by rw [heq 6 (by decide), h.answers],
    by rw [heq 8 (by decide), h.authorities], by rw [heq 10 (by decide), h.additionals]⟩

/-! ## What a reader makes of the replies -/

/-- The record of a synthesized answer: a pointer to the question, A, IN, 60 seconds, the address. -/
def answerRecord (ip : UInt32) : List UInt8 :=
  [0xC0, 0x0C, 0x00, 0x01, 0x00, 0x01, 0x00, 0x00, 0x00, 0x3C, 0x00, 0x04] ++ (bytes32 ip).reverse

theorem splits_answerRecord (ip : UInt32) : Splits splitRecord (answerRecord ip) := by
  intro rest
  have hname : splitName true 0 (answerRecord ip ++ rest) =
      some ([0xC0, 0x0C], [0x00, 0x01, 0x00, 0x01, 0x00, 0x00, 0x00, 0x3C, 0x00, 0x04] ++
        ((bytes32 ip).reverse ++ rest)) := rfl
  have hfield : 10 + (be16 ([0x00, 0x01, 0x00, 0x01, 0x00, 0x00, 0x00, 0x3C, 0x00, 0x04] ++
      ((bytes32 ip).reverse ++ rest)) 8).toNat = 14 := by
    rw [be16_append (by decide)]
    rfl
  rw [splitRecord, hname, Option.bind_some]
  dsimp only
  rw [hfield, ← List.append_assoc, if_pos ⟨by decide, by rw [List.length_append]; exact Nat.le_add_right 14 _⟩]
  rfl

section
variable {m : Message} {q : Sections} (h : parseMessage m.bytes = some q)
include h

/-- The daemon finds type and class where they are. -/
theorem Message.behindName_of_parse : ∃ name type, IsQuestion q.question name type ∧
    m.behindName = type ++ (q.answers.flatten ++ (q.authorities.flatten ++ q.additionals.flatten)) := by
  obtain ⟨-, -, hbody, hproper⟩ := parseMessage_eq_some_iff.mp h
  obtain ⟨name, type, hquestion⟩ := hproper.question
  have hsplit : splitName false 0 (m.bytes.drop headerSize) =
      some (name, type ++ (q.answers.flatten ++ (q.authorities.flatten ++ q.additionals.flatten))) := by
    rw [hbody, Sections.body, hquestion.eq, List.append_assoc, hquestion.name.2]
  exact ⟨name, type, hquestion, skipName_of_splitName hsplit⟩

/-- An empty answer is just the question. -/
theorem Message.suppressed_parse :
    parseMessage m.suppressed =
      some { question := q.question, answers := [], authorities := [], additionals := [] } := by
  obtain ⟨hlen, hcounts, hbody, hproper⟩ := parseMessage_eq_some_iff.mp h
  obtain ⟨name, type, hquestion, hbehind⟩ := Message.behindName_of_parse h
  obtain ⟨hrespond, -, hdrop⟩ := m.respond_spec [0, 0, 0, 0, 0, 0] (by decide)
  have hsplit := congrArg List.length hbody
  have htype := hquestion.type
  have hqlen : q.question.length = name.length + 4 := by rw [hquestion.eq, List.length_append, htype]
  -- the cut
  have hcut : m.bytes.length - m.behindName.length + 4 = headerSize + q.question.length := by
    rw [List.length_drop, Sections.body, List.length_append] at hsplit
    rw [hbehind, List.length_append, htype, hqlen]
    omega
  have hsuppressed : m.suppressed = (m.respond [0, 0, 0, 0, 0, 0]).take (headerSize + q.question.length) := by
    rw [Message.suppressed, hcut]
  have hlong : m.suppressed.length = headerSize + q.question.length := by
    have hle := congrArg List.length hbody
    rw [List.length_drop, Sections.body, List.length_append] at hle
    rw [hsuppressed, List.length_take, hrespond]
    omega
  refine parseMessage_eq_some_iff.mpr ⟨by omega, ?_, ?_, ⟨⟨name, type, hquestion⟩, ?_, ?_, ?_⟩⟩
  · refine (m.counts_respond_zeros hcounts.questions q.question).congr fun i hi => ?_
    have hfront : be16 (m.suppressed ++ (m.respond [0, 0, 0, 0, 0, 0]).drop (headerSize + q.question.length)) i =
        be16 m.suppressed i := be16_append (by omega)
    rw [← hfront, hsuppressed, List.take_append_drop]
  · rw [hsuppressed, List.drop_take, hdrop, hbody, Nat.add_sub_cancel_left]
    simp only [Sections.body, List.flatten_nil, List.append_nil, List.take_left]
  all_goals exact fun r hr => absurd hr List.not_mem_nil

/-- Of a synthesized answer, the first record behind the question is the answer. -/
theorem Message.synthesized_parse (hanswers : q.answers = []) (hauthorities : q.authorities = []) (ip : UInt32)

    (hrecords : q.additionals ++ [answerRecord ip] = first :: rest) :
    parseMessage (m.synthesized ip) =
      some { question := q.question, answers := [first], authorities := [], additionals := rest } := by
  obtain ⟨hlen, hcounts, hbody, hproper⟩ := parseMessage_eq_some_iff.mp h
  obtain ⟨name, type, hquestion, -⟩ := Message.behindName_of_parse h
  obtain ⟨hrespond, -, hdrop⟩ := m.respond_spec [0, 1] (by decide)
  have hall : ∀ r ∈ q.additionals ++ [answerRecord ip], Splits splitRecord r := by
    intro r hr
    rcases List.mem_append.mp hr with hr | hr
    · exact hproper.additionals r hr
    · rw [List.mem_singleton.mp hr]
      exact splits_answerRecord ip
  rw [hrecords] at hall
  obtain ⟨hfirst, hrest⟩ := List.forall_mem_cons.mp hall
  have hflat : q.additionals.flatten ++ answerRecord ip = first ++ rest.flatten := by
    have hflat := congrArg List.flatten hrecords
    rwa [List.flatten_append, List.flatten_singleton, List.flatten_cons] at hflat
  have hcount : rest.length = q.additionals.length := by
    have hcount := congrArg List.length hrecords
    simp only [List.length_append, List.length_cons, List.length_nil] at hcount
    omega
  have hbytes : m.synthesized ip = m.respond [0, 1] ++ answerRecord ip := rfl
  refine parseMessage_eq_some_iff.mpr ⟨?_, ?_, ?_, ⟨⟨name, type, hquestion⟩, ?_, ?_, hrest⟩⟩
  · rw [hbytes, List.length_append, hrespond]
    omega
  · refine Counts.congr (m.counts_respond_one hcounts rfl (by rw [hauthorities]) hcount) fun i hi => ?_
    rw [hbytes, be16_append (by rw [hrespond]; omega)]
  · rw [hbytes, List.drop_append_of_le_length (by rw [hrespond]; exact hlen), hdrop, hbody]
    simp only [Sections.body, hanswers, hauthorities, List.flatten_nil, List.nil_append, List.append_assoc, hflat,
      List.flatten_singleton]
  · exact fun r hr => List.mem_singleton.mp hr ▸ hfirst
  · exact fun r hr => absurd hr List.not_mem_nil

end

/-! ## Good replies -/

/-- The resolver answers the query itself. -/
def Builds (cfg : Settings) (query : Message) : Prop :=
  cfg.smartIpv6Bonding = true ∧ query.qtype = 0x001C ∨ cfg.nat46Enabled = true ∧ query.qtype = 0x0001

/-- The reply fits into the buffer, and is a message with the question of the query and these answers. -/
structure GoodReply (query : Sections) (answers : List (List UInt8)) (reply : List UInt8) : Prop where
  fits : reply.length ≤ bufSize
  sections : ∃ s, parseMessage reply = some s ∧ s.question = query.question ∧ s.answers = answers

/-- **When a reply is good.**  For every well-formed query: always, if it is for AAAA; for A, if the record fits
    and nothing stands between the question and the record, except a record that says the same already. -/
theorem goodReply_iff (w : Worker) (cfg : Settings) (client : Client) (query : Message) (now : Nat) (q : Sections)
    (hq : parseMessage query.bytes = some q) (hanswers : q.answers = []) (hauthorities : q.authorities = [])
    (hlen : query.bytes.length ≤ bufSize) (hbuilds : Builds cfg query) :
    (∃ reply, (w.query cfg client query now).2 = some reply ∧
        GoodReply q (if query.qtype = 0x001C then [] else [answerRecord w.currentSynthIpHost]) reply) ↔
      query.qtype = 0x001C ∨
        query.bytes.length + 16 ≤ bufSize ∧
          (q.additionals = [] ∨ q.additionals.head? = some (answerRecord w.currentSynthIpHost)) := by
  by_cases hAAAA : query.qtype = 0x001C
  · have hcfg : cfg.smartIpv6Bonding = true := by
      rcases hbuilds with h | h
      · exact h.1
      · exact absurd (hAAAA.symm.trans h.2) (by decide)
    have hreply : (w.query cfg client query now).2 = some query.suppressed := by
      rw [Worker.query, if_pos ⟨hcfg, hAAAA⟩]
    have hle : query.suppressed.length ≤ bufSize := by
      have hrespond := (query.respond_spec [0, 0, 0, 0, 0, 0] (by decide)).1
      rw [Message.suppressed, List.length_take, hrespond]
      omega
    refine iff_of_true ⟨_, hreply, hle, _, Message.suppressed_parse hq, rfl, ?_⟩ (.inl hAAAA)
    rw [if_pos hAAAA]
  · have hA : cfg.nat46Enabled = true ∧ query.qtype = 0x0001 := hbuilds.resolve_left fun h => hAAAA h.2
    have hreply : (w.query cfg client query now).2 = some (query.synthesized w.currentSynthIpHost) := by
      rw [Worker.query, if_neg fun h => hAAAA h.2, if_pos hA]
    have hlong : (query.synthesized w.currentSynthIpHost).length = query.bytes.length + 16 := by
      rw [Message.synthesized, List.length_append, (query.respond_spec [0, 1] (by decide)).1]
      rfl
    obtain ⟨first, rest, hrecords⟩ : ∃ first rest,
        q.additionals ++ [answerRecord w.currentSynthIpHost] = first :: rest :=
      List.exists_cons_of_ne_nil (List.append_ne_nil_of_right_ne_nil _ (List.cons_ne_nil _ _))
    have hparse := Message.synthesized_parse hq hanswers hauthorities _ hrecords
    -- the record is first behind the question
    have hfirst : first = answerRecord w.currentSynthIpHost ↔
        q.additionals = [] ∨ q.additionals.head? = some (answerRecord w.currentSynthIpHost) := by
      rcases hadd : q.additionals with _ | ⟨r, more⟩
      · rw [hadd] at hrecords
        exact iff_of_true (List.cons.inj hrecords).1.symm (.inl rfl)
      · rw [hadd] at hrecords
        rw [← (List.cons.inj hrecords).1]
        simp
    rw [hreply, if_neg hAAAA, or_iff_right hAAAA, ← hfirst, ← hlong]
    constructor
    · rintro ⟨reply, hsome, hfits, s, hs, -, hans⟩
      obtain rfl := Option.some.inj hsome
      obtain rfl := Option.some.inj (hparse.symm.trans hs)
      exact ⟨hfits, (List.cons.inj hans).1⟩
    · rintro ⟨hfits, rfl⟩
      exact ⟨_, rfl, hfits, _, hparse, rfl, rfl⟩

/-- An A query without more records. -/
theorem goodReply_iff_plain :
    ∃ reply, (({} : Worker).query { nat46Enabled := true } { ip := 0x0500000A, port := 1024 } queryABc 0).2 =
        some reply ∧
      GoodReply { question := [1, 0x61, 2, 0x62, 0x63, 0, 0, 1, 0, 1], answers := [], authorities := [],
                  additionals := [] }
        (if queryABc.qtype = 0x001C then [] else [answerRecord synthStartIpHost]) reply :=
  (goodReply_iff {} { nat46Enabled := true } { ip := 0x0500000A, port := 1024 } queryABc 0
    { question := [1, 0x61, 2, 0x62, 0x63, 0, 0, 1, 0, 1], answers := [], authorities := [], additionals := [] }
    (by decide) rfl rfl (by decide) (.inr ⟨rfl, by decide⟩)).mpr
    (.inr ⟨by decide, .inl rfl⟩)

/-- An OPT record, as most clients send it. -/
def optRecord : List UInt8 := [0, 0, 41, 0x10, 0, 0, 0, 0, 0, 0, 0]

/-- The A query with it. -/
def queryEdns : Message :=
  sampleMessage [0, 9, 0x01, 0x00, 0, 1, 0, 0, 0, 0, 0, 1] [1, 0x61, 2, 0x62, 0x63] optRecord rfl

/-- In the reply the answer section holds the OPT record. -/
theorem opt_answers_query :
    parseMessage queryEdns.bytes =
        some { question := [1, 0x61, 2, 0x62, 0x63, 0, 0, 1, 0, 1], answers := [], authorities := [],
               additionals := [optRecord] } ∧
      parseMessage (queryEdns.synthesized synthStartIpHost) =
        some { question := [1, 0x61, 2, 0x62, 0x63, 0, 0, 1, 0, 1], answers := [optRecord], authorities := [],
               additionals := [answerRecord synthStartIpHost] } ∧
      ¬ ∃ reply, (({} : Worker).query { nat46Enabled := true } { ip := 0x0500000A, port := 1024 } queryEdns 0).2 =
          some reply ∧
        GoodReply { question := [1, 0x61, 2, 0x62, 0x63, 0, 0, 1, 0, 1], answers := [], authorities := [],
                    additionals := [optRecord] } [answerRecord synthStartIpHost] reply := by
  have hparse : parseMessage (queryEdns.synthesized synthStartIpHost) =
      some { question := [1, 0x61, 2, 0x62, 0x63, 0, 0, 1, 0, 1], answers := [optRecord], authorities := [],
             additionals := [answerRecord synthStartIpHost] } := by
    decide
  refine ⟨by decide, hparse, ?_⟩
  rintro ⟨reply, hreply, -, s, hs, -, hanswers⟩
  have hbuilt : (({} : Worker).query { nat46Enabled := true } { ip := 0x0500000A, port := 1024 } queryEdns 0).2 =
      some (queryEdns.synthesized synthStartIpHost) := by decide
  obtain rfl := Option.some.inj (hbuilt.symm.trans hreply)
  obtain rfl := Option.some.inj (hparse.symm.trans hs)
  exact absurd hanswers (by decide)

end FluxWAN.Dns
