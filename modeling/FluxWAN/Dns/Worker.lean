/-
  The DNS forwarder between its clients and the upstream servers (`src/dns64_daemon.c`: `dns64_worker`).

  A query is answered at once — empty, for a suppressed AAAA; with a synthetic address, under NAT46; from
  the cache — or it is recorded in `pending_queries` and forwarded, to both upstreams if there are two.  The
  table has one entry per transaction id, the id is the client's, and an answer is matched by its id alone.

  1. **System** — the `World`: the worker, the copies of queries that may still be answered, and the log of
     what was asked and what was sent.  Queries, answers and losses come in any order (`Event`); all that
     is assumed of the upstreams is that an answer has the id and the question of a copy (`Possible`).

  2. **Property** — `Uncrossed`: whatever was sent to a client answers a question it asked under that id,
     and what the cache holds is filed under the hash of its own question.

  3. **Result** — `uncrossed_of_tidy`: it holds in every state that is reached by `Tidy` steps, where a
     query whose id is still in use asks the same as the copies in use, and one that meets a cached
     response of its hash asks the same as that response.  Without that it is lost: in
     `idReuse_crosses` a second client reuses the id of a first one, gets the answer to the other's
     question, and has it cached as the answer to its own.
-/
import FluxWAN.Dns.Cache

namespace FluxWAN.Dns

open Bytes

/-- `ntohs(hdr->id)`. -/
def ident (buf : List UInt8) : UInt16 := be16 buf 0

/-- The reply has the id and the question of the query. -/
def Echoes (reply : List UInt8) (query : Message) : Prop :=
  ident reply = ident query.bytes ∧ SameQuestion reply query.bytes

instance (reply : List UInt8) (query : Message) : Decidable (Echoes reply query) :=
  inferInstanceAs (Decidable (_ ∧ _))

/-- `sizeof (buf)` of `dns64_worker`. -/
def bufSize : Nat := 2048

/-! ## Answers without an upstream -/

/-- The walk of `qptr` over the name: the bytes behind the final zero, none if the datagram ends first. -/
def skipName : Nat → List UInt8 → List UInt8
  | _, [] => []
  | 0, b :: s => if b = 0 then s else skipName b.toNat s
  | k + 1, _ :: s => skipName k s

/-- What follows the name in a message. -/
def Message.behindName (m : Message) : List UInt8 := skipName 0 (m.bytes.drop headerSize)

/-- "Extract query type (qtype)". -/
def Message.qtype (m : Message) : UInt16 :=
  if 4 ≤ m.behindName.length then be16 m.behindName 0 else 0

/-- The query with `flags` "Standard response, NoError" and new counts, from `ancount` on. -/
def Message.respond (m : Message) (counts : List UInt8) : List UInt8 :=
  Bytes.store (Bytes.store m.bytes 2 [0x81, 0x80]) 6 counts

/-- "Suppress AAAA (IPv6) queries with an instant NOERROR empty answer": it ends behind type and class. -/
def Message.suppressed (m : Message) : List UInt8 :=
  (m.respond [0, 0, 0, 0, 0, 0]).take (m.bytes.length - m.behindName.length + 4)

/-- The answer to an A query under NAT46: one record, written behind whatever the query holds. -/
def Message.synthesized (m : Message) (ip : UInt32) : List UInt8 :=
  m.respond [0, 1] ++ ([0xC0, 0x0C, 0x00, 0x01, 0x00, 0x01, 0x00, 0x00, 0x00, 0x3C, 0x00, 0x04] ++ (bytes32 ip).reverse)

/-- `SYNTH_START_IP_HOST`, 198.18.0.1. -/
def synthStartIpHost : UInt32 := 0xC6120001

/-- `SYNTH_END_IP_HOST`, 198.19.255.254. -/
def synthEndIpHost : UInt32 := 0xC613FFFE

/-- `current_synth_ip_host` after `allocate_synthetic_ip`. -/
def nextSynthIp (ip : UInt32) : UInt32 :=
  if ip + 1 > synthEndIpHost then synthStartIpHost else ip + 1

/-! ## The worker -/

/-- `client_addr`. -/
structure Client where
  ip : UInt32
  port : UInt16
  deriving DecidableEq

/-- `pending_dns_entry_t`, while its `sin_family` is `AF_INET`. -/
structure Pending where
  client : Client
  timestamp : Nat
  qhash : UInt32

/-- What the worker reads of the configuration, each time anew. -/
structure Settings where
  smartIpv6Bonding : Bool := false
  nat46Enabled : Bool := false

/-- `dns64_ctx_t`, as far as answers depend on it. -/
structure Worker where
  pending : UInt16 → Option Pending := fun _ => none
  cache : Cache := fun _ => none
  currentSynthIpHost : UInt32 := synthStartIpHost
  /-- `IS_VALID_SOCK(ctx->upstream_fd2)`. -/
  racing : Bool := true

/-- "Client query received on server_fd": the reply, or none if the query is forwarded. -/
def Worker.query (w : Worker) (cfg : Settings) (client : Client) (query : Message) (now : Nat) :
    Worker × Option (List UInt8) :=
  if cfg.smartIpv6Bonding = true ∧ query.qtype = 0x001C then (w, some query.suppressed)
  else if cfg.nat46Enabled = true ∧ query.qtype = 0x0001 then
    ({ w with currentSynthIpHost := nextSynthIp w.currentSynthIpHost }, some (query.synthesized w.currentSynthIpHost))
  else match w.cache.lookup now query with
    | some response => (w, some response)
    | none =>
      ({ w with
          pending := Function.update w.pending (ident query.bytes)
            (some { client, timestamp := now, qhash := dnsComputeQuestionHash query.bytes }) }, none)

/-- "Response from Upstream DNS": the client it is passed to, if its id is pending. -/
def Worker.response (w : Worker) (response : Message) (now : Nat) : Worker × Option Client :=
  match w.pending (ident response.bytes) with
  | some p =>
    ({ w with
        pending := Function.update w.pending (ident response.bytes) none
        cache := w.cache.store p.qhash now response }, some p.client)
  | none => (w, none)

/-! ## The world -/

/-- The worker, the copies of queries that may still be answered, and the log. -/
structure World where
  worker : Worker := {}
  inFlight : List Message := []
  asked : List (Client × Message) := []
  sent : List (Client × List UInt8) := []

/-- A datagram for the worker, or the end of a copy.  An answer leaves its copy in flight, as datagrams can
    arrive twice; that no more answers will come is an event of its own. -/
inductive Event where
  | ask (cfg : Settings) (client : Client) (query : Message) (now : Nat)
  | answer (copy response : Message) (now : Nat)
  | retire (copy : Message)

/-- An answer has the id and the question of a copy in flight. -/
def Possible (w : World) : Event → Prop
  | .ask _ _ _ _ => True
  | .answer copy response _ => copy ∈ w.inFlight ∧ Echoes response.bytes copy
  | .retire copy => copy ∈ w.inFlight

instance (w : World) : ∀ e, Decidable (Possible w e)
  | .ask _ _ _ _ => inferInstanceAs (Decidable True)
  | .answer _ _ _ => inferInstanceAs (Decidable (_ ∧ _))
  | .retire copy => inferInstanceAs (Decidable (copy ∈ w.inFlight))

def World.step (w : World) : Event → World
  | .ask cfg client query now =>
    match w.worker.query cfg client query now with
    | (worker, some reply) =>
      { w with worker, asked := w.asked ++ [(client, query)], sent := w.sent ++ [(client, reply)] }
    | (worker, none) =>
      { w with
        worker
        asked := w.asked ++ [(client, query)]
        inFlight := w.inFlight ++ List.replicate (if w.worker.racing = true then 2 else 1) query }
  | .answer _ response now =>
    match w.worker.response response now with
    | (worker, some client) => { w with worker, sent := w.sent ++ [(client, response.bytes)] }
    | (worker, none) => { w with worker }
  | .retire copy => { w with inFlight := w.inFlight.erase copy }

/-- The states that possible steps which meet `ok` lead to. -/
inductive Reachable (ok : World → Event → Prop) : World → Prop where
  | start (racing : Bool) : Reachable ok { worker := { racing } }
  | step {w : World} (e : Event) : Reachable ok w → Possible w e → ok w e → Reachable ok (w.step e)

/-- The events are possible one after the other, and meet `ok`. -/
def Along (ok : World → Event → Prop) : World → List Event → Prop
  | _, [] => True
  | w, e :: events => (Possible w e ∧ ok w e) ∧ Along ok (w.step e) events

instance {ok : World → Event → Prop} [∀ w e, Decidable (ok w e)] : ∀ w events, Decidable (Along ok w events)
  | _, [] => inferInstanceAs (Decidable True)
  | w, e :: events =>
    have : Decidable (Along ok (w.step e) events) := instDecidableAlong (w.step e) events
    inferInstanceAs (Decidable (_ ∧ _))

/-- A run leads to a reachable state. -/
theorem Reachable.run {events : List Event} : ∀ {w : World}, Reachable ok w →
    Along ok w events → Reachable ok (events.foldl World.step w) := by
  induction events with
  | nil => exact fun h _ => h
  | cons e events ih =>
    rintro w h ⟨⟨hposs, hok⟩, hrest⟩
    exact ih (.step e h hposs hok) hrest

/-- Answers do not cross between clients, nor between questions. -/
structure Uncrossed (w : World) : Prop where
  sent : ∀ client reply, (client, reply) ∈ w.sent → ∃ query, (client, query) ∈ w.asked ∧ Echoes reply query
  cached : ∀ slot e, w.worker.cache slot = some e →
    slotOf e.hash = slot ∧ e.hash = dnsComputeQuestionHash e.data.bytes

/-- What a query must not meet: a copy with its id and another question that may still be answered, or an
    unexpired response with its hash and another question.  And under NAT46 the record must fit into the
    buffer, which nothing checks. -/
structure TidyQuery (w : World) (cfg : Settings) (query : Message) (now : Nat) : Prop where
  inFlight : ∀ copy ∈ w.inFlight, ident copy.bytes = ident query.bytes →
    SameQuestion copy.bytes query.bytes
  cached : ∀ e, w.worker.cache (slotOf (dnsComputeQuestionHash query.bytes)) = some e →
    e.hash = dnsComputeQuestionHash query.bytes → now < e.expiresAt →
    SameQuestion e.data.bytes query.bytes
  fits : cfg.nat46Enabled = true → query.qtype = 0x0001 → query.bytes.length + 16 ≤ bufSize

instance (w : World) (cfg : Settings) (query : Message) (now : Nat) :
    Decidable (TidyQuery w cfg query now) :=
  decidable_of_iff
    ((∀ copy ∈ w.inFlight, ident copy.bytes = ident query.bytes → SameQuestion copy.bytes query.bytes) ∧
      (∀ e ∈ w.worker.cache (slotOf (dnsComputeQuestionHash query.bytes)),
        e.hash = dnsComputeQuestionHash query.bytes → now < e.expiresAt →
        SameQuestion e.data.bytes query.bytes) ∧
      (cfg.nat46Enabled = true → query.qtype = 0x0001 → query.bytes.length + 16 ≤ bufSize))
    ⟨fun h => ⟨h.1, h.2.1, h.2.2⟩, fun h => ⟨h.inFlight, h.cached, h.fits⟩⟩

def Tidy (w : World) : Event → Prop
  | .ask cfg _ query now => TidyQuery w cfg query now
  | _ => True

instance (w : World) : ∀ e, Decidable (Tidy w e)
  | .ask cfg _ query now => inferInstanceAs (Decidable (TidyQuery w cfg query now))
  | .answer _ _ _ => inferInstanceAs (Decidable True)
  | .retire _ => inferInstanceAs (Decidable True)

/-! ## Replies keep id and question -/

theorem skipName_eq (bytes : List UInt8) : ∀ k, skipName k bytes = ((scanName k bytes).2.2).getD [] := by
  induction bytes with
  | nil => intro k; cases k <;> rfl
  | cons b s ih =>
    intro k
    cases k with
    | zero =>
      simp only [skipName, scanName]
      split
      · rfl
      · exact ih _
    | succ k => exact ih k

/-- A message with a complete question can be continued differently behind type and class. -/
theorem exists_front {buf rest : List UInt8} (hskip : skipName 0 (buf.drop headerSize) = rest)
    (hfour : 4 ≤ rest.length) :
    ∃ front, buf = front ++ rest ∧ headerSize ≤ front.length ∧
      ∀ rest', rest'.take 4 = rest.take 4 → question (front ++ rest') = question buf := by
  rw [skipName_eq] at hskip
  rcases hscan : scanName 0 (buf.drop headerSize) with ⟨label, labels, _ | behind⟩
  · rw [hscan] at hskip
    obtain rfl : rest = [] := hskip.symm
    exact absurd hfour (by decide)
  · obtain rfl : behind = rest := by
      rw [hscan] at hskip
      exact hskip
    obtain ⟨name, hdrop, hname⟩ := scanName_append hscan
    have hbuf : headerSize ≤ buf.length := by
      have := congrArg List.length hdrop
      rw [List.length_drop, List.length_append, List.length_cons] at this
      omega
    -- header, name with its zero, and the rest
    obtain ⟨hdr, hlen, rfl⟩ : ∃ hdr : List UInt8, hdr.length = headerSize ∧ buf = hdr ++ (name ++ [0]) ++ behind := by
      refine ⟨buf.take headerSize, by rw [List.length_take]; omega, ?_⟩
      rw [List.append_assoc, List.append_assoc, List.singleton_append, ← hdrop, List.take_append_drop]
    have hbehind : ∀ r, (hdr ++ (name ++ [0]) ++ r).drop headerSize = name ++ 0 :: r := by
      intro r
      rw [← hlen, List.append_assoc, List.drop_left, List.append_assoc, List.singleton_append]
    have hlong : ∀ r : List UInt8, ¬ (hdr ++ (name ++ [0]) ++ r).length ≤ headerSize := by
      intro r
      simp only [List.length_append, List.length_singleton, hlen]
      omega
    refine ⟨hdr ++ (name ++ [0]), rfl, by rw [List.length_append, hlen]; omega, ?_⟩
    intro rest' htake
    rw [question, question, if_neg (hlong _), if_neg (hlong _), hbehind, hbehind, hname, hname]
    simp only [Option.map_some, htake]

theorem ident_store {buf new : List UInt8} (h : i + new.length ≤ buf.length) (hi : 2 ≤ i) :
    ident (Bytes.store buf i new) = ident buf := by
  unfold ident be16
  rw [byteAt_store_of_outside h (.inl (by omega)), byteAt_store_of_outside h (.inl (by omega))]

theorem ident_append {front rest : List UInt8} (h : 2 ≤ front.length) :
    ident (front ++ rest) = ident front := by
  have hbyte : ∀ k < 2, byteAt (front ++ rest) k = byteAt front k := by
    intro k hk
    rw [byteAt, byteAt, List.getD_eq_getElem?_getD, List.getD_eq_getElem?_getD, List.getElem?_append_left (by omega)]
  unfold ident be16
  rw [hbyte 0 (by decide), hbyte 1 (by decide)]

theorem ident_rewriteId (response query : Message) :
    ident (rewriteId response query) = ident query.bytes := by
  have hr := response.header_le
  have hq := query.header_le
  have : headerSize = 12 := rfl
  have hlen : (query.bytes.take 2).length = 2 := by
    rw [List.length_take]
    omega
  have hbyte : ∀ k < 2, byteAt (rewriteId response query) k = byteAt query.bytes k := by
    intro k hk
    have hin : byteAt (Bytes.store response.bytes 0 (query.bytes.take 2)) (0 + k) =
        byteAt (query.bytes.take 2) k := byteAt_store_of_inside (by omega) (by omega)
    rw [Nat.zero_add] at hin
    rw [rewriteId, hin, byteAt, byteAt, List.getD_eq_getElem?_getD, List.getD_eq_getElem?_getD,
      List.getElem?_take_of_lt hk]
  unfold ident be16
  rw [hbyte 0 (by decide), hbyte 1 (by decide)]

theorem Message.four_le_behindName {m : Message} (hqtype : m.qtype ≠ 0) : 4 ≤ m.behindName.length := by
  by_contra hlt
  exact hqtype (if_neg hlt)

section
variable (m : Message) (counts : List UInt8)

theorem Message.respond_spec (hcounts : counts.length ≤ 6) :
    (m.respond counts).length = m.bytes.length ∧
      ident (m.respond counts) = ident m.bytes ∧
      (m.respond counts).drop headerSize = m.bytes.drop headerSize := by
  have hm := m.header_le
  have : headerSize = 12 := rfl
  have hflags : 2 + [(0x81 : UInt8), 0x80].length ≤ m.bytes.length := by
    simp only [List.length_cons, List.length_nil]
    omega
  have hlen := length_store hflags
  have hcnt : 6 + counts.length ≤ (Bytes.store m.bytes 2 [0x81, 0x80]).length := by omega
  refine ⟨(length_store hcnt).trans hlen, ?_, ?_⟩
  · rw [respond, ident_store hcnt (by decide), ident_store hflags (by decide)]
  · rw [respond, drop_store hcnt (by omega), drop_store hflags (by decide)]

/-- The query as a response, continued differently behind type and class. -/
theorem Message.respond_front (hcounts : counts.length ≤ 6) (hqtype : m.qtype ≠ 0) :
    ∃ front, m.respond counts = front ++ m.behindName ∧
      ∀ rest', rest'.take 4 = m.behindName.take 4 → Echoes (front ++ rest') m := by
  obtain ⟨hlen, hid, hdrop⟩ := m.respond_spec counts hcounts
  have hskip : skipName 0 ((m.respond counts).drop headerSize) = m.behindName := by
    rw [hdrop]
    rfl
  obtain ⟨front, hfront, hle, hquestion⟩ := exists_front hskip (four_le_behindName hqtype)
  refine ⟨front, hfront, fun rest' htake => ⟨?_, .of_eq ?_⟩⟩
  · have htwo : 2 ≤ front.length := Nat.le_trans (by decide) hle
    rw [ident_append htwo, ← hid, hfront, ident_append htwo]
  · rw [hquestion rest' htake, question, question, hlen, hdrop]

theorem Message.suppressed_echoes (hqtype : m.qtype ≠ 0) : Echoes m.suppressed m := by
  have hlen : (m.respond [0, 0, 0, 0, 0, 0]).length = m.bytes.length := (m.respond_spec _ (by decide)).1
  obtain ⟨front, hfront, hecho⟩ := m.respond_front [0, 0, 0, 0, 0, 0] (by decide) hqtype
  have hcut : m.suppressed = front ++ m.behindName.take 4 := by
    rw [suppressed, ← hlen, hfront, List.length_append, Nat.add_sub_cancel, List.take_length_add_append]
  rw [hcut]
  exact hecho _ (List.take_take ..)

theorem Message.synthesized_echoes (hqtype : m.qtype ≠ 0) (ip : UInt32) : Echoes (m.synthesized ip) m := by
  obtain ⟨front, hfront, hecho⟩ := m.respond_front [0, 1] (by decide) hqtype
  rw [synthesized, hfront, List.append_assoc]
  exact hecho _ (List.take_append_of_le_length (four_le_behindName hqtype))

end

/-- **One query.**  It is answered, and nothing else changes that matters; or it is recorded. -/
theorem Worker.query_cases (w : Worker) (cfg : Settings) (client : Client) (query : Message) (now : Nat) :
    (∃ w' reply, w.query cfg client query now = (w', some reply) ∧ w'.pending = w.pending ∧
        w'.cache = w.cache ∧ (Echoes reply query ∨ w.cache.lookup now query = some reply)) ∨
      w.query cfg client query now = ({ w with
            pending := Function.update w.pending (ident query.bytes)
              (some { client, timestamp := now, qhash := dnsComputeQuestionHash query.bytes }) }, none) := by
  unfold Worker.query
  split_ifs with hsupp hsynth
  · have hqtype : query.qtype ≠ 0 := by rw [hsupp.2]; decide
    exact .inl ⟨_, _, rfl, rfl, rfl, .inl (query.suppressed_echoes hqtype)⟩
  · have hqtype : query.qtype ≠ 0 := by rw [hsynth.2]; decide
    exact .inl ⟨_, _, rfl, rfl, rfl, .inl (query.synthesized_echoes hqtype _)⟩
  · rcases hlook : w.cache.lookup now query with _ | response
    · exact .inr rfl
    · exact .inl ⟨_, _, rfl, rfl, rfl, .inr rfl⟩

/-- **One answer.**  It is passed to the client that its id is pending for, or dropped. -/
theorem Worker.response_cases (w : Worker) (response : Message) (now : Nat) :
    (∃ p, w.pending (ident response.bytes) = some p ∧
        w.response response now = ({ w with
              pending := Function.update w.pending (ident response.bytes) none
              cache := w.cache.store p.qhash now response }, some p.client)) ∨
      w.response response now = (w, none) := by
  unfold Worker.response
  rcases hpend : w.pending (ident response.bytes) with _ | p
  · exact .inr rfl
  · exact .inl ⟨p, rfl, rfl⟩

/-! ## Tidy runs -/

/-- The entry of an id is for a query that was asked, and all answers still to come under this id are
    answers to that query. -/
def Awaited (w : World) (id : UInt16) (p : Pending) : Prop :=
  ∃ query, (p.client, query) ∈ w.asked ∧ ident query.bytes = id ∧
    p.qhash = dnsComputeQuestionHash query.bytes ∧
    ∀ copy ∈ w.inFlight, ident copy.bytes = id → SameQuestion copy.bytes query.bytes

/-- The invariant: no answer has crossed, and none is about to. -/
structure Orderly (w : World) : Prop extends Uncrossed w where
  pending : ∀ id p, w.worker.pending id = some p → Awaited w id p

/-- A longer record of what was asked, and no new copies under this id. -/
theorem Awaited.mono {w w' : World} {id : UInt16} {p : Pending} (h : Awaited w id p)
    (hasked : ∀ q ∈ w.asked, q ∈ w'.asked)
    (hcopies : ∀ copy ∈ w'.inFlight, ident copy.bytes = id → copy ∈ w.inFlight) : Awaited w' id p := by
  obtain ⟨query, hq, hid, hhash, hfly⟩ := h
  refine ⟨query, hasked _ hq, hid, hhash, ?_⟩
  intro copy hcopy hcid
  exact hfly copy (hcopies copy hcopy hcid) hcid

/-- What is sent answers a query of the log, if the new message does. -/
theorem sent_append {asked asked' : List (Client × Message)} {sent : List (Client × List UInt8)}
    {dest : Client} {new : List UInt8}
    (h : ∀ client reply, (client, reply) ∈ sent → ∃ query, (client, query) ∈ asked ∧ Echoes reply query)
    (hasked : ∀ q ∈ asked, q ∈ asked') (hnew : ∃ query, (dest, query) ∈ asked' ∧ Echoes new query) :
    ∀ client reply, (client, reply) ∈ sent ++ [(dest, new)] →
      ∃ query, (client, query) ∈ asked' ∧ Echoes reply query := by
  intro client reply hmem
  rcases List.mem_append.mp hmem with hmem | hmem
  · obtain ⟨query, hq, hecho⟩ := h client reply hmem
    exact ⟨query, hasked _ hq, hecho⟩
  · obtain ⟨rfl, rfl⟩ := Prod.mk.inj (List.mem_singleton.mp hmem)
    exact hnew

theorem Orderly.ask {w : World} (h : Orderly w) {cfg : Settings} (client : Client) {query : Message}
    {now : Nat} (htidy : TidyQuery w cfg query now) : Orderly (w.step (.ask cfg client query now)) := by
  have hasked : ∀ q ∈ w.asked, q ∈ w.asked ++ [(client, query)] := fun q => List.mem_append_left _
  have hself : (client, query) ∈ w.asked ++ [(client, query)] := by simp
  rcases w.worker.query_cases cfg client query now with
    ⟨w', reply, hquery, hpend, hcache, hreply⟩ | hquery
  · have hecho : Echoes reply query := by
      rcases hreply with hreply | hhit
      · exact hreply
      · obtain ⟨-, e, hslot, hhash, hnow, rfl⟩ := lookup_eq_some_iff.mp hhit
        have hsame := htidy.cached e hslot hhash hnow
        exact ⟨ident_rewriteId .., (SameQuestion.of_eq (question_rewriteId ..)).trans hsame⟩
    simp only [World.step, hquery]
    refine ⟨⟨sent_append h.sent hasked ⟨query, hself, hecho⟩, ?_⟩, ?_⟩
    · rw [hcache]
      exact h.cached
    · intro id p hp
      rw [hpend] at hp
      exact (h.pending id p hp).mono hasked fun copy hcopy _ => hcopy
  · simp only [World.step, hquery]
    refine ⟨⟨?_, h.cached⟩, ?_⟩
    · intro dest reply hmem
      obtain ⟨q, hq, hecho⟩ := h.sent dest reply hmem
      exact ⟨q, hasked _ hq, hecho⟩
    · intro id p (hp : Function.update w.worker.pending (ident query.bytes) _ id = some p)
      have hcopies : ∀ n copy, copy ∈ w.inFlight ++ List.replicate n query →
          copy ∈ w.inFlight ∨ copy = query := by
        intro n copy hcopy
        exact (List.mem_append.mp hcopy).imp_right List.eq_of_mem_replicate
      by_cases hid : id = ident query.bytes
      · -- the new entry: copies of before ask the same, by tidiness
        subst hid
        rw [Function.update_self, Option.some_inj] at hp
        subst hp
        refine ⟨query, hself, rfl, rfl, ?_⟩
        intro copy hcopy hcid
        rcases hcopies _ copy hcopy with hold | rfl
        · exact htidy.inFlight copy hold hcid
        · exact .refl _
      · rw [Function.update_of_ne hid] at hp
        refine (h.pending id p hp).mono hasked ?_
        intro copy hcopy hcid
        rcases hcopies _ copy hcopy with hold | rfl
        · exact hold
        · exact absurd hcid.symm hid

theorem Orderly.answer {w : World} (h : Orderly w) {copy response : Message} (now : Nat)
    (hposs : Possible w (.answer copy response now)) : Orderly (w.step (.answer copy response now)) := by
  obtain ⟨hcopy, hid, hsame⟩ := hposs
  rcases w.worker.response_cases response now with ⟨p, hpend, hresp⟩ | hresp
  · obtain ⟨query, hq, hqid, hhash, hfly⟩ := h.pending _ p hpend
    -- the copy has the id of the entry, so it asks what the entry's query asks
    have hanswer : SameQuestion response.bytes query.bytes := hsame.trans (hfly copy hcopy hid.symm)
    simp only [World.step, hresp]
    refine ⟨⟨sent_append h.sent (fun _ hmem => hmem) ⟨query, hq, hqid.symm, hanswer⟩, ?_⟩, ?_⟩
    · intro slot e he
      rw [hhash, ← hanswer.hash_eq, store_apply] at he
      rcases he with ⟨⟨-, hslot⟩, hehash, -, hdata⟩ | ⟨-, hold⟩
      · rw [hehash, hdata]
        exact ⟨hslot, rfl⟩
      · exact h.cached slot e hold
    · intro id p' (hp' : Function.update w.worker.pending (ident response.bytes) none id = some p')
      by_cases heq : id = ident response.bytes
      · rw [heq, Function.update_self] at hp'
        exact nomatch hp'
      · rw [Function.update_of_ne heq] at hp'
        exact h.pending id p' hp'
  · simp only [World.step, hresp]
    exact h

theorem Orderly.step {w : World} (h : Orderly w) (e : Event) (hposs : Possible w e) (htidy : Tidy w e) :
    Orderly (w.step e) := by
  cases e with
  | ask cfg client query now => exact h.ask client htidy
  | answer copy response now => exact h.answer now hposs
  | retire copy =>
    refine ⟨⟨h.sent, h.cached⟩, ?_⟩
    intro id p hp
    exact (h.pending id p hp).mono (fun _ hmem => hmem) fun _ hcopy _ => List.mem_of_mem_erase hcopy

theorem Orderly.of_reachable (h : Reachable Tidy w) : Orderly w := by
  induction h with
  | start racing => exact ⟨⟨nofun, nofun⟩, nofun⟩
  | step e _ hposs htidy ih => exact ih.step e hposs htidy

/-- **Answers never cross in tidy runs**, however queries, answers and losses are interleaved. -/
theorem uncrossed_of_tidy {w : World} (h : Reachable Tidy w) : Uncrossed w :=
  (Orderly.of_reachable h).toUncrossed

/-! ## A reused id -/

/-- Two clients of one LAN. -/
def clientA : Client := { ip := 0xC0A8010A, port := 40000 }

def clientB : Client := { ip := 0xC0A8010B, port := 40001 }

/-- Queries for the addresses of `x` and `y`, both with id 7. -/
def queryX : Message := sampleMessage [0, 7, 0x01, 0x00, 0, 1, 0, 0, 0, 0, 0, 0] [1, 0x78] [] rfl

def queryY : Message := sampleMessage [0, 7, 0x01, 0x00, 0, 1, 0, 0, 0, 0, 0, 0] [1, 0x79] [] rfl

/-- The address of the name. -/
def answerTo (name : List UInt8) : Message :=
  sampleMessage answerHeader name [0xC0, 0x0C, 0, 1, 0, 1, 0, 0, 0, 60, 0, 4, 192, 0, 2, 1] length_answerHeader

/-- The first client asks for `x` and is answered by both upstreams; then the second asks for `y`. -/
def inTurn : List Event :=
  [.ask {} clientA queryX 0, .answer queryX (answerTo [1, 0x78]) 0, .answer queryX (answerTo [1, 0x78]) 0,
    .retire queryX, .retire queryX, .ask {} clientB queryY 1, .answer queryY (answerTo [1, 0x79]) 1]

theorem uncrossed_inTurn : Along Tidy {} inTurn ∧ Uncrossed (inTurn.foldl World.step {}) ∧
    (inTurn.foldl World.step {}).sent =
      [(clientA, (answerTo [1, 0x78]).bytes), (clientB, (answerTo [1, 0x79]).bytes)] := by
  have htidy : Along Tidy {} inTurn := by decide
  exact ⟨htidy, uncrossed_of_tidy (.run (.start true) htidy), by decide⟩

/-- The second client asks for `y` before the answer for `x` has come. -/
def idReused : List Event :=
  [.ask {} clientA queryX 0, .ask {} clientB queryY 0, .answer queryX (answerTo [1, 0x78]) 0]

/-- The answer for `x` goes to the client that asked for `y`, and is cached as the answer for `y`; the
    client that asked for `x` gets none. -/
theorem idReuse_crosses : Reachable (fun _ _ => True) (idReused.foldl World.step {}) ∧
    (idReused.foldl World.step {}).sent = [(clientB, (answerTo [1, 0x78]).bytes)] ∧
    ((idReused.foldl World.step {}).worker.cache.lookup 1 queryY).map question =
      some (some { labels := [[0x78]], tail := some [0, 1, 0, 1] }) ∧
    ¬ Uncrossed (idReused.foldl World.step {}) := by
  have hsent : (idReused.foldl World.step {}).sent = [(clientB, (answerTo [1, 0x78]).bytes)] := by
    decide
  have hasked : ∀ p ∈ (idReused.foldl World.step {}).asked,
      p.1 = clientB → ¬ Echoes (answerTo [1, 0x78]).bytes p.2 := by
    decide
  have hrun : Along (fun _ _ => True) {} idReused := by decide
  refine ⟨.run (.start true) hrun, hsent, by decide, ?_⟩
  intro h
  obtain ⟨query, hq, hecho⟩ := h.sent _ _ (by rw [hsent]; exact List.mem_singleton_self _)
  exact hasked _ hq rfl hecho

end FluxWAN.Dns
