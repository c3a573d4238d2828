/-
  From the stream to the request buffer (`src/web_server.c`: `web_server_process_client_impl`, the `recv` loop).

  The server looks for the end of the headers and for the announced length in the FIRST chunk only, in two
  spellings, and reads on only if it finds both there.  So a request cut inside its headers, or with a
  `CONTENT-LENGTH` that arrives before its body, is dispatched without its tail.  `received_iff` says for every
  text and every way to cut it when the buffer is the whole text.

  The induction is on the chunks that follow: the loop stops before a chunk exactly when the body bytes that are
  there have reached the announced length, and they only grow.
-/
import FluxWAN.Web.Server

namespace FluxWAN.Web

open CString

/-- The chunks that follow are read while the body is shorter than announced: to the end, if it is before the last
    one. -/
theorem receiveMore_eq_iff (chunks : List (List Char)) :
    ∀ buf : List Char, chunks ≠ [] → (∀ chunk ∈ chunks, chunk ≠ []) → buf.length + chunks.flatten.length < maxReq →
      (receiveMore headerLen expectedLen buf chunks = buf ++ chunks.flatten ↔
        0 < expectedLen ∧ ((buf.length + chunks.dropLast.flatten.length - headerLen : Nat) : Int) < expectedLen) := by
  induction chunks with
  | nil => exact fun _ hne => absurd rfl hne
  | cons chunk chunks ih =>
    intro buf _ hfull hlen
    obtain ⟨hchunk, hchunks⟩ := List.forall_mem_cons.mp hfull
    have hpos : 0 < chunk.length := List.length_pos_iff.mpr hchunk
    rw [List.flatten_cons, List.length_append] at hlen
    rw [receiveMore]
    by_cases hmore : expectedLen > 0 ∧ ((buf.length - headerLen : Nat) : Int) < expectedLen
    · have hcond : expectedLen > 0 ∧ ((buf.length - headerLen : Nat) : Int) < expectedLen ∧
          buf.length < maxReq - 1 ∧ chunk ≠ [] := ⟨hmore.1, hmore.2, by omega, hchunk⟩
      rw [if_pos hcond, List.take_of_length_le (by omega), List.flatten_cons, ← List.append_assoc]
      by_cases hlast : chunks = []
      · subst hlast
        rw [receiveMore]
        simpa using hmore
      · have hdrop : (chunk :: chunks).dropLast.flatten.length = chunk.length + chunks.dropLast.flatten.length := by
          rw [List.dropLast_cons_of_ne_nil hlast, List.flatten_cons, List.length_append]
        rw [ih (buf ++ chunk) hlast hchunks (by rw [List.length_append]; omega), hdrop, List.length_append,
          Nat.add_assoc]
    · -- the loop stops here, short of at least this chunk
      have hstop : ¬ (expectedLen > 0 ∧ ((buf.length - headerLen : Nat) : Int) < expectedLen ∧
          buf.length < maxReq - 1 ∧ chunk ≠ []) := fun h => hmore ⟨h.1, h.2.1⟩
      rw [if_neg hstop]
      constructor
      · intro heq
        have hlen' := congrArg List.length heq
        rw [List.length_append, List.flatten_cons, List.length_append] at hlen'
        omega
      · rintro ⟨hexp, hlt⟩
        exact absurd ⟨hexp, by omega⟩ hmore

/-- The header length and the announced body length that the server finds in the first chunk. -/
def announced (first : List Char) : Option (Nat × Int) :=
  (strstr (cstr first) "\r\n\r\n".toList).bind fun headerEnd =>
    ((strstr (cstr first) "Content-Length:".toList).or (strstr (cstr first) "content-length:".toList)).map fun p =>
      ((cstr first).length - headerEnd.length + 4, atoi (p.drop 15))

theorem receive_of_not_announced {first : List Char} (hne : first ≠ []) (hlen : first.length < maxReq)
    (h : announced first = none) : receive (first :: rest) = some first := by
  have htake : first.take (maxReq - 1) = first := List.take_of_length_le (by omega)
  rw [receive, if_neg hne, htake]
  dsimp only
  unfold announced at h
  cases hend : strstr (cstr first) "\r\n\r\n".toList with
  | none => rfl
  | some headerEnd =>
    rw [hend, Option.bind_some, Option.map_eq_none_iff] at h
    rw [h]

theorem receive_of_announced {first : List Char} (hne : first ≠ []) (hlen : first.length < maxReq)

    (h : announced first = some (headerLen, expectedLen)) :
    receive (first :: rest) = some (receiveMore headerLen expectedLen first rest) := by
  have htake : first.take (maxReq - 1) = first := List.take_of_length_le (by omega)
  rw [receive, if_neg hne, htake]
  dsimp only
  unfold announced at h
  obtain ⟨headerEnd, hend, hrest⟩ := Option.bind_eq_some_iff.mp h
  obtain ⟨p, hp, heq⟩ := Option.map_eq_some_iff.mp hrest
  rw [hend]
  dsimp only
  rw [hp]
  dsimp only
  rw [(Prod.mk.inj heq).1, (Prod.mk.inj heq).2]

/-- **When the buffer is the whole request.**  In one piece; or its first chunk has the end of the headers and a
    length that the body has not reached before the last chunk. -/
theorem received_iff (first : List Char) (rest : List (List Char)) (hfull : ∀ chunk ∈ first :: rest, chunk ≠ [])
    (hlen : (first :: rest).flatten.length < maxReq) :
    receive (first :: rest) = some (first :: rest).flatten ↔
      rest = [] ∨ ∃ headerLen expectedLen, announced first = some (headerLen, expectedLen) ∧ 0 < expectedLen ∧
        (((first :: rest).dropLast.flatten.length - headerLen : Nat) : Int) < expectedLen := by
  obtain ⟨hfirst, hrest⟩ := List.forall_mem_cons.mp hfull
  rw [List.flatten_cons] at hlen ⊢
  have hlen' := hlen
  rw [List.length_append] at hlen'
  have hlt : first.length < maxReq := by omega
  by_cases hone : rest = []
  · subst hone
    refine ⟨fun _ => .inl rfl, fun _ => ?_⟩
    rw [List.flatten_nil, List.append_nil]
    cases hann : announced first with
    | none => exact receive_of_not_announced hfirst hlt hann
    | some p => exact receive_of_announced hfirst hlt hann
  · have hdrop : (first :: rest).dropLast.flatten.length = first.length + rest.dropLast.flatten.length := by
      rw [List.dropLast_cons_of_ne_nil hone, List.flatten_cons, List.length_append]
    rw [hdrop]
    cases hann : announced first with
    | none =>
      rw [receive_of_not_announced hfirst hlt hann]
      refine ⟨fun h => ?_, fun h => h.elim (fun h => absurd h hone) fun ⟨_, _, h, _⟩ => absurd h (by simp)⟩
      -- the chunks that follow are not empty
      obtain ⟨chunk, chunks, rfl⟩ := List.exists_cons_of_ne_nil hone
      have hpos := List.length_pos_iff.mpr (hrest chunk List.mem_cons_self)
      have hlen'' := congrArg List.length (Option.some.inj h)
      rw [List.length_append, List.flatten_cons, List.length_append] at hlen''
      omega
    | some p =>
      obtain ⟨headerLen, expectedLen⟩ := p
      rw [receive_of_announced hfirst hlt hann, Option.some_inj, receiveMore_eq_iff rest first hone hrest hlen']
      constructor
      · exact fun h => .inr ⟨headerLen, expectedLen, rfl, h⟩
      · rintro (h | ⟨_, _, heq, h⟩)
        · exact absurd h hone
        · cases heq
          exact h

/-! ## Requests -/

structure Request where
  start : CStr
  headers : List (CStr × CStr)
  body : CStr

def Request.text (r : Request) : List Char :=
  r.start ++ "\r\n".toList ++ r.headers.flatMap (fun h => h.1 ++ ": ".toList ++ h.2 ++ "\r\n".toList) ++
    "\r\n".toList ++ r.body

/-- Lines are lines, and a `Content-Length`, in any letter case, is that of the body. -/
structure Request.CorrectLength (r : Request) : Prop where
  start : '\r' ∉ r.start
  lines : ∀ h ∈ r.headers, '\r' ∉ h.1 ∧ '\r' ∉ h.2
  length : ∃ h ∈ r.headers, h.1.map Char.toLower = "content-length".toList ∧ h.2 = showNat r.body.length

/-- A login with an empty object for a body, by the spelling of its header. -/
def emptyLogin (header : String) : Request where
  start := "POST /api/v1/login HTTP/1.1".toList
  headers := [(header.toList, "2".toList)]
  body := ['\x7b', '\x7d']

theorem correctLength_emptyLogin {header : String} (hname : header.toList.map Char.toLower = "content-length".toList)
    (hline : '\r' ∉ header.toList) : (emptyLogin header).CorrectLength where
  start := (by decide : '\r' ∉ "POST /api/v1/login HTTP/1.1".toList)
  lines := by
    intro h hh
    rw [List.mem_singleton.mp hh]
    exact ⟨hline, (by decide : '\r' ∉ "2".toList)⟩
  length := ⟨_, List.mem_cons_self, hname, (by decide : "2".toList = showNat 2)⟩

theorem received_iff_emptyLogin :
    receive [(emptyLogin "Content-Length").text.take 51, (emptyLogin "Content-Length").text.drop 51] =
      some (emptyLogin "Content-Length").text := by
  have hiff := received_iff ((emptyLogin "Content-Length").text.take 51) [(emptyLogin "Content-Length").text.drop 51]
    (by decide +kernel) (by decide +kernel)
  have hcut : [(emptyLogin "Content-Length").text.take 51, (emptyLogin "Content-Length").text.drop 51].flatten =
      (emptyLogin "Content-Length").text := by
    rw [List.flatten_cons, List.flatten_cons, List.flatten_nil, List.append_nil, List.take_append_drop]
  rw [hcut] at hiff
  exact hiff.mpr (.inr ⟨50, 2, by decide +kernel, by decide, by decide +kernel⟩)

/-- Cut inside the header block, or with the header in capitals and the body in the next chunk, the request is
    dispatched without its tail. -/
theorem segmentation_lost :
    ((emptyLogin "Content-Length").CorrectLength ∧
      receive [(emptyLogin "Content-Length").text.take 35, (emptyLogin "Content-Length").text.drop 35] ≠
        some (emptyLogin "Content-Length").text) ∧
    (emptyLogin "CONTENT-LENGTH").CorrectLength ∧
      receive [(emptyLogin "CONTENT-LENGTH").text.take 50, (emptyLogin "CONTENT-LENGTH").text.drop 50] ≠
        some (emptyLogin "CONTENT-LENGTH").text := by
  have hheaders : announced ((emptyLogin "Content-Length").text.take 35) = none := by decide +kernel
  have hcapitals : announced ((emptyLogin "CONTENT-LENGTH").text.take 50) = none := by decide +kernel
  refine ⟨⟨correctLength_emptyLogin (by decide) (by decide), ?_⟩, correctLength_emptyLogin (by decide) (by decide), ?_⟩
  · rw [receive_of_not_announced (by decide +kernel) (by decide +kernel) hheaders]
    decide +kernel
  · rw [receive_of_not_announced (by decide +kernel) (by decide +kernel) hcapitals]
    decide +kernel

end FluxWAN.Web
