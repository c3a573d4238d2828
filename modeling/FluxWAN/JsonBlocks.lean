/-
  Blocks and arrays cut out of a text made of tokens.

  `find_matching_bracket` counts brackets wherever they stand, the object loops look for the FIRST closing
  brace, and `find_matching_brace` counts braces outside of strings.  What is written between two of them
  must therefore not contain more of them.  A `Flat` list of tokens contains none at all; an `Inner` one may
  contain whole arrays.

  * `objectsAfter_objectArray`, `bracedAfter_objectArray` — the objects cut out of an array are the
    objects written into it;
  * `objectAfter_block` — a block cut out by matching braces is the block that was written;
  * `quotedNames_quotedAll` — the names read from an array of strings are the names written.
-/
import FluxWAN.JsonTokens

namespace FluxWAN

open CString QuotedText

variable {c : Char} {s r stop rest : CStr} {k : Key} {v : Value} {ind n : Nat} {t : Tok Key}
  {ts us o body : List (Tok Key)} {objs os : List (List (Tok Key))}

/-! ## Text without brackets or braces -/

/-- A search ends inside the text. -/
theorem length_of_strchr (h : strchr s c = some r) : r.length ≤ s.length := by
  induction s with
  | nil => cases h
  | cons d s ih =>
    rw [strchr] at h
    split at h
    · rw [← Option.some.inj h]
    · exact Nat.le_succ_of_le (ih h)

theorem closeBracket_append (ho : '[' ∉ s) (hc : ']' ∉ s) (d : Nat) (r : CStr) :
    closeBracket d (s ++ r) = closeBracket d r := by
  induction s with
  | nil => rfl
  | cons c s ih =>
    have hne : c ≠ '[' := fun h => ho (h ▸ List.mem_cons_self)
    have hne' : c ≠ ']' := fun h => hc (h ▸ List.mem_cons_self)
    have ih := ih (fun h => ho (List.mem_cons_of_mem c h)) (fun h => hc (List.mem_cons_of_mem c h))
    rw [List.cons_append, closeBracket.eq_def]
    simp only [hne, hne', if_false, ih]

@[simp] theorem closeBracket_open (d : Nat) (s : CStr) : closeBracket d ('[' :: s) = closeBracket (d + 1) s := by
  rw [closeBracket.eq_def]
  rfl

@[simp] theorem closeBracket_close (d : Nat) (s : CStr) : closeBracket (d + 1) (']' :: s) = closeBracket d s := by
  rw [closeBracket.eq_def]
  rfl

/-- What is found behind a bracket starts behind it. -/
theorem length_of_strchr_past (hpre : c ∉ pre) (hc : c ≠ ']')
    (h : strchr (pre ++ ']' :: rest) c = some r) : r.length ≤ rest.length := by
  rw [strchr_append_of_not_mem hpre, strchr, if_neg hc.symm] at h
  exact length_of_strchr h

/-- Text that `find_matching_brace` passes over. -/
def BraceFree (s : CStr) : Prop := '"' ∉ s ∧ '\\' ∉ s ∧ '\x7b' ∉ s ∧ '\x7d' ∉ s

instance (s : CStr) : Decidable (BraceFree s) := inferInstanceAs (Decidable (_ ∧ _))

theorem braceFree_of_mild (h : ∀ c ∈ s, Mild c) : BraceFree s := by
  refine ⟨?_, ?_, ?_, ?_⟩ <;> exact fun hc => absurd (h _ hc).1 (by decide)

@[simp] theorem not_mem_indent (hc : c ≠ ' ') (n : Nat) : c ∉ indent n := fun h => hc (List.eq_of_mem_replicate h)

theorem braceFree_indent (n : Nat) : BraceFree (indent n) := by simp [BraceFree]

theorem BraceFree.append (hs : BraceFree s) (hr : BraceFree r) : BraceFree (s ++ r) := by
  simp only [BraceFree] at hs hr ⊢
  simp [hs, hr]

theorem closeBrace_append (hs : BraceFree s) (d : Nat) (r : CStr) :
    closeBrace d false false (s ++ r) = closeBrace d false false r := by
  induction s with
  | nil => rfl
  | cons c s ih =>
    simp only [BraceFree, List.mem_cons, not_or] at hs
    obtain ⟨⟨hq, hqs⟩, ⟨hb, hbs⟩, ⟨ho, hos⟩, hc, hcs⟩ := hs
    have ih := ih ⟨hqs, hbs, hos, hcs⟩
    rw [List.cons_append, closeBrace.eq_def]
    simp only [Ne.symm hb, Ne.symm hq, Ne.symm ho, Ne.symm hc, Bool.false_eq_true, if_false, ih]

/-- Inside a string nothing counts. -/
theorem closeBrace_string (hq : '"' ∉ s) (hb : '\\' ∉ s) (d : Nat) (r : CStr) :
    closeBrace d true false (s ++ '"' :: r) = closeBrace d false false r := by
  induction s with
  | nil => rfl
  | cons c s ih =>
    simp only [List.mem_cons, not_or] at hq hb
    rw [List.cons_append, closeBrace.eq_def]
    simp only [Ne.symm hb.1, Ne.symm hq.1, if_false, if_true, ih hq.2 hb.2]

theorem closeBrace_quoted (hq : '"' ∉ s) (hb : '\\' ∉ s) (d : Nat) (r : CStr) :
    closeBrace d false false ('"' :: (s ++ '"' :: r)) = closeBrace d false false r := by
  calc closeBrace d false false ('"' :: (s ++ '"' :: r))
      = closeBrace d true false (s ++ '"' :: r) := by rw [closeBrace.eq_def]; rfl
    _ = closeBrace d false false r := closeBrace_string hq hb d r

/-! ## Flat tokens -/

/-- The keys that open a block or an array. -/
def Key.isBlock : Key → Bool
  | .lan | .policyRoutes | .staticLeases | .rateLimits | .qos | .dns | .groups | .wans | .prober | .sticky
  | .appSteering | .telegram | .web | .auth | .nat46 | .dpi | .stealth | .pppoeServer | .radius | .profiles
  | .users | .vpn | .wireguard | .peers | .zerotier | .networks | .tailscale | .addressLists | .entries => true
  | _ => false

/-- A sound token of a plain setting, with no brace or bracket around its value. -/
def FlatTok : Tok Key → Prop
  | .key k => k.isBlock = false
  | .val v sep => v.Sound Key ∧ Separates sep ∧ ∀ c ∈ sep, isSpecial c = false
  | .raw s => ∀ c ∈ s, isSpecial c = false ∧ c ≠ '\x00'

def Flat (ts : List (Tok Key)) : Prop := ∀ t ∈ ts, FlatTok t

@[simp] theorem flat_nil : Flat [] := fun _ h => absurd h List.not_mem_nil

@[simp] theorem flat_cons : Flat (t :: ts) ↔ FlatTok t ∧ Flat ts :=
  List.forall_mem_cons

@[simp] theorem flat_append : Flat (ts ++ us) ↔ Flat ts ∧ Flat us :=
  List.forall_mem_append

@[simp] theorem flat_ite [Decidable p] : Flat (if p then ts else us) ↔ (p → Flat ts) ∧ (¬p → Flat us) := by
  split <;> simp_all

theorem not_mem_of_plain (hs : ∀ c ∈ s, isSpecial c = false) (hd : isSpecial d = true) : d ∉ s := by
  intro h
  rw [hs d h] at hd
  exact absurd hd (by decide)

theorem flatTok_sound (ht : FlatTok t) : t.Sound := by
  cases t with
  | key k => exact True.intro
  | val v sep => exact ⟨ht.1, ht.2.1⟩
  | raw s =>
    have hplain : ∀ c ∈ s, isSpecial c = false := fun c hc => (ht c hc).1
    exact ⟨not_mem_of_plain hplain (by decide), not_mem_of_plain hplain (by decide), fun h => (ht _ h).2 rfl⟩

theorem Flat.sound (hts : Flat ts) : Sound ts := fun t ht => flatTok_sound (hts t ht)

theorem special_not_mem_name (hc : isSpecial c = true) (k : Key) : c ∉ name k := by
  refine not_mem_of_word (Spelled.name_word k) ?_
  simp only [isSpecial, Bool.or_eq_true, decide_eq_true_eq] at hc
  rcases hc with ((((rfl | rfl) | rfl) | rfl) | rfl) | rfl <;> rfl

theorem special_not_mem_key (hc : isSpecial c = true) (hq : c ≠ '"') (k : Key) :
    c ∉ (Tok.key k).text := by
  intro h
  simp only [Tok.text, quoted, List.cons_append, List.mem_cons, List.mem_append, List.not_mem_nil, or_false] at h
  rcases h with h | (h | h) | h | h
  · exact hq h
  · exact special_not_mem_name hc k h
  · exact hq h
  · rw [h] at hc; exact absurd hc (by decide)
  · rw [h] at hc; exact absurd hc (by decide)

/-- The text of flat tokens has quotes but no other special character. -/
theorem Flat.special_not_mem (hts : Flat ts) (hc : isSpecial c = true)
    (hq : c ≠ '"') : c ∉ render ts := by
  intro h
  obtain ⟨t, ht, hct⟩ := mem_render.mp h
  have hflat : FlatTok t := hts t ht
  cases t with
  | key k => exact special_not_mem_key hc hq k hct
  | val v sep =>
    rcases List.mem_append.mp hct with hv | hsep
    · exact Value.not_mem_text hflat.1 hc hq hv
    · exact not_mem_of_plain hflat.2.2 hc hsep
  | raw s => exact not_mem_of_plain (fun c hc => (hflat c hc).1) hc hct

theorem isSpecial_indent : ∀ c ∈ indent n, isSpecial c = false ∧ c ≠ '\x00' := by
  intro c hc
  rw [List.eq_of_mem_replicate hc]
  decide

theorem separates_comma : Separates [',', '\n'] :=
  ⟨⟨',', ['\n'], rfl, by decide, rfl⟩, by decide, by decide, by decide⟩

theorem separates_newline : Separates ['\n'] :=
  ⟨⟨'\n', [], rfl, by decide, rfl⟩, by decide, by decide, by decide⟩

@[simp] theorem flat_line :
    Flat (line ind k v) ↔ k.isBlock = false ∧ v.Sound Key := by
  have hsep : ∀ c ∈ [',', '\n'], isSpecial c = false :=
    List.forall_mem_cons.mpr ⟨rfl, List.forall_mem_singleton.mpr rfl⟩
  simp only [line, flat_cons, flat_nil, FlatTok, and_true]
  exact ⟨fun h => ⟨h.2.1, h.2.2.1⟩, fun h => ⟨isSpecial_indent, h.1, h.2, separates_comma, hsep⟩⟩

@[simp] theorem flat_lastLine :
    Flat (lastLine ind k v) ↔ k.isBlock = false ∧ v.Sound Key := by
  have hsep : ∀ c ∈ ['\n'], isSpecial c = false := List.forall_mem_singleton.mpr rfl
  simp only [lastLine, flat_cons, flat_nil, FlatTok, and_true]
  exact ⟨fun h => ⟨h.2.1, h.2.2.1⟩, fun h => ⟨isSpecial_indent, h.1, h.2, separates_newline, hsep⟩⟩

@[simp] theorem sound_str : (Value.str s).Sound Key ↔ PlainText Key s := Iff.rfl
@[simp] theorem sound_num : (Value.num n).Sound Key ↔ True := Iff.rfl
@[simp] theorem sound_int : (Value.int z).Sound Key ↔ True := Iff.rfl
@[simp] theorem sound_flag : (Value.flag b).Sound Key ↔ True := Iff.rfl
@[simp] theorem sound_dec : (Value.dec x).Sound Key ↔ True := Iff.rfl

/-! ## Sections -/

/-- Sound tokens whose only block keys are `bs`. -/
def Written (bs : List Key) (ts : List (Tok Key)) : Prop :=
  ∀ t ∈ ts, t.Sound ∧ ∀ k, t = .key k → k.isBlock = true → k ∈ bs

variable {bs : List Key}

theorem Written.sound (h : Written bs ts) : Sound ts := fun t ht => (h t ht).1

/-- The search for a block passes over a section without it. -/
theorem Written.seek (h : Written bs ts) (hk : k.isBlock = true) (hn : k ∉ bs) :
    seek k ts = none :=
  seek_eq_none fun hmem => hn ((h _ hmem).2 k rfl hk)

theorem Flat.written (h : Flat ts) : Written bs ts := by
  intro t ht
  refine ⟨flatTok_sound (h t ht), fun k htk hk => ?_⟩
  have hflat : k.isBlock = false := by
    have hft := h t ht
    rwa [htk] at hft
  rw [hflat] at hk
  exact absurd hk (by decide)

@[simp] theorem written_nil : Written bs [] := fun _ h => absurd h List.not_mem_nil

@[simp] theorem written_append : Written bs (ts ++ us) ↔ Written bs ts ∧ Written bs us :=
  List.forall_mem_append

theorem written_cons (ht : Written bs [t]) (hts : Written bs ts) :
    Written bs (t :: ts) := written_append.mpr ⟨ht, hts⟩

theorem written_raw (hs : '"' ∉ s ∧ '\\' ∉ s ∧ '\x00' ∉ s) : Written bs [.raw s] := by
  intro t ht
  obtain rfl := List.mem_singleton.mp ht
  exact ⟨hs, fun k hk => absurd hk (by simp)⟩

theorem written_key (hk : k ∈ bs) : Written bs [.key k] := by
  intro t ht
  obtain rfl := List.mem_singleton.mp ht
  refine ⟨True.intro, fun k' hk' _ => ?_⟩
  cases hk'
  exact hk

/-- Text around blocks. -/
theorem unquoted_indent_append (n : Nat) (hs : '"' ∉ s ∧ '\\' ∉ s ∧ '\x00' ∉ s) :
    '"' ∉ indent n ++ s ∧ '\\' ∉ indent n ++ s ∧ '\x00' ∉ indent n ++ s := by
  simp [hs]

theorem written_indent (n : Nat) : Written bs [.raw (indent n)] := by
  have h := unquoted_indent_append n (s := []) (by decide)
  rw [List.append_nil] at h
  exact written_raw h

@[simp] theorem written_openBlock (hk : k ∈ bs) : Written bs (openBlock ind k) :=
  written_cons (written_indent ind) (written_cons (written_key hk) (written_raw (by decide)))

@[simp] theorem written_closeBlock : Written bs (closeBlock ind) :=
  written_raw (unquoted_indent_append ind (by decide))

@[simp] theorem written_closeLast : Written bs (closeLast ind) :=
  written_raw (unquoted_indent_append ind (by decide))

@[simp] theorem written_line (hk : k.isBlock = false) :
    Written bs (line ind k v) ↔ v.Sound Key :=
  ⟨fun h => (h (.val v [',', '\n']) (by simp [line])).1.1, fun h => (flat_line.mpr ⟨hk, h⟩).written⟩

@[simp] theorem written_lastLine (hk : k.isBlock = false) :
    Written bs (lastLine ind k v) ↔ v.Sound Key :=
  ⟨fun h => (h (.val v ['\n']) (by simp [lastLine])).1.1, fun h => (flat_lastLine.mpr ⟨hk, h⟩).written⟩

theorem Written.mono (h : Written bs ts) (hsub : ∀ k ∈ bs, k ∈ bs') :
    Written bs' ts := fun t ht => ⟨(h t ht).1, fun k htk hk => hsub k ((h t ht).2 k htk hk)⟩

theorem Written.append (h : Written bs ts) (h' : Written bs' us) : Written (bs ++ bs') (ts ++ us) :=
  written_append.mpr ⟨h.mono fun _ hk => List.mem_append_left _ hk, h'.mono fun _ hk => List.mem_append_right _ hk⟩

/-- An object with the brace that opens it. -/
theorem written_open (ind : Nat) (ho : Written bs o) :
    Written bs (.raw (indent ind ++ ['\x7b', '\n']) :: o) :=
  written_cons (written_raw (unquoted_indent_append ind (by decide))) ho

theorem written_objects (ind : Nat) : ∀ {objs : List (List (Tok Key))}, (∀ o ∈ objs, Written bs o) →
    Written bs (objects ind objs)
  | [], _ => written_nil
  | [o], h => by
    have ho := h o List.mem_cons_self
    exact written_append.mpr ⟨written_open ind ho, written_closeLast⟩
  | o :: o' :: os, h => by
    have ho := h o List.mem_cons_self
    have hos := written_objects ind fun x hx => h x (List.mem_cons_of_mem o hx)
    exact written_append.mpr ⟨written_append.mpr ⟨written_open ind ho, written_closeBlock⟩, hos⟩

theorem written_objectArray (hk : k ∈ bs)
    (hobjs : ∀ o ∈ objs, Written bs o) (hstop : '"' ∉ stop ∧ '\\' ∉ stop ∧ '\x00' ∉ stop) :
    Written bs (objectArray ind k objs stop) := by
  have hend : '"' ∉ ']' :: stop ∧ '\\' ∉ ']' :: stop ∧ '\x00' ∉ ']' :: stop := by simp [hstop]
  have hopen : Written bs [.raw (indent ind), .key k, .raw ['[', '\n']] :=
    written_cons (written_indent ind) (written_cons (written_key hk) (written_raw (by decide)))
  exact written_append.mpr ⟨written_append.mpr ⟨hopen, written_objects (ind + 2) hobjs⟩,
    written_raw (unquoted_indent_append ind hend)⟩

/-! ## Balanced tokens -/

/-- The bracket count is the same before and after. -/
def BracketBalanced (ts : List (Tok Key)) : Prop :=
  ∀ d r, closeBracket d (render ts ++ r) = closeBracket d r

/-- The brace count is the same before and after, and no string is left open. -/
def BraceBalanced (ts : List (Tok Key)) : Prop :=
  ∀ d r, closeBrace d false false (render ts ++ r) = closeBrace d false false r

theorem BracketBalanced.append (hts : BracketBalanced ts) (hus : BracketBalanced us) :
    BracketBalanced (ts ++ us) := by
  intro d r
  rw [render_append, List.append_assoc, hts, hus]

theorem BraceBalanced.append (hts : BraceBalanced ts) (hus : BraceBalanced us) :
    BraceBalanced (ts ++ us) := by
  intro d r
  rw [render_append, List.append_assoc, hts, hus]

theorem Flat.bracketBalanced (hts : Flat ts) : BracketBalanced ts := fun d r =>
  closeBracket_append (hts.special_not_mem (by decide) (by decide)) (hts.special_not_mem (by decide) (by decide)) d r

/-- The text of a token that contains no brace outside of strings. -/
theorem closeBrace_tok (ht : t.Sound) (ho : '\x7b' ∉ t.text) (hc : '\x7d' ∉ t.text) (d : Nat)
    (r : CStr) : closeBrace d false false (t.text ++ r) = closeBrace d false false r := by
  cases t with
  | key k =>
    have htext : (Tok.key k).text ++ r = '"' :: (name k ++ '"' :: ([':', ' '] ++ r)) := by
      simp [Tok.text, quoted]
    rw [htext, closeBrace_quoted (special_not_mem_name (by decide) k) (special_not_mem_name (by decide) k),
      closeBrace_append (by decide)]
  | val v sep =>
    obtain ⟨hv, hsep⟩ := ht
    have hseps : BraceFree sep :=
      ⟨hsep.unquoted.1, hsep.unquoted.2.1, fun h => ho (List.mem_append_right _ h),
        fun h => hc (List.mem_append_right _ h)⟩
    rw [Tok.text, List.append_assoc]
    by_cases hstr : ∃ s, v = .str s
    · obtain ⟨s, rfl⟩ := hstr
      have htext : (Value.str s).text ++ (sep ++ r) = '"' :: (s ++ '"' :: (sep ++ r)) := by
        simp [Value.text]
      rw [htext, closeBrace_quoted (PlainText.quote_not_mem hv) (PlainText.backslash_not_mem hv),
        closeBrace_append hseps]
    · rw [closeBrace_append (braceFree_of_mild fun _ => Value.mild_of_mem_text hstr), closeBrace_append hseps]
  | raw s => exact closeBrace_append ⟨ht.1, ht.2.1, ho, hc⟩ d r

/-- Sound tokens without braces are balanced. -/
theorem braceBalanced_of_not_mem (hs : Sound ts) (ho : '\x7b' ∉ render ts)
    (hc : '\x7d' ∉ render ts) : BraceBalanced ts := by
  intro d r
  induction ts with
  | nil => rfl
  | cons t ts ih =>
    obtain ⟨ht, hs⟩ := sound_cons.mp hs
    rw [render_cons, List.mem_append, not_or] at ho hc
    rw [render_cons, List.append_assoc, closeBrace_tok ht ho.1 hc.1, ih hs ho.2 hc.2]

/-- The inside of an object: sound tokens without braces, with whole arrays at most. -/
structure Inner (o : List (Tok Key)) : Prop where
  sound : Sound o
  noOpen : '\x7b' ∉ render o
  noClose : '\x7d' ∉ render o
  brackets : BracketBalanced o

theorem Flat.inner (ho : Flat o) : Inner o :=
  ⟨ho.sound, ho.special_not_mem (by decide) (by decide), ho.special_not_mem (by decide) (by decide), ho.bracketBalanced⟩

theorem Inner.append (ho : Inner o) (ho' : Inner o') : Inner (o ++ o') := by
  refine ⟨sound_append.mpr ⟨ho.sound, ho'.sound⟩, ?_, ?_, ho.brackets.append ho'.brackets⟩
  · rw [render_append, List.mem_append, not_or]
    exact ⟨ho.noOpen, ho'.noOpen⟩
  · rw [render_append, List.mem_append, not_or]
    exact ⟨ho.noClose, ho'.noClose⟩

theorem Inner.braces (ho : Inner o) : BraceBalanced o :=
  braceBalanced_of_not_mem ho.sound ho.noOpen ho.noClose

/-! ## Arrays of objects -/

/-- An object as it is cut out: from its opening brace to its closing one. -/
def braced (ind : Nat) (o : List (Tok Key)) : List (Tok Key) :=
  .raw ['\x7b', '\n'] :: o ++ [.raw (indent ind ++ ['\x7d'])]

/-- What stands between an object and the next one or the end. -/
def objectSep (os : List (List (Tok Key))) : CStr := if os = [] then ['\n'] else [',', '\n']

theorem objects_cons (ind : Nat) (o : List (Tok Key)) :
    objects ind (o :: os) = .raw (indent ind ++ ['\x7b', '\n']) :: o ++
      .raw (indent ind ++ '\x7d' :: objectSep os) :: objects ind os := by
  cases os with
  | nil => rfl
  | cons o' os => simp [objects, closeBlock, objectSep]

@[simp] theorem not_mem_objectSep (hc : c ≠ ',') (hn : c ≠ '\n') (os : List (List (Tok Key))) : c ∉ objectSep os := by
  unfold objectSep
  split <;> simp [hc, hn]

/-- The text of an array's first object, with the brace that ends it brought out. -/
theorem render_objects_cons (ind : Nat) (o : List (Tok Key)) (os : List (List (Tok Key))) (r : CStr) :
    render (objects ind (o :: os)) ++ r = indent ind ++ ('\x7b' :: '\n' :: (render o ++ (indent ind ++
        '\x7d' :: (objectSep os ++ (render (objects ind os) ++ r))))) := by
  rw [objects_cons]
  simp [render_append, render_cons, Tok.text]

theorem render_braced (ind : Nat) (o : List (Tok Key)) :
    render (braced ind o) = '\x7b' :: '\n' :: (render o ++ (indent ind ++ ['\x7d'])) := by
  simp [braced, render_append, render_cons, Tok.text]

/-- How the objects of an array are ended: `close` finds the brace written behind the object. -/
def Ends (close : CStr → Option CStr) (ind : Nat) (o : List (Tok Key)) : Prop :=
  ∀ r, close ('\x7b' :: '\n' :: (render o ++ (indent ind ++ '\x7d' :: r))) = some ('\x7d' :: r)

theorem ends_strchr (ho : Inner o) (ind : Nat) : Ends (strchr · '\x7d') ind o := by
  intro r
  have hhead : '\x7d' ∉ ['\x7b', '\n'] := by decide
  show strchr (['\x7b', '\n'] ++ (render o ++ (indent ind ++ '\x7d' :: r))) '\x7d' = some ('\x7d' :: r)
  rw [strchr_append_of_not_mem hhead, strchr_append_of_not_mem ho.noClose,
    strchr_append_of_not_mem (not_mem_indent (by decide) ind), strchr_cons_self]

theorem ends_findMatchingBrace (ho : BraceBalanced o) (ind : Nat) :
    Ends findMatchingBrace ind o := by
  intro r
  show closeBrace 0 false false (['\n'] ++ (render o ++ (indent ind ++ '\x7d' :: r))) = _
  rw [closeBrace_append (by decide), ho, closeBrace_append (braceFree_indent ind)]
  rfl

/-- `sliceThrough` takes everything up to the brace. -/
theorem sliceThrough_append (s r : CStr) (c : Char) : sliceThrough (s ++ c :: r) (c :: r) = s ++ [c] := by
  have hlen : (s ++ c :: r).length - (c :: r).length + 1 = (s ++ [c]).length := by
    simp only [List.length_append, List.length_cons, List.length_nil]
    omega
  have hassoc : s ++ c :: r = (s ++ [c]) ++ r := by simp
  rw [sliceThrough, hlen, hassoc, List.take_left]

/-- Behind the last object the loop stops. -/
theorem slicesBy_end (close : CStr → Option CStr) (n : Nat) (hpre : '\x7b' ∉ pre) (rest : CStr) :
    slicesBy close n (pre ++ ']' :: rest) (']' :: rest) = [] := by
  cases n with
  | zero => rfl
  | succ n =>
    rw [slicesBy]
    split
    · cases hfound : strchr (pre ++ ']' :: rest) '\x7b' with
      | none => rfl
      | some objStart =>
        -- the next brace lies behind the bracket
        have hlen := length_of_strchr_past hpre (by decide) hfound
        have hbefore : Before (']' :: rest) objStart = true := by
          simp only [Before, List.length_cons, decide_eq_true_eq]
          omega
        simp only [hbefore, if_true]
    · rfl

/-- The loop cuts out one object after the other. -/
theorem slicesBy_objects (hclose : ∀ o ∈ objs, Ends close ind o) (htail : '\x7b' ∉ tail) (rest : CStr) :
    ∀ {n}, objs.length ≤ n → ∀ pre : CStr, '\x7b' ∉ pre →
      slicesBy close n (pre ++ (render (objects ind objs) ++ (tail ++ ']' :: rest))) (']' :: rest) =
        objs.map fun o => render (braced ind o) := by
  induction objs with
  | nil =>
    intro n _ pre hpre
    have hnone : '\x7b' ∉ pre ++ tail := by
      rw [List.mem_append, not_or]
      exact ⟨hpre, htail⟩
    have h := slicesBy_end close n hnone rest
    rwa [List.append_assoc] at h
  | cons o os ih =>
    intro n hn pre hpre
    obtain ⟨n, rfl⟩ : ∃ m, n = m + 1 := ⟨n - 1, by simp only [List.length_cons] at hn; omega⟩
    rw [render_objects_cons]
    generalize hafter : objectSep os ++ (render (objects ind os) ++ (tail ++ ']' :: rest)) = after
    generalize hobj : '\x7b' :: '\n' :: (render o ++ (indent ind ++ '\x7d' :: after)) = obj
    have hafterLen : (']' :: rest).length ≤ after.length := by
      rw [← hafter]
      simp only [List.length_append]
      omega
    have hobjLen : after.length < obj.length := by
      rw [← hobj]
      simp only [List.length_append, List.length_cons]
      omega
    have hstart : strchr (pre ++ (indent ind ++ obj)) '\x7b' = some obj := by
      rw [strchr_append_of_not_mem hpre, strchr_append_of_not_mem (not_mem_indent (by decide) ind), ← hobj,
        strchr_cons_self]
    have hend : close obj = some ('\x7d' :: after) := by
      rw [← hobj]
      exact hclose o List.mem_cons_self after
    have hslice : sliceThrough obj ('\x7d' :: after) = render (braced ind o) := by
      have hassoc : obj = ('\x7b' :: '\n' :: (render o ++ indent ind)) ++ '\x7d' :: after := by
        rw [← hobj]; simp
      rw [hassoc, sliceThrough_append, render_braced]
      simp
    have hbefore : Before (pre ++ (indent ind ++ obj)) (']' :: rest) = true := by
      simp only [Before, List.length_append, decide_eq_true_eq]
      omega
    have hbefore₁ : Before (']' :: rest) obj = false := by
      simp only [Before, decide_eq_false_iff_not]
      omega
    have hbefore₂ : Before (']' :: rest) ('\x7d' :: after) = false := by
      simp only [Before, List.length_cons, decide_eq_false_iff_not] at hafterLen ⊢
      omega
    have htailIh := ih (fun o ho => hclose o (List.mem_cons_of_mem _ ho))
      (Nat.le_of_succ_le_succ hn) _ (not_mem_objectSep (by decide) (by decide) os)
    rw [hafter] at htailIh
    rw [slicesBy, hbefore, hstart]
    simp only [hbefore₁, hend, hbefore₂, hslice, List.drop_succ_cons, List.drop_zero, htailIh, List.map_cons,
      if_true, Bool.false_eq_true, if_false]

/-- Objects with balanced brackets make an array with balanced brackets. -/
theorem bracketBalanced_objects (hobjs : ∀ o ∈ objs, BracketBalanced o) :
    BracketBalanced (objects ind objs) := by
  induction objs with
  | nil => intro d r; rfl
  | cons o os ih =>
    intro d r
    have ho := hobjs o List.mem_cons_self
    have ih := ih fun o ho => hobjs o (List.mem_cons_of_mem _ ho)
    have htext : render (objects ind (o :: os)) ++ r = (indent ind ++ ['\x7b', '\n']) ++ (render o ++
        ((indent ind ++ '\x7d' :: objectSep os) ++ (render (objects ind os) ++ r))) := by
      rw [render_objects_cons]; simp
    rw [htext, closeBracket_append (by simp) (by simp), ho, closeBracket_append (by simp) (by simp), ih]

/-- The array behind a key: from its bracket to the matching one. -/
theorem arrayFrom_render {open_ tail : CStr} {body rest : List (Tok Key)}
    (hopen : '[' ∉ open_ ∧ ']' ∉ open_) (hbody : BracketBalanced body) (htail : '[' ∉ tail ∧ ']' ∉ tail)
    (stop : CStr) :
    arrayFrom (render (Tok.key k :: Tok.raw ('[' :: open_) :: (body ++ Tok.raw (tail ++ ']' :: stop) :: rest))) =
      some ('[' :: (open_ ++ (render body ++ (tail ++ ']' :: (stop ++ render rest)))),
        ']' :: (stop ++ render rest)) := by
  have htext : render (Tok.key k :: Tok.raw ('[' :: open_) :: (body ++ Tok.raw (tail ++ ']' :: stop) :: rest)) =
      (Tok.key k).text ++ '[' :: (open_ ++ (render body ++ (tail ++ ']' :: (stop ++ render rest)))) := by
    simp [render_append, render_cons, Tok.text]
  have hkey : '[' ∉ (Tok.key k).text := special_not_mem_key (by decide) (by decide) k
  rw [arrayFrom, htext, strchr_append_of_not_mem hkey, strchr_cons_self, Option.bind_some, findMatchingBracket,
    closeBracket_append hopen.1 hopen.2, hbody, closeBracket_append htail.1 htail.2]
  rfl

/-- The tokens of an array from its key on. -/
theorem tail_objectArray (ind : Nat) (k : Key) (objs : List (List (Tok Key))) (stop : CStr) (rest : List (Tok Key)) :
    (objectArray ind k objs stop ++ rest).tail =
      Tok.key k :: Tok.raw ('[' :: ['\n']) :: (objects (ind + 2) objs ++ Tok.raw (indent ind ++ ']' :: stop) :: rest) := by
  simp [objectArray]

theorem arrayFrom_objectArray
    (hobjs : ∀ o ∈ objs, BracketBalanced o) (stop : CStr) (rest : List (Tok Key)) :
    arrayFrom (render (objectArray ind k objs stop ++ rest).tail) =
      some ('[' :: (['\n'] ++ (render (objects (ind + 2) objs) ++ (indent ind ++ ']' :: (stop ++ render rest)))),
        ']' :: (stop ++ render rest)) := by
  rw [tail_objectArray]
  exact arrayFrom_render (by decide) (bracketBalanced_objects hobjs) (by simp) stop

/-- The objects of an array by their first closing brace. -/
theorem objectsAfter_objectArray
    (hobjs : ∀ o ∈ objs, Inner o) (hn : objs.length ≤ n) (stop : CStr) (rest : List (Tok Key)) :
    objectsAfter n (render (objectArray ind k objs stop ++ rest).tail) =
      objs.map fun o => render (braced (ind + 2) o) := by
  rw [objectsAfter, arrayFrom_objectArray fun o ho => (hobjs o ho).brackets]
  exact slicesBy_objects (fun o ho => ends_strchr (hobjs o ho) (ind + 2))
    (not_mem_indent (by decide) ind) (stop ++ render rest) hn ['[', '\n'] (by decide)

/-- The objects of an array by matching braces. -/
theorem bracedAfter_objectArray
    (hobjs : ∀ o ∈ objs, Inner o) (hn : objs.length ≤ n) (stop : CStr) (rest : List (Tok Key)) :
    bracedAfter n (render (objectArray ind k objs stop ++ rest).tail) =
      objs.map fun o => render (braced (ind + 2) o) := by
  rw [bracedAfter, arrayFrom_objectArray fun o ho => (hobjs o ho).brackets]
  exact slicesBy_objects (fun o ho => ends_findMatchingBrace (hobjs o ho).braces (ind + 2))
    (not_mem_indent (by decide) ind) (stop ++ render rest) hn ['[', '\n'] (by decide)

/-! ## Blocks -/

/-- Text that `find_matching_brace` passes over, as a token. -/
theorem braceBalanced_raw (hs : BraceFree s) : BraceBalanced [.raw s] := by
  intro d r
  have htext : render [(Tok.raw s : Tok Key)] ++ r = s ++ r := by simp [render_cons, Tok.text]
  rw [htext, closeBrace_append hs]

/-- What is written between two braces and around them. -/
theorem braceBalanced_braces (hbody : BraceBalanced body) (i j : Nat)
    (hstop : BraceFree stop) :
    BraceBalanced (Tok.raw (indent i ++ ['\x7b', '\n']) :: (body ++ [Tok.raw (indent j ++ '\x7d' :: stop)])) := by
  intro d r
  have htext : render (Tok.raw (indent i ++ ['\x7b', '\n']) :: (body ++ [Tok.raw (indent j ++ '\x7d' :: stop)])) ++ r =
      indent i ++ '\x7b' :: (['\n'] ++ (render body ++ (indent j ++ '\x7d' :: (stop ++ r)))) := by
    simp [render_append, render_cons, Tok.text]
  -- the opening brace adds one to the depth, the closing one takes it back
  have hup (s : CStr) : closeBrace d false false ('\x7b' :: s) = closeBrace (d + 1) false false s := by
    rw [closeBrace.eq_def]; rfl
  have hdown (s : CStr) : closeBrace (d + 1) false false ('\x7d' :: s) = closeBrace d false false s := by
    rw [closeBrace.eq_def]; rfl
  rw [htext, closeBrace_append (braceFree_indent i), hup, closeBrace_append (by decide), hbody,
    closeBrace_append (braceFree_indent j), hdown, closeBrace_append hstop]

theorem braceBalanced_key (ind : Nat) (k : Key) : BraceBalanced [.raw (indent ind), .key k] := by
  have hkey {c : Char} (hspecial : isSpecial c = true) (hquote : c ≠ '"') : c ∉ (Tok.key k).text :=
    special_not_mem_key hspecial hquote k
  have hsound : Sound [.raw (indent ind), .key k] := by simp [Tok.Sound]
  exact braceBalanced_of_not_mem hsound (by simp [render_cons, hkey, Tok.text.eq_3, isSpecial])
    (by simp [render_cons, hkey, Tok.text.eq_3, isSpecial])

theorem BraceBalanced.block (hbody : BraceBalanced body) (ind : Nat) (k : Key)
    (hstop : BraceFree stop) :
    BraceBalanced (openBlock ind k ++ body ++ [Tok.raw (indent ind ++ '\x7d' :: stop)]) := by
  have hassoc : openBlock ind k ++ body ++ [Tok.raw (indent ind ++ '\x7d' :: stop)] =
      ([Tok.raw (indent ind), Tok.key k] : List (Tok Key)) ++
        Tok.raw (indent 0 ++ ['\x7b', '\n']) :: (body ++ [Tok.raw (indent ind ++ '\x7d' :: stop)]) := by
    simp [openBlock, indent]
  rw [hassoc]
  exact (braceBalanced_key ind k).append (braceBalanced_braces hbody 0 ind hstop)

theorem braceBalanced_objects (ind : Nat) (hobjs : ∀ o ∈ objs, BraceBalanced o) :
    BraceBalanced (objects ind objs) := by
  induction objs with
  | nil => intro d r; rfl
  | cons o os ih =>
    have hsep : BraceFree (objectSep os) := by simp [BraceFree]
    have hfirst := braceBalanced_braces (hobjs o List.mem_cons_self) ind ind hsep
    have h := hfirst.append (ih fun o ho => hobjs o (List.mem_cons_of_mem _ ho))
    rw [objects_cons]
    simpa using h

theorem braceBalanced_objectArray
    (hobjs : ∀ o ∈ objs, BraceBalanced o)
    (hstop : BraceFree stop) :
    BraceBalanced (objectArray ind k objs stop) := by
  have hbracket : BraceFree ([']'] ++ stop) := BraceFree.append (by decide) hstop
  have hend := braceBalanced_raw ((braceFree_indent ind).append hbracket)
  have hopen := (braceBalanced_key ind k).append (braceBalanced_raw (s := ['[', '\n']) (by decide))
  exact (hopen.append (braceBalanced_objects (ind + 2) hobjs)).append hend

/-- A block cut out by matching braces. -/
theorem objectAfter_block (hbody : BraceBalanced body) (k : Key) (ind : Nat) (stop : CStr)
    (rest : List (Tok Key)) :
    objectAfter (render (Tok.key k :: Tok.raw ['\x7b', '\n'] :: (body ++ Tok.raw (indent ind ++ '\x7d' :: stop) :: rest))) =
      some (render (braced ind body)) := by
  have htext : render (Tok.key k :: Tok.raw ['\x7b', '\n'] :: (body ++ Tok.raw (indent ind ++ '\x7d' :: stop) :: rest)) =
      (Tok.key k).text ++ '\x7b' :: '\n' :: (render body ++ (indent ind ++ '\x7d' :: (stop ++ render rest))) := by
    simp [render_append, render_cons, Tok.text]
  have hkey : '\x7b' ∉ (Tok.key k).text := special_not_mem_key (by decide) (by decide) k
  have hend := ends_findMatchingBrace hbody ind (stop ++ render rest)
  have hassoc : '\x7b' :: '\n' :: (render body ++ (indent ind ++ '\x7d' :: (stop ++ render rest))) =
      ('\x7b' :: '\n' :: (render body ++ indent ind)) ++ '\x7d' :: (stop ++ render rest) := by simp
  rw [objectAfter, htext, strchr_append_of_not_mem hkey, strchr_cons_self, Option.bind_some, hend, Option.map_some,
    hassoc, sliceThrough_append, render_braced]
  simp

/-! ## Arrays of strings -/

/-- The quoted texts of an array, with what stands between two of them. -/
def quotedAll (sep : CStr) : List CStr → CStr
  | [] => []
  | [x] => '"' :: x ++ ['"']
  | x :: y :: xs => '"' :: x ++ '"' :: (sep ++ quotedAll sep (y :: xs))

/-- What stands before the first and behind the last of a list's entries, or between two of them. -/
def entriesPad (xs : List CStr) (pad : CStr) : CStr := if xs = [] then [] else pad

theorem mem_of_mem_entriesPad (h : c ∈ entriesPad xs pad) : c ∈ pad := by
  unfold entriesPad at h
  split at h
  · exact absurd h List.not_mem_nil
  · exact h

theorem quotedAll_cons (sep x : CStr) (xs : List CStr) :
    quotedAll sep (x :: xs) = '"' :: (x ++ '"' :: (entriesPad xs sep ++ quotedAll sep xs)) := by
  cases xs <;> simp [quotedAll, entriesPad]

theorem length_le_quotedAll (sep : CStr) (xs : List CStr) : xs.length ≤ (quotedAll sep xs).length := by
  induction xs with
  | nil => exact Nat.zero_le _
  | cons x xs ih =>
    rw [quotedAll_cons]
    simp only [List.length_append, List.length_cons]
    omega

/-- Behind the last name the loop stops. -/
theorem quotedNames_end (size n : Nat) (hpre : '"' ∉ pre) (rest : CStr) :
    quotedNames size n (pre ++ ']' :: rest) (']' :: rest) = [] := by
  cases n with
  | zero => rfl
  | succ n =>
    rw [quotedNames]
    split
    · cases hfound : strchr (pre ++ ']' :: rest) '"' with
      | none => rfl
      | some q1 =>
        have hlen := length_of_strchr_past hpre (by decide) hfound
        have hbefore : Before q1 (']' :: rest) = false := by
          simp only [Before, List.length_cons, decide_eq_false_iff_not]
          omega
        simp only [hbefore, Bool.false_eq_true, if_false]
    · rfl

/-- One name is read. -/
theorem quotedNames_cons (size n : Nat) {pre x after gwEnd : CStr} (hpre : '"' ∉ pre) (hx : '"' ∉ x)
    (hend : gwEnd.length ≤ after.length) :
    quotedNames size (n + 1) (pre ++ '"' :: (x ++ '"' :: after)) gwEnd =
      copyInto size x :: quotedNames size n after gwEnd := by
  have hstart : strchr (pre ++ '"' :: (x ++ '"' :: after)) '"' = some ('"' :: (x ++ '"' :: after)) := by
    rw [strchr_append_of_not_mem hpre, strchr_cons_self]
  have hstop : strchr (x ++ '"' :: after) '"' = some ('"' :: after) := by
    rw [strchr_append_of_not_mem hx, strchr_cons_self]
  have htake : (x ++ '"' :: after).take ((x ++ '"' :: after).length - ('"' :: after).length) = x := by
    rw [List.length_append, Nat.add_sub_cancel, List.take_left]
  have hbefore : Before (pre ++ '"' :: (x ++ '"' :: after)) gwEnd = true := by
    simp only [Before, List.length_append, List.length_cons, decide_eq_true_eq]
    omega
  have hbefore₁ : Before ('"' :: (x ++ '"' :: after)) gwEnd = true := by
    simp only [Before, List.length_append, List.length_cons, decide_eq_true_eq]
    omega
  have hbefore₂ : Before gwEnd ('"' :: after) = false := by
    simp only [Before, List.length_cons, decide_eq_false_iff_not]
    omega
  rw [quotedNames, hbefore, hstart]
  simp only [hbefore₁, hbefore₂, List.drop_succ_cons, List.drop_zero, hstop, htake, if_true, Bool.false_eq_true,
    if_false]

/-- The names read are the names written, each cut to its array. -/
theorem quotedNames_quotedAll (size : Nat) (hsep : '"' ∉ sep) (hpost : '"' ∉ post) (rest : CStr)
    {xs : List CStr} (hxs : ∀ x ∈ xs, '"' ∉ x) :
    ∀ {n}, xs.length ≤ n → ∀ pre : CStr, '"' ∉ pre →
      quotedNames size n (pre ++ (quotedAll sep xs ++ (post ++ ']' :: rest))) (']' :: rest) =
        xs.map (copyInto size) := by
  induction xs with
  | nil =>
    intro n _ pre hpre
    have hnone : '"' ∉ pre ++ post := by
      rw [List.mem_append, not_or]
      exact ⟨hpre, hpost⟩
    have h := quotedNames_end size n hnone rest
    rwa [List.append_assoc] at h
  | cons x xs ih =>
    intro n hn pre hpre
    obtain ⟨n, rfl⟩ : ∃ m, n = m + 1 := ⟨n - 1, by simp only [List.length_cons] at hn; omega⟩
    have hx : '"' ∉ x := hxs x List.mem_cons_self
    have hpad : '"' ∉ entriesPad xs sep := fun h => hsep (mem_of_mem_entriesPad h)
    have hlen : (']' :: rest).length ≤ (entriesPad xs sep ++ (quotedAll sep xs ++ (post ++ ']' :: rest))).length := by
      simp only [List.length_append]
      omega
    have htail := ih (fun y hy => hxs y (List.mem_cons_of_mem x hy)) (Nat.le_of_succ_le_succ hn) _ hpad
    have hread := quotedNames_cons size n hpre hx hlen
    rw [htail] at hread
    simpa [quotedAll_cons] using hread

/-- Text without braces and brackets. -/
def Unbracketed (s : CStr) : Prop := ∀ c ∈ s, c ≠ '[' ∧ c ≠ ']' ∧ c ≠ '\x7b' ∧ c ≠ '\x7d'

theorem Unbracketed.not_mem (h : Unbracketed s) : '[' ∉ s ∧ ']' ∉ s ∧ '\x7b' ∉ s ∧ '\x7d' ∉ s :=
  ⟨fun hc => (h _ hc).1 rfl, fun hc => (h _ hc).2.1 rfl, fun hc => (h _ hc).2.2.1 rfl, fun hc => (h _ hc).2.2.2 rfl⟩

theorem Unbracketed.passed (h : Unbracketed s) (d : Nat) (r : CStr) : closeBracket d (s ++ r) = closeBracket d r :=
  closeBracket_append h.not_mem.1 h.not_mem.2.1 d r

@[simp] theorem unbracketed_nil : Unbracketed [] := fun _ h => absurd h List.not_mem_nil

@[simp] theorem unbracketed_cons :
    Unbracketed (c :: s) ↔ (c ≠ '[' ∧ c ≠ ']' ∧ c ≠ '\x7b' ∧ c ≠ '\x7d') ∧ Unbracketed s := List.forall_mem_cons

@[simp] theorem unbracketed_append {s t : CStr} : Unbracketed (s ++ t) ↔ Unbracketed s ∧ Unbracketed t :=
  List.forall_mem_append

theorem unbracketed_of_plain (hs : PlainText Key s) : Unbracketed s := by
  intro c hc
  have hplain := (hs.plain c hc).1
  refine ⟨?_, ?_, ?_, ?_⟩ <;> rintro rfl <;> exact absurd hplain (by decide)

@[simp] theorem unbracketed_indent (n : Nat) : Unbracketed (indent n) := by
  intro c hc
  rw [List.eq_of_mem_replicate hc]
  decide

@[simp] theorem unbracketed_key (k : Key) : Unbracketed (Tok.key k).text := by
  intro c hc
  refine ⟨?_, ?_, ?_, ?_⟩ <;> rintro rfl <;> exact special_not_mem_key (by decide) (by decide) k hc

theorem unbracketed_entriesPad {pad : CStr} {xs : List CStr} (h : Unbracketed pad) : Unbracketed (entriesPad xs pad) :=
  fun c hc => h c (mem_of_mem_entriesPad hc)

theorem unbracketed_quotedAll {sep : CStr} (hsep : Unbracketed sep) {xs : List CStr}
    (h : ∀ x ∈ xs, PlainText Key x) : Unbracketed (quotedAll sep xs) := by
  induction xs with
  | nil => exact unbracketed_nil
  | cons x xs ih =>
    have hx := unbracketed_of_plain (h x List.mem_cons_self)
    have hxs := ih fun z hz => h z (List.mem_cons_of_mem x hz)
    rw [quotedAll_cons]
    simp [hx, unbracketed_entriesPad hsep, hxs]

/-- Tokens whose text is one array without further brackets. -/
theorem inner_of_array (hs : Sound ts)
    (htext : render ts = pre ++ '[' :: (mid ++ ']' :: post)) (hpre : Unbracketed pre) (hmid : Unbracketed mid)
    (hpost : Unbracketed post) : Inner ts := by
  refine ⟨hs, ?_, ?_, fun d r => ?_⟩
  · simp [htext, hpre.not_mem, hmid.not_mem, hpost.not_mem]
  · simp [htext, hpre.not_mem, hmid.not_mem, hpost.not_mem]
  · simp [htext, hpre.passed, hmid.passed, hpost.passed]

end FluxWAN
