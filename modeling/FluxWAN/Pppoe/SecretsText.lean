/-
  The secrets as pppd reads them.

  `write_pppoe_secrets` prints each account as `"name" * "password" address` and escapes nothing.  pppd takes quotes and
  backslashes apart again (`Lib/PppdWords`), so what it reads is the table only when the fields are plain.

  1. **Program** — `Line.text`, what a line of the file is in characters.
  2. **Specification** — `accounts`, the entries that the enabled, unexpired subscribers with a name call for.
  3. **Correctness** — `entries_secrets_iff`: pppd reads `accounts` exactly when no name or password of a listed
     subscriber has a double quote or a backslash and no address has a character that means something outside quotes.
     One direction runs the reader over each line.  The other counts: every character that the reader swallows is missing
     from the entries, so there is no escape anywhere (`Lossless.no_backslash`), then no double quote in a field, and
     then the reader is between words at each address.
-/
import FluxWAN.Lib.PppdWords
import FluxWAN.Pppoe.SecretFiles

namespace FluxWAN.Pppoe

open CString Pppd

variable {s : Secret}

/-! ## The text of the files -/

/-- `"\"%s\" * \"%s\" %s\n"`, up to the address. -/
def Secret.opening (s : Secret) : CStr :=
  '"' :: (s.client ++ (['"', ' ', '*', ' ', '"'] ++ (s.password ++ ['"', ' '])))

def Secret.text (s : Secret) : CStr := s.opening ++ (s.address ++ ['\n'])

def Line.text : Line → CStr
  | .plugin => "plugin /usr/lib/pppd/2.5.0/pppoe.so\n".toList
  | .comment text => text ++ ['\n']
  | .secret s => s.text

def fileText (lines : List Line) : CStr := lines.flatMap Line.text

/-! ## What the file is for -/

/-- Enabled, with a name, and not expired. -/
def Listed (now : UInt64) (u : PppoeUser) : Prop := u.enabled = true ∧ u.username ≠ [] ∧ ¬ Expired now u

instance (now : UInt64) (u : PppoeUser) : Decidable (Listed now u) := inferInstanceAs (Decidable (_ ∧ _))

/-- One entry per listed subscriber: the name, any server, the password, and the address or any. -/
def accounts (now : UInt64) (cfg : PppoeServerConfig) : List (List CStr) :=
  (cfg.users.filter (Listed now)).map fun u =>
    [u.username, ['*'], u.password, if u.staticIp = [] then ['*'] else u.staticIp]

/-- Fields that pppd reads back as they are. -/
def Plain (client password address : CStr) : Prop :=
  Quotable client ∧ Quotable password ∧ ∀ c ∈ address, Ordinary c

def Secret.entry (s : Secret) : List CStr := [s.client, ['*'], s.password, s.address]

/-! ## One line -/

theorem scan_opening (hclient : Quotable s.client) (hpassword : Quotable s.password) :
    scan .gap s.opening =
      (s.client.map .char ++ ([.stop, .char '*', .stop] ++ (s.password.map .char ++ [.stop])), .gap) := by
  have hopen : scan .gap ['"'] = ([], .word (some '"')) := rfl
  have hserver : scan (.word (some '"')) ['"', ' ', '*', ' ', '"'] =
      ([.stop, .char '*', .stop], .word (some '"')) := rfl
  have hclose : scan (.word (some '"')) ['"', ' '] = ([.stop], .gap) := rfl
  have hsplit : s.opening = ['"'] ++ (s.client ++ (['"', ' ', '*', ' ', '"'] ++ (s.password ++ ['"', ' ']))) := rfl
  simp only [hsplit, scan_append, hopen, scan_quoted hclient, hserver, scan_quoted hpassword, hclose]
  rfl

/-- The line end behind an address. -/
theorem scan_newline {m : Mode} (hm : m.Unquoted) : passed (scan m ['\n']).1 = [] ∧ (scan m ['\n']).2 = .gap := by
  rcases hm with rfl | rfl
  · exact ⟨rfl, rfl⟩
  · exact ⟨rfl, rfl⟩

theorem scan_text (h : Plain s.client s.password s.address) (hne : s.address ≠ []) :
    scan .gap s.text = (s.client.map .char ++ (.stop :: (['*'].map .char ++ (.stop :: (s.password.map .char ++
        (.stop :: (s.address.map .char ++ [.stop, .newline])))))), .gap) := by
  obtain ⟨hclient, hpassword, haddress⟩ := h
  have hend : scan (.word none) ['\n'] = ([.stop, .newline], .gap) := rfl
  rw [Secret.text, scan_append, scan_opening hclient hpassword, scan_append, scan_bare haddress (.inl rfl) hne, hend]
  simp

/-- A plain line is its entry. -/
theorem assemble_text (h : Plain s.client s.password s.address) (hne : s.address ≠ []) :
    assemble (events .gap (s.text ++ rest)) [] [] = s.entry :: assemble (events .gap rest) [] [] := by
  rw [events_append, scan_text h hne]
  simp only [List.append_assoc, List.cons_append, assemble_chars, assemble, List.nil_append]
  rfl

/-! ## The whole file -/

section
variable (secrets : List Secret)

/-- What the file has after the header. -/
def body : CStr := secrets.flatMap Secret.text

theorem fileText_secrets : fileText (secretsHeader ++ secrets.map .secret) = fileText secretsHeader ++ body secrets := by
  rw [fileText, List.flatMap_append, List.flatMap_map]
  rfl

/-- The header is three comments. -/
theorem scan_header : scan .gap (fileText secretsHeader) = ([.newline, .newline, .newline], .gap) := by
  decide

theorem events_file :
    events .gap (fileText (secretsHeader ++ secrets.map .secret)) =
      [.newline, .newline, .newline] ++ events .gap (body secrets) := by
  rw [fileText_secrets, events_append, scan_header]

theorem entries_body (h : ∀ s ∈ secrets, Plain s.client s.password s.address ∧ s.address ≠ []) :
    assemble (events .gap (body secrets)) [] [] = secrets.map Secret.entry ++ [[]] := by
  induction secrets with
  | nil => rfl
  | cons s secrets ih =>
    obtain ⟨⟨hplain, hne⟩, hrest⟩ := List.forall_mem_cons.mp h
    show assemble (events .gap (s.text ++ body secrets)) [] [] = _
    rw [assemble_text hplain hne, ih hrest]
    rfl

/-- Plain fields are read back. -/
theorem entries_of_plain (h : ∀ s ∈ secrets, Plain s.client s.password s.address ∧ s.address ≠ []) :
    entries (fileText (secretsHeader ++ secrets.map .secret)) = secrets.map Secret.entry := by
  have hthree : (secrets.map Secret.entry).filter (fun words => 3 ≤ words.length) = secrets.map Secret.entry := by
    rw [List.filter_eq_self]
    intro words hwords
    obtain ⟨s, -, rfl⟩ := List.mem_map.mp hwords
    rfl
  rw [entries, events_file]
  show (([] : List CStr) :: [] :: [] :: assemble (events .gap (body secrets)) [] []).filter _ = _
  rw [entries_body secrets h]
  simp [List.filter_append, hthree]

/-! ## Only plain fields -/

/-- The fields of all the entries, in one text. -/
def fields : CStr := secrets.flatMap fun s => s.entry.flatten

theorem flatten_entries : (secrets.map Secret.entry).flatten.flatten = fields secrets := by
  induction secrets with
  | nil => rfl
  | cons s secrets ih =>
    rw [List.map_cons, List.flatten_cons, List.flatten_append, ih]
    rfl

/-- Around its fields a line has only double quotes, blanks and a line end. -/
theorem heavy_body : (body secrets).countP heavy = (fields secrets).countP heavy := by
  induction secrets with
  | nil => rfl
  | cons s secrets ih =>
    have hquote : heavy '"' = false := rfl
    have hblank : heavy ' ' = false := rfl
    have hend : heavy '\n' = false := rfl
    show (s.text ++ body secrets).countP heavy = (s.entry.flatten ++ fields secrets).countP heavy
    rw [List.countP_append, List.countP_append, ih]
    simp only [Secret.text, Secret.opening, Secret.entry, List.flatten_cons, List.flatten_nil, List.cons_append,
      List.countP_append, List.countP_cons, List.countP_nil, hquote, hblank, hend, Bool.false_eq_true, if_false]
    omega

variable {secrets}
variable (h : entries (fileText (secretsHeader ++ secrets.map .secret)) = secrets.map Secret.entry)
include h

theorem countP_fields_le (p : Char → Bool) :
    (fields secrets).countP p ≤ (passed (events .gap (body secrets))).countP p := by
  have hle := countP_entries_le p (fileText (secretsHeader ++ secrets.map .secret))
  rw [h, flatten_entries, events_file, passed_append] at hle
  exact hle

/-- When the entries are all there, nothing that counts was swallowed. -/
theorem lossless_body : Lossless .gap (body secrets) := by
  refine ⟨.inl (.inl rfl), Nat.le_antisymm (heavy_events_le .gap (body secrets)) ?_⟩
  rw [heavy_body]
  exact countP_fields_le h heavy

theorem no_backslash (hs : s ∈ secrets) : '\\' ∉ s.text := by
  intro hmem
  exact (lossless_body h).no_backslash (List.mem_flatMap.mpr ⟨s, hs, hmem⟩)

theorem no_quote (hs : s ∈ secrets) : '"' ∉ s.entry.flatten := by
  intro hmem
  have hcount : 0 < (fields secrets).countP (· = '"') :=
    List.countP_pos_iff.mpr ⟨'"', List.mem_flatMap.mpr ⟨s, hs, hmem⟩, by simp⟩
  obtain ⟨c, hc, heq⟩ := List.countP_pos_iff.mp (hcount.trans_le (countP_fields_le h _))
  rw [of_decide_eq_true heq] at hc
  exact (lossless_body h).no_quote hc

theorem quotable_fields (hs : s ∈ secrets) :
    Quotable s.client ∧ Quotable s.password ∧ '"' ∉ s.address := by
  have hback := no_backslash h hs
  have hquote := no_quote h hs
  simp only [Secret.text, Secret.opening, Secret.entry, List.flatten_cons, List.mem_append, List.mem_cons,
    not_or] at hback hquote
  refine ⟨fun c hc => ⟨?_, ?_⟩, fun c hc => ⟨?_, ?_⟩, hquote.2.2.2.1⟩
  · rintro rfl
    exact hquote.1 hc
  · rintro rfl
    exact hback.1.2.1 hc
  · rintro rfl
    exact hquote.2.2.1 hc
  · rintro rfl
    exact hback.1.2.2.2.1 hc

omit h in
/-- With plain names and passwords the reader is between words at each address. -/
theorem addresses_of_lossless (hloss : Lossless .gap (body secrets))
    (hfields : ∀ s ∈ secrets, Quotable s.client ∧ Quotable s.password ∧ '"' ∉ s.address) :
    (∀ s ∈ secrets, ∀ c ∈ s.address, solid c = true → Ordinary c) ∧
      passed (events .gap (body secrets)) =
        secrets.flatMap fun s => s.client ++ ('*' :: (s.password ++ s.address.filter solid)) := by
  induction secrets with
  | nil => exact ⟨fun _ hs => absurd hs List.not_mem_nil, rfl⟩
  | cons s secrets ih =>
    obtain ⟨⟨hclient, hpassword, hquote⟩, hrest⟩ := List.forall_mem_cons.mp hfields
    have hbody : body (s :: secrets) = s.opening ++ (s.address ++ (['\n'] ++ body secrets)) := by
      show s.text ++ body secrets = _
      simp [Secret.text]
    rw [hbody] at hloss ⊢
    have haddress := hloss.append
    rw [scan_opening hclient hpassword] at haddress
    obtain ⟨hord, hpassed, hmode⟩ := haddress.unquoted (.inl rfl) hquote
    obtain ⟨hnone, hgap⟩ := scan_newline hmode
    have hnext := haddress.append.append
    rw [hgap] at hnext
    obtain ⟨hall, htext⟩ := ih hnext hrest
    refine ⟨List.forall_mem_cons.mpr ⟨hord, hall⟩, ?_⟩
    rw [events_append, scan_opening hclient hpassword, events_append, events_append, hgap]
    simp only [passed_append, passed_chars, hpassed, hnone, htext, List.flatMap_cons]
    simp [passed]

omit h in
theorem length_fields : (fields secrets).length =
    (secrets.flatMap fun s => s.client ++ ('*' :: (s.password ++ s.address.filter solid))).length +
      (secrets.flatMap fun s => s.address.filter fun c => !solid c).length := by
  induction secrets with
  | nil => rfl
  | cons s secrets ih =>
    have hsplit := List.length_eq_length_filter_add (l := s.address) solid
    simp only [fields, Secret.entry, List.flatMap_cons, List.flatten_cons, List.flatten_nil, List.length_append,
      List.length_cons, List.length_nil] at ih ⊢
    omega

/-- So no address has a blank or a line end, which would be missing. -/
theorem solid_addresses (hs : s ∈ secrets) : ∀ c ∈ s.address, solid c = true := by
  have hpassed := (addresses_of_lossless (lossless_body h) fun s hs => quotable_fields h hs).2
  have hle := countP_fields_le h fun _ => true
  rw [hpassed, List.countP_true, length_fields] at hle
  have hnil : (secrets.flatMap fun s => s.address.filter fun c => !solid c) = [] :=
    List.eq_nil_of_length_eq_zero (by omega)
  have hfilter := List.filter_eq_nil_iff.mp (List.flatMap_eq_nil_iff.mp hnil s hs)
  intro c hc
  simpa using hfilter c hc

theorem plain_of_entries (hs : s ∈ secrets) : Plain s.client s.password s.address := by
  obtain ⟨hclient, hpassword, -⟩ := quotable_fields h hs
  have haddresses := (addresses_of_lossless (lossless_body h) fun s hs => quotable_fields h hs).1
  exact ⟨hclient, hpassword, fun c hc => haddresses s hs c hc (solid_addresses h hs c hc)⟩

end

/-! ## The table -/

theorem accounts_eq (cfg : PppoeServerConfig) : accounts now cfg = (secretsOf now cfg).map Secret.entry := by
  rw [accounts, secretsOf, List.map_map]
  refine List.map_congr_left fun u _ => ?_
  by_cases hip : u.staticIp = []
  · simp [Secret.entry, hip]
  · simp [Secret.entry, hip]

theorem plain_secrets_iff (cfg : PppoeServerConfig) :
    (∀ s ∈ secretsOf now cfg, Plain s.client s.password s.address) ↔
      ∀ u ∈ cfg.users, Listed now u → Plain u.username u.password u.staticIp := by
  have hany : ∀ c ∈ ['*'], Ordinary c := by
    intro c hc
    rw [List.mem_singleton.mp hc]
    exact ⟨by decide, by decide, by decide, by decide, rfl⟩
  have hone : ∀ u : PppoeUser, Plain u.username u.password (if u.staticIp ≠ [] then u.staticIp else ['*']) ↔
      Plain u.username u.password u.staticIp := by
    intro u
    by_cases hip : u.staticIp = []
    · rw [if_neg (not_not.mpr hip), hip]
      simp only [Plain, iff_true_intro hany, List.not_mem_nil, false_implies, implies_true]
    · rw [if_pos hip]
  simp only [secretsOf, List.forall_mem_map, List.mem_filter, decide_eq_true_eq, and_imp, hone]
  exact ⟨fun h u hu hl => h u hu hl.1 hl.2.1 hl.2.2, fun h u hu hen hname hexp => h u hu ⟨hen, hname, hexp⟩⟩

theorem address_ne_nil (hs : s ∈ secretsOf now cfg) : s.address ≠ [] := by
  obtain ⟨u, -, rfl⟩ := List.mem_map.mp hs
  show (if u.staticIp ≠ [] then u.staticIp else ['*']) ≠ []
  split
  · assumption
  · exact List.cons_ne_nil _ _

/-- **What pppd reads.**  After `write_pppoe_secrets`, pppd finds exactly the accounts of the listed subscribers in each
    file that could be opened if and only if all their fields are plain. -/
theorem entries_secrets_iff (now : UInt64) (cfg : PppoeServerConfig) (opens : PppFile → Bool)
    (files : PppFile → List Line) (file : PppFile) (hfile : file = .papSecrets ∨ file = .chapSecrets)
    (hopen : opens file = true) :
    entries (fileText (writePppoeSecrets (secretsOf now cfg) opens files file)) = accounts now cfg ↔
      ∀ u ∈ cfg.users, Listed now u → Plain u.username u.password u.staticIp := by
  have hwritten : writePppoeSecrets (secretsOf now cfg) opens files file =
      secretsHeader ++ (secretsOf now cfg).map .secret := by
    rcases hfile with rfl | rfl
    · exact if_pos hopen
    · exact if_pos hopen
  rw [hwritten, accounts_eq, ← plain_secrets_iff]
  constructor
  · intro h s hs
    exact plain_of_entries h hs
  · intro h
    exact entries_of_plain _ fun s hs => ⟨h s hs, address_ne_nil hs⟩

/-- A name with a blank in it, which the quotes take care of. -/
def plainTable : PppoeServerConfig :=
  oneSubscriber { username := ['a', ' ', 'b'], password := ['p', '#'], enabled := true }

theorem entries_plainTable :
    entries (fileText (writePppoeSecrets (secretsOf 0 plainTable) allOpen (fun _ => []) .chapSecrets)) =
      accounts 0 plainTable := by
  refine (entries_secrets_iff 0 plainTable allOpen _ .chapSecrets (.inr rfl) rfl).mpr fun u hu _ => ?_
  rw [List.mem_singleton.mp hu]
  refine ⟨?_, ?_, fun _ hc => absurd hc List.not_mem_nil⟩
  · show ∀ c ∈ ['a', ' ', 'b'], c ≠ '"' ∧ c ≠ '\\'
    simp
  · show ∀ c ∈ ['p', '#'], c ≠ '"' ∧ c ≠ '\\'
    simp

/-- A static address with a line end: `*`, and on the next line an account of its own. -/
def injectingTable : PppoeServerConfig :=
  oneSubscriber
    { username := ['a'], password := ['b'], staticIp := "*\n\"m\" * \"p\" *".toList, enabled := true }

/-- One subscriber, and two accounts. -/
theorem address_adds_account :
    entries (fileText (writePppoeSecrets (secretsOf 0 injectingTable) allOpen (fun _ => []) .chapSecrets)) =
        [[['a'], ['*'], ['b'], ['*']], [['m'], ['*'], ['p'], ['*']]] ∧
      entries (fileText (writePppoeSecrets (secretsOf 0 injectingTable) allOpen (fun _ => []) .chapSecrets)) ≠
        accounts 0 injectingTable := by
  have htwo : entries (fileText (writePppoeSecrets (secretsOf 0 injectingTable) allOpen (fun _ => []) .chapSecrets)) =
      [[['a'], ['*'], ['b'], ['*']], [['m'], ['*'], ['p'], ['*']]] := by
    decide
  refine ⟨htwo, fun h => ?_⟩
  rw [htwo] at h
  exact absurd (congrArg List.length h) (by decide)

end FluxWAN.Pppoe
