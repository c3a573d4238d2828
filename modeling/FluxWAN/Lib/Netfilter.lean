/-
  The kernel side of `iptables -t mangle` and `ipset`, as far as a program that only issues commands needs it.

  1. **Tables** — a `Kernel` maps set names to their elements and chain names to their rules; a `Cmd` is one
     command line, and a command that the kernel refuses (`2>/dev/null || true`) changes nothing (`exec`).
  2. **Frame** — a command touches the sets and the chain it names (`Cmd.touchesSet`, `Cmd.touchesChain`) and
     nothing else (`execAll_sets`, `execAll_chains`).
  3. **Idioms** — fill a temporary set, swap it in, destroy it (`execAll_replaceSet`); append rules to a chain
     (`execAll_append`).
  4. **Traversal** — what a packet meets in a chain is a tree of branches, because `-m statistic` draws lots:
     each branch has a probability and the marks that were set along it (`run`).

  Names and elements are of arbitrary types.  Printed probabilities are kept as the quotient that is printed;
  the traversal is given what the kernel reads (`read`).
-/
import Mathlib.Data.Rat.Defs
import Mathlib.Algebra.Order.Field.Rat
import Mathlib.Logic.Function.Basic

namespace FluxWAN.Netfilter

/-- What a rule does to a packet it matches. -/
inductive Target (N : Type) where
  | setMark (mark : UInt32)
  /-- `CONNMARK --save-mark`. -/
  | saveMark
  | jump (chain : N)
  | ret
  deriving DecidableEq

/-- A rule of the mangle table: its matches, and its target. -/
structure Rule (N : Type) where
  /-- `-i`. -/
  inIface : Option N := none
  /-- `-m mark --mark 0` (`some false`) or `-m mark ! --mark 0` (`some true`). -/
  marked : Option Bool := none
  /-- `-m set --match-set … dst`. -/
  matchSet : Option N := none
  /-- `-m statistic --mode random --probability`, numerator and denominator. -/
  probability : Option (UInt32 × UInt32) := none
  target : Target N
  deriving DecidableEq

structure Kernel (N E : Type) where
  sets : N → Option (List E)
  chains : N → Option (List (Rule N))

inductive Cmd (N E : Type) where
  /-- `ipset create … -exist`. -/
  | createSet (set : N)
  | flushSet (set : N)
  /-- `ipset add … -exist`. -/
  | addEntry (set : N) (entry : E)
  | swapSets (set other : N)
  | destroySet (set : N)
  /-- `iptables -N`. -/
  | newChain (chain : N)
  /-- `iptables -F`. -/
  | flushChain (chain : N)
  /-- `iptables -A`. -/
  | append (chain : N) (rule : Rule N)
  /-- `iptables -C … || iptables -I … pos`, or `-A` without a position. -/
  | ensure (chain : N) (pos : Option Nat) (rule : Rule N)

variable {N E : Type} [DecidableEq N] [DecidableEq E]

namespace Kernel

def setSet (k : Kernel N E) (s : N) (es : Option (List E)) : Kernel N E :=
  { k with sets := Function.update k.sets s es }

def setChain (k : Kernel N E) (ch : N) (rs : Option (List (Rule N))) : Kernel N E :=
  { k with chains := Function.update k.chains ch rs }

section
variable (k : Kernel N E) {s s' ch ch' : N}

omit [DecidableEq E]

@[simp] theorem setSet_self (es : Option (List E)) : (k.setSet s es).sets s = es := Function.update_self _ _ _

theorem setSet_of_ne (h : s ≠ s') (es : Option (List E)) : (k.setSet s' es).sets s = k.sets s :=
  Function.update_of_ne h _ _

@[simp] theorem setSet_chains (es : Option (List E)) : (k.setSet s es).chains = k.chains := rfl

@[simp] theorem setChain_self (rs : Option (List (Rule N))) : (k.setChain ch rs).chains ch = rs :=
  Function.update_self _ _ _

theorem setChain_of_ne (h : ch ≠ ch') (rs : Option (List (Rule N))) : (k.setChain ch' rs).chains ch = k.chains ch :=
  Function.update_of_ne h _ _

@[simp] theorem setChain_sets (rs : Option (List (Rule N))) : (k.setChain ch rs).sets = k.sets := rfl

end

/-- A rule is refused if the set it matches on or the chain it jumps to does not exist. -/
def accepts (k : Kernel N E) (r : Rule N) : Bool :=
  r.matchSet.all (fun s => (k.sets s).isSome) && match r.target with
    | .jump ch => (k.chains ch).isSome
    | _ => true

end Kernel

/-- One command. -/
def exec (k : Kernel N E) : Cmd N E → Kernel N E
  | .createSet s => if (k.sets s).isNone then k.setSet s (some []) else k
  | .flushSet s => if (k.sets s).isSome then k.setSet s (some []) else k
  | .addEntry s e =>
    match k.sets s with
    | some es => if e ∈ es then k else k.setSet s (some (es ++ [e]))
    | none => k
  | .swapSets s t =>
    if (k.sets s).isSome ∧ (k.sets t).isSome then (k.setSet s (k.sets t)).setSet t (k.sets s) else k
  | .destroySet s => k.setSet s none
  | .newChain ch => if (k.chains ch).isNone then k.setChain ch (some []) else k
  | .flushChain ch => if (k.chains ch).isSome then k.setChain ch (some []) else k
  | .append ch r =>
    match k.chains ch with
    | some rs => if k.accepts r then k.setChain ch (some (rs ++ [r])) else k
    | none => k
  | .ensure ch pos r =>
    match k.chains ch with
    | some rs =>
      if r ∈ rs ∨ ¬ k.accepts r then k
      else
        match pos with
        | none => k.setChain ch (some (rs ++ [r]))
        | some i =>
          if i ≤ rs.length + 1 then k.setChain ch (some (rs.take (i - 1) ++ r :: rs.drop (i - 1))) else k
    | none => k

def execAll (k : Kernel N E) (cmds : List (Cmd N E)) : Kernel N E := cmds.foldl exec k

@[simp] theorem execAll_nil (k : Kernel N E) : execAll k [] = k := rfl

@[simp] theorem execAll_cons (k : Kernel N E) : execAll k (cmd :: cmds) = execAll (exec k cmd) cmds := rfl

theorem execAll_concat (k : Kernel N E) (cmds cmds' : List (Cmd N E)) :
    execAll k (cmds ++ cmds') = execAll (execAll k cmds) cmds' := List.foldl_append

/-! ## What a command touches -/

def Cmd.touchesSet (s : N) : Cmd N E → Bool
  | .createSet s' | .flushSet s' | .addEntry s' _ | .destroySet s' => s = s'
  | .swapSets s' t => s = s' || s = t
  | _ => false

def Cmd.touchesChain (ch : N) : Cmd N E → Bool
  | .newChain ch' | .flushChain ch' | .append ch' _ | .ensure ch' _ _ => ch = ch'
  | _ => false

section
variable {k : Kernel N E} {s t ch : N}

theorem exec_sets {cmd : Cmd N E} (h : cmd.touchesSet s = false) : (exec k cmd).sets s = k.sets s := by
  have hset : ∀ (k : Kernel N E) (s' : N) (es : Option (List E)), decide (s = s') = false →
      (k.setSet s' es).sets s = k.sets s := fun k s' es hne => k.setSet_of_ne (of_decide_eq_false hne) es
  cases cmd with
  | createSet s' => simp only [exec]; split <;> simp_all [Cmd.touchesSet]
  | flushSet s' => simp only [exec]; split <;> simp_all [Cmd.touchesSet]
  | addEntry s' e =>
    simp only [exec]
    split
    · split <;> simp_all [Cmd.touchesSet]
    · rfl
  | swapSets s' t =>
    simp only [exec]
    split <;> simp_all [Cmd.touchesSet]
  | destroySet s' => exact hset k s' none h
  | newChain ch => simp only [exec]; split <;> rfl
  | flushChain ch => simp only [exec]; split <;> rfl
  | append ch r =>
    simp only [exec]
    split
    · split <;> rfl
    · rfl
  | ensure ch pos r =>
    simp only [exec]
    split
    · split
      · rfl
      · split
        · rfl
        · split <;> rfl
    · rfl

theorem exec_chains {cmd : Cmd N E} (h : cmd.touchesChain ch = false) : (exec k cmd).chains ch = k.chains ch := by
  have hchain : ∀ (ch' : N) (rs : Option (List (Rule N))), decide (ch = ch') = false →
      (k.setChain ch' rs).chains ch = k.chains ch := fun ch' rs hne => k.setChain_of_ne (of_decide_eq_false hne) rs
  cases cmd with
  | createSet s' => simp only [exec]; split <;> rfl
  | flushSet s' => simp only [exec]; split <;> rfl
  | addEntry s' e =>
    simp only [exec]
    split
    · split <;> rfl
    · rfl
  | swapSets s' t => simp only [exec]; split <;> rfl
  | destroySet s' => rfl
  | newChain ch' => simp only [exec]; split <;> simp_all [Cmd.touchesChain]
  | flushChain ch' => simp only [exec]; split <;> simp_all [Cmd.touchesChain]
  | append ch' r =>
    simp only [exec]
    split
    · split
      · exact hchain ch' _ h
      · rfl
    · rfl
  | ensure ch' pos r =>
    simp only [exec]
    split
    · split
      · rfl
      · split
        · exact hchain ch' _ h
        · split
          · exact hchain ch' _ h
          · rfl
    · rfl

/-- A set that no command touches is left alone. -/
theorem execAll_sets (cmds : List (Cmd N E)) : ∀ {k : Kernel N E}, (∀ cmd ∈ cmds, cmd.touchesSet s = false) →
    (execAll k cmds).sets s = k.sets s := by
  induction cmds with
  | nil => exact fun _ => rfl
  | cons cmd cmds ih =>
    intro k h
    obtain ⟨hcmd, hcmds⟩ := List.forall_mem_cons.mp h
    rw [execAll_cons, ih hcmds, exec_sets hcmd]

/-- A chain that no command touches is left alone. -/
theorem execAll_chains (cmds : List (Cmd N E)) : ∀ {k : Kernel N E}, (∀ cmd ∈ cmds, cmd.touchesChain ch = false) →
    (execAll k cmds).chains ch = k.chains ch := by
  induction cmds with
  | nil => exact fun _ => rfl
  | cons cmd cmds ih =>
    intro k h
    obtain ⟨hcmd, hcmds⟩ := List.forall_mem_cons.mp h
    rw [execAll_cons, ih hcmds, exec_chains hcmd]

end

/-! ## Replacing a set -/

/-- Fill a temporary set, swap it in, and destroy what was there. -/
def replaceSet (s tmp : N) (es : List E) : List (Cmd N E) :=
  [.createSet s, .createSet tmp, .flushSet tmp] ++ es.map (.addEntry tmp) ++ [.swapSets s tmp, .destroySet tmp]

section
variable {s t : N}

theorem createSet_isSome (k : Kernel N E) (s : N) : ((exec k (.createSet s)).sets s).isSome = true := by
  simp only [exec]
  split
  · rw [Kernel.setSet_self]
    rfl
  · rename_i h
    rwa [Bool.not_eq_true, Option.isNone_eq_false_iff] at h

theorem execAll_addEntries (es : List E) : ∀ {k : Kernel N E} {es₀ : List E}, k.sets t = some es₀ →
    ∃ es₁, (execAll k (es.map (.addEntry t))).sets t = some es₁ ∧ ∀ e, e ∈ es₁ ↔ e ∈ es₀ ∨ e ∈ es := by
  induction es with
  | nil => exact fun {k es₀} h => ⟨es₀, h, fun e => by simp⟩
  | cons e es ih =>
    intro k es₀ h
    rw [List.map_cons, execAll_cons]
    by_cases hmem : e ∈ es₀
    · have hk : exec k (.addEntry t e) = k := by simp only [exec, h, if_pos hmem]
      rw [hk]
      obtain ⟨es₁, hes₁, hiff⟩ := ih h
      refine ⟨es₁, hes₁, fun x => ?_⟩
      rw [hiff, List.mem_cons]
      exact ⟨Or.imp_right Or.inr, fun hx => hx.elim Or.inl fun hx => hx.elim (fun hx => .inl (hx ▸ hmem)) Or.inr⟩
    · have hk : exec k (.addEntry t e) = k.setSet t (some (es₀ ++ [e])) := by simp only [exec, h, if_neg hmem]
      rw [hk]
      obtain ⟨es₁, hes₁, hiff⟩ := ih (k.setSet_self (some (es₀ ++ [e])))
      refine ⟨es₁, hes₁, fun x => ?_⟩
      rw [hiff, List.mem_append, List.mem_singleton, List.mem_cons, or_assoc]

/-- A replaced set holds the new elements, whatever was there before. -/
theorem execAll_replaceSet (hst : s ≠ t) (k : Kernel N E) (es : List E) :
    ∃ es', (execAll k (replaceSet s t es)).sets s = some es' ∧ ∀ e, e ∈ es' ↔ e ∈ es := by
  -- both sets exist and the temporary one is empty
  have hstart : ((execAll k [.createSet s, .createSet t, .flushSet t]).sets s).isSome = true ∧
      (execAll k [.createSet s, .createSet t, .flushSet t]).sets t = some [] := by
    have hs : ((exec (exec k (.createSet s)) (.createSet t)).sets s).isSome = true := by
      rw [exec_sets (by simpa [Cmd.touchesSet] using hst)]
      exact createSet_isSome k s
    have ht := createSet_isSome (exec k (.createSet s)) t
    simp only [execAll_cons, execAll_nil]
    constructor
    · rw [exec_sets (by simpa [Cmd.touchesSet] using hst)]
      exact hs
    · generalize exec (exec k (.createSet s)) (.createSet t) = k' at ht
      simp only [exec, if_pos ht, Kernel.setSet_self]
  obtain ⟨hs, ht⟩ := hstart
  rw [replaceSet, execAll_concat, execAll_concat]
  generalize execAll k [.createSet s, .createSet t, .flushSet t] = k₁ at hs ht
  obtain ⟨es', hes', hiff⟩ := execAll_addEntries es ht
  have hs' : ((execAll k₁ (es.map (.addEntry t))).sets s).isSome = true := by
    rw [execAll_sets]
    · exact hs
    · intro cmd hcmd
      obtain ⟨e, -, rfl⟩ := List.mem_map.mp hcmd
      simpa [Cmd.touchesSet] using hst
  generalize execAll k₁ (es.map (.addEntry t)) = k₂ at hes' hs'
  refine ⟨es', ?_, fun e => by rw [hiff]; simp⟩
  have hswap : (k₂.sets s).isSome ∧ (k₂.sets t).isSome := ⟨hs', by rw [hes']; rfl⟩
  simp only [execAll_cons, execAll_nil]
  rw [exec_sets (by simpa [Cmd.touchesSet] using hst)]
  simp only [exec, if_pos hswap]
  rw [Kernel.setSet_of_ne _ hst, Kernel.setSet_self, hes']

omit [DecidableEq E] in
theorem touchesSet_replaceSet (hs : x ≠ s) (ht : x ≠ t) : ∀ cmd ∈ replaceSet s t es, cmd.touchesSet x = false := by
  intro cmd hcmd
  simp only [replaceSet, List.mem_append, List.mem_cons, List.not_mem_nil, or_false, List.mem_map] at hcmd
  rcases hcmd with ((rfl | rfl | rfl) | ⟨e, -, rfl⟩) | rfl | rfl <;> simp [Cmd.touchesSet, hs, ht]

omit [DecidableEq E] in
theorem touchesChain_replaceSet (ch : N) : ∀ cmd ∈ replaceSet s t es, cmd.touchesChain ch = false := by
  intro cmd hcmd
  simp only [replaceSet, List.mem_append, List.mem_cons, List.not_mem_nil, or_false, List.mem_map] at hcmd
  rcases hcmd with ((rfl | rfl | rfl) | ⟨e, -, rfl⟩) | rfl | rfl <;> rfl

end

/-! ## Writing a chain -/

section
variable {ch : N}

omit [DecidableEq E] in
theorem accepts_setChain {k : Kernel N E} (h : k.accepts r = true) : (k.setChain ch (some rs)).accepts r = true := by
  unfold Kernel.accepts at h ⊢
  rw [Bool.and_eq_true] at h ⊢
  obtain ⟨hset, hjump⟩ := h
  refine ⟨hset, ?_⟩
  cases htarget : r.target with
  | jump ch' =>
    rw [htarget] at hjump
    show ((k.setChain ch (some rs)).chains ch').isSome = true
    by_cases hch : ch' = ch
    · rw [hch, Kernel.setChain_self]
      rfl
    · rw [Kernel.setChain_of_ne k hch]
      exact hjump
  | setMark v => rfl
  | saveMark => rfl
  | ret => rfl

/-- Rules that the kernel accepts end up at the end of the chain, in order. -/
theorem execAll_append (rules : List (Rule N)) : ∀ {k : Kernel N E} {rs : List (Rule N)}, k.chains ch = some rs →
    (∀ r ∈ rules, k.accepts r = true) →
      (execAll k (rules.map (.append ch))).chains ch = some (rs ++ rules) := by
  induction rules with
  | nil => exact fun {k rs} h _ => by simpa using h
  | cons r rules ih =>
    intro k rs h hacc
    obtain ⟨hr, hrules⟩ := List.forall_mem_cons.mp hacc
    have hk : exec k (.append ch r) = k.setChain ch (some (rs ++ [r])) := by simp only [exec, h, if_pos hr]
    rw [List.map_cons, execAll_cons, hk, ih (k.setChain_self _) fun r' hr' => accepts_setChain (hrules r' hr'),
      List.append_assoc]
    rfl

/-- Flushing and creating a chain leaves it empty. -/
theorem execAll_freshChain (k : Kernel N E) (ch : N) :
    (execAll k [.flushChain ch, .newChain ch]).chains ch = some [] := by
  simp only [execAll_cons, execAll_nil, exec]
  cases h : k.chains ch <;> simp [h]

end

/-! ## Traversing a chain -/

structure Packet (N : Type) where
  inIface : N
  /-- The sets that the destination is in. -/
  inSet : N → Bool

/-- One way a packet can go: how likely it is, the marks set on the way, and the mark in the end. -/
structure Branch where
  prob : ℚ
  marks : List UInt32
  mark : UInt32

def Branch.scale (q : ℚ) (b : Branch) : Branch := { b with prob := q * b.prob }

/-- First one branch, then the other. -/
def Branch.andThen (b b' : Branch) : Branch := ⟨b.prob * b'.prob, b.marks ++ b'.marks, b'.mark⟩

def Rule.matchesPacket (r : Rule N) (p : Packet N) (mark : UInt32) : Bool :=
  r.inIface.all (fun i => decide (i = p.inIface)) && r.marked.all (fun b => b == decide (mark ≠ 0)) &&
    r.matchSet.all p.inSet

/-- All the ways a packet can go through the rules.  `read` is what the kernel reads of a printed probability,
    `enter` what happens in other chains. -/
def run (read : Rule N → ℚ) (enter : N → UInt32 → List Branch) (p : Packet N) : UInt32 → List (Rule N) → List Branch
  | mark, [] => [⟨1, [], mark⟩]
  | mark, r :: rs =>
    if r.matchesPacket p mark then
      let taken :=
        match r.target with
        | .setMark v => (run read enter p v rs).map (Branch.andThen ⟨1, [v], v⟩)
        | .saveMark => run read enter p mark rs
        | .jump ch => (enter ch mark).flatMap fun b => (run read enter p b.mark rs).map b.andThen
        | .ret => [⟨1, [], mark⟩]
      match r.probability with
      | none => taken
      | some _ => taken.map (Branch.scale (read r)) ++ (run read enter p mark rs).map (Branch.scale (1 - read r))
    else run read enter p mark rs

/-- The probability to leave with a given mark. -/
def probOf (bs : List Branch) (v : UInt32) : ℚ := ((bs.filter fun b => b.mark = v).map Branch.prob).sum

theorem probOf_append (bs bs' : List Branch) (v : UInt32) : probOf (bs ++ bs') v = probOf bs v + probOf bs' v := by
  simp [probOf]

theorem probOf_scale (bs : List Branch) : probOf (bs.map (Branch.scale q)) v = q * probOf bs v := by
  induction bs with
  | nil => simp [probOf]
  | cons b bs ih =>
    have hcons : ∀ (b : Branch) (l : List Branch), probOf (b :: l) v = probOf [b] v + probOf l v :=
      fun b l => probOf_append [b] l v
    rw [List.map_cons, hcons, hcons b bs, ih, mul_add]
    congr 1
    by_cases hv : b.mark = v <;> simp [probOf, Branch.scale, hv]

section
variable (read : Rule N → ℚ) (enter : N → UInt32 → List Branch) (p : Packet N)

/-- A packet with a mark passes rules for unmarked packets. -/
theorem run_marked (hmark : mark ≠ 0) (tail : List (Rule N)) (rs : List (Rule N))
    (h : ∀ r ∈ rs, r.marked = some false) : run read enter p mark (rs ++ tail) = run read enter p mark tail := by
  induction rs with
  | nil => rfl
  | cons r rs ih =>
    obtain ⟨hr, hrs⟩ := List.forall_mem_cons.mp h
    have hpass : ¬ r.matchesPacket p mark = true := by simp [Rule.matchesPacket, hr, hmark]
    rw [List.cons_append, run, if_neg hpass, ih hrs]

end

end FluxWAN.Netfilter
