/-
  Reading back the groups and the WANs.
-/
import FluxWAN.ConfigReload

namespace FluxWAN

open CString QuotedText

variable {rest us : List (Tok Key)} {gs : List WanGroup}

/-! ## Arrays that are always written -/

theorem tail_topArray_nil (k : Key) :
    render (topArray k [] ++ rest).tail = (Tok.key k).text ++ '[' :: ']' :: (',' :: '\n' :: render rest) := by
  simp [topArray, render_cons, Tok.text]

theorem seek_topArray (k : Key) : seek k (topArray k objs ++ rest) = some ((topArray k objs ++ rest).tail) := by
  unfold topArray
  split
  · simp
  · simp [objectArray]

/-- The array behind a key, with the objects in it. -/
theorem objectsAfter_topArray {objs : List (List (Tok Key))} (hobjs : ∀ o ∈ objs, Inner o)
    (hn : objs.length ≤ n) (rest : List (Tok Key)) :
    objectsAfter n (render (topArray k objs ++ rest).tail) = objs.map fun o => render (braced 4 o) := by
  by_cases hnil : objs = []
  · have hkey : '[' ∉ (Tok.key k).text := special_not_mem_key (by decide) (by decide) k
    rw [hnil, tail_topArray_nil, objectsAfter, arrayFrom, strchr_append_of_not_mem hkey, strchr_cons_self]
    have hnone : '\x7b' ∉ ['['] := by decide
    exact slicesBy_end _ n hnone _
  · rw [topArray, if_neg hnil, objectsAfter_objectArray hobjs hn]

/-! ## Groups -/

/-- A group without what is computed from the WANs. -/
def WanGroup.bare (g : WanGroup) : WanGroup where
  id := g.id
  name := g.name
  description := g.description
  wanNames := g.wanNames
  wanCount := g.wanCount
  enabled := g.enabled
  wanCount_le := g.wanCount_le

@[simp] theorem seek_nameToks (k : Key) : ∀ xs : List CStr, seek k (nameToks xs) = none
  | [] => rfl
  | [_] => rfl
  | _ :: y :: xs => seek_nameToks k (y :: xs)

@[simp] theorem fieldAt_nameToks (k : Key) : fieldAt k (nameToks xs) = none := by
  rw [fieldAt, seek_nameToks]
  rfl

/-- The array of names of a group in the text. -/
theorem render_names :
    render (.key .wans :: .raw ['['] :: (nameToks xs ++ us)) =
      (Tok.key Key.wans).text ++ '[' :: (quotedAll [',', ' '] xs ++ ']' :: (',' :: '\n' :: render us)) := by
  rw [render_cons, render_cons, render_append, render_nameToks]
  simp [Tok.text]

/-- A group from its array of names on. -/
theorem seek_wans_group (g : WanGroup) (ind : Nat) : seek .wans (braced ind (groupToks g)) =
    some (.key .wans :: .raw ['['] :: (nameToks (g.wanNames.take g.wanCount) ++
      (lastLine 6 .enabled (.flag g.enabled) ++ [.raw (indent ind ++ ['\x7d'])]))) := by
  simp [braced, groupToks, line]

theorem loadWanNames_render {g : WanGroup} (h : PlainTexts g.texts) (hcount : g.wanCount = g.wanNames.length) (ind : Nat) :
    loadWanNames (render (braced ind (groupToks g))) = g.wanNames := by
  have hr := sound_braced ind (inner_groupToks h).sound
  have hplain := plain_wanNames h
  have htake : g.wanNames.take g.wanCount = g.wanNames := by rw [hcount, List.take_length]
  rw [htake] at hplain
  simp only [WanGroup.texts, plainTexts_append, plainTexts_map] at h
  generalize hafter : ',' :: '\n' :: render (lastLine 6 .enabled (.flag g.enabled) ++ [.raw (indent ind ++ ['\x7d'])]) = after
  have hpos : strstr (render (braced ind (groupToks g))) (quoted Key.wans) =
      some ((Tok.key Key.wans).text ++ '[' :: (quotedAll [',', ' '] g.wanNames ++ ']' :: after)) := by
    rw [strstr_render hr, seek_wans_group, htake, Option.map_some, render_names, hafter]
  have hquoted : ']' ∉ quotedAll [',', ' '] g.wanNames := fun hmem =>
    (unbracketed_quotedAll (by simp) hplain _ hmem).2.1 rfl
  have hkey {d : Char} (hd : isSpecial d = true) (hq : d ≠ '"') : d ∉ (Tok.key Key.wans).text :=
    special_not_mem_key hd hq _
  have hstart : strchr ((Tok.key Key.wans).text ++ '[' :: (quotedAll [',', ' '] g.wanNames ++ ']' :: after)) '[' =
      some ('[' :: (quotedAll [',', ' '] g.wanNames ++ ']' :: after)) := by
    rw [strchr_append_of_not_mem (hkey (by decide) (by decide)), strchr_cons_self]
  have hend : strchr ((Tok.key Key.wans).text ++ '[' :: (quotedAll [',', ' '] g.wanNames ++ ']' :: after)) ']' =
      some (']' :: after) := by
    have hskip : ']' ∉ '[' :: quotedAll [',', ' '] g.wanNames := by
      rw [List.mem_cons, not_or]
      exact ⟨by decide, hquoted⟩
    rw [strchr_append_of_not_mem (hkey (by decide) (by decide)), ← List.cons_append, strchr_append_of_not_mem hskip,
      strchr_cons_self]
  have hbefore : Before ('[' :: (quotedAll [',', ' '] g.wanNames ++ ']' :: after)) (']' :: after) = true := by
    simp only [Before, List.length_append, List.length_cons, decide_eq_true_eq]
    omega
  have hsep : '"' ∉ [',', ' '] := by decide
  have hnames := quotedNames_quotedAll maxLabelLen hsep List.not_mem_nil after
    (fun x hx => (hplain x hx).quote_not_mem) (hcount ▸ g.wanCount_le) ['['] (by decide)
  have hfits : g.wanNames.map (copyInto maxLabelLen) = g.wanNames := by
    refine (List.map_congr_left fun x hx => ?_).trans (List.map_id _)
    exact copyInto_of_lt (h.2 x hx).2
  rw [loadWanNames, hpos]
  simp only [hstart, hend, hbefore, if_true]
  exact hnames.trans hfits

theorem loadGroup_render {g : WanGroup} (h : PlainTexts g.texts) (hcount : g.wanCount = g.wanNames.length) (idx ind : Nat) :
    loadGroup idx (render (braced ind (groupToks g))) = g.bare := by
  have hr := sound_braced ind (inner_groupToks h).sound
  have hnames := loadWanNames_render h hcount ind
  simp only [WanGroup.texts, plainTexts_append, plainTexts_cons] at h
  have hname : g.name.length < 64 := by omega
  simp only [loadGroup, hnames, extractJsonBool_render hr, extractJsonU32_render hr, extractJsonString_render hr,
    textField_render hr, fieldAt_braced]
  simp [groupToks, copyInto_of_lt, h, hname, WanGroup.bare, hcount]

/-- Reading the written elements one by one, with their places. -/
theorem mapIdx_map_congr {α β γ : Type} {xs : List α} {write : α → β} {read : Nat → β → γ} {f : Nat → α → γ}
    (h : ∀ i, ∀ x ∈ xs, read i (write x) = f i x) : (xs.map write).mapIdx read = xs.mapIdx f := by
  have hlen : ((xs.map write).mapIdx read).length = (xs.mapIdx f).length := by simp
  refine List.ext_getElem hlen fun i hi hi' => ?_
  rw [List.getElem_mapIdx, List.getElem_mapIdx, List.getElem_map]
  exact h i _ (List.getElem_mem _)

theorem loadGroups_render {ts : List (Tok Key)} (hs : Sound ts)
    (hgs : ∀ g ∈ gs, PlainTexts g.texts ∧ g.wanCount = g.wanNames.length) (hle : gs.length ≤ maxWanGroups)
    (h : seek .groups ts = some ((topArray .groups (gs.map groupToks) ++ rest).tail)) (wans : List WanConfig) :
    loadGroups (render ts) wans = gs.map fun g => resolveGroup wans g.bare := by
  have hinner : ∀ o ∈ gs.map groupToks, Inner o :=
    List.forall_mem_map.mpr fun g hg => inner_groupToks (hgs g hg).1
  have hobjects := objectsAfter_topArray (k := .groups) hinner ((List.length_map groupToks).trans_le hle) rest
  have hload : ((gs.map groupToks).map fun o => render (braced 4 o)).mapIdx loadGroup =
      gs.mapIdx fun _ g => g.bare := by
    rw [List.map_map]
    exact mapIdx_map_congr fun i g hg => loadGroup_render (hgs g hg).1 (hgs g hg).2 i 4
  have hconst : (gs.mapIdx fun _ g => g.bare) = gs.map WanGroup.bare :=
    List.ext_getElem (by simp) fun i _ _ => by rw [List.getElem_mapIdx, List.getElem_map]
  rw [loadGroups, strstr_render hs, h]
  simp only [Option.map_some]
  rw [hobjects, hload, hconst, List.map_map]
  rfl

/-! ## The search for the WAN array -/

theorem findWansArray_skip (n : Nat) : ∀ s : CStr, findWansArray n s = findWansArray 0 (s.drop n) := by
  induction n with
  | zero => intro s; rfl
  | succ n ih =>
    intro s
    cases s with
    | nil => rfl
    | cons c s => exact ih s

/-- The array at this place, if there is an object in it. -/
def wansArrayAt (p : CStr) : Option (CStr × CStr) :=
  (arrayFrom p).bind fun (arrayStart, arrayEnd) =>
    if (strchr arrayStart '\x7b').any (Before · arrayEnd) then some (arrayStart, arrayEnd) else none

/-- The search goes from one occurrence of the key to the next. -/
theorem findWansArray_eq (s : CStr) : findWansArray 0 s =
    (strstr s (quoted Key.wans)).bind fun p => (wansArrayAt p).or (findWansArray 0 (p.drop 6)) := by
  induction s with
  | nil => rfl
  | cons c s ih =>
    rw [findWansArray, strstr]
    by_cases hkey : (quoted Key.wans).isPrefixOf (c :: s) = true
    · have hskip : findWansArray 5 s = findWansArray 0 ((c :: s).drop 6) := findWansArray_skip 5 s
      rw [if_pos hkey, Option.bind_some, hskip]
      rw [startsWith, if_pos hkey, wansArrayAt]
      cases arrayFrom (c :: s) with
      | none => rfl
      | some ae =>
        obtain ⟨arrayStart, arrayEnd⟩ := ae
        rw [Option.bind_some]
        dsimp only
        split <;> rfl
    · rw [if_neg hkey, startsWith, if_neg hkey, ih]

/-- The search in a text made of tokens depends only on where the key is found. -/
theorem findWansArray_congr (hts : Sound ts) (hus : Sound us)
    (h : seek .wans ts = seek .wans us) : findWansArray 0 (render ts) = findWansArray 0 (render us) := by
  rw [findWansArray_eq, findWansArray_eq, strstr_render hts, strstr_render hus, h]

/-- An array of names is no array of objects. -/
theorem wansArrayAt_names (hxs : ∀ x ∈ xs, PlainText Key x) (us : List (Tok Key)) :
    wansArrayAt (render (.key .wans :: .raw ['['] :: (nameToks xs ++ us))) = none := by
  have hnames : Unbracketed (quotedAll [',', ' '] xs) := unbracketed_quotedAll (by simp) hxs
  have hopen : '[' ∉ quotedAll [',', ' '] xs := fun h => (hnames _ h).1 rfl
  have hclose : ']' ∉ quotedAll [',', ' '] xs := fun h => (hnames _ h).2.1 rfl
  have hbrace : '\x7b' ∉ '[' :: (quotedAll [',', ' '] xs ++ [']']) := by
    simp only [List.mem_cons, List.mem_append, List.not_mem_nil, or_false, not_or]
    exact ⟨by decide, fun h => (hnames _ h).2.2.1 rfl, by decide⟩
  generalize hafter : ',' :: '\n' :: render us = after
  have harray : arrayFrom (render (.key .wans :: .raw ['['] :: (nameToks xs ++ us))) =
      some ('[' :: (quotedAll [',', ' '] xs ++ ']' :: after), ']' :: after) := by
    have hkey : '[' ∉ (Tok.key Key.wans).text := special_not_mem_key (by decide) (by decide) _
    rw [render_names, hafter, arrayFrom, strchr_append_of_not_mem hkey, strchr_cons_self, Option.bind_some,
      findMatchingBracket, closeBracket_append hopen hclose]
    rfl
  have hassoc : '[' :: (quotedAll [',', ' '] xs ++ ']' :: after) = ('[' :: (quotedAll [',', ' '] xs ++ [']'])) ++ after := by
    simp
  have hnone : (strchr ('[' :: (quotedAll [',', ' '] xs ++ ']' :: after)) '\x7b').any (Before · (']' :: after)) = false := by
    rw [hassoc, strchr_append_of_not_mem hbrace]
    cases hfound : strchr after '\x7b' with
    | none => rfl
    | some q =>
      -- the next brace lies behind the bracket
      have hlen := length_of_strchr hfound
      simp only [Option.any_some, Before, List.length_cons, decide_eq_false_iff_not]
      omega
  rw [wansArrayAt, harray, Option.bind_some]
  simp only [hnone, Bool.false_eq_true, if_false]

/-- Behind an occurrence of the key the search goes on with what follows it. -/
theorem findWansArray_key {r : List (Tok Key)} (hr : Sound r) : findWansArray 0 (render (.key .wans :: r)) =
    (wansArrayAt (render (.key .wans :: r))).or (findWansArray 0 (render r)) := by
  have hs : Sound (.key .wans :: r) := sound_cons.mpr ⟨True.intro, hr⟩
  have hcolon : Sound (.raw [':', ' '] :: r) := sound_cons.mpr ⟨⟨by decide, by decide, by decide⟩, hr⟩
  have hseek : seek .wans (.key .wans :: r) = some (.key .wans :: r) := by simp
  have hdrop : (render (.key .wans :: r)).drop 6 = render (.raw [':', ' '] :: r) := by
    rw [render_cons, render_cons]
    rfl
  rw [findWansArray_eq, strstr_render hs, hseek, Option.map_some, Option.bind_some, hdrop,
    findWansArray_congr hcolon hr rfl]

/-- The search on tokens: the first array behind the key that has an object in it. -/
def wansArrayIn : List (Tok Key) → Option (CStr × CStr)
  | [] => none
  | .key k :: ts => if k = .wans then (wansArrayAt (render (.key k :: ts))).or (wansArrayIn ts) else wansArrayIn ts
  | .val _ _ :: ts | .raw _ :: ts => wansArrayIn ts

theorem findWansArray_render {ts : List (Tok Key)} (h : Sound ts) : findWansArray 0 (render ts) = wansArrayIn ts := by
  induction ts with
  | nil => rfl
  | cons t ts ih =>
    have hts := (sound_cons.mp h).2
    cases t with
    | val v sep => exact (findWansArray_congr h hts rfl).trans (ih hts)
    | raw s => exact (findWansArray_congr h hts rfl).trans (ih hts)
    | key k =>
      by_cases hk : k = .wans
      · rw [wansArrayIn, if_pos hk, hk, findWansArray_key hts, ih hts]
      · rw [wansArrayIn, if_neg hk, ← ih hts]
        exact findWansArray_congr h hts (if_neg hk)

theorem wansArrayIn_append (h : seek .wans ts = none) (us : List (Tok Key)) :
    wansArrayIn (ts ++ us) = wansArrayIn us := by
  induction ts with
  | nil => rfl
  | cons t ts ih =>
    cases t with
    | val v sep => exact ih h
    | raw s => exact ih h
    | key k =>
      have hk : k ≠ .wans := by rintro rfl; simp at h
      exact (if_neg hk).trans (ih ((if_neg hk).symm.trans h))

/-- The search passes over the names of the groups. -/
theorem wansArrayIn_groups (hgs : ∀ g ∈ gs, PlainTexts g.texts) :
    wansArrayIn (objects 4 (gs.map groupToks) ++ us) = wansArrayIn us := by
  induction gs with
  | nil => rfl
  | cons g gs ih =>
    obtain ⟨hg, hgs⟩ := List.forall_mem_cons.mp hgs
    rw [List.map_cons, objects_cons, groupToks]
    simp [line, lastLine, wansArrayIn, wansArrayAt_names (plain_wanNames hg), wansArrayIn_append, ih hgs]

theorem wansArrayIn_topArray_groups (hgs : ∀ g ∈ gs, PlainTexts g.texts) (us : List (Tok Key)) :
    wansArrayIn (topArray .groups (gs.map groupToks) ++ us) = wansArrayIn us := by
  unfold topArray
  split
  · simp [wansArrayIn]
  · simp [objectArray, wansArrayIn, wansArrayIn_groups hgs]

/-- An array with an object in it is the one that is looked for. -/
theorem wansArrayAt_objectArray (hobjs : ∀ o ∈ objs, Inner o) (hne : objs ≠ []) (stop : CStr) (rest : List (Tok Key)) :
    wansArrayAt (render (objectArray 2 .wans objs stop ++ rest).tail) =
      arrayFrom (render (objectArray 2 .wans objs stop ++ rest).tail) := by
  obtain ⟨o, os, rfl⟩ := List.exists_cons_of_ne_nil hne
  rw [wansArrayAt, arrayFrom_objectArray fun o ho => (hobjs o ho).brackets, Option.bind_some]
  dsimp only
  rw [render_objects_cons]
  generalize hobj : '\x7b' :: '\n' :: (render o ++ (indent (2 + 2) ++ '\x7d' :: (objectSep os ++
    (render (objects (2 + 2) os) ++ (indent 2 ++ ']' :: (stop ++ render rest)))))) = obj
  have hfirst : strchr ('[' :: (['\n'] ++ (indent (2 + 2) ++ obj))) '\x7b' = some obj := by
    have hpre : '\x7b' ∉ ['[', '\n'] ++ indent (2 + 2) := by decide
    have hassoc : '[' :: (['\n'] ++ (indent (2 + 2) ++ obj)) = (['[', '\n'] ++ indent (2 + 2)) ++ obj := by simp
    rw [hassoc, strchr_append_of_not_mem hpre, ← hobj, strchr_cons_self]
  have hbefore : Before obj (']' :: (stop ++ render rest)) = true := by
    rw [← hobj]
    simp only [Before, List.length_append, List.length_cons, decide_eq_true_eq]
    omega
  rw [hfirst, Option.any_some, hbefore, if_pos rfl]

/-- The array of the WANs; an empty one is passed over too. -/
theorem wansArrayIn_topArray_wans {ws : List WanConfig} (hws : ∀ w ∈ ws, PlainTexts w.texts)
    (hrest : seek .wans rest = none) : wansArrayIn (topArray .wans (ws.map wanToks) ++ rest) =
      if ws = [] then none else arrayFrom (render (topArray .wans (ws.map wanToks) ++ rest).tail) := by
  have hnone : wansArrayIn rest = none := by
    have h := wansArrayIn_append hrest []
    rwa [List.append_nil] at h
  by_cases hnil : ws = []
  · have hempty : wansArrayAt (render (.key .wans :: .raw ['[', ']', ',', '\n'] :: rest)) = none := by
      have hnames : ∀ x ∈ ([] : List CStr), PlainText Key x := fun _ h => absurd h List.not_mem_nil
      have h := wansArrayAt_names hnames rest
      simpa [nameToks, render_cons, Tok.text] using h
    rw [if_pos hnil, hnil]
    simp [topArray, wansArrayIn, hempty, hnone]
  · have hobjs : ws.map wanToks ≠ [] := fun h => hnil (List.map_eq_nil_iff.mp h)
    have hinner : ∀ o ∈ ws.map wanToks, Inner o := List.forall_mem_map.mpr fun w hw => (flat_wanToks (hws w hw)).inner
    have harray := wansArrayAt_objectArray hinner hobjs [',', '\n'] rest
    rw [if_neg hnil, topArray, if_neg hobjs]
    rw [arrayFrom_objectArray fun o ho => (hinner o ho).brackets] at harray ⊢
    rw [tail_objectArray] at harray
    have hkey : wansArrayIn (objectArray 2 .wans (ws.map wanToks) [',', '\n'] ++ rest) =
        wansArrayIn (objectArray 2 .wans (ws.map wanToks) [',', '\n'] ++ rest).tail := rfl
    rw [hkey, tail_objectArray, wansArrayIn, if_pos rfl, harray]
    rfl

theorem loadWans_render (hgs : ∀ g ∈ gs, PlainTexts g.texts) {ws : List WanConfig}
    (hws : ∀ w ∈ ws, PlainTexts w.texts) (hle : ws.length ≤ maxWans) {pre : List (Tok Key)} {bs bs' : List Key}
    (hpre : Written bs pre) (hbs : Key.wans ∉ bs) (hrest : Written bs' rest) (hbs' : Key.wans ∉ bs') :
    loadWans (render (pre ++ (topArray .groups (gs.map groupToks) ++ (topArray .wans (ws.map wanToks) ++ rest)))) =
      (ws.mapIdx fun i w => loadWan i (render (braced 4 (wanToks w)))).foldl (fun done wi => done ++ [uniqueIds done wi]) [] := by
  have hwans : Sound (topArray .wans (ws.map wanToks) ++ rest) :=
    sound_append.mpr ⟨(written_wans hws).sound, hrest.sound⟩
  have hall := sound_append.mpr ⟨hpre.sound, sound_append.mpr ⟨(written_groups hgs).sound, hwans⟩⟩
  have hinner : ∀ o ∈ ws.map wanToks, Inner o := List.forall_mem_map.mpr fun w hw => (flat_wanToks (hws w hw)).inner
  have hobjects := objectsAfter_topArray (k := .wans) hinner ((List.length_map wanToks).trans_le hle) rest
  have hload : ((ws.map wanToks).map fun o => render (braced 4 o)).mapIdx loadWan =
      ws.mapIdx fun i w => loadWan i (render (braced 4 (wanToks w))) := by
    rw [List.map_map]
    exact mapIdx_map_congr fun i w _ => rfl
  rw [loadWans, findWansArray_render hall, wansArrayIn_append (hpre.seek rfl hbs), wansArrayIn_topArray_groups hgs,
    wansArrayIn_topArray_wans hws (hrest.seek rfl hbs')]
  by_cases hnil : ws = []
  · rw [if_pos hnil, hnil]
    rfl
  · rw [objectsAfter] at hobjects
    rw [if_neg hnil, ← hload, ← hobjects]
    cases arrayFrom (render (topArray .wans (ws.map wanToks) ++ rest).tail) with
    | none => rfl
    | some ae => rfl

end FluxWAN
