import SearchNotation.Files.Path
import SearchNotation.Proofs.Text.Split

/-!
# Paths by their names

A path with a name joined to it has the names of the path and then that one (`names_join`). So two
paths are the same exactly if they are with one name joined to both (`same_join`).

The paths above a path are reached through `parent?`, one after the other, up to one that has no
parent (`ancestors_eq`): the bound on their number is never met, since the text of a parent is
shorter (`length_lt_of_parent?`).
-/

set_option autoImplicit false

namespace SearchNotation

/-! ## Names -/

namespace Path

theorem exists_parts (p : Path) : ∃ first rest, p.parts = first :: rest := by
  obtain ⟨first, rest, h⟩ :=
    List.exists_cons_of_ne_nil (Text.splitAt_ne_nil '/' p.text.toList)
  exact ⟨String.ofList first, rest.map String.ofList, by rw [parts, h, List.map_cons]⟩

theorem intercalate_parts (p : Path) : "/".intercalate p.parts = p.text := by
  have hchars : p.parts.map String.toList = Text.splitAt '/' p.text.toList := by
    rw [parts, List.map_map]
    exact (List.map_congr_left fun part _ => String.toList_ofList).trans (List.map_id _)
  rw [← String.toList_inj, String.toList_intercalate, hchars]
  exact Text.intercalate_splitAt _

theorem names_of_parts {p : Path} {first : String} {rest : List String}
    (h : p.parts = first :: rest) : p.names = first :: rest.filter (!isIdle ·) := by
  rw [names, h]

theorem parts_append_slash (before after : String) :
    (⟨before ++ "/" ++ after⟩ : Path).parts =
      (⟨before⟩ : Path).parts ++ (⟨after⟩ : Path).parts := by
  have htext : (before ++ "/" ++ after).toList = before.toList ++ '/' :: after.toList := by simp
  rw [parts, htext, Text.splitAt_append_mark, List.map_append]
  rfl

/-- A name that says something, without a slash. -/
def IsName (name : String) : Prop := '/' ∉ name.toList ∧ isIdle name = false

instance (name : String) : Decidable (IsName name) := inferInstanceAs (Decidable (_ ∧ _))

variable {name : String}

theorem parts_of_isName (hn : IsName name) : (⟨name⟩ : Path).parts = [name] := by
  rw [parts, Text.splitAt_of_not_mem hn.1]
  simp

/-- A name joined to a path is its last part, in place of nothing after a slash at the end. -/
theorem parts_join (hn : IsName name) (p : Path) :
    (∃ kept, p.parts = kept ++ [""] ∧ (p.join name).parts = kept ++ [name]) ∨
      p.text ≠ "" ∧ (p.join name).parts = p.parts ++ [name] := by
  by_cases hp : p.text = ""
  · refine .inl ⟨[], ?_, ?_⟩
    · simp [parts, hp, Text.splitAt]
    · have hj : p.join name = ⟨name⟩ := by simp [join, hp]
      rw [hj, parts_of_isName hn]
      rfl
  by_cases hend : p.text.toList.getLast? = some '/'
  · obtain ⟨chars, hchars⟩ := List.getLast?_eq_some_iff.1 hend
    have htext : p.text = String.ofList chars ++ "/" := by
      rw [← String.toList_inj, hchars]
      simp
    refine .inl ⟨(⟨String.ofList chars⟩ : Path).parts, ?_, ?_⟩
    · have hsplit := parts_append_slash (String.ofList chars) ""
      rw [String.append_empty, ← htext] at hsplit
      exact hsplit
    · rw [join, if_pos (.inr hend), htext, parts_append_slash, parts_of_isName hn]
  · refine .inr ⟨hp, ?_⟩
    rw [join, if_neg (not_or.2 ⟨hp, hend⟩), parts_append_slash, parts_of_isName hn]

/-- **The names of a path with a name joined to it.** -/
theorem names_join (hn : IsName name) {p : Path} (hp : p.text ≠ "") :
    (p.join name).names = p.names ++ [name] := by
  have hkept : [name].filter (!isIdle ·) = [name] := by simp [hn.2]
  rcases parts_join hn p with ⟨kept, hparts, hj⟩ | ⟨-, hj⟩
  · cases kept with
    | nil =>
      have htext := intercalate_parts p
      rw [hparts] at htext
      exact absurd htext.symm hp
    | cons first rest =>
      rw [List.cons_append] at hparts hj
      rw [names_of_parts hparts, names_of_parts hj, List.filter_append, List.filter_append, hkept]
      simp [isIdle]
  · obtain ⟨first, rest, hparts⟩ := exists_parts p
    rw [hparts, List.cons_append] at hj
    rw [names_of_parts hparts, names_of_parts hj, List.filter_append, hkept]
    rfl

theorem names_ne_nil (p : Path) : p.names ≠ [] := by
  obtain ⟨first, rest, h⟩ := exists_parts p
  rw [names_of_parts h]
  exact List.cons_ne_nil _ _

theorem isAbsolute_join (hn : IsName name) (p : Path) :
    (p.join name).isAbsolute = p.isAbsolute := by
  by_cases hp : p.text = ""
  · have hhead : name.toList.head? ≠ some '/' := fun h => hn.1 (List.mem_of_mem_head? h)
    simp [join, isAbsolute, hp, hhead]
  · obtain ⟨c, rest, hc⟩ := List.exists_cons_of_ne_nil (mt String.toList_eq_nil_iff.1 hp)
    unfold join
    split <;> simp [isAbsolute, hc]

/-- A path without names that does not start at the root is empty. -/
theorem text_of_names {p : Path} (h : p.names = [""]) (ha : p.isAbsolute = false) :
    p.text = "" := by
  obtain ⟨first, rest, hparts⟩ := exists_parts p
  rw [names_of_parts hparts, List.cons.injEq] at h
  cases hc : p.text.toList with
  | nil => exact String.toList_eq_nil_iff.1 hc
  | cons c chars =>
    have hslash : c ≠ '/' := by
      rintro rfl
      simp [isAbsolute, hc] at ha
    obtain ⟨part, others, hr⟩ := List.exists_cons_of_ne_nil (Text.splitAt_ne_nil '/' chars)
    rw [parts, hc, Text.splitAt_cons_of_ne hslash hr, List.map_cons, List.cons.injEq] at hparts
    have hfirst := hparts.1.trans h.1
    rw [← String.toList_inj] at hfirst
    simp at hfirst

theorem names_empty_join (hn : IsName name) {p : Path} (hp : p.text = "") :
    (p.join name).names = [name] := by
  have hj : p.join name = ⟨name⟩ := by simp [join, hp]
  rw [hj, names_of_parts (parts_of_isName hn)]
  rfl

theorem same_iff {p q : Path} :
    p.same q = true ↔ p.isAbsolute = q.isAbsolute ∧ p.names = q.names := by
  simp [same]

theorem filter_names (p : Path) : p.names.filter (!isIdle ·) = p.parts.filter (!isIdle ·) := by
  obtain ⟨first, rest, h⟩ := exists_parts p
  rw [names_of_parts h, h]
  simp [List.filter_cons]

theorem filter_parts_of_same {p q : Path} (h : p.same q = true) :
    p.parts.filter (!isIdle ·) = q.parts.filter (!isIdle ·) := by
  rw [← filter_names, ← filter_names, (same_iff.1 h).2]

theorem same_symm {p q : Path} (h : p.same q = true) : q.same p = true := by
  rw [same_iff] at h ⊢
  exact ⟨h.1.symm, h.2.symm⟩

theorem not_same_of_empty {p q : Path} (hp : p.text = "") (hq : q.text ≠ "") :
    ¬ p.same q = true := by
  intro h
  obtain ⟨ha, hnames⟩ := same_iff.1 h
  have hp' : p = ⟨""⟩ := by
    cases p
    exact congrArg _ hp
  subst hp'
  exact hq (text_of_names hnames.symm ha.symm)

/-- An empty path has no slash in front of the name, and so fewer names than any other. -/
theorem not_same_join_of_empty (hn : IsName name) {p q : Path} (hp : p.text = "")
    (hq : q.text ≠ "") : ¬ (p.join name).same (q.join name) = true := by
  intro h
  have hnames := (same_iff.1 h).2
  rw [names_empty_join hn hp, names_join hn hq] at hnames
  have hlength := congrArg List.length hnames
  have hpos : 0 < q.names.length := List.length_pos_iff.2 (names_ne_nil q)
  simp only [List.length_append, List.length_singleton] at hlength
  omega

/-- **Paths are the same if they are with one name joined to both.** -/
theorem same_join (hn : IsName name) (p q : Path) :
    (p.join name).same (q.join name) = true ↔ p.same q = true := by
  by_cases hp : p.text = "" <;> by_cases hq : q.text = ""
  · have heq : p = q := by
      cases p
      cases q
      exact congrArg _ (hp.trans hq.symm)
    simp [heq, same_iff]
  · exact iff_of_false (not_same_join_of_empty hn hp hq) (not_same_of_empty hp hq)
  · exact iff_of_false (fun h => not_same_join_of_empty hn hq hp (same_symm h))
      fun h => not_same_of_empty hq hp (same_symm h)
  · rw [same_iff, same_iff, names_join hn hp, names_join hn hq, isAbsolute_join hn,
      isAbsolute_join hn, List.append_left_inj]

/-! ## The paths above a path -/

theorem dropIdleEnd_prefix (parts : List String) : dropIdleEnd parts <+: parts := by
  have h := List.reverse_prefix.2 (List.dropWhile_suffix (l := parts.reverse) isIdle)
  rwa [List.reverse_reverse] at h

/-- What is left after the last name is a proper beginning of the parts. -/
theorem exists_dropped {rest names : List String} {name : String}
    (h : dropIdleEnd rest = name :: names) :
    ∃ dropped, dropped ≠ [] ∧ rest = dropIdleEnd (name :: names).dropLast ++ dropped := by
  obtain ⟨idle, hidle⟩ := dropIdleEnd_prefix rest
  obtain ⟨more, hmore⟩ := dropIdleEnd_prefix (name :: names).dropLast
  have hlast := List.dropLast_concat_getLast (List.cons_ne_nil name names)
  refine ⟨more ++ [(name :: names).getLast (List.cons_ne_nil _ _)] ++ idle, by simp, ?_⟩
  rw [← hidle, h, ← List.append_assoc, ← List.append_assoc, hmore, hlast]

theorem text_ne_of_parent? {p q : Path} (h : p.parent? = some q) : p.text ≠ "" ∧ p.text ≠ "/" := by
  have hempty : (⟨""⟩ : Path).parent? = none := by decide
  have hroot : (⟨"/"⟩ : Path).parent? = none := by decide
  obtain ⟨text⟩ := p
  constructor
  · rintro rfl
    rw [hempty] at h
    cases h
  · rintro rfl
    rw [hroot] at h
    cases h

/-- The path of some parts is shorter than a text with more parts, unless that is the root. -/
theorem length_ofParts_lt {first text : String} {kept dropped : List String} (hne : dropped ≠ [])
    (htext : "/".intercalate (first :: (kept ++ dropped)) = text) (hroot : text ≠ "/") :
    (ofParts first kept).text.length < text.length := by
  rw [← List.cons_append, String.intercalate_append_of_ne_nil (List.cons_ne_nil _ _) hne] at htext
  have hlength := congrArg String.length htext
  simp only [String.length_append] at hlength
  have hslash : "/".length = 1 := rfl
  unfold ofParts
  split
  · next hfirst =>
    have hrest : ("/".intercalate dropped).length ≠ 0 := by
      intro hzero
      refine hroot (htext.symm.trans ?_)
      rw [hfirst.1, hfirst.2, String.length_eq_zero_iff.1 hzero]
      rfl
    simp only
    omega
  · simp only
    omega

/-- **The text of a parent is shorter.** -/
theorem length_lt_of_parent? {p q : Path} (h : p.parent? = some q) :
    q.text.length < p.text.length := by
  obtain ⟨hempty, hroot⟩ := text_ne_of_parent? h
  obtain ⟨first, rest, hparts⟩ := exists_parts p
  have htext := intercalate_parts p
  rw [hparts] at htext
  rw [parent?, hparts] at h
  simp only at h
  split at h
  · split at h
    · cases h
    · cases h
      exact Nat.pos_of_ne_zero (mt String.length_eq_zero_iff.1 hempty)
  · next name names hkept =>
    cases h
    obtain ⟨dropped, hne, hrest⟩ := exists_dropped hkept
    rw [hrest] at htext
    exact length_ofParts_lt hne htext hroot

/-- A bound above the length of the text makes no difference. -/
theorem upward_eq {limit bound : Nat} {p : Path} (hl : p.text.length < limit)
    (hb : p.text.length < bound) : upward limit p = upward bound p := by
  induction limit generalizing bound p with
  | zero => omega
  | succ limit ih =>
    obtain ⟨bound, rfl⟩ : ∃ n, bound = n + 1 := ⟨bound - 1, by omega⟩
    simp only [upward]
    cases hq : p.parent? with
    | none => rfl
    | some q =>
      have hlt := length_lt_of_parent? hq
      exact congrArg (p :: ·) (ih (by omega) (by omega))

/-- **A path is followed by its parent and those above it**, up to one without a parent. -/
theorem ancestors_eq (p : Path) : p.ancestors = p :: (p.parent?.map ancestors).getD [] := by
  rw [ancestors, upward]
  cases hq : p.parent? with
  | none => rfl
  | some q =>
    have hlt := length_lt_of_parent? hq
    exact congrArg (p :: ·) (upward_eq (by omega) (by omega))

/-! ## The directory of a name -/

theorem dropIdleEnd_of_isName (hn : IsName name) (rest : List String) :
    dropIdleEnd (rest ++ [name]) = rest ++ [name] := by
  simp [dropIdleEnd, hn.2]

theorem filter_dropIdleEnd (parts : List String) :
    (dropIdleEnd parts).filter (!isIdle ·) = parts.filter (!isIdle ·) := by
  have hdrop : ∀ l : List String,
      (l.dropWhile isIdle).filter (!isIdle ·) = l.filter (!isIdle ·) := by
    intro l
    induction l with
    | nil => rfl
    | cons part rest ih =>
      cases hpart : isIdle part with
      | true => simp [hpart, ih]
      | false => simp [hpart]
  rw [dropIdleEnd, ← List.reverse_inj, ← List.filter_reverse, ← List.filter_reverse,
    List.reverse_reverse, hdrop]

theorem isAbsolute_iff_of_parts {p : Path} {first : String} {rest : List String}
    (h : p.parts = first :: rest) : p.isAbsolute = true ↔ first = "" ∧ rest ≠ [] := by
  cases hc : p.text.toList with
  | nil =>
    rw [parts, hc] at h
    simp only [Text.splitAt, List.map_cons, List.map_nil, List.cons.injEq] at h
    simp [isAbsolute, hc, ← h.2]
  | cons c chars =>
    obtain ⟨part, others, hr⟩ := List.exists_cons_of_ne_nil (Text.splitAt_ne_nil '/' chars)
    by_cases hslash : c = '/'
    · subst hslash
      rw [parts, hc, Text.splitAt_mark, hr] at h
      simp only [List.map_cons, List.cons.injEq] at h
      simp [isAbsolute, hc, ← h.1, ← h.2]
    · rw [parts, hc, Text.splitAt_cons_of_ne hslash hr] at h
      simp only [List.map_cons, List.cons.injEq] at h
      have hfirst : first ≠ "" := by
        rintro rfl
        have hlist := congrArg String.toList h.1
        simp at hlist
      simp [isAbsolute, hc, hslash, hfirst]

theorem slash_not_mem_parts {p : Path} : ∀ part ∈ p.parts, '/' ∉ part.toList := by
  intro part hpart
  obtain ⟨chars, hchars, rfl⟩ := List.mem_map.1 hpart
  rw [String.toList_ofList]
  exact Text.not_mem_of_mem_splitAt hchars

theorem parts_intercalate {names : List String} (hne : names ≠ [])
    (h : ∀ part ∈ names, '/' ∉ part.toList) : (⟨"/".intercalate names⟩ : Path).parts = names := by
  have hsplit : Text.splitAt '/' (['/'].intercalate (names.map String.toList)) =
      names.map String.toList := by
    refine Text.splitAt_intercalate (by simpa using hne) fun part hpart => ?_
    obtain ⟨name, hname, rfl⟩ := List.mem_map.1 hpart
    exact h name hname
  have hslash : "/".toList = ['/'] := rfl
  rw [parts, String.toList_intercalate, hslash, hsplit, List.map_map]
  exact (List.map_congr_left fun part _ => String.ofList_toList).trans (List.map_id _)

/-- The path of parts, as the parts say. -/
theorem names_ofParts {first : String} {rest : List String}
    (h : ∀ part ∈ first :: rest, '/' ∉ part.toList) :
    (ofParts first rest).names = first :: rest.filter (!isIdle ·) ∧
      ((ofParts first rest).isAbsolute = true ↔ first = "") := by
  unfold ofParts
  split
  · next hroot =>
    obtain ⟨rfl, rfl⟩ := hroot
    decide
  · next hroot =>
    have hparts := parts_intercalate (List.cons_ne_nil first rest) h
    refine ⟨names_of_parts hparts, (isAbsolute_iff_of_parts hparts).trans ?_⟩
    exact ⟨fun h => h.1, fun h => ⟨h, fun hrest => hroot ⟨h, hrest⟩⟩⟩

theorem parent?_of_parts (hn : IsName name) {p : Path} {first : String} {rest : List String}
    (h : p.parts = first :: (rest ++ [name])) :
    p.parent? = some (ofParts first (dropIdleEnd rest)) := by
  obtain ⟨next, others, hnext⟩ : ∃ next others, rest ++ [name] = next :: others :=
    List.exists_cons_of_ne_nil (List.append_ne_nil_of_right_ne_nil _ (List.cons_ne_nil _ _))
  have hkept : dropIdleEnd (next :: others) = next :: others := by
    rw [← hnext, dropIdleEnd_of_isName hn]
  have hlast : (next :: others).dropLast = rest := by rw [← hnext, List.dropLast_concat]
  rw [parent?, h]
  simp only [hnext, hkept, hlast]

theorem same_ofParts {p : Path} {first : String} {rest tail : List String}
    (hp : p.parts = first :: tail) (htail : tail.filter (!isIdle ·) = rest.filter (!isIdle ·))
    (hslash : ∀ part ∈ first :: rest, '/' ∉ part.toList) (hroot : first = "" → tail ≠ []) :
    (ofParts first (dropIdleEnd rest)).same p = true := by
  have hinitial := dropIdleEnd_prefix rest
  have hkept : ∀ part ∈ first :: dropIdleEnd rest, '/' ∉ part.toList := fun part hpart =>
    hslash part (List.cons_subset_cons first hinitial.subset hpart)
  obtain ⟨hnames, habsolute⟩ := names_ofParts hkept
  have hboth : (ofParts first (dropIdleEnd rest)).isAbsolute = true ↔ p.isAbsolute = true := by
    rw [habsolute, isAbsolute_iff_of_parts hp]
    exact ⟨fun h => ⟨h, hroot h⟩, fun h => h.1⟩
  refine same_iff.2 ⟨Bool.eq_iff_iff.2 hboth, ?_⟩
  rw [hnames, names_of_parts hp, filter_dropIdleEnd, htail]

/-- **The parent of a path with a name joined to it** is the path. -/
theorem exists_parent?_join (hn : IsName name) (p : Path) :
    ∃ q, (p.join name).parent? = some q ∧ q.same p = true := by
  have hslash := @slash_not_mem_parts p
  rcases parts_join hn p with ⟨kept, hparts, hj⟩ | ⟨hp, hj⟩
  · cases kept with
    | nil =>
      have hname : name ≠ "" := by
        rintro rfl
        exact absurd hn.2 (by decide)
      have hempty : p = ⟨""⟩ := by
        have htext := intercalate_parts p
        rw [hparts] at htext
        cases p
        exact congrArg _ htext.symm
      refine ⟨⟨""⟩, ?_, ?_⟩
      · rw [parent?, hj]
        simp [dropIdleEnd, hname]
      · rw [hempty]
        decide
    | cons first rest =>
      rw [List.cons_append] at hparts hj
      rw [hparts] at hslash
      refine ⟨_, parent?_of_parts hn hj, same_ofParts hparts ?_ ?_ fun _ => by simp⟩
      · simp [isIdle]
      · intro part hpart
        refine hslash part ?_
        rw [← List.cons_append]
        exact List.mem_append_left _ hpart
  · obtain ⟨first, rest, hparts⟩ := exists_parts p
    rw [hparts, List.cons_append] at hj
    rw [hparts] at hslash
    refine ⟨_, parent?_of_parts hn hj, same_ofParts hparts rfl hslash ?_⟩
    rintro rfl rfl
    have htext := intercalate_parts p
    rw [hparts] at htext
    exact hp htext.symm

end Path

end SearchNotation
