import SearchNotation.Proofs.Decimal.Digits
import SearchNotation.Proofs.Toml.Strings
import SearchNotation.Toml.Document

/-!
# What is written as lines of TOML is read again

Numbers and lists of strings are read back up to the end of their line (`readsTo_number`,
`readsTo_stringsText`). A line of an entry or of a header is the first statement of the text that
starts with it, and what comes after it is read as before (`readStatements_entryLine`,
`readStatements_headerLine`); so a document is read one line at a time.
-/

set_option autoImplicit false

namespace SearchNotation.Toml

/-! ## Numbers -/

theorem digitsOf?_of_forall {text : List Char} (hne : text ≠ [])
    (h : ∀ c ∈ text, c.isDigit = true) : digitsOf? Char.isDigit text = some text := by
  induction text with
  | nil => exact absurd rfl hne
  | cons c rest ih =>
    obtain ⟨hc, hrest⟩ := List.forall_mem_cons.1 h
    cases rest with
    | nil => simp [digitsOf?, hc]
    | cons d rest =>
      have htail := ih (List.cons_ne_nil _ _) hrest
      rw [digitsOf?]
      · simp [hc, htail]
      · exact nofun
      · intro others heq
        obtain ⟨rfl, -⟩ := List.cons.inj heq
        exact absurd (hrest _ (.head _)) (by decide)

theorem numberOf_toDigits (n : Nat) : numberOf 10 (Nat.toDigits 10 n) = n := by
  have hvalue := Decimal.foldl_toDigits n
  have hfold : numberOf 10 (Nat.toDigits 10 n) =
      (Nat.toDigits 10 n).foldl (fun m c => m * 10 + (c.toNat - '0'.toNat)) 0 := by
    refine List.foldl_rel rfl fun c hc m m' hm => ?_
    rw [hm, Text.hexValue?_of_isDigit (Decimal.forall_isDigit_toDigits n c hc)]
    rfl
  rw [hfold, hvalue]

theorem integerOf?_toDigits (n : Nat) : integerOf? (Nat.toDigits 10 n) = some (.integer n) := by
  obtain ⟨c, rest, hdigits, hc, hzero⟩ := Decimal.toDigits_eq_cons n
  have hbase : splitBase? (Nat.toDigits 10 n) = none := by
    rw [hdigits]
    unfold splitBase?
    split
    all_goals first
      | rfl
      | next heq =>
        obtain ⟨rfl, hrest⟩ := List.cons.inj heq
        rw [hzero rfl] at hrest
        cases hrest
  have hsign : splitSign (Nat.toDigits 10 n) = (false, Nat.toDigits 10 n) := by
    rw [hdigits]
    unfold splitSign
    split
    all_goals first
      | rfl
      | next heq =>
        obtain ⟨rfl, -⟩ := List.cons.inj heq
        exact absurd hc (by decide)
  have hwhole : wholeDigits? (Nat.toDigits 10 n) = some (Nat.toDigits 10 n) := by
    rw [wholeDigits?, digitsOf?_of_forall Nat.toDigits_ne_nil (Decimal.forall_isDigit_toDigits n),
      Option.filter_some, if_pos]
    rw [hdigits]
    by_cases hc0 : c = '0'
    · rw [hzero hc0]
      simp
    · simp [hc0]
  simp only [integerOf?, hbase, hsign, hwhole, Option.map_some, numberOf_toDigits,
    Bool.false_eq_true, if_false]

theorem ofBare?_toDigits (n : Nat) : Value.ofBare? (Nat.toDigits 10 n) = some (.integer n) := by
  obtain ⟨c, rest, hdigits, hc, -⟩ := Decimal.toDigits_eq_cons n
  have htrue : Nat.toDigits 10 n ≠ "true".toList := by
    rw [hdigits]
    intro heq
    obtain ⟨rfl, -⟩ := List.cons.inj heq
    exact absurd hc (by decide)
  have hfalse : Nat.toDigits 10 n ≠ "false".toList := by
    rw [hdigits]
    intro heq
    obtain ⟨rfl, -⟩ := List.cons.inj heq
    exact absurd hc (by decide)
  rw [Value.ofBare?, if_neg htrue, if_neg hfalse, integerOf?_toDigits]

/-! ## Values to the end of a line -/

/-- A text that is read as a value where its line ends. -/
structure ReadsTo (text : List Char) (value : Value) : Prop where
  visible : ∃ c rest, text = c :: rest ∧ isBlank c = false
  read : ∀ inlineTable? {steps depth : Nat} rest, text.length ≤ steps → 0 < depth →
    readValue inlineTable? steps depth (text ++ '\n' :: rest) = some (value, '\n' :: rest)

theorem endsBare_of_isDigit {c : Char} (h : c.isDigit = true) : endsBare c = false := by
  simp only [endsBare, Bool.or_eq_false_iff, beq_eq_false_iff_ne]
  refine ⟨⟨⟨⟨⟨⟨⟨⟨?_, ?_⟩, ?_⟩, ?_⟩, ?_⟩, ?_⟩, ?_⟩, ?_⟩, ?_⟩
  all_goals
    rintro rfl
    exact absurd h (by decide)

theorem isBlank_of_isNameChar {c : Char} (h : isNameChar c = true) : isBlank c = false := by
  simp only [isBlank, Bool.or_eq_false_iff, beq_eq_false_iff_ne]
  constructor <;> rintro rfl <;> exact absurd h (by decide)

theorem isBlank_of_isDigit {c : Char} (h : c.isDigit = true) : isBlank c = false :=
  isBlank_of_isNameChar (by simp [isNameChar, Char.isAlphanum, h])

theorem readBare_toDigits (n : Nat) (rest : List Char) :
    readBare (Nat.toDigits 10 n ++ '\n' :: rest) = some (.integer n, '\n' :: rest) := by
  have hinside : ∀ c ∈ Nat.toDigits 10 n, (!endsBare c) = true := fun c hc => by
    rw [endsBare_of_isDigit (Decimal.forall_isDigit_toDigits n c hc)]
    rfl
  have htake : ('\n' :: rest).takeWhile (!endsBare ·) = [] := rfl
  have hdrop : ('\n' :: rest).dropWhile (!endsBare ·) = '\n' :: rest := rfl
  have htrim : (Nat.toDigits 10 n).reverse.dropWhile isBlank = (Nat.toDigits 10 n).reverse := by
    cases hlast : (Nat.toDigits 10 n).reverse with
    | nil => rfl
    | cons c others =>
      have hc : c ∈ Nat.toDigits 10 n := by
        rw [← List.mem_reverse, hlast]
        exact .head _
      have hblank := isBlank_of_isDigit (Decimal.forall_isDigit_toDigits n c hc)
      exact List.dropWhile_cons_of_neg (Bool.eq_false_iff.1 hblank)
  simp only [readBare, List.takeWhile_append_of_pos hinside, List.dropWhile_append_of_pos hinside,
    htake, hdrop, List.append_nil, htrim, List.reverse_reverse, ofBare?_toDigits, Option.map_some]

theorem readsTo_number (n : Nat) : ReadsTo (toString n).toList (.integer n) := by
  have htext : (toString n).toList = Nat.toDigits 10 n := Nat.toList_repr
  obtain ⟨c, others, hdigits, hc, -⟩ := Decimal.toDigits_eq_cons n
  rw [htext]
  refine ⟨⟨c, others, hdigits, isBlank_of_isDigit hc⟩, ?_⟩
  intro inlineTable? steps depth rest hsteps _
  have hread := readBare_toDigits n rest
  rw [hdigits, List.length_cons] at hsteps
  obtain ⟨steps, rfl⟩ : ∃ s, steps = s + 1 := ⟨steps - 1, by omega⟩
  rw [hdigits, List.cons_append] at hread ⊢
  rw [readValue]
  · exact hread
  -- no other value starts with a digit
  all_goals
    intro more heq
    obtain ⟨rfl, -⟩ := List.cons.inj heq
    exact absurd hc (by decide)

/-! ## Lists of strings -/

theorem stringChars_eq_cons (text : List Char) :
    ∃ c rest, stringChars text = c :: rest ∧ (c = '"' ∨ c = '\'') := by
  simp only [stringChars]
  cases Marks.forText text
  · exact ⟨'"', _, rfl, .inl rfl⟩
  · exact ⟨'\'', _, rfl, .inr rfl⟩
  · exact ⟨'"', _, rfl, .inl rfl⟩
  · exact ⟨'\'', _, rfl, .inr rfl⟩

section
variable {inlineTable? : List (Key × Value) → Option Table} {steps depth : Nat} {more : List Char}

theorem readValue_stringChars (s : String) {rest : List Char} (hrest : NoMark rest) :
    readValue inlineTable? (steps + 1) depth (stringChars s.toList ++ rest) =
      some (.string s, rest) := by
  have hread := readString?_stringChars s.toList hrest
  rw [String.ofList_toList] at hread
  obtain ⟨c, text, htext, hmark⟩ := stringChars_eq_cons s.toList
  rw [htext, List.cons_append] at hread ⊢
  have hstep : readValue inlineTable? (steps + 1) depth (c :: (text ++ rest)) =
      (readString? (c :: (text ++ rest))).map fun r => (.string r.1, r.2) := by
    rcases hmark with rfl | rfl <;> rfl
  rw [hstep, hread]
  rfl

theorem skipGaps_stringChars (s : String) (rest : List Char) :
    skipGaps false (stringChars s.toList ++ rest) = some (stringChars s.toList ++ rest) := by
  obtain ⟨c, text, htext, hmark⟩ := stringChars_eq_cons s.toList
  rw [htext, List.cons_append]
  rcases hmark with rfl | rfl <;> rfl

theorem readItems_newline (text : List Char) :
    readItems inlineTable? steps depth ('\n' :: text) =
      readItems inlineTable? steps depth text := by
  cases steps <;> rfl

theorem readItems_end (rest : List Char) :
    readItems inlineTable? (steps + 1) depth (']' :: rest) = some ([], rest) := rfl

/-- The items of an array start with one before a comma. -/
theorem readItems_comma (s : String) {text rest : List Char} {others : List Value}
    (hgap : skipGaps false text = some (stringChars s.toList ++ ',' :: rest))
    (hothers : readItems inlineTable? (steps + 1) depth rest = some (others, more)) :
    readItems inlineTable? (steps + 2) depth text = some (.string s :: others, more) := by
  have hvalue : readValue inlineTable? (steps + 1) depth (stringChars s.toList ++ ',' :: rest) =
      some (.string s, ',' :: rest) :=
    readValue_stringChars s (noMark_cons (by decide))
  have hcomma : skipGaps false (',' :: rest) = some (',' :: rest) := rfl
  obtain ⟨c, chars, htext, hmark⟩ := stringChars_eq_cons s.toList
  rw [htext, List.cons_append] at hgap hvalue
  rw [readItems, hgap]
  rcases hmark with rfl | rfl <;> simp [hvalue, hcomma, hothers]

/-- The last item of an array stands before its bracket. -/
theorem readItems_single (s : String) (rest : List Char) :
    readItems inlineTable? (steps + 2) depth (stringChars s.toList ++ ']' :: rest) =
      some ([.string s], rest) := by
  have hgap := skipGaps_stringChars s (']' :: rest)
  have hvalue : readValue inlineTable? (steps + 1) depth (stringChars s.toList ++ ']' :: rest) =
      some (.string s, ']' :: rest) :=
    readValue_stringChars s (noMark_cons (by decide))
  have hbracket : skipGaps false (']' :: rest) = some (']' :: rest) := rfl
  obtain ⟨c, chars, htext, hmark⟩ := stringChars_eq_cons s.toList
  rw [htext, List.cons_append] at hgap hvalue ⊢
  rw [readItems, hgap]
  rcases hmark with rfl | rfl <;> simp [hvalue, hbracket]

/-- The line of an item of a list that goes over several lines. -/
def itemLine (s : String) : List Char :=
  [' ', ' ', ' ', ' '] ++ stringChars s.toList ++ [',', '\n']

theorem readItems_itemLines (items : List String) (rest : List Char)
    (hsteps : items.length < steps) :
    readItems inlineTable? steps depth (items.flatMap itemLine ++ ']' :: rest) =
      some (items.map .string, rest) := by
  induction items generalizing steps with
  | nil =>
    obtain ⟨steps, rfl⟩ : ∃ s, steps = s + 1 := ⟨steps - 1, by omega⟩
    exact readItems_end rest
  | cons s items ih =>
    rw [List.length_cons] at hsteps
    obtain ⟨steps, rfl⟩ : ∃ s, steps = s + 2 := ⟨steps - 2, by omega⟩
    have htext : (s :: items).flatMap itemLine ++ ']' :: rest =
        [' ', ' ', ' ', ' '] ++ (stringChars s.toList ++
          ',' :: '\n' :: (items.flatMap itemLine ++ ']' :: rest)) := by
      simp [itemLine]
    have hothers : readItems inlineTable? (steps + 1) depth
        (items.flatMap itemLine ++ ']' :: rest) = some (items.map .string, rest) :=
      ih (by omega)
    rw [← readItems_newline] at hothers
    have hindent : ∀ text, skipGaps false ([' ', ' ', ' ', ' '] ++ text) = skipGaps false text :=
      fun _ => rfl
    have hgap := (hindent _).trans
      (skipGaps_stringChars s (',' :: '\n' :: (items.flatMap itemLine ++ ']' :: rest)))
    rw [htext]
    exact readItems_comma s hgap hothers

end

theorem toList_stringsText_cons (first second : String) (items : List String) :
    (stringsText (first :: second :: items)).toList =
      '[' :: '\n' :: ((first :: second :: items).flatMap itemLine ++ [']']) := by
  have hline : ∀ s, ("    " ++ stringText s ++ ",\n").toList = itemLine s := by
    intro s
    simp [itemLine, stringText]
  simp only [stringsText, String.toList_append, String.toList_join, List.flatMap_map, hline]
  rfl

theorem length_le_length_itemLines (items : List String) :
    items.length ≤ (items.flatMap itemLine).length := by
  induction items with
  | nil => exact Nat.le_refl 0
  | cons s items ih =>
    have hline : 0 < (itemLine s).length := by simp [itemLine]
    rw [List.flatMap_cons, List.length_append, List.length_cons]
    omega

theorem readsTo_array {inner : List Char} {items : List Value}
    (h : ∀ inlineTable? {steps depth : Nat} rest, inner.length ≤ steps →
      readItems inlineTable? steps depth (inner ++ rest) = some (items, rest)) :
    ReadsTo ('[' :: inner) (.array items) := by
  refine ⟨⟨'[', inner, rfl, by decide⟩, fun inlineTable? {steps depth} rest hsteps hdepth => ?_⟩
  rw [List.length_cons] at hsteps
  obtain ⟨steps, rfl⟩ : ∃ s, steps = s + 1 := ⟨steps - 1, by omega⟩
  obtain ⟨depth, rfl⟩ : ∃ d, depth = d + 1 := ⟨depth - 1, by omega⟩
  have hstep : readValue inlineTable? (steps + 1) (depth + 1) ('[' :: (inner ++ '\n' :: rest)) =
      (readItems inlineTable? steps depth (inner ++ '\n' :: rest)).map
        fun r => (.array r.1, r.2) := rfl
  rw [List.cons_append, hstep, h inlineTable? _ (by omega)]
  rfl

/-- **A list of strings is read back**, on one line or with each string on its own. -/
theorem readsTo_stringsText (items : List String) :
    ReadsTo (stringsText items).toList (.array (items.map .string)) := by
  match items with
  | [] =>
    have htext : (stringsText []).toList = ['[', ']'] := rfl
    rw [htext]
    refine readsTo_array fun inlineTable? {steps depth} rest hsteps => ?_
    obtain ⟨steps, rfl⟩ : ∃ s, steps = s + 1 := ⟨steps - 1, (Nat.sub_add_cancel hsteps).symm⟩
    exact readItems_end rest
  | [s] =>
    have htext : (stringsText [s]).toList = '[' :: (stringChars s.toList ++ [']']) := by
      simp [stringsText, stringText]
    rw [htext]
    refine readsTo_array fun inlineTable? {steps depth} rest hsteps => ?_
    obtain ⟨c, chars, hchars, -⟩ := stringChars_eq_cons s.toList
    have hlength : (stringChars s.toList ++ [']']).length = chars.length + 2 := by simp [hchars]
    obtain ⟨steps, rfl⟩ : ∃ s, steps = s + 2 := ⟨steps - 2, by omega⟩
    rw [List.append_assoc]
    exact readItems_single s rest
  | first :: second :: items =>
    rw [toList_stringsText_cons]
    refine readsTo_array fun inlineTable? {steps depth} rest hsteps => ?_
    have hitems := length_le_length_itemLines (first :: second :: items)
    simp only [List.length_cons, List.length_append, List.length_nil] at hitems hsteps
    rw [List.cons_append, readItems_newline, List.append_assoc]
    exact readItems_itemLines _ rest (by simp only [List.length_cons]; omega)

/-! ## Statements -/

/-- A name that needs no marks. -/
structure IsBareName (name : String) : Prop where
  nonempty : name.toList ≠ []
  plain : ∀ c ∈ name.toList, isNameChar c = true

theorem isBareName_ofList {chars : List Char} (hne : chars.isEmpty = false)
    (h : chars.all isNameChar = true) : IsBareName (String.ofList chars) := by
  constructor
  · rw [String.toList_ofList]
    rintro rfl
    cases hne
  · rw [String.toList_ofList]
    exact List.all_eq_true.1 h

theorem IsBareName.eq_cons {name : String} (h : IsBareName name) :
    ∃ c chars, name.toList = c :: chars ∧ isNameChar c = true := by
  cases hname : name.toList with
  | nil => exact absurd hname h.nonempty
  | cons c chars => exact ⟨c, chars, rfl, h.plain c (by rw [hname]; exact .head _)⟩

theorem readName_append {name : String} (h : IsBareName name) {c : Char} {rest : List Char}
    (hc : isNameChar c = false) :
    readName (name.toList ++ c :: rest) = some (name, c :: rest) := by
  have htake : (name.toList ++ c :: rest).takeWhile isNameChar = name.toList := by
    rw [List.takeWhile_append_of_pos h.plain, List.takeWhile_cons_of_neg (by simp [hc]),
      List.append_nil]
  have hdrop : (name.toList ++ c :: rest).dropWhile isNameChar = c :: rest := by
    rw [List.dropWhile_append_of_pos h.plain, List.dropWhile_cons_of_neg (by simp [hc])]
  simp only [readName, htake, hdrop]
  split
  · next hnil => exact absurd hnil h.nonempty
  · rw [String.ofList_toList]

theorem skipGaps_of_isNameChar {c : Char} (h : isNameChar c = true) (rest : List Char) :
    skipGaps false (c :: rest) = some (c :: rest) := by
  have hblank := isBlank_of_isNameChar h
  have hother : c ≠ '\n' ∧ c ≠ '\r' ∧ c ≠ '#' := by
    refine ⟨?_, ?_, ?_⟩ <;> rintro rfl <;> exact absurd h (by decide)
  rw [skipGaps]
  simp [hblank, hother]

/-- A name alone is a path, up to a character that goes on with neither. -/
theorem readKey_append {name : String} (h : IsBareName name) {c d : Char} {rest more : List Char}
    (hc : isNameChar c = false) (hnext : skipBlanks (c :: rest) = d :: more) (hd : d ≠ '.') :
    readKey (name.toList ++ c :: rest) = some (⟨name, []⟩, d :: more) := by
  obtain ⟨first, chars, hname, hfirst⟩ := h.eq_cons
  have hstart : skipBlanks (name.toList ++ c :: rest) = name.toList ++ c :: rest := by
    rw [hname, List.cons_append]
    exact List.dropWhile_cons_of_neg (Bool.eq_false_iff.1 (isBlank_of_isNameChar hfirst))
  have hnames : readNames maxDepth (name.toList ++ c :: rest) = some ([name], d :: more) := by
    rw [maxDepth, readNames, hstart, readName_append h hc]
    simp only [Option.bind_eq_bind, Option.bind_some, hnext]
    split
    · next heq => exact absurd (List.cons.inj heq).1 hd
    · rfl
  rw [readKey, hnames]

section
variable (inlineTable? : List (Key × Value) → Option Table)

theorem readStatements_newline (steps : Nat) (text : List Char) :
    readStatements inlineTable? steps ('\n' :: text) = readStatements inlineTable? steps text := by
  cases steps <;> rfl

/-- A statement that fills a line is the first one of a text. -/
theorem readStatements_cons {steps : Nat} {text rest : List Char} {statement : Statement}
    (hgap : skipGaps false text = some text)
    (hread : readStatement inlineTable? text = some (statement, '\n' :: rest)) :
    readStatements inlineTable? (steps + 1) text =
      (readStatements inlineTable? steps rest).map (statement :: ·) := by
  cases text with
  | nil => cases hread
  | cons c text =>
    change (skipGaps false (c :: text) >>= _) = _
    rw [hgap]
    change (readStatement inlineTable? (c :: text) >>= fun r =>
      guard (atLineEnd (skipBlanks r.2)) >>= fun _ =>
        readStatements inlineTable? steps r.2 >>= fun others => pure (r.1 :: others)) = _
    rw [hread]
    -- nothing stands between the statement and the end of its line
    change (readStatements inlineTable? steps ('\n' :: rest) >>= fun others =>
      pure (statement :: others)) = _
    rw [readStatements_newline]
    cases readStatements inlineTable? steps rest <;> rfl

theorem readStatements_headerLine {name : String} (h : IsBareName name) (steps : Nat)
    (rest : List Char) :
    readStatements inlineTable? (steps + 1) ((headerLine name).toList ++ rest) =
      (readStatements inlineTable? steps rest).map (.table ⟨name, []⟩ :: ·) := by
  have htext : (headerLine name).toList ++ rest = '[' :: (name.toList ++ ']' :: '\n' :: rest) := by
    simp [headerLine]
  have hkey : readKey (name.toList ++ ']' :: '\n' :: rest) =
      some (⟨name, []⟩, ']' :: '\n' :: rest) :=
    readKey_append h (by decide) rfl (by decide)
  obtain ⟨c, chars, hname, hc⟩ := h.eq_cons
  rw [htext]
  refine readStatements_cons inlineTable? rfl ?_
  rw [readStatement]
  · rw [hkey]
    rfl
  · intro more heq
    rw [hname] at heq
    obtain ⟨rfl, -⟩ := List.cons.inj heq
    exact absurd hc (by decide)

theorem readStatements_entryLine {name value : String} (h : IsBareName name) {v : Value}
    (hv : ReadsTo value.toList v) (steps : Nat) (rest : List Char) :
    readStatements inlineTable? (steps + 1) ((entryLine name value).toList ++ rest) =
      (readStatements inlineTable? steps rest).map (.entry ⟨name, []⟩ v :: ·) := by
  have htext : (entryLine name value).toList ++ rest =
      name.toList ++ ' ' :: '=' :: ' ' :: (value.toList ++ '\n' :: rest) := by
    simp [entryLine]
  have hkey : readKey (name.toList ++ ' ' :: '=' :: ' ' :: (value.toList ++ '\n' :: rest)) =
      some (⟨name, []⟩, '=' :: ' ' :: (value.toList ++ '\n' :: rest)) :=
    readKey_append h (by decide) rfl (by decide)
  obtain ⟨first, tail, hvalue, hblank⟩ := hv.visible
  have hskip : skipBlanks (' ' :: (value.toList ++ '\n' :: rest)) =
      value.toList ++ '\n' :: rest := by
    have hspace : skipBlanks (' ' :: (value.toList ++ '\n' :: rest)) =
        skipBlanks (value.toList ++ '\n' :: rest) := rfl
    rw [hspace, hvalue, List.cons_append]
    exact List.dropWhile_cons_of_neg (Bool.eq_false_iff.1 hblank)
  have hsteps : value.toList.length ≤ stepBound (value.toList ++ '\n' :: rest) := by
    rw [stepBound, List.length_append]
    omega
  have hdepth : 0 < maxDepth := by decide
  have hread := hv.read inlineTable? rest hsteps hdepth
  obtain ⟨c, chars, hname, hc⟩ := h.eq_cons
  rw [htext]
  refine readStatements_cons inlineTable? ?_ ?_
  · rw [hname, List.cons_append, skipGaps_of_isNameChar hc]
  · have hbracket : c ≠ '[' := by
      rintro rfl
      exact absurd hc (by decide)
    rw [readStatement]
    · simp only [Option.bind_eq_bind, Option.bind_some, hkey, hskip, hread]
      rfl
    all_goals
      intro more heq
      rw [hname] at heq
      exact hbracket (List.cons.inj heq).1

end

end SearchNotation.Toml
