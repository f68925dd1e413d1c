import SearchNotation.Json.Reader
import SearchNotation.Json.Writer
import SearchNotation.Proofs.Decimal.Digits
import SearchNotation.Proofs.Dict
import SearchNotation.Proofs.Notation.Grammar
import SearchNotation.Proofs.Text.Hexadecimal

/-!
# What is written as JSON is read again

Each part of a compact text is read back from the front of any text that goes on properly: integers
up to a character that ends them (`readNumber_toDigits`), strings up to their closing quote
(`readChars_flatMap`), and values with as many steps as they have characters
(`readValue_compactChars`). So reading gives back every value that has a text of its own, nested no
deeper than the reader goes (`read_compact`).
-/

set_option autoImplicit false

namespace SearchNotation.Json

/-! ## Values with a text of their own -/

/-- An integer of 64 bits, with or without a sign. -/
def Number.IsInteger (n : Number) : Prop :=
  ∃ i : Int, n = .int i ∧ -(minIntMagnitude : Int) ≤ i ∧ i < intEnd

/-- Numbers are integers, and the members of every object are in the order of their keys. -/
structure Canonical (json : Json) : Prop where
  numbers : ∀ n, Part (.number n) json → n.IsInteger
  objects : ∀ members, Part (.object members) json → Dict.Sorted members

mutual

/-- How deep arrays and objects are nested in a value. -/
def depth : Json → Nat
  | .array items => depthItems items + 1
  | .object members => depthMembers members + 1
  | .null | .bool _ | .number _ | .string _ => 0
  termination_by structural json => json

/-- How deep arrays and objects are nested in the items. -/
def depthItems : List Json → Nat
  | [] => 0
  | item :: rest => max (depth item) (depthItems rest)
  termination_by structural items => items

/-- How deep arrays and objects are nested in the values of the members. -/
def depthMembers : List (String × Json) → Nat
  | [] => 0
  | (_, value) :: rest => max (depth value) (depthMembers rest)
  termination_by structural members => members

end

theorem Canonical.of_part {x json : Json} (h : json.Canonical) (hp : Part x json) :
    x.Canonical where
  numbers n hn := h.numbers n (hn.trans hp)
  objects members hm := h.objects members (hm.trans hp)

theorem canonical_array {items : List Json} :
    Canonical (.array items) ↔ ∀ x ∈ items, x.Canonical := by
  constructor
  · intro h x hx
    exact h.of_part (.single (.item hx))
  · intro h
    constructor
    · intro n hp
      rcases hp.cases_tail with heq | ⟨z, hz, hc⟩
      · cases heq
      · cases hc with
        | item hx => exact (h _ hx).numbers n hz
    · intro members hp
      rcases hp.cases_tail with heq | ⟨z, hz, hc⟩
      · cases heq
      · cases hc with
        | item hx => exact (h _ hx).objects members hz

theorem canonical_object {members : List (String × Json)} :
    Canonical (.object members) ↔ Dict.Sorted members ∧ ∀ e ∈ members, e.2.Canonical := by
  constructor
  · intro h
    exact ⟨h.objects members .refl, fun e he => h.of_part (.single (.member he))⟩
  · rintro ⟨hs, h⟩
    constructor
    · intro n hp
      rcases hp.cases_tail with heq | ⟨z, hz, hc⟩
      · cases heq
      · cases hc with
        | member he => exact (h _ he).numbers n hz
    · intro ms hp
      rcases hp.cases_tail with heq | ⟨z, hz, hc⟩
      · cases heq
        exact hs
      · cases hc with
        | member he => exact (h _ he).objects ms hz

theorem canonical_of_isScalar {json : Json} (h : json.IsScalar)
    (hn : ∀ n, .number n = json → n.IsInteger) : json.Canonical := by
  constructor
  · intro n hp
    rcases hp.cases_tail with heq | ⟨z, -, hc⟩
    · exact hn n heq.symm
    · cases hc <;> cases h
  · intro members hp
    rcases hp.cases_tail with rfl | ⟨z, -, hc⟩
    · cases h
    · cases hc <;> cases h

theorem canonical_int {i : Int} (hlow : -(Number.minIntMagnitude : Int) ≤ i)
    (hhigh : i < Number.intEnd) : Canonical (.number (.int i)) :=
  canonical_of_isScalar trivial fun _ h => ⟨i, Json.number.inj h, hlow, hhigh⟩

/-! ## Integers -/

/-- The text does not go on with a number at whose end it stands. -/
def EndsNumber (rest : List Char) : Prop :=
  ∀ c, rest.head? = some c → c.isDigit = false ∧ c ≠ '.' ∧ c ≠ 'e' ∧ c ≠ 'E'

theorem endsNumber_nil : EndsNumber [] := nofun

theorem endsNumber_cons {c : Char} {rest : List Char}
    (h : c.isDigit = false ∧ c ≠ '.' ∧ c ≠ 'e' ∧ c ≠ 'E') : EndsNumber (c :: rest) := by
  intro d hd
  cases hd
  exact h

theorem spanDigits_append {digits rest : List Char} (h : ∀ c ∈ digits, c.isDigit = true)
    (hrest : EndsNumber rest) :
    spanDigits (digits ++ rest) = (digits.map digitValue, rest) := by
  have htake : rest.takeWhile Char.isDigit = [] := by
    cases rest with
    | nil => rfl
    | cons c rest => rw [List.takeWhile_cons_of_neg (by simp [(hrest c rfl).1])]
  have hdrop : rest.dropWhile Char.isDigit = rest := by
    cases rest with
    | nil => rfl
    | cons c rest => rw [List.dropWhile_cons_of_neg (by simp [(hrest c rfl).1])]
  rw [spanDigits, List.takeWhile_append_of_pos h, List.dropWhile_append_of_pos h, htake, hdrop,
    List.append_nil]

theorem le_foldl_digits (digits : List Nat) (n : Nat) :
    n ≤ digits.foldl (fun m d => m * 10 + d) n := by
  induction digits generalizing n with
  | nil => exact Nat.le_refl n
  | cons d rest ih =>
    have hrest := ih (n * 10 + d)
    rw [List.foldl_cons]
    omega

/-- Digits are all kept where the whole number stays within the limit. -/
theorem absorb_of_le {limit : Nat} {digits : List Nat} {n : Nat}
    (h : digits.foldl (fun m d => m * 10 + d) n ≤ limit) :
    absorb limit n digits = (digits.foldl (fun m d => m * 10 + d) n, []) := by
  induction digits generalizing n with
  | nil => rfl
  | cons d rest ih =>
    rw [List.foldl_cons] at h ⊢
    have hfirst : n * 10 + d ≤ limit := Nat.le_trans (le_foldl_digits rest _) h
    rw [absorb, if_pos hfirst, ih h]

theorem readFraction_ends {negative : Bool} {digits : Nat} {rest : List Char}
    (hrest : EndsNumber rest) :
    readFraction negative digits 0 rest =
      if !negative then .ok (.int digits, rest)
      else if 0 < digits ∧ digits ≤ Number.minIntMagnitude then .ok (.int (-digits), rest)
      else realOfParts true digits 0 rest := by
  unfold readFraction
  split
  · exact absurd rfl (hrest '.' rfl).2.1
  · exact absurd rfl (hrest 'e' rfl).2.2.1
  · exact absurd rfl (hrest 'E' rfl).2.2.2
  · rw [if_neg (by simp)]

theorem eq_zero_of_digitValue {c : Char} (hc : c.isDigit = true) (h : digitValue c = 0) :
    c = '0' := by
  have hle : '0'.toNat ≤ c.toNat := (Char.isDigit_iff_toNat.1 hc).1
  rw [digitValue] at h
  exact Char.toNat_inj.1 (by omega)

/-- The digits of a number are read up to their end, and go to what makes the number of them. -/
theorem readNumber_toDigits (negative : Bool) {n : Nat} (hn : n < Number.intEnd)
    {rest : List Char} (hrest : EndsNumber rest) :
    readNumber negative (Nat.toDigits 10 n ++ rest) = readFraction negative n 0 rest := by
  have hfold : ((Nat.toDigits 10 n).map digitValue).foldl (fun m d => m * 10 + d) 0 = n := by
    rw [List.foldl_map]
    exact Decimal.foldl_toDigits n
  have habsorb : absorb maxSignificand 0 ((Nat.toDigits 10 n).map digitValue) = (n, []) := by
    have hle : n ≤ maxSignificand := Nat.le_sub_one_of_lt hn
    rw [absorb_of_le (by rwa [hfold]), hfold]
  obtain ⟨c, digits, hdigits, hc, hzero⟩ := Decimal.toDigits_eq_cons n
  rw [readNumber, spanDigits_append (Decimal.forall_isDigit_toDigits n) hrest]
  rw [hdigits, List.map_cons] at habsorb ⊢
  split
  · next heq => cases heq
  · next d ds rest' heq =>
    -- a digit worth zero is a zero, and nothing follows a zero in front
    obtain ⟨hvalue, htail⟩ := List.cons.inj (Prod.mk.inj heq).1
    rw [hzero (eq_zero_of_digitValue hc hvalue)] at htail
    cases htail
  · next ds rest' _ _ heq =>
    cases heq
    rw [habsorb]
    rfl

theorem readNumber_natCast {n : Nat} (hn : n < Number.intEnd) {rest : List Char}
    (hrest : EndsNumber rest) :
    readNumber false (Nat.toDigits 10 n ++ rest) = .ok (.int n, rest) := by
  rw [readNumber_toDigits false hn hrest, readFraction_ends hrest]
  rfl

theorem readNumber_neg {n : Nat} (hpos : 0 < n) (hn : n ≤ Number.minIntMagnitude)
    {rest : List Char} (hrest : EndsNumber rest) :
    readNumber true (Nat.toDigits 10 n ++ rest) = .ok (.int (-n), rest) := by
  have hend : n < Number.intEnd := Nat.lt_of_le_of_lt hn (by decide)
  rw [readNumber_toDigits true hend hrest, readFraction_ends hrest]
  rw [if_neg (by decide), if_pos ⟨hpos, hn⟩]

/-! ## Strings -/

theorem hexValue4?_hexDigit {n : Nat} (h : n < 0x100) :
    hexValue4? '0' '0' (hexDigit (n / 16)) (hexDigit (n % 16)) = some n := by
  have hzero : Text.hexValue? '0' = some 0 := by decide
  have hhigh := Text.hexValue?_digitChar (n / 16) (by omega)
  have hlow := Text.hexValue?_digitChar (n % 16) (by omega)
  simp only [hexValue4?, hexDigit, hzero, hhigh, hlow]
  congr 1
  omega

theorem readChars_plain {c : Char} (hquote : c ≠ '"') (hslash : c ≠ '\\')
    (hplain : 0x20 ≤ c.toNat) (rest : List Char) :
    readChars (c :: rest) = (readChars rest).map fun r => (c :: r.1, r.2) := by
  rw [readChars, if_neg (by omega)]
  all_goals simp_all

theorem readChars_short {c e : Char} (h : shortEscape? c = some e) (rest : List Char) :
    readChars ('\\' :: c :: rest) = (readChars rest).map fun r => (e :: r.1, r.2) := by
  have hletter : c ≠ 'u' := by
    rintro rfl
    cases h
  rw [readChars, h]
  all_goals simp_all

theorem readChars_code {c : Char} (h : c.toNat < 0x20) (rest : List Char) :
    readChars (['\\', 'u', '0', '0', hexDigit (c.toNat / 16), hexDigit (c.toNat % 16)] ++ rest) =
      (readChars rest).map fun r => (c :: r.1, r.2) := by
  have hcode := hexValue4?_hexDigit (n := c.toNat) (by omega)
  have htrailing : isTrailingSurrogate c.toNat = false := by
    rw [isTrailingSurrogate, Bool.and_eq_false_iff, decide_eq_false_iff_not]
    exact .inl (by omega)
  have hleading : isLeadingSurrogate c.toNat = false := by
    rw [isLeadingSurrogate, Bool.and_eq_false_iff, decide_eq_false_iff_not]
    exact .inl (by omega)
  simp only [List.cons_append, List.nil_append, readChars, hcode, htrailing, hleading,
    Char.ofNat_toNat]
  rfl

/-- **A character is read back from the way it is written.** -/
theorem readChars_escapeChar (c : Char) (rest : List Char) :
    readChars (escapeChar c ++ rest) = (readChars rest).map fun r => (c :: r.1, r.2) := by
  unfold escapeChar
  split
  · next h =>
    subst h
    exact readChars_short rfl rest
  · next hquote =>
    split
    · next h =>
      subst h
      exact readChars_short rfl rest
    · next hslash =>
      split
      · next hplain => exact readChars_plain hquote hslash hplain rest
      · next hcontrol =>
        iterate 5
          split
          · next h =>
            subst h
            exact readChars_short rfl rest
        exact readChars_code (by omega) rest

theorem readChars_flatMap (text rest : List Char) :
    readChars (text.flatMap escapeChar ++ '"' :: rest) = .ok (text, rest) := by
  induction text with
  | nil => rfl
  | cons c text ih =>
    rw [List.flatMap_cons, List.append_assoc, readChars_escapeChar, ih]
    rfl

theorem quotedChars_append (s : String) (rest : List Char) :
    quotedChars s ++ rest = '"' :: (s.toList.flatMap escapeChar ++ '"' :: rest) := by
  simp [quotedChars]

theorem readString_quoted (s : String) (rest : List Char) :
    readString (s.toList.flatMap escapeChar ++ '"' :: rest) = .ok (s, rest) := by
  rw [readString, readChars_flatMap]
  exact congrArg (fun t => Except.ok (t, rest)) String.ofList_toList

/-! ## Values -/

theorem not_isBlank_of_lt {c : Char} (h : 0x20 < c.toNat) : ¬ isBlank c := by
  simp only [isBlank, Bool.or_eq_true, beq_iff_eq]
  rintro (((rfl | rfl) | rfl) | rfl) <;> exact absurd h (by decide)

theorem text_natCast (n : Nat) : (Number.int n).text.toList = Nat.toDigits 10 n :=
  Nat.toList_repr

theorem text_negSucc (n : Nat) :
    (Number.int (.negSucc n)).text.toList = '-' :: Nat.toDigits 10 (n + 1) := by
  have htext : (Number.int (.negSucc n)).text = "-" ++ (n + 1).repr := rfl
  rw [htext, String.toList_append, Nat.toList_repr]
  rfl

theorem readValue_digits {n : Nat} (hn : n < Number.intEnd) (steps depth : Nat) {rest : List Char}
    (hrest : EndsNumber rest) :
    readValue (steps + 1) depth (Nat.toDigits 10 n ++ rest) = .ok (.number (.int n), rest) := by
  have hread := readNumber_natCast hn hrest
  obtain ⟨c, digits, hdigits, hc, -⟩ := Decimal.toDigits_eq_cons n
  have hlow : 48 ≤ c.toNat := (Char.isDigit_iff_toNat.1 hc).1
  rw [hdigits, List.cons_append] at hread ⊢
  rw [readValue, skipBlanks, List.dropWhile_cons_of_neg (not_isBlank_of_lt (by omega))]
  split
  · next heq => cases heq
  -- no other value starts with a digit
  iterate 7
    · next heq =>
      cases heq
      exact absurd hc (by decide)
  · next heq =>
    cases heq
    rw [if_pos hc, hread]
    rfl

theorem readValue_int {i : Int} (hi : Number.IsInteger (.int i)) (steps depth : Nat)
    {rest : List Char} (hrest : EndsNumber rest) :
    readValue (steps + 1) depth ((Number.int i).text.toList ++ rest) =
      .ok (.number (.int i), rest) := by
  obtain ⟨_, heq, hlow, hhigh⟩ := hi
  cases heq
  cases i with
  | ofNat n =>
    have hn : n < Number.intEnd := Int.ofNat_lt.1 hhigh
    rw [Int.ofNat_eq_natCast, text_natCast]
    exact readValue_digits hn steps depth hrest
  | negSucc n =>
    have hn : n + 1 ≤ Number.minIntMagnitude := by
      rw [Int.negSucc_eq] at hlow
      omega
    rw [text_negSucc, List.cons_append, readValue, skipBlanks,
      List.dropWhile_cons_of_neg (by decide)]
    simp only [readNumber_neg (Nat.succ_pos n) hn hrest]
    rfl

/-- A value that is written starts with a visible character, and not as an array ends. -/
theorem compactChars_eq_cons {json : Json} (h : json.Canonical) :
    ∃ c text, compactChars json = c :: text ∧ 0x20 < c.toNat ∧ c.toNat < 0x80 ∧ c ≠ ']' := by
  cases json with
  | null => exact ⟨_, _, rfl, by decide, by decide, by decide⟩
  | bool b => cases b <;> exact ⟨_, _, rfl, by decide, by decide, by decide⟩
  | string s => exact ⟨'"', _, rfl, by decide, by decide, by decide⟩
  | array items => cases items <;> exact ⟨'[', _, rfl, by decide, by decide, by decide⟩
  | object members => cases members <;> exact ⟨'\x7b', _, rfl, by decide, by decide, by decide⟩
  | number n =>
    obtain ⟨i, rfl, -⟩ := h.numbers n .refl
    have hchars : compactChars (.number (.int i)) = (Number.int i).text.toList := rfl
    rw [hchars]
    cases i with
    | ofNat n =>
      obtain ⟨c, digits, hdigits, hc, -⟩ := Decimal.toDigits_eq_cons n
      have hrange : 48 ≤ c.toNat ∧ c.toNat ≤ 57 := Char.isDigit_iff_toNat.1 hc
      refine ⟨c, digits, (text_natCast n).trans hdigits, by omega, by omega, ?_⟩
      rintro rfl
      exact absurd hc (by decide)
    | negSucc n => exact ⟨_, _, text_negSucc n, by decide, by decide, by decide⟩

theorem length_compactChars_pos {json : Json} (h : json.Canonical) :
    0 < (compactChars json).length := by
  obtain ⟨c, text, htext, -⟩ := compactChars_eq_cons h
  rw [htext]
  exact Nat.succ_pos _

theorem readValue_quoted (s : String) (steps depth : Nat) (rest : List Char) :
    readValue (steps + 1) depth (quotedChars s ++ rest) = .ok (.string s, rest) := by
  have hstep : readValue (steps + 1) depth ('"' :: (s.toList.flatMap escapeChar ++ '"' :: rest)) =
      (readString (s.toList.flatMap escapeChar ++ '"' :: rest)).map
        fun r => (.string r.1, r.2) := rfl
  rw [quotedChars_append, hstep, readString_quoted]
  rfl

theorem readValue_scalar {json : Json} (h : json.Canonical) (hs : json.IsScalar)
    {steps depth : Nat} {rest : List Char} (hlen : (compactChars json).length ≤ steps)
    (hrest : EndsNumber rest) :
    readValue steps depth (compactChars json ++ rest) = .ok (json, rest) := by
  have hpos := length_compactChars_pos h
  obtain ⟨steps, rfl⟩ : ∃ s, steps = s + 1 := ⟨steps - 1, by omega⟩
  cases json with
  | null => rfl
  | bool b => cases b <;> rfl
  | string s => exact readValue_quoted s steps depth rest
  | number n =>
    obtain ⟨i, rfl, hrange⟩ := h.numbers n .refl
    exact readValue_int ⟨i, rfl, hrange⟩ steps depth hrest
  | array items => cases hs
  | object members => cases hs

/-! ## Items and members -/

section
variable {steps depth : Nat} {first : Bool} {text more rest : List Char}

theorem readValue_array {items : List Json}
    (h : readItems steps depth true text = .ok (items, rest)) :
    readValue (steps + 1) (depth + 1) ('[' :: text) = .ok (.array items, rest) := by
  have hstep : readValue (steps + 1) (depth + 1) ('[' :: text) =
      (readItems steps depth true text).map fun r => (.array r.1, r.2) := rfl
  rw [hstep, h]
  rfl

theorem readValue_object {members : List (String × Json)} (hs : Dict.Sorted members)
    (h : readMembers steps depth true text = .ok (members, rest)) :
    readValue (steps + 1) (depth + 1) ('\x7b' :: text) = .ok (.object members, rest) := by
  have hstep : readValue (steps + 1) (depth + 1) ('\x7b' :: text) =
      (readMembers steps depth true text).map fun r => (.object (Dict.ofList r.1), r.2) := rfl
  rw [hstep, h, Except.map, Dict.ofList_of_sorted hs]

theorem readItems_end : readItems (steps + 1) depth first (']' :: rest) = .ok ([], rest) := rfl

theorem readItems_cons {item : Json} {items : List Json}
    (hnext : nextItem first text = .ok (.inr more)) {more' : List Char}
    (hitem : readValue steps depth more = .ok (item, more'))
    (hitems : readItems steps depth false more' = .ok (items, rest)) :
    readItems (steps + 1) depth first text = .ok (item :: items, rest) := by
  rw [readItems]
  refine Except.bind_eq_ok.2 ⟨_, hnext, ?_⟩
  refine Except.bind_eq_ok.2 ⟨_, hitem, ?_⟩
  exact Except.bind_eq_ok.2 ⟨_, hitems, rfl⟩

theorem readMembers_end :
    readMembers (steps + 1) depth first ('\x7d' :: rest) = .ok ([], rest) := rfl

theorem readMembers_cons {key : String} {value : Json} {members : List (String × Json)}
    (hnext : nextMember first text =
      .ok (.inr (key.toList.flatMap escapeChar ++ '"' :: ':' :: more)))
    {more' : List Char} (hvalue : readValue steps depth more = .ok (value, more'))
    (hmembers : readMembers steps depth false more' = .ok (members, rest)) :
    readMembers (steps + 1) depth first text = .ok ((key, value) :: members, rest) := by
  have hcolon : readColon (':' :: more) = .ok more := rfl
  rw [readMembers]
  refine Except.bind_eq_ok.2 ⟨_, hnext, ?_⟩
  refine Except.bind_eq_ok.2 ⟨_, readString_quoted key _, ?_⟩
  refine Except.bind_eq_ok.2 ⟨_, hcolon, ?_⟩
  refine Except.bind_eq_ok.2 ⟨_, hvalue, ?_⟩
  exact Except.bind_eq_ok.2 ⟨_, hmembers, rfl⟩

end

theorem nextItem_first {json : Json} (h : json.Canonical) (rest : List Char) :
    nextItem true (compactChars json ++ rest) = .ok (.inr (compactChars json ++ rest)) := by
  obtain ⟨c, text, htext, hvisible, -, hend⟩ := compactChars_eq_cons h
  rw [htext, List.cons_append, nextItem, skipBlanks,
    List.dropWhile_cons_of_neg (not_isBlank_of_lt hvisible)]
  split
  · next heq => cases heq
  · next heq =>
    cases heq
    exact absurd rfl hend
  · next heq =>
    cases heq
    rfl

theorem nextItem_comma {json : Json} (h : json.Canonical) (rest : List Char) :
    nextItem false (',' :: (compactChars json ++ rest)) =
      .ok (.inr (compactChars json ++ rest)) := by
  obtain ⟨c, text, htext, hvisible, -, hend⟩ := compactChars_eq_cons h
  have hcomma : ¬ isBlank ',' := by decide
  simp [htext, nextItem, skipBlanks, hcomma, not_isBlank_of_lt hvisible, hend]

theorem nextMember_first (key : String) (rest : List Char) :
    nextMember true (quotedChars key ++ rest) =
      .ok (.inr (key.toList.flatMap escapeChar ++ '"' :: rest)) := by
  rw [quotedChars_append]
  rfl

theorem nextMember_comma (key : String) (rest : List Char) :
    nextMember false (',' :: (quotedChars key ++ rest)) =
      .ok (.inr (key.toList.flatMap escapeChar ++ '"' :: rest)) := by
  rw [quotedChars_append]
  rfl

/-! ## Nested values -/

theorem endsNumber_compactItems (items : List Json) (rest : List Char) :
    EndsNumber (compactItems items ++ rest) := by
  cases items <;> exact endsNumber_cons (by decide)

theorem endsNumber_compactMembers (members : List (String × Json)) (rest : List Char) :
    EndsNumber (compactMembers members ++ rest) := by
  cases members <;> exact endsNumber_cons (by decide)

theorem compactChars_array_append (item : Json) (items : List Json) (rest : List Char) :
    compactChars (.array (item :: items)) ++ rest =
      '[' :: (compactChars item ++ (compactItems items ++ rest)) := by
  simp [compactChars]

theorem compactItems_cons_append (item : Json) (items : List Json) (rest : List Char) :
    compactItems (item :: items) ++ rest =
      ',' :: (compactChars item ++ (compactItems items ++ rest)) := by
  simp [compactItems]

theorem compactChars_object_append (key : String) (value : Json) (members : List (String × Json))
    (rest : List Char) : compactChars (.object ((key, value) :: members)) ++ rest =
      '\x7b' :: (quotedChars key ++
        ':' :: (compactChars value ++ (compactMembers members ++ rest))) := by
  simp [compactChars]

theorem compactMembers_cons_append (key : String) (value : Json) (members : List (String × Json))
    (rest : List Char) : compactMembers ((key, value) :: members) ++ rest =
      ',' :: (quotedChars key ++
        ':' :: (compactChars value ++ (compactMembers members ++ rest))) := by
  simp [compactMembers]

mutual

/-- **A value is read back from the front of a text**, in as many steps as it has characters. -/
theorem readValue_compactChars : ∀ (json : Json) {steps depth : Nat} {rest : List Char},
    json.Canonical → json.depth ≤ depth → (compactChars json).length ≤ steps → EndsNumber rest →
      readValue steps depth (compactChars json ++ rest) = .ok (json, rest)
  | .null, _, _, _, h, _, hlen, hrest => readValue_scalar h trivial hlen hrest
  | .bool _, _, _, _, h, _, hlen, hrest => readValue_scalar h trivial hlen hrest
  | .number _, _, _, _, h, _, hlen, hrest => readValue_scalar h trivial hlen hrest
  | .string _, _, _, _, h, _, hlen, hrest => readValue_scalar h trivial hlen hrest
  | .array [], 0, _, _, _, _, hlen, _ => nomatch hlen
  | .array [], 1, _, _, _, _, hlen, _ => absurd hlen (by decide)
  | .array [], _ + 2, 0, _, _, hd, _, _ => absurd hd (by decide)
  | .array [], _ + 2, _ + 1, _, _, _, _, _ => rfl
  | .array (item :: items), steps, depth, rest, h, hd, hlen, _ => by
    obtain ⟨hitem, hitems⟩ := List.forall_mem_cons.1 (canonical_array.1 h)
    rw [Json.depth, depthItems] at hd
    have hlength : (compactChars (.array (item :: items))).length =
        (compactChars item).length + (compactItems items).length + 1 := by
      simp [compactChars]
    have hpos : 0 < (compactItems items).length := by cases items <;> exact Nat.succ_pos _
    have hitempos := length_compactChars_pos hitem
    obtain ⟨steps, rfl⟩ : ∃ s, steps = s + 2 := ⟨steps - 2, by omega⟩
    obtain ⟨depth, rfl⟩ : ∃ d, depth = d + 1 := ⟨depth - 1, by omega⟩
    rw [compactChars_array_append]
    refine readValue_array (readItems_cons (nextItem_first hitem _) ?_
      (readItems_compactItems items hitems (by omega) (by omega)))
    exact readValue_compactChars item hitem (by omega) (by omega)
      (endsNumber_compactItems items rest)
  | .object [], 0, _, _, _, _, hlen, _ => nomatch hlen
  | .object [], 1, _, _, _, _, hlen, _ => absurd hlen (by decide)
  | .object [], _ + 2, 0, _, _, hd, _, _ => absurd hd (by decide)
  | .object [], _ + 2, _ + 1, _, _, _, _, _ => rfl
  | .object ((key, value) :: members), steps, depth, rest, h, hd, hlen, _ => by
    obtain ⟨hsorted, hall⟩ := canonical_object.1 h
    obtain ⟨hvalue, hmembers⟩ := List.forall_mem_cons.1 hall
    rw [Json.depth, depthMembers] at hd
    have hlength : (compactChars (.object ((key, value) :: members))).length =
        (quotedChars key).length + (compactChars value).length + (compactMembers members).length +
          2 := by
      simp [compactChars]
      omega
    obtain ⟨steps, rfl⟩ : ∃ s, steps = s + 2 := ⟨steps - 2, by omega⟩
    obtain ⟨depth, rfl⟩ : ∃ d, depth = d + 1 := ⟨depth - 1, by omega⟩
    rw [compactChars_object_append]
    refine readValue_object hsorted (readMembers_cons (nextMember_first key _) ?_
      (readMembers_compactMembers members hmembers (by omega) (by omega)))
    exact readValue_compactChars value hvalue (by omega) (by omega)
      (endsNumber_compactMembers members rest)
  termination_by structural json => json

theorem readItems_compactItems : ∀ (items : List Json) {steps depth : Nat} {rest : List Char},
    (∀ x ∈ items, x.Canonical) → depthItems items ≤ depth →
      (compactItems items).length ≤ steps →
        readItems steps depth false (compactItems items ++ rest) = .ok (items, rest)
  | [], 0, _, _, _, _, hlen => nomatch hlen
  | [], steps + 1, depth, rest, _, _, _ => readItems_end
  | item :: items, steps, depth, rest, h, hd, hlen => by
    obtain ⟨hitem, hitems⟩ := List.forall_mem_cons.1 h
    obtain ⟨hd, hds⟩ := Nat.max_le.1 hd
    have hlength : (compactItems (item :: items)).length =
        (compactChars item).length + (compactItems items).length + 1 := by
      simp [compactItems]
    obtain ⟨steps, rfl⟩ : ∃ s, steps = s + 1 := ⟨steps - 1, by omega⟩
    rw [compactItems_cons_append]
    refine readItems_cons (nextItem_comma hitem _) ?_ (readItems_compactItems items hitems hds ?_)
    · exact readValue_compactChars item hitem hd (by omega) (endsNumber_compactItems items rest)
    · omega
  termination_by structural items => items

theorem readMembers_compactMembers : ∀ (members : List (String × Json)) {steps depth : Nat}
    {rest : List Char}, (∀ e ∈ members, e.2.Canonical) → depthMembers members ≤ depth →
      (compactMembers members).length ≤ steps →
        readMembers steps depth false (compactMembers members ++ rest) = .ok (members, rest)
  | [], 0, _, _, _, _, hlen => nomatch hlen
  | [], steps + 1, depth, rest, _, _, _ => readMembers_end
  | (key, value) :: members, steps, depth, rest, h, hd, hlen => by
    obtain ⟨hvalue, hmembers⟩ := List.forall_mem_cons.1 h
    obtain ⟨hd, hds⟩ := Nat.max_le.1 hd
    have hlength : (compactMembers ((key, value) :: members)).length =
        (quotedChars key).length + (compactChars value).length + (compactMembers members).length +
          2 := by
      simp [compactMembers]
      omega
    obtain ⟨steps, rfl⟩ : ∃ s, steps = s + 1 := ⟨steps - 1, by omega⟩
    rw [compactMembers_cons_append]
    refine readMembers_cons (nextMember_comma key _) ?_
      (readMembers_compactMembers members hmembers hds (by omega))
    exact readValue_compactChars value hvalue hd (by omega) (endsNumber_compactMembers members rest)
  termination_by structural members => members

end

/-- **What is written is read again**, if it is nested no deeper than the reader goes. -/
theorem read_compact {json : Json} (h : json.Canonical) (hd : json.depth ≤ maxDepth) :
    read json.compact = .ok json := by
  have hlen : (compactChars json).length ≤ stepBound (compactChars json) := by
    rw [stepBound]
    omega
  have hvalue := readValue_compactChars json h hd hlen endsNumber_nil
  rw [List.append_nil] at hvalue
  have hall : readAll (compactChars json) = .ok json := Except.bind_eq_ok.2 ⟨_, hvalue, rfl⟩
  rw [read, compact, String.toList_ofList, hall]
  rfl

end SearchNotation.Json
