import SearchNotation.Proofs.Logged
import SearchNotation.Query.Resolve

/-!
# Leaves of kinds

What a leaf of a kind is made of (`leaf_eq_ok_iff`): the parameters that the value gives the kind,
and the predicate built from them. The parameters of a kind give the kind themselves again
(`params_nested`), so a leaf is also the leaf of its own parameters (`leaf_nested_params`). An entry
is dropped, or it is resolved with one kind (`QueryTable.Assigns`), which makes its leaf or fails
(`resolve_eq_some`, `resolve_eq_error`).
-/

set_option autoImplicit false

namespace SearchNotation

namespace QueryKind

variable {kind : QueryKind}

/-! ## Parameters -/

theorem require_eq_ok {bag : Bag} {name : String} :
    kind.require bag name = .ok () ↔ bag.hasPresent name = true := by
  unfold require
  split <;> simp_all

/-- A bag in which something is under two names is not a bag under a single name. -/
theorem expandKeyed?_eq_none {bag : Bag} {name other : String} (hne : name ≠ other)
    (h1 : bag.hasPresent name = true) (h2 : bag.hasPresent other = true) :
    expandKeyed? bag = none := by
  unfold expandKeyed?
  split
  · next key inner =>
    simp only [Bag.hasPresent, Bag.present?, Dict.get?] at h1 h2
    split at h1
    · next hk =>
      rw [if_neg fun ho => hne (hk.symm.trans ho)] at h2
      simp at h2
    · simp at h1
  · rfl

theorem hasPresent_single {name : String} {value : Value} (h : value.isNull = false) :
    Bag.hasPresent [(name, value)] name = true := by
  simp [Bag.hasPresent, Bag.present?, Dict.get?, h]

/-- The parameters of a unary kind are a value by itself, under the name of the argument, or the bag
that it is given. -/
theorem unaryParams_eq_ok {value : Value} {bag : Bag} (h : kind.unaryParams value = .ok bag) :
    (bag = [(kind.argument, value)] ∧ value.isNull = false ∧ value.bag? = none) ∨
      (value = .nested bag ∧ Bag.hasPresent bag kind.argument = true) := by
  unfold unaryParams at h
  split at h
  · cases h
  · next s hs =>
    cases h
    cases s with
    | null => exact absurd rfl hs
    | _ => exact .inl ⟨rfl, rfl, rfl⟩
  · split at h
    · cases h
      exact .inl ⟨rfl, rfl, rfl⟩
    · cases h
  · split at h
    · next hp =>
      cases h
      exact .inr ⟨rfl, hp⟩
    · cases h
  · cases h

theorem unaryParams_nested {value : Value} {bag : Bag} (h : kind.unaryParams value = .ok bag) :
    kind.unaryParams (.nested bag) = .ok bag := by
  have hpresent : Bag.hasPresent bag kind.argument = true := by
    rcases unaryParams_eq_ok h with ⟨rfl, hnull, -⟩ | ⟨-, hp⟩
    · exact hasPresent_single hnull
    · exact hp
  exact if_pos hpresent

/-- The parameters of a binary kind are the bag that it is given. -/
theorem binaryParams_eq_ok {value : Value} {bag : Bag} (h : kind.binaryParams value = .ok bag) :
    value = .nested bag := by
  unfold binaryParams at h
  split at h
  · next b =>
    simp only [Except.bind_eq_ok] at h
    obtain ⟨_, -, _, -, h⟩ := h
    split at h
    · split at h
      · cases h; rfl
      · cases h
    · cases h; rfl
  · cases h

/-- The parameters of a binary kind have a field and what it is tested for. -/
theorem hasPresent_of_binaryParams {value : Value} {bag : Bag}
    (h : kind.binaryParams value = .ok bag) :
    bag.hasPresent "field" = true ∧ bag.hasPresent "query" = true := by
  obtain rfl := binaryParams_eq_ok h
  obtain ⟨⟨⟩, hfield, h⟩ := Except.bind_eq_ok.1 h
  obtain ⟨⟨⟩, hquery, -⟩ := Except.bind_eq_ok.1 h
  exact ⟨require_eq_ok.1 hfield, require_eq_ok.1 hquery⟩

/-- The parameters of a ternary kind have a field and a bound. -/
theorem ternaryParams_eq_ok {value : Value} {bag : Bag} :
    kind.ternaryParams value = .ok bag ↔ ∃ b, value = .nested b ∧ (expandKeyed? b).getD b = bag ∧
      bag.hasPresent "field" = true ∧ boundKeys.any bag.hasPresent = true := by
  unfold ternaryParams
  split
  · next b =>
    rw [Except.bind_eq_ok]
    constructor
    · rintro ⟨⟨⟩, hf, h⟩
      split at h
      · next hb => cases h; exact ⟨b, rfl, rfl, require_eq_ok.1 hf, hb⟩
      · cases h
    · rintro ⟨b', hb', rfl, hf, hb⟩
      cases hb'
      exact ⟨(), require_eq_ok.2 hf, if_pos hb⟩
  · next hv =>
    constructor
    · intro h; cases h
    · rintro ⟨b, rfl, -⟩; exact absurd rfl (hv b)

theorem ternaryParams_nested {value : Value} {bag : Bag} (h : kind.ternaryParams value = .ok bag) :
    kind.ternaryParams (.nested bag) = .ok bag := by
  obtain ⟨-, -, -, hf, hb⟩ := ternaryParams_eq_ok.1 h
  obtain ⟨key, hkey, hbound⟩ := List.any_eq_true.1 hb
  have hne : "field" ≠ key := by
    rintro rfl
    exact absurd hkey (by decide)
  refine ternaryParams_eq_ok.2 ⟨bag, rfl, ?_, hf, hb⟩
  rw [expandKeyed?_eq_none hne hf hbound, Option.getD_none]

/-- **The parameters of a kind give themselves again**: no rule for arguments applies to its own
outcome. -/
theorem params_nested {value : Value} {bag : Bag} (h : kind.params value = .ok bag) :
    kind.params (.nested bag) = .ok bag := by
  unfold params at h ⊢
  cases ha : kind.arity with
  | unary => rw [ha] at h; exact unaryParams_nested h
  | binary => rw [ha] at h; rwa [binaryParams_eq_ok h] at h
  | ternary => rw [ha] at h; exact ternaryParams_nested h

/-! ## Leaves -/

theorem leaf_eq_ok_iff {value : Value} {leaf : Leaf} : kind.leaf value = .ok leaf ↔
    leaf.kind = kind.name ∧ leaf.field = leaf.params.presentText? "field" ∧
      kind.params value = .ok leaf.params ∧ kind.construct leaf.params = .ok leaf.predicate := by
  unfold QueryKind.leaf
  simp only [Except.bind_eq_ok]
  constructor
  · rintro ⟨params, hp, predicate, hc, h⟩
    cases h
    exact ⟨rfl, rfl, hp, hc⟩
  · obtain ⟨name, field, params, predicate⟩ := leaf
    simp only
    rintro ⟨rfl, rfl, hp, hc⟩
    exact ⟨params, hp, predicate, hc, rfl⟩

/-- **A leaf is the leaf of its own parameters.** -/
theorem leaf_nested_params {value : Value} {leaf : Leaf} (h : kind.leaf value = .ok leaf) :
    kind.leaf (.nested leaf.params) = .ok leaf := by
  obtain ⟨hk, hf, hp, hc⟩ := leaf_eq_ok_iff.1 h
  exact leaf_eq_ok_iff.2 ⟨hk, hf, params_nested hp, hc⟩

end QueryKind

/-! ## Entries -/

/-- The kind that an entry is resolved with, and its argument: the kind under the name of the entry
or, if there is none, the kind that the shape of the value implies. -/
inductive QueryTable.Assigns (table : QueryTable) (key : String) (value : Value) :
    QueryKind → Value → Prop
  | named {kind : QueryKind} (hk : table.lookup? key = some kind) :
      Assigns table key value kind value
  | implied {implied : Implied} {kind : QueryKind} (hkey : table.lookup? key = none)
      (hi : Implied.ofValue? key value = some implied)
      (hk : table.lookup? implied.kind = some kind) :
      Assigns table key value kind (.nested implied.params)

section
variable {table : QueryTable} {key : String} {value : Value} {kind : QueryKind}

theorem QueryTable.Assigns.exists_lookup? {argument : Value}
    (h : table.Assigns key value kind argument) : ∃ name, table.lookup? name = some kind := by
  cases h with
  | named hk => exact ⟨_, hk⟩
  | implied _ _ hk => exact ⟨_, hk⟩

theorem resolve_of_assigns {argument : Value} (h : table.Assigns key value kind argument) :
    resolve table key value = Logged.ofExcept ((kind.leaf argument).map some) := by
  cases h with
  | named hk => simp [resolve, hk]
  | implied hkey hi hk => simp [resolve, hkey, hi, hk]

theorem resolve_of_lookup? (h : table.lookup? key = some kind) (value : Value) :
    resolve table key value = Logged.ofExcept ((kind.leaf value).map some) :=
  resolve_of_assigns (.named h)

/-- An entry that is not dropped is resolved with a kind. -/
theorem exists_assigns (h : (resolve table key value).result ≠ .ok none) :
    ∃ kind argument, table.Assigns key value kind argument := by
  cases hkey : table.lookup? key with
  | some kind => exact ⟨kind, value, .named hkey⟩
  | none =>
    cases hi : Implied.ofValue? key value with
    | none => simp [resolve, hkey, hi] at h
    | some implied =>
      cases hk : table.lookup? implied.kind with
      | some kind => exact ⟨kind, _, .implied hkey hi hk⟩
      | none => simp [resolve, hkey, hi, hk] at h

/-- **The leaf of an entry** is one of the kind that it is resolved with. -/
theorem resolve_eq_some {leaf : Leaf} (h : (resolve table key value).result = .ok (some leaf)) :
    ∃ kind argument, table.Assigns key value kind argument ∧ kind.leaf argument = .ok leaf := by
  obtain ⟨kind, argument, ha⟩ := exists_assigns (by rw [h]; nofun)
  rw [resolve_of_assigns ha] at h
  obtain ⟨l, hl, hs⟩ := Except.map_eq_ok.1 h
  cases hs
  exact ⟨kind, argument, ha, hl⟩

/-- **The error of an entry** is that of a leaf of the kind that it is resolved with. -/
theorem resolve_eq_error {e : CompileError} (h : (resolve table key value).result = .error e) :
    ∃ kind argument, table.Assigns key value kind argument ∧ kind.leaf argument = .error e := by
  obtain ⟨kind, argument, ha⟩ := exists_assigns (by rw [h]; nofun)
  rw [resolve_of_assigns ha] at h
  exact ⟨kind, argument, ha, Except.map_eq_error.1 h⟩

end

end SearchNotation
