import SearchNotation.Proofs.Query.Construction
import SearchNotation.Proofs.Query.Resolve

/-!
# What a constructor refuses

A kind needs some arguments, and a range a bound as well. The parameters of a kind have them all
(`complete_of_params`), in whatever form they were given. A standard constructor refuses a bag for
what the kind needs, or for the shape of an argument (`Fault`, `fault_of_construct`). So the
parameters of a kind fail in its constructor for the shape of an argument that is there, and never
because one is missing (`misshapen_of_params`).
-/

set_option autoImplicit false

namespace SearchNotation

/-- An argument or the bounds of a range are missing. -/
def CompileError.IsMissing : CompileError → Prop
  | .missingArgument .. | .missingRangeBound _ => True
  | .invalidArgument .. | .duplicateName _ | .unreadable _ => False

namespace QueryKind

variable {kind : QueryKind} {bag : Bag} {e : CompileError}

/-! ## What has to be there -/

/-- The arguments that a kind needs. -/
def needed (kind : QueryKind) : List String :=
  match kind.arity with
  | .unary => [kind.argument]
  | .binary => ["field", "query"]
  | .ternary => ["field"]

/-- A bag has everything that a kind needs. -/
structure Complete (kind : QueryKind) (bag : Bag) : Prop where
  arguments : ∀ key ∈ kind.needed, bag.hasPresent key = true
  bounded : kind.arity = .ternary → ∃ key ∈ boundKeys, bag.hasPresent key = true

/-- **The parameters of a kind** have everything that it needs. -/
theorem complete_of_params {value : Value} (h : kind.params value = .ok bag) :
    kind.Complete bag := by
  unfold params at h
  cases ha : kind.arity with
  | unary =>
    rw [ha] at h
    refine ⟨?_, fun hternary => ?_⟩
    · rw [needed, ha]
      refine List.forall_mem_singleton.2 ?_
      rcases unaryParams_eq_ok h with ⟨rfl, hnull, -⟩ | ⟨-, hpresent⟩
      · exact hasPresent_single hnull
      · exact hpresent
    · cases ha.symm.trans hternary
  | binary =>
    rw [ha] at h
    obtain ⟨hfield, hquery⟩ := hasPresent_of_binaryParams h
    refine ⟨?_, fun hternary => ?_⟩
    · rw [needed, ha]
      exact List.forall_mem_cons.2 ⟨hfield, List.forall_mem_singleton.2 hquery⟩
    · cases ha.symm.trans hternary
  | ternary =>
    rw [ha] at h
    obtain ⟨-, -, -, hfield, hbound⟩ := ternaryParams_eq_ok.1 h
    refine ⟨?_, fun _ => List.any_eq_true.1 hbound⟩
    rw [needed, ha]
    exact List.forall_mem_singleton.2 hfield

/-! ## Faults -/

/-- What is wrong with a bag as the parameters of a kind. -/
inductive Fault (kind : QueryKind) (bag : Bag) : CompileError → Prop
  | missing {key : String} (hkey : key ∈ kind.needed) (h : bag.hasPresent key = false) :
      Fault kind bag (.missingArgument kind.name key)
  | unbounded {field : String} (ha : kind.arity = .ternary)
      (h : ∀ key ∈ boundKeys, bag.hasPresent key = false) :
      Fault kind bag (.missingRangeBound field)
  | misshapen {key : String} {expected : Expectation} {found : Value}
      (h : bag.present? key = some found) :
      Fault kind bag (.invalidArgument kind.name key expected found.shape)

theorem fault_of_textArgument {key : String} (hkey : key ∈ kind.needed)
    (h : textArgument kind.name bag key = .error e) : kind.Fault bag e := by
  unfold textArgument at h
  split at h
  · cases h
  · next found _ hfound => cases h; exact .misshapen hfound
  · next hnone => cases h; exact .missing hkey (Bag.hasPresent_eq_false.2 hnone)

/-! ## Standard constructors -/

/-- A kind whose argument is one text. -/
theorem fault_of_text (ha : kind.arity = .unary) {build : Bag → String → Predicate}
    (hc : ∀ bag, kind.construct bag =
      do return build bag (← textArgument kind.name bag kind.argument))
    (h : kind.construct bag = .error e) : kind.Fault bag e := by
  have hkey : kind.argument ∈ kind.needed := by
    rw [needed, ha]
    exact .head _
  rw [hc] at h
  rcases Except.bind_eq_error.1 h with h | ⟨_, -, h⟩
  · exact fault_of_textArgument hkey h
  · cases h

theorem fault_of_ids (h : buildIds bag = .error e) :
    (unary "ids" "values" true buildIds).Fault bag e := by
  unfold buildIds at h
  split at h
  · cases h
  · cases h
  · next found _ _ hfound => cases h; exact .misshapen hfound
  · next hnone => cases h; exact .missing (.head _) (Bag.hasPresent_eq_false.2 hnone)

theorem fault_of_fieldTest (test : FieldTest) (aliases : List String)
    (h : buildFieldTest test bag = .error e) : (binary test aliases).Fault bag e := by
  rcases Except.bind_eq_error.1 h with h | ⟨field, -, h⟩
  · exact fault_of_textArgument (.head _) h
  split at h
  · cases h
  · next found _ hfound => cases h; exact .misshapen hfound
  · next hnone => cases h; exact .missing (.tail _ (.head _)) (Bag.hasPresent_eq_false.2 hnone)

theorem fault_of_terms (h : buildTerms bag = .error e) :
    (⟨"terms", [], .binary, "query", true, buildTerms⟩ : QueryKind).Fault bag e := by
  rcases Except.bind_eq_error.1 h with h | ⟨field, -, h⟩
  · exact fault_of_textArgument (.head _) h
  split at h
  · cases h
  · cases h
  · next found _ _ hfound => cases h; exact .misshapen hfound
  · next hnone => cases h; exact .missing (.tail _ (.head _)) (Bag.hasPresent_eq_false.2 hnone)

theorem fault_of_range (h : buildRange bag = .error e) :
    (⟨"range", [], .ternary, "field", false, buildRange⟩ : QueryKind).Fault bag e := by
  rcases Except.bind_eq_error.1 h with h | ⟨field, -, h⟩
  · exact fault_of_textArgument (.head _) h
  rcases Except.bind_eq_error.1 h with h | ⟨upper, hupper, h⟩
  · obtain ⟨k, -, found, hfound, rfl⟩ := firstBound_eq_error h
    exact .misshapen hfound
  rcases Except.bind_eq_error.1 h with h | ⟨lower, hlower, h⟩
  · obtain ⟨k, -, found, hfound, rfl⟩ := firstBound_eq_error h
    exact .misshapen hfound
  split at h
  · next hopen =>
    cases h
    obtain ⟨rfl, rfl⟩ : lower = none ∧ upper = none := by simpa using hopen
    refine .unbounded rfl fun key hkey => ?_
    obtain ⟨k, hk, rfl⟩ := List.mem_map.1 hkey
    rcases List.mem_append.1 hk with hk | hk
    · exact firstBound_eq_none hupper k hk
    · exact firstBound_eq_none hlower k hk
  · cases h

/-- **A standard constructor refuses a bag** for what its kind needs or for the shape of an
argument. -/
theorem fault_of_construct :
    ∀ kind ∈ standard, ∀ {bag e}, kind.construct bag = .error e → kind.Fault bag e := by
  simp only [standard, List.forall_mem_cons, List.not_mem_nil, false_implies, implies_true,
    and_true]
  exact ⟨fault_of_text rfl fun _ => rfl, fault_of_ids, fault_of_text rfl fun _ => rfl,
    fault_of_text rfl fun _ => rfl, fault_of_text rfl fun _ => rfl, fault_of_fieldTest _ _,
    fault_of_fieldTest _ _, fault_of_fieldTest _ _, fault_of_fieldTest _ _, fault_of_fieldTest _ _,
    fault_of_terms, fault_of_fieldTest _ _, fault_of_fieldTest _ _, fault_of_fieldTest _ _,
    fault_of_fieldTest _ _, fault_of_range⟩

/-- **The parameters of a kind fail in its constructor for the shape of an argument that is there**,
never because one is missing. -/
theorem misshapen_of_params (hk : kind ∈ standard) {value : Value}
    (hp : kind.params value = .ok bag) (h : kind.construct bag = .error e) :
    ∃ key expected found, bag.present? key = some found ∧
      e = .invalidArgument kind.name key expected found.shape := by
  have hcomplete := complete_of_params hp
  cases fault_of_construct kind hk h with
  | missing hkey hnone =>
    rw [hcomplete.arguments _ hkey] at hnone
    cases hnone
  | unbounded ha hnone =>
    obtain ⟨key, hkey, hpresent⟩ := hcomplete.bounded ha
    rw [hnone key hkey] at hpresent
    cases hpresent
  | misshapen hfound => exact ⟨_, _, _, hfound, rfl⟩

end QueryKind

end SearchNotation
