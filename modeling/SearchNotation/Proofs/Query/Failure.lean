import SearchNotation.Proofs.Query.Faults
import SearchNotation.Proofs.Query.Visits

/-!
# Where the errors of a query come from

A query fails where one of its entries does (`exists_of_compile_eq_error`), and an entry fails with
an error about an argument or with what the constructor of its kind reports about its parameters
(`compile_eq_error`). The standard constructors report nothing but errors about arguments
(`construct_standard`).
-/

set_option autoImplicit false

namespace SearchNotation

/-- An argument is missing or has the wrong shape. -/
def CompileError.IsArgument : CompileError → Prop
  | .missingArgument .. | .missingRangeBound _ | .invalidArgument .. => True
  | .duplicateName _ | .unreadable _ => False

/-- A failure is about an argument. -/
def ArgumentErrors {α : Type} (x : Except CompileError α) : Prop := ∀ e, x = .error e → e.IsArgument

namespace ArgumentErrors

variable {α β : Type}

theorem ok (a : α) : ArgumentErrors (.ok a) := nofun

theorem error {e : CompileError} (h : e.IsArgument) :
    ArgumentErrors (.error e : Except CompileError α) := by
  rintro _ ⟨⟩
  exact h

theorem bind {x : Except CompileError α} {f : α → Except CompileError β} (hx : ArgumentErrors x)
    (hf : ∀ a, ArgumentErrors (f a)) : ArgumentErrors (x >>= f) := by
  intro e h
  rcases Except.bind_eq_error.1 h with h | ⟨a, -, h⟩
  · exact hx e h
  · exact hf a e h

end ArgumentErrors

namespace QueryKind

variable {kind : QueryKind}

/-! ## Parameters -/

theorem require_argumentErrors (bag : Bag) (name : String) :
    ArgumentErrors (kind.require bag name) := by
  unfold require
  split
  · exact .ok _
  · exact .error trivial

theorem unaryParams_argumentErrors (value : Value) : ArgumentErrors (kind.unaryParams value) := by
  unfold unaryParams
  split
  · exact .error trivial
  · exact .ok _
  · split
    · exact .ok _
    · exact .error trivial
  · split
    · exact .ok _
    · exact .error trivial
  · exact .error trivial

theorem binaryParams_argumentErrors (value : Value) : ArgumentErrors (kind.binaryParams value) := by
  unfold binaryParams
  split
  · refine (require_argumentErrors _ _).bind fun _ => (require_argumentErrors _ _).bind fun _ => ?_
    split
    · split
      · exact .ok _
      · exact .error trivial
    · exact .ok _
  · exact .error trivial

theorem ternaryParams_argumentErrors (value : Value) :
    ArgumentErrors (kind.ternaryParams value) := by
  unfold ternaryParams
  split
  · refine (require_argumentErrors _ _).bind fun _ => ?_
    split
    · exact .ok _
    · exact .error trivial
  · exact .error trivial

theorem params_argumentErrors (value : Value) : ArgumentErrors (kind.params value) := by
  unfold params
  split
  · exact unaryParams_argumentErrors value
  · exact binaryParams_argumentErrors value
  · exact ternaryParams_argumentErrors value

/-! ## Standard constructors -/

theorem Fault.isArgument {bag : Bag} {e : CompileError} (h : kind.Fault bag e) : e.IsArgument := by
  cases h <;> trivial

/-- **The standard constructors report nothing but errors about arguments.** -/
theorem construct_standard :
    ∀ kind ∈ QueryKind.standard, ∀ bag, ArgumentErrors (kind.construct bag) :=
  fun kind hk _ _ h => (fault_of_construct kind hk h).isArgument

/-! ## Leaves -/

theorem leaf_eq_error {value : Value} {e : CompileError} (h : kind.leaf value = .error e) :
    e.IsArgument ∨ ∃ params, kind.params value = .ok params ∧ kind.construct params = .error e := by
  rcases Except.bind_eq_error.1 h with h | ⟨params, hp, h⟩
  · exact .inl (params_argumentErrors value e h)
  · rcases Except.bind_eq_error.1 h with h | ⟨predicate, -, h⟩
    · exact .inr ⟨params, hp, h⟩
    · cases h

end QueryKind

/-! ## Notations -/

/-- The constructor is none of the standard ones. -/
def QueryKind.Foreign (kind : QueryKind) : Prop :=
  ∀ standard ∈ QueryKind.standard, standard.construct ≠ kind.construct

/-- The constructor of a kind makes the error from the parameters that an entry of the notation
hands to it. -/
def Notation.FailsIn (table : QueryTable) (n : Notation) (kind : QueryKind) (e : CompileError) :
    Prop :=
  ∃ r ∈ n.reached, ∃ argument params, table.Assigns r.key r.value kind argument ∧
    kind.params argument = .ok params ∧ kind.construct params = .error e

theorem Notation.FailsIn.foreign {table : QueryTable} {n : Notation} {kind : QueryKind}
    {e : CompileError} (h : n.FailsIn table kind e) (he : ¬ e.IsArgument) : kind.Foreign := by
  obtain ⟨r, -, argument, params, -, -, hc⟩ := h
  intro standard hs heq
  rw [← heq] at hc
  exact he (QueryKind.construct_standard standard hs params e hc)

namespace Query

/-- **A query fails where one of its entries does.** -/
theorem exists_of_compile_eq_error {table : QueryTable} {n : Notation} {e : CompileError}
    (h : (compile table n).result = .error e) :
    ∃ r ∈ n.reached, (resolve table r.key r.value).result = .error e := by
  have htrace : (forM n.visits (Visit.run table)).result = .error e := by
    rw [← trace_compile, Logged.result_trace_eq_error, h]
  obtain ⟨visit, hv, hr⟩ := Logged.exists_of_forM_eq_error htrace
  cases visit with
  | entry r =>
    exact ⟨r, List.mem_filterMap.2 ⟨_, hv, rfl⟩, Logged.result_trace_eq_error.1 hr⟩
  | _ => cases hr

theorem compile_eq_error {table : QueryTable} {n : Notation} {e : CompileError}
    (h : (compile table n).result = .error e) :
    e.IsArgument ∨ ∃ kind, n.FailsIn table kind e := by
  obtain ⟨r, hr, hfails⟩ := exists_of_compile_eq_error h
  obtain ⟨kind, argument, ha, hleaf⟩ := resolve_eq_error hfails
  refine (QueryKind.leaf_eq_error hleaf).imp_right ?_
  rintro ⟨params, hp, hc⟩
  exact ⟨kind, r, hr, argument, params, ha, hp, hc⟩

end Query

end SearchNotation
