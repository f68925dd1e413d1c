import Mathlib.Data.List.Forall2
import SearchNotation.Compile.Logged

/-!
# Running a logged compilation

What a sequence of logged steps gives when it succeeds (`result_bind_eq_ok`), and the sequence with
its value left out (`Logged.trace`): two compilations with the same trace log the same events and
fail with the same error, whatever they build.
-/

set_option autoImplicit false

namespace SearchNotation

/-! ## Results -/

theorem Except.bind_eq_ok {ε α β : Type} {x : Except ε α} {f : α → Except ε β} {b : β} :
    (x >>= f) = .ok b ↔ ∃ a, x = .ok a ∧ f a = .ok b := by
  cases x <;> simp [bind, Except.bind]

theorem Except.bind_eq_error {ε α β : Type} {x : Except ε α} {f : α → Except ε β} {e : ε} :
    (x >>= f) = .error e ↔ x = .error e ∨ ∃ a, x = .ok a ∧ f a = .error e := by
  cases x <;> simp [bind, Except.bind]

theorem Except.map_eq_ok {ε α β : Type} {x : Except ε α} {f : α → β} {b : β} :
    x.map f = .ok b ↔ ∃ a, x = .ok a ∧ f a = b := by
  cases x <;> simp [Except.map]

theorem Except.map_eq_error {ε α β : Type} {x : Except ε α} {f : α → β} {e : ε} :
    x.map f = .error e ↔ x = .error e := by
  cases x <;> simp [Except.map]

theorem exists_of_forall₂_of_mem {α β : Type} {R : α → β → Prop} {xs : List α} {ys : List β}
    (h : List.Forall₂ R xs ys) {y : β} (hy : y ∈ ys) : ∃ x ∈ xs, R x y := by
  induction h with
  | nil => cases hy
  | cons hxy _ ih =>
    rcases List.mem_cons.1 hy with rfl | hy
    · exact ⟨_, .head _, hxy⟩
    · obtain ⟨x, hx, hR⟩ := ih hy
      exact ⟨x, .tail _ hx, hR⟩

/-- Steps in a row give their values. -/
theorem Except.mapM_eq_ok {ε α β : Type} {f : α → Except ε β} {as : List α} {bs : List β} :
    as.mapM f = .ok bs ↔ List.Forall₂ (fun a b => f a = .ok b) as bs := by
  induction as generalizing bs with
  | nil => simp [pure, Except.pure, eq_comm]
  | cons a as ih =>
    rw [List.mapM_cons, bind_eq_ok, List.forall₂_cons_left_iff]
    constructor
    · rintro ⟨b, hb, h⟩
      obtain ⟨bs, hbs, h⟩ := bind_eq_ok.1 h
      cases h
      exact ⟨b, bs, hb, ih.1 hbs, rfl⟩
    · rintro ⟨b, bs, hb, hbs, rfl⟩
      exact ⟨b, hb, bind_eq_ok.2 ⟨bs, ih.2 hbs, rfl⟩⟩

/-- Steps in a row fail as the first one that fails. -/
theorem Except.mapM_eq_error {ε α β : Type} {f : α → Except ε β} {as : List α} {e : ε} :
    as.mapM f = .error e ↔ ∃ before a after, as = before ++ a :: after ∧
      (∀ b ∈ before, ∃ value, f b = .ok value) ∧ f a = .error e := by
  induction as with
  | nil => simp [pure, Except.pure]
  | cons x as ih =>
    rw [List.mapM_cons, bind_eq_error]
    constructor
    · rintro (h | ⟨value, hx, h⟩)
      · exact ⟨[], x, as, rfl, nofun, h⟩
      · rcases bind_eq_error.1 h with h | ⟨values, -, h⟩
        · obtain ⟨before, a, after, rfl, hbefore, ha⟩ := ih.1 h
          exact ⟨x :: before, a, after, rfl, List.forall_mem_cons.2 ⟨⟨value, hx⟩, hbefore⟩, ha⟩
        · cases h
    · rintro ⟨before, a, after, h, hbefore, ha⟩
      cases before with
      | nil =>
        cases h
        exact .inl ha
      | cons y before =>
        cases h
        obtain ⟨⟨value, hx⟩, hrest⟩ := List.forall_mem_cons.1 hbefore
        have htail := ih.2 ⟨before, a, after, rfl, hrest, ha⟩
        exact .inr ⟨value, hx, bind_eq_error.2 (.inl htail)⟩

namespace Logged

variable {α β : Type}

@[simp] theorem result_pure (a : α) : (pure a : Logged α).result = .ok a := rfl

@[simp] theorem events_pure (a : α) : (pure a : Logged α).events = [] := rfl

@[simp] theorem result_after (event : Event) (a : α) : (after event a).result = .ok a := rfl

@[simp] theorem events_after (event : Event) (a : α) : (after event a).events = [event] := rfl

@[simp] theorem result_ofExcept (x : Except CompileError α) : (ofExcept x).result = x := rfl

@[simp] theorem events_ofExcept (x : Except CompileError α) : (ofExcept x).events = [] := rfl

theorem ofExcept_ok (a : α) : ofExcept (.ok a) = pure a := rfl

theorem result_bind (x : Logged α) (f : α → Logged β) :
    (x >>= f).result = x.result >>= fun a => (f a).result := by
  obtain ⟨events, result⟩ := x
  cases result <;> rfl

theorem result_bind_eq_ok {x : Logged α} {f : α → Logged β} {b : β} :
    (x >>= f).result = .ok b ↔ ∃ a, x.result = .ok a ∧ (f a).result = .ok b := by
  rw [result_bind, Except.bind_eq_ok]

theorem result_bind_eq_error {x : Logged α} {f : α → Logged β} {e : CompileError} :
    (x >>= f).result = .error e ↔
      x.result = .error e ∨ ∃ a, x.result = .ok a ∧ (f a).result = .error e := by
  rw [result_bind, Except.bind_eq_error]

theorem result_map_eq_ok {x : Logged α} {f : α → β} {b : β} :
    (f <$> x).result = .ok b ↔ ∃ a, x.result = .ok a ∧ f a = b := by
  rw [← bind_pure_comp, result_bind_eq_ok]
  simp

theorem result_map_eq_error {x : Logged α} {f : α → β} {e : CompileError} :
    (f <$> x).result = .error e ↔ x.result = .error e := by
  rw [← bind_pure_comp, result_bind_eq_error]
  simp

/-- A result depends on the results of the steps only. -/
theorem result_bind_congr {x y : Logged α} {f g : α → Logged β} (hx : x.result = y.result)
    (hf : ∀ a, (f a).result = (g a).result) : (x >>= f).result = (y >>= g).result := by
  simp only [result_bind, hx, hf]

theorem events_bind_of_ok {x : Logged α} {f : α → Logged β} {a : α} (h : x.result = .ok a) :
    (x >>= f).events = x.events ++ (f a).events := by
  obtain ⟨events, result⟩ := x
  cases h
  rfl

@[simp] theorem events_map (x : Logged α) (f : α → β) : (f <$> x).events = x.events := by
  obtain ⟨events, result⟩ := x
  cases result <;> simp [Functor.map, andThen, done]

/-! ## Traces -/

/-- A compilation with its value left out. -/
def trace (x : Logged α) : Logged Unit := (fun _ => ()) <$> x

theorem trace_unit (x : Logged Unit) : trace x = x := id_map x

theorem trace_map (x : Logged α) (f : α → β) : trace (f <$> x) = trace x := by
  simp [trace]

/-- What follows does not depend on the value if its trace does not. -/
theorem trace_bind {x : Logged α} {f : α → Logged β} {rest : Logged Unit}
    (h : ∀ a, trace (f a) = rest) : trace (x >>= f) = trace x >>= fun _ => rest := by
  simp only [trace, map_eq_pure_bind, bind_assoc, pure_bind] at h ⊢
  simp only [h]

@[simp] theorem events_trace (x : Logged α) : (trace x).events = x.events := events_map x _

theorem result_trace_eq_ok {x : Logged α} :
    (trace x).result = .ok () ↔ ∃ a, x.result = .ok a := by
  simp [trace, result_map_eq_ok]

theorem result_trace_eq_error {x : Logged α} {e : CompileError} :
    (trace x).result = .error e ↔ x.result = .error e := result_map_eq_error

/-! ## Sequences -/

theorem result_forM_eq_ok {as : List α} {f : α → Logged Unit} :
    (forM as f).result = .ok () ↔ ∀ a ∈ as, (f a).result = .ok () := by
  induction as with
  | nil => simp
  | cons a as ih =>
    rw [List.forM_cons, result_bind_eq_ok, List.forall_mem_cons, ih]
    constructor
    · rintro ⟨⟨⟩, ha, has⟩
      exact ⟨ha, has⟩
    · rintro ⟨ha, has⟩
      exact ⟨(), ha, has⟩

/-- What a sequence gives is decided by what its steps give. -/
theorem result_mapM (as : List α) (f : α → Logged β) :
    (as.mapM f).result = as.mapM fun a => (f a).result := by
  induction as with
  | nil => rfl
  | cons a as ih =>
    simp only [List.mapM_cons, result_bind, ih]
    rfl

/-- A sequence gives the values of its steps. -/
theorem result_mapM_eq_ok {as : List α} {f : α → Logged β} {bs : List β} :
    (as.mapM f).result = .ok bs ↔ List.Forall₂ (fun a b => (f a).result = .ok b) as bs := by
  rw [result_mapM, Except.mapM_eq_ok]

/-- A sequence fails as the first of its steps that fails. -/
theorem result_mapM_eq_error {as : List α} {f : α → Logged β} {e : CompileError} :
    (as.mapM f).result = .error e ↔ ∃ before a after, as = before ++ a :: after ∧
      (∀ b ∈ before, ∃ value, (f b).result = .ok value) ∧ (f a).result = .error e := by
  rw [result_mapM, Except.mapM_eq_error]

/-- A sequence without values is the trace of the one with them. -/
theorem trace_mapM (as : List α) (f : α → Logged Unit) : trace (as.mapM f) = forM as f := by
  induction as with
  | nil => rfl
  | cons a as ih =>
    have hrest (u : Unit) : trace (as.mapM f >>= fun us => pure (u :: us)) = forM as f := by
      rw [bind_pure_comp, trace_map, ih]
    rw [List.mapM_cons, List.forM_cons, trace_bind hrest, trace_unit]

theorem result_forM_eq_error {as : List α} {f : α → Logged Unit} {e : CompileError} :
    (forM as f).result = .error e ↔ ∃ before a after, as = before ++ a :: after ∧
      (∀ b ∈ before, (f b).result = .ok ()) ∧ (f a).result = .error e := by
  rw [← trace_mapM, result_trace_eq_error, result_mapM_eq_error]
  refine exists₃_congr fun before a after => and_congr_right' (and_congr_left' ?_)
  exact forall₂_congr fun b _ => ⟨fun ⟨_, h⟩ => h, fun h => ⟨(), h⟩⟩

/-- A sequence fails where one of its steps does. -/
theorem exists_of_forM_eq_error {as : List α} {f : α → Logged Unit} {e : CompileError}
    (h : (forM as f).result = .error e) : ∃ a ∈ as, (f a).result = .error e := by
  obtain ⟨before, a, after, rfl, -, ha⟩ := result_forM_eq_error.1 h
  exact ⟨a, by simp, ha⟩

/-- Steps that log at most one event each. -/
theorem events_forM {as : List α} {f : α → Logged Unit} {event? : α → Option Event}
    (hf : ∀ a, (f a).result = .ok () → (f a).events = (event? a).toList)
    (h : (forM as f).result = .ok ()) : (forM as f).events = as.filterMap event? := by
  induction as with
  | nil => rfl
  | cons a as ih =>
    rw [List.forM_cons] at h ⊢
    obtain ⟨⟨⟩, ha, has⟩ := result_bind_eq_ok.1 h
    rw [events_bind_of_ok ha, ih has, hf a ha, List.filterMap_cons]
    cases event? a <;> rfl

end Logged

end SearchNotation
