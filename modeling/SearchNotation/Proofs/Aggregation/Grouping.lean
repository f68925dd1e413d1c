import Mathlib.Data.List.Perm.Basic
import SearchNotation.Proofs.Aggregation.Siblings

/-!
# Groups of siblings

Aggregations are siblings because their entries stand at one level; which maps of the level hold
them, and in which order, makes no difference. `Notation.Regrouped` spreads the entries of any
levels over other maps. One notation compiles if the other does, and then the same object is
written (`WrittenAlike`), which rests on two lemmas about one level:

* `ofEntries_of_perm`: entries in another order give the same siblings in another order;
* `ofEntries_replace`: an entry whose aggregation is written alike may take the place of another.

Siblings of different names are written in the order of their names, so a level is written alike if
its members are the same up to their order (`siblingsToJson_eq_of_perm`). `compile_regrouped` is
the main statement; it also has the forms that a level can take in the notation.
-/

set_option autoImplicit false

namespace SearchNotation

open Aggregation (subKey nameKey subOf)

/-! ## Other groups -/

/-- The parameters of any kind ask for these sub-aggregations. -/
def Bag.AsksFor (bag : Bag) (sub : Notation) : Prop := ∀ kind, subOf kind bag = .ok sub

/-- The same aggregations in other groups and another order, at any levels. -/
inductive Notation.Regrouped : Notation → Notation → Prop
  /-- The entries of a level are spread over maps in another way. -/
  | spread {n m : Notation} : n.entries.Perm m.entries → Notation.Regrouped n m
  /-- The level below one entry is regrouped. -/
  | under {n m sub sub' : Notation} (before after : Bag) {key : String} {bag bag' : Bag} :
      n.entries = before ++ (key, .nested bag) :: after →
      m.entries = before ++ (key, .nested bag') :: after →
      Dict.without bag [subKey] = Dict.without bag' [subKey] →
      bag.AsksFor sub → bag'.AsksFor sub' → Notation.Regrouped sub sub' → Notation.Regrouped n m
  | trans {n m k : Notation} :
      Notation.Regrouped n m → Notation.Regrouped m k → Notation.Regrouped n k

theorem Notation.Regrouped.symm {n m : Notation} (h : n.Regrouped m) : m.Regrouped n := by
  induction h with
  | spread h => exact .spread h.symm
  | under before after hn hm hrest hsub hsub' _ ih =>
    exact .under before after hm hn hrest.symm hsub' hsub ih
  | trans _ _ ih ih' => exact ih'.trans ih

/-- A map is the list of its entries. -/
theorem Notation.entries_singles (bag : Bag) :
    (Notation.list (bag.map fun e => [e])).entries = bag := by
  simp [Notation.entries, Notation.bags, ← List.flatMap_def]

namespace Aggregation

/-- Both compilations succeed or neither does, and what they build is written alike. -/
structure WrittenAlike (x y : Logged (List Aggregation)) : Prop where
  succeeds : (∃ siblings, x.result = .ok siblings) ↔ ∃ siblings, y.result = .ok siblings
  written : ∀ siblings siblings', x.result = .ok siblings → y.result = .ok siblings' →
    siblingsToJson siblings = siblingsToJson siblings'

/-- How the maps of a level are compiled: their entries count, and not their groups. -/
structure GroupsFreely (list : List Bag → Logged (List Aggregation))
    (map : Bag → Logged (List Aggregation)) : Prop where
  /-- The same entries may be spread over maps in any way and any order. -/
  spread : ∀ xs ys : List Bag, xs.flatten.Perm ys.flatten → WrittenAlike (list xs) (list ys)
  /-- A map is the list of its entries. -/
  singles : ∀ bag : Bag, map bag = list (bag.map fun e => [e])

/-- The forms of sub-aggregations. -/
structure SubForms (sub : Value → Logged (List Aggregation)) : Prop where
  groups : GroupsFreely (fun bags => sub (.list bags)) fun bag => sub (.nested bag)
  /-- A map is the list of that map. -/
  single : ∀ bag, sub (.nested bag) = sub (.list [bag])
  null : sub (.scalar .null) = pure []
  emptyMap : sub (.nested []) = pure []
  emptyList : sub (.list []) = pure []
  /-- An empty list in a text is an array. -/
  emptyArray : sub (.array []) = pure []

/-! ## Members up to their order -/

section
variable {siblings siblings' : List Aggregation}

theorem keys_membersOf (siblings : List Aggregation) :
    Dict.keys (membersOf siblings) = siblings.map name := by
  rw [membersOf_eq_map, Dict.keys, List.map_map]
  rfl

variable (h : (membersOf siblings').Perm (membersOf siblings))
include h

theorem map_name_perm_of_perm : (siblings'.map name).Perm (siblings.map name) := by
  have hkeys := h.map Prod.fst
  rwa [← Dict.keys, ← Dict.keys, keys_membersOf, keys_membersOf] at hkeys

theorem isEmpty_eq_of_perm : siblings'.isEmpty = siblings.isEmpty := by
  have hlen := (map_name_perm_of_perm h).length_eq
  rw [List.length_map, List.length_map] at hlen
  rw [Bool.eq_iff_iff, List.isEmpty_iff_length_eq_zero, List.isEmpty_iff_length_eq_zero, hlen]

/-- **Siblings of different names are written alike** if their members are the same. -/
theorem siblingsToJson_eq_of_perm (hnames : (siblings.map name).Nodup) :
    siblingsToJson siblings' = siblingsToJson siblings := by
  have hkeys : (Dict.keys (membersOf siblings')).Nodup := by
    rw [keys_membersOf]
    exact (map_name_perm_of_perm h).nodup_iff.2 hnames
  exact congrArg Json.object (Dict.ofList_eq_of_perm h hkeys)

end

variable {registry : Registry} {kind : AggregationKind}

/-- What one notation builds, another one builds as well, up to the order of its members. -/
def Reproduces (registry : Registry) (n m : Notation) : Prop :=
  ∀ siblings, (compile registry n).result = .ok siblings →
    ∃ siblings', (compile registry m).result = .ok siblings' ∧
      (membersOf siblings').Perm (membersOf siblings)

/-- A level is reproduced if its entries are. -/
theorem reproduces_of_entries {n m : Notation}
    (h : ∀ siblings, (ofEntries registry n.entries).result = .ok siblings →
      ∃ siblings', (ofEntries registry m.entries).result = .ok siblings' ∧
        (membersOf siblings').Perm (membersOf siblings)) : Reproduces registry n m := by
  intro siblings hn
  obtain ⟨ho, hnames⟩ := compile_eq_ok_iff.1 hn
  obtain ⟨siblings', ho', hperm⟩ := h siblings ho
  have hnames' : (siblings'.map name).Nodup :=
    (map_name_perm_of_perm hperm).nodup_iff.2 hnames
  exact ⟨siblings', compile_eq_ok_iff.2 ⟨ho', hnames'⟩, hperm⟩

/-! ## One level -/

/-- **Entries in another order** give the same siblings in another order. -/
theorem ofEntries_of_perm {entries entries' : Bag} (h : entries.Perm entries')
    {siblings : List Aggregation} (ho : (ofEntries registry entries).result = .ok siblings) :
    ∃ siblings', (ofEntries registry entries').result = .ok siblings' ∧
      siblings'.Perm siblings := by
  have hknown : (known registry entries').Perm (known registry entries) := h.symm.filterMap _
  obtain ⟨siblings', hbuilt, hperm⟩ :=
    List.perm_comp_forall₂ hknown (ofEntries_eq_ok_iff.1 ho)
  exact ⟨siblings', ofEntries_eq_ok_iff.2 hbuilt, hperm⟩

/-- One value gives an aggregation that is written like that of another one. -/
def Substitutes (registry : Registry) (value value' : Value) : Prop :=
  ∀ kind a, (ofValue registry kind value).result = .ok a →
    ∃ a', (ofValue registry kind value').result = .ok a' ∧ a'.name = a.name ∧
      a'.toJson = a.toJson

/-- **The value of one entry may be exchanged** for one that is written alike. -/
theorem ofEntries_replace {value value' : Value} (h : Substitutes registry value value')
    (before after : Bag) (key : String) {siblings : List Aggregation}
    (ho : (ofEntries registry (before ++ (key, value) :: after)).result = .ok siblings) :
    ∃ siblings', (ofEntries registry (before ++ (key, value') :: after)).result = .ok siblings' ∧
      membersOf siblings' = membersOf siblings := by
  cases hl : registry.aggregations.lookup? key with
  | none =>
    refine ⟨siblings, ?_, rfl⟩
    rw [ofEntries_append, ofEntries_unknown hl] at ho ⊢
    exact ho
  | some kind =>
    simp only [ofEntries_append, ofEntries_known hl, Logged.result_bind_eq_ok,
      Logged.result_pure, Except.ok.injEq] at ho ⊢
    obtain ⟨first, hfirst, _, ⟨a, ha, rest, hrest, rfl⟩, rfl⟩ := ho
    obtain ⟨a', ha', hname, hjson⟩ := h kind a ha
    refine ⟨first ++ a' :: rest, ⟨first, hfirst, a' :: rest, ⟨a', ha', rest, hrest, rfl⟩, rfl⟩, ?_⟩
    simp only [membersOf_eq_map, List.map_append, List.map_cons, hname, hjson]

/-- Parameters that differ in their sub-aggregations only give the same plan but for these. -/
theorem plan_of_without_eq {bag bag' : Bag} {sub sub' : Notation}
    (hrest : Dict.without bag [subKey] = Dict.without bag' [subKey])
    (hsub : subOf kind bag = .ok sub) (hsub' : subOf kind bag' = .ok sub') {p : Plan}
    (hp : plan kind (.nested bag) = .ok p) :
    p.sub = sub ∧ plan kind (.nested bag') = .ok { p with sub := sub' } := by
  obtain ⟨name, hname, hp⟩ := Except.bind_eq_ok.1 hp
  rw [hsub] at hp
  cases hp
  have hget : Dict.get? bag' nameKey = Dict.get? bag nameKey := by
    have hother : nameKey ∉ [subKey] := by decide
    rw [← Dict.get?_without_of_not_mem bag hother, hrest, Dict.get?_without_of_not_mem bag' hother]
  have hname' : resultName kind bag' = .ok name := by
    rw [resultName, Bag.present?, hget]
    exact hname
  have hparams : Dict.without bag' [subKey, nameKey] = Dict.without bag [subKey, nameKey] :=
    calc Dict.without bag' ([subKey] ++ [nameKey])
      _ = Dict.without (Dict.without bag' [subKey]) [nameKey] := Dict.without_append ..
      _ = Dict.without (Dict.without bag [subKey]) [nameKey] := by rw [hrest]
      _ = Dict.without bag ([subKey] ++ [nameKey]) := (Dict.without_append ..).symm
  refine ⟨rfl, ?_⟩
  rw [plan_nested hname' hsub', hparams]

/-- **A level below an entry** may be exchanged for one that reproduces it. -/
theorem substitutes_of_reproduces {bag bag' : Bag} {sub sub' : Notation}
    (hrest : Dict.without bag [subKey] = Dict.without bag' [subKey])
    (hsub : bag.AsksFor sub) (hsub' : bag'.AsksFor sub') (h : Reproduces registry sub sub') :
    Substitutes registry (.nested bag) (.nested bag') := by
  intro kind a ha
  obtain ⟨p, hp, hr⟩ := ofValue_eq_ok_iff.1 ha
  obtain ⟨rfl, hp'⟩ := plan_of_without_eq hrest (hsub kind) (hsub' kind) hp
  obtain ⟨children, hc, hperm⟩ := h a.children hr.children
  have hnames : (a.children.map name).Nodup := (compile_eq_ok_iff.1 hr.children).2
  refine ⟨{ a with children }, ofValue_eq_ok_iff.2 ⟨_, hp', ?_⟩, rfl, ?_⟩
  · exact { hr with children := hc }
  · rw [toJson_eq, toJson_eq]
    simp only [isEmpty_eq_of_perm hperm, siblingsToJson_eq_of_perm hperm hnames]

/-! ## All levels -/

/-- **What a notation builds is built in other groups too.** -/
theorem reproduces_of_regrouped {n m : Notation} (h : n.Regrouped m) :
    Reproduces registry n m := by
  induction h with
  | spread hperm =>
    refine reproduces_of_entries fun siblings ho => ?_
    obtain ⟨siblings', ho', hsame⟩ := ofEntries_of_perm hperm ho
    refine ⟨siblings', ho', ?_⟩
    rw [membersOf_eq_map, membersOf_eq_map]
    exact hsame.map _
  | under before after hn hm hrest hsub hsub' _ ih =>
    refine reproduces_of_entries fun siblings ho => ?_
    rw [hn] at ho
    obtain ⟨siblings', ho', hsame⟩ :=
      ofEntries_replace (substitutes_of_reproduces hrest hsub hsub' ih) before after _ ho
    rw [hm]
    exact ⟨siblings', ho', .of_eq hsame⟩
  | trans _ _ ih ih' =>
    intro siblings hn
    obtain ⟨siblings', hm, hperm⟩ := ih siblings hn
    obtain ⟨siblings'', hk, hperm'⟩ := ih' siblings' hm
    exact ⟨siblings'', hk, hperm'.trans hperm⟩

theorem writtenAlike_of_regrouped {n m : Notation} (h : n.Regrouped m) :
    WrittenAlike (compile registry n) (compile registry m) where
  succeeds := by
    constructor
    · rintro ⟨siblings, hn⟩
      obtain ⟨siblings', hm, -⟩ := reproduces_of_regrouped h siblings hn
      exact ⟨siblings', hm⟩
    · rintro ⟨siblings, hm⟩
      obtain ⟨siblings', hn, -⟩ := reproduces_of_regrouped h.symm siblings hm
      exact ⟨siblings', hn⟩
  written := by
    intro siblings siblings' hn hm
    obtain ⟨built, hbuilt, hperm⟩ := reproduces_of_regrouped h siblings hn
    rw [hm] at hbuilt
    cases hbuilt
    exact (siblingsToJson_eq_of_perm hperm (compile_eq_ok_iff.1 hn).2).symm

/-! ## The forms of a level -/

theorem compile_congr {n m : Notation} (h : n.entries = m.entries) :
    compile registry n = compile registry m := by
  rw [compile_eq, compile_eq, h]

theorem groupsFreely_compile (registry : Registry) :
    GroupsFreely (fun bags => compile registry (.list bags)) fun bag =>
      compile registry (.map bag) where
  spread _ _ h := writtenAlike_of_regrouped (.spread h)
  singles bag := by
    apply compile_congr
    rw [Notation.entries_singles]
    exact List.flatten_singleton

theorem subAggregations_insert (params : Bag) (value : Value) :
    subAggregations registry kind (Dict.insert params subKey value) =
      (Logged.ofExcept (subNotation kind value) >>= compile registry) := by
  rw [subAggregations_eq, subOf, Dict.get?_insert_self]

theorem subForms_subAggregations (registry : Registry) (kind : AggregationKind) (params : Bag) :
    SubForms fun value => subAggregations registry kind (Dict.insert params subKey value) := by
  simp only [subAggregations_insert]
  exact {
    groups := groupsFreely_compile registry
    single := fun bag => compile_congr (n := .map bag) (m := .list [bag]) rfl
    null := rfl
    emptyMap := rfl
    emptyList := rfl
    emptyArray := rfl }

theorem subAggregations_absent (registry : Registry) (kind : AggregationKind) {params : Bag}
    (h : Dict.get? params subKey = none) : subAggregations registry kind params = pure [] := by
  rw [subAggregations_eq, subOf, h]
  rfl

/-- **Groups and order of siblings do not matter**, at the top and below any entry, nor at several
levels at once. -/
theorem compile_regrouped (registry : Registry) :
    GroupsFreely (fun bags => compile registry (.list bags))
      (fun bag => compile registry (.map bag)) ∧
    (∀ kind params,
      SubForms (fun value => subAggregations registry kind (Dict.insert params subKey value)) ∧
      subAggregations registry kind (Dict.without params [subKey]) = pure []) ∧
    ∀ n m : Notation, n.Regrouped m → WrittenAlike (compile registry n) (compile registry m) :=
  ⟨groupsFreely_compile registry,
    fun kind params => ⟨subForms_subAggregations registry kind params,
      subAggregations_absent registry kind (Dict.get?_without (.head _))⟩,
    fun _ _ h => writtenAlike_of_regrouped h⟩

/-- Averages beside terms and below them, in other groups and another order at both levels. -/
theorem compile_regrouped_averages :
    let price : Bag := [("avg", .ofString "price")]
    let cost : Bag :=
      [("avg", .nested [("aggregation_key", .ofString "cost"), ("field", .ofString "cost")])]
    let terms (sub : List Bag) : Bag :=
      [("terms", .nested [("field", .ofString "brand"), ("sub", .list sub)])]
    let n : Notation := .list [price ++ terms [price, cost]]
    let m : Notation := .list [terms [cost, price], price]
    n.Regrouped m ∧ WrittenAlike (compile averagesAndTerms n) (compile averagesAndTerms m) ∧
    ∃ siblings siblings', (compile averagesAndTerms n).result = .ok siblings ∧
      (compile averagesAndTerms m).result = .ok siblings' ∧
      siblings.map name = ["avg", "terms"] ∧ siblings'.map name = ["terms", "avg"] ∧
      siblingsToJson siblings = siblingsToJson siblings' := by
  intro price cost terms n m
  have hbelow : Notation.Regrouped (.list [price, cost]) (.list [cost, price]) :=
    .spread (.swap _ _ _)
  have hn : n.Regrouped (.list [price ++ terms [cost, price]]) :=
    .under price [] rfl rfl rfl (fun _ => rfl) (fun _ => rfl) hbelow
  have hm : n.Regrouped m := hn.trans (.spread (.swap _ _ _))
  have halike := (compile_regrouped averagesAndTerms).2.2 n m hm
  exact ⟨hm, halike, _, _, rfl, rfl, rfl, rfl, halike.written _ _ rfl rfl⟩

end Aggregation

end SearchNotation
