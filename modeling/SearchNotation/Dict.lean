/-!
# Dictionaries

`Dict α` is a finite map from names to values, written as the list of its entries. Every
operation keeps the entries in the order of their names by code point, so two dictionaries with
the same entries are the same list and are printed the same way.
-/

set_option autoImplicit false

namespace SearchNotation

/-- A finite map from names to values; see `Dict.Sorted` for the order of its entries. -/
abbrev Dict (α : Type) := List (String × α)

namespace Dict

variable {α β : Type}

/-- The value stored under `name`. -/
def get? : Dict α → String → Option α
  | [], _ => none
  | (key, value) :: rest, name => if key = name then some value else get? rest name

/-- Whether something is stored under `name`. -/
def contains (dict : Dict α) (name : String) : Bool := (get? dict name).isSome

/-- Stores `value` under `name`, in place of what was there. -/
def insert : Dict α → String → α → Dict α
  | [], name, value => [(name, value)]
  | (key, old) :: rest, name, value =>
    if name = key then (name, value) :: rest
    else if name < key then (name, value) :: (key, old) :: rest
    else (key, old) :: insert rest name value

/-- Stores the entries one after the other, so the last of two with one name stays. -/
def insertAll (dict : Dict α) (entries : List (String × α)) : Dict α :=
  entries.foldl (fun d e => insert d e.1 e.2) dict

/-- The dictionary of a list of entries; the last of two with one name stays. -/
def ofList (entries : List (String × α)) : Dict α := insertAll [] entries

/-- The dictionary without the listed names. -/
def without (dict : Dict α) (names : List String) : Dict α :=
  dict.filter fun e => !names.contains e.1

/-- The names in order. -/
def keys (dict : Dict α) : List String := dict.map (·.1)

/-- Applies `f` to every value. -/
def mapValues (f : α → β) (dict : Dict α) : Dict β := dict.map fun e => (e.1, f e.2)

/-- The order that every operation keeps: names strictly increase, so none occurs twice. -/
def Sorted (dict : Dict α) : Prop := dict.Pairwise (·.1 < ·.1)

instance (dict : Dict α) : Decidable (Sorted dict) :=
  inferInstanceAs (Decidable (List.Pairwise _ _))

/-! ## What each operation does to the value under a name -/

@[simp] theorem get?_nil (name : String) : get? ([] : Dict α) name = none := rfl

theorem get?_insert (dict : Dict α) (name other : String) (value : α) :
    get? (insert dict name value) other = if name = other then some value else get? dict other := by
  induction dict with
  | nil => rfl
  | cons e rest ih =>
    obtain ⟨key, old⟩ := e
    unfold insert
    split
    · next h => subst h; simp only [get?]; split <;> rfl
    · next h =>
      split
      · simp only [get?]
      · simp only [get?, ih]
        grind

theorem get?_insert_self (dict : Dict α) (name : String) (value : α) :
    get? (insert dict name value) name = some value := by
  simp [get?_insert]

theorem get?_insert_of_ne (dict : Dict α) {name other : String} (value : α) (h : name ≠ other) :
    get? (insert dict name value) other = get? dict other := by
  simp [get?_insert, h]

end Dict

end SearchNotation
