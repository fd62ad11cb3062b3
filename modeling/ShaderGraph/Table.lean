/-!
# Tables in order of insertion

A table maps names to values and lists its entries in the order in which their
names were first set. Setting a name again replaces the value and keeps the
place of the entry.
-/

namespace ShaderGraph

/-- Entries in the order in which their names were first set. -/
abbrev Table (Value : Type) := List (String × Value)

namespace Table

/-- The value of a name. -/
def find? (table : Table Value) (name : String) : Option Value :=
  List.lookup name table

/-- Whether a name has an entry. -/
def has (table : Table Value) (name : String) : Bool :=
  (table.find? name).isSome

/-- Give a name a value, in place if it has an entry and at the end otherwise. -/
def set (table : Table Value) (name : String) (value : Value) : Table Value :=
  if table.has name then
    table.map fun entry => if entry.1 == name then (name, value) else entry
  else table ++ [(name, value)]

/-- The table without the entry of a name. -/
def erase (table : Table Value) (name : String) : Table Value :=
  table.filter fun entry => !(entry.1 == name)

/-- The names of a table in the order of their entries. -/
def names (table : Table Value) : List String :=
  table.map Prod.fst

/-- The values of a table in the order of their entries. -/
def contents (table : Table Value) : List Value :=
  table.map Prod.snd

theorem find?_cons (entry : String × Value) (table : Table Value) (name : String) :
    find? (entry :: table) name = if name == entry.1 then some entry.2 else find? table name := by
  obtain ⟨first, value⟩ := entry
  simp only [find?, List.lookup_cons]
  cases name == first <;> rfl

theorem has_iff_mem_names {table : Table Value} {name : String} :
    table.has name = true ↔ name ∈ table.names := by
  induction table with
  | nil => simp [has, find?, names]
  | cons entry rest inductionHypothesis =>
      rw [has, find?_cons]
      by_cases same : name = entry.1
      · simp [same, names]
      · simpa [same, names, has] using inductionHypothesis

theorem mem_of_find? {table : Table Value} {name : String} {value : Value}
    (found : table.find? name = some value) : (name, value) ∈ table := by
  obtain ⟨before, after, equal, _⟩ := List.lookup_eq_some_iff.mp found
  simp [equal]

private theorem find?_replace
    (table : Table Value)
    (name : String)
    (value : Value)
    (other : String) :
    find? (table.map fun entry => if entry.1 == name then (name, value) else entry) other =
      if other == name then (table.find? name).map fun _ => value else table.find? other := by
  induction table with
  | nil => simp [find?]
  | cons entry rest inductionHypothesis =>
      rw [List.map_cons, find?_cons, find?_cons, find?_cons, inductionHypothesis]
      grind

/-- Setting a name changes the value of that name only. -/
theorem find?_set (table : Table Value) (name : String) (value : Value) (other : String) :
    (table.set name value).find? other =
      if other == name then some value else table.find? other := by
  unfold set
  by_cases known : table.has name
  · rw [if_pos known, find?_replace]
    obtain ⟨old, found⟩ := Option.isSome_iff_exists.mp known
    rw [found, Option.map_some]
  · rw [if_neg known]
    have absent : table.find? name = none := by simpa [has] using known
    unfold find? at *
    rw [List.lookup_append]
    by_cases same : other = name
    · simp [same, absent]
    · simp [List.lookup_cons, beq_false_of_ne same]

theorem has_set (table : Table Value) (name : String) (value : Value) (other : String) :
    (table.set name value).has other = true ↔ other = name ∨ table.has other = true := by
  rw [has, find?_set, has]
  split <;> simp_all

/-- Erasing a name removes the value of that name only. -/
theorem find?_erase (table : Table Value) (name other : String) :
    (table.erase name).find? other = if other == name then none else table.find? other := by
  induction table with
  | nil => simp [erase, find?]
  | cons entry rest inductionHypothesis =>
      rw [find?_cons, erase, List.filter_cons]
      rw [erase] at inductionHypothesis
      by_cases removed : entry.1 = name
      · simp only [removed, beq_self_eq_true, Bool.not_true, Bool.false_eq_true, if_false]
        rw [inductionHypothesis]
        grind
      · simp only [removed, beq_iff_eq, Bool.not_eq_true', beq_eq_false_iff_ne, ne_eq,
          not_false_eq_true, if_true]
        rw [find?_cons, inductionHypothesis]
        grind

theorem names_set_of_has {table : Table Value} {name : String} (known : table.has name = true)
    (value : Value) : (table.set name value).names = table.names := by
  rw [set, if_pos known]
  simp only [names, List.map_map]
  apply List.map_congr_left
  grind

theorem set_of_not_has {table : Table Value} {name : String} (absent : table.has name = false)
    (value : Value) : table.set name value = table ++ [(name, value)] := by
  rw [set, absent]
  rfl

end Table
end ShaderGraph
