import ShaderGraph.Overload.Choice

/-!
# Overloads that arguments fill

Arguments fill an overload if both have equally many components in total, so that
none is dropped and no zero is added. The choice by components finds such an
overload wherever one with parameters is among the given ones. One without
parameters is found only if it comes first and no overload has a single
parameter.
-/

namespace ShaderGraph
namespace Overload

/-- Arguments and parameters have equally many components in total. -/
def IsFilledBy (overload : Overload) (arguments : List Argument) : Prop :=
  componentTotal overload.parameters = Argument.totalComponents arguments

variable {overload chosen : Overload} {overloads : List Overload} {arguments : List Argument}

theorem matchesTotal_iff : overload.matchesTotal arguments = true ↔ overload.IsFilledBy arguments :=
  decide_eq_true_iff

theorem IsFilledBy.of_matchesSlots (slots : overload.matchesSlots arguments = true) :
    overload.IsFilledBy arguments := by
  have sizes : overload.sizes = arguments.map fun argument => componentCount argument.type :=
    of_decide_eq_true slots
  rw [IsFilledBy, Argument.totalComponents, componentTotal, componentTotal, List.map_map]
  exact congrArg (List.foldr (· + ·) 0) sizes

/-! ## Overloads with a single parameter -/

theorem mem_singles_iff :
    overload ∈ singles overloads ↔ overload ∈ overloads ∧ overload.parameters.length = 1 := by
  simp [singles]

theorem mem_multiples_iff :
    overload ∈ multiples overloads ↔ overload ∈ overloads ∧ 1 < overload.parameters.length := by
  simp [multiples]

/-- The size of a single parameter is the total. -/
theorem componentTotal_of_single (single : overload.parameters.length = 1) :
    componentTotal overload.parameters = overload.size := by
  obtain ⟨parameter, parameters⟩ := List.length_eq_one_iff.mp single
  simp [componentTotal, size, sizes, parameters]

theorem IsFilledBy.of_combines
    (single : overload.parameters.length = 1)
    (combines : overload.combines arguments = true) : overload.IsFilledBy arguments := by
  rw [Overload.combines, Bool.and_eq_true, decide_eq_true_iff] at combines
  exact (componentTotal_of_single single).trans combines.1

/-- Only the size itself has no distance. -/
theorem distance_eq_zero_iff (total : Nat) :
    overload.distance total = 0 ↔ overload.size = total := by
  unfold distance
  split <;> omega

theorem isFilledBy_iff_distance (single : overload.parameters.length = 1) :
    overload.IsFilledBy arguments ↔
      overload.distance (Argument.totalComponents arguments) = 0 := by
  rw [distance_eq_zero_iff, ← componentTotal_of_single single, IsFilledBy]

theorem nearest?_eq_none_iff (total : Nat) : nearest? total overloads = none ↔ overloads = [] := by
  cases overloads with
  | nil => simp [nearest?]
  | cons first rest =>
      rw [nearest?]
      split
      · simp
      · split <;> simp

/-- The nearest overload is one of the given ones, and none of them is nearer. -/
theorem distance_nearest?_le
    {total : Nat}
    (nearest : nearest? total overloads = some chosen) :
    chosen ∈ overloads ∧ ∀ other ∈ overloads, chosen.distance total ≤ other.distance total := by
  induction overloads generalizing chosen with
  | nil => cases nearest
  | cons first rest inductionHypothesis =>
      rw [nearest?] at nearest
      cases behind : nearest? total rest with
      | none =>
          rw [behind] at nearest
          cases nearest
          have alone : rest = [] := (nearest?_eq_none_iff total).mp behind
          simp [alone]
      | some other =>
          obtain ⟨present, least⟩ := inductionHypothesis behind
          rw [behind] at nearest
          dsimp only at nearest
          split at nearest
          case isTrue nearer =>
            cases nearest
            refine ⟨List.mem_cons_of_mem first present, fun candidate listed => ?_⟩
            rcases List.mem_cons.mp listed with rfl | later
            · exact Nat.le_of_lt nearer
            · exact least candidate later
          case isFalse notNearer =>
            cases nearest
            refine ⟨List.mem_cons_self, fun candidate listed => ?_⟩
            rcases List.mem_cons.mp listed with rfl | later
            · exact Nat.le_refl _
            · exact Nat.le_trans (Nat.le_of_not_lt notNearer) (least candidate later)

/-! ## The choice -/

/-- An overload with parameters that arguments fill is among the given ones. -/
def AnyFilledBy (overloads : List Overload) (arguments : List Argument) : Prop :=
  ∃ overload ∈ overloads, overload.parameters ≠ [] ∧ overload.IsFilledBy arguments

/-- Where no overload with several parameters is filled, one with a single parameter
must be. -/
theorem AnyFilledBy.exists_single
    (any : AnyFilledBy overloads arguments)
    (none : (multiples overloads).find? (matchesTotal arguments) = none) :
    ∃ overload ∈ singles overloads, overload.IsFilledBy arguments := by
  obtain ⟨overload, present, given, filled⟩ := any
  have positive : 0 < overload.parameters.length := List.length_pos_iff.mpr given
  by_cases several : 1 < overload.parameters.length
  · have unfilled := List.find?_eq_none.mp none overload (mem_multiples_iff.mpr ⟨present, several⟩)
    exact absurd (matchesTotal_iff.mpr filled) unfilled
  · exact ⟨overload, mem_singles_iff.mpr ⟨present, by omega⟩, filled⟩

/-- The chosen overload is filled and has parameters, or no overload with several
parameters is filled. Then it is the nearest one with a single parameter, or the
first one if there is none. -/
theorem best?_cases (arguments : List Argument) (given : overloads ≠ []) :
    ∃ chosen ∈ overloads, best? overloads arguments = some chosen ∧
      (chosen.parameters ≠ [] ∧ chosen.IsFilledBy arguments ∨
        (multiples overloads).find? (matchesTotal arguments) = none ∧
          (nearest? (Argument.totalComponents arguments) (singles overloads) = some chosen ∨
            singles overloads = [] ∧ overloads.head? = some chosen)) := by
  have parameters_ne_nil {overload : Overload} (positive : 0 < overload.parameters.length) :
      overload.parameters ≠ [] := List.ne_nil_of_length_pos positive
  unfold best?
  cases combined : (singles overloads).find? (combines arguments) with
  | some chosen =>
      obtain ⟨present, one⟩ := mem_singles_iff.mp (List.mem_of_find?_eq_some combined)
      have filled := IsFilledBy.of_combines one (List.find?_some combined)
      exact ⟨chosen, present, rfl, .inl ⟨parameters_ne_nil (by omega), filled⟩⟩
  | none =>
  cases slotted : (multiples overloads).find? (matchesSlots arguments) with
  | some chosen =>
      obtain ⟨present, several⟩ := mem_multiples_iff.mp (List.mem_of_find?_eq_some slotted)
      have filled := IsFilledBy.of_matchesSlots (List.find?_some slotted)
      exact ⟨chosen, present, rfl, .inl ⟨parameters_ne_nil (by omega), filled⟩⟩
  | none =>
  cases totalled : (multiples overloads).find? (matchesTotal arguments) with
  | some chosen =>
      obtain ⟨present, several⟩ := mem_multiples_iff.mp (List.mem_of_find?_eq_some totalled)
      have filled := matchesTotal_iff.mp (List.find?_some totalled)
      exact ⟨chosen, present, rfl, .inl ⟨parameters_ne_nil (by omega), filled⟩⟩
  | none =>
  cases nearest : nearest? (Argument.totalComponents arguments) (singles overloads) with
  | some chosen =>
      have present := (mem_singles_iff.mp (distance_nearest?_le nearest).1).1
      exact ⟨chosen, present, rfl, .inr ⟨rfl, .inl rfl⟩⟩
  | none =>
      have noSingles := (nearest?_eq_none_iff _).mp nearest
      obtain ⟨first, rest, rfl⟩ := List.exists_cons_of_ne_nil given
      exact ⟨first, List.mem_cons_self, rfl, .inr ⟨rfl, .inr ⟨noSingles, rfl⟩⟩⟩

/-- The choice finds a filled overload exactly if one with parameters is filled, or
else if there is none with a single parameter and the first one is filled. -/
theorem byComponents_fills_iff
    (overloads : List Overload)
    (arguments : List Argument)
    (given : overloads ≠ []) :
    ∃ chosen ∈ overloads, Strategy.byComponents overloads arguments = .ok (some chosen) ∧
      (chosen.IsFilledBy arguments ↔
        AnyFilledBy overloads arguments ∨
          singles overloads = [] ∧
            ∃ first, overloads.head? = some first ∧ first.IsFilledBy arguments) := by
  obtain ⟨chosen, present, best, reason⟩ := best?_cases arguments given
  refine ⟨chosen, present, congrArg Except.ok best, ?_⟩
  rcases reason with ⟨parameters, filled⟩ | ⟨unfilled, nearest | ⟨noSingles, isFirst⟩⟩
  · exact iff_of_true filled (.inl ⟨chosen, present, parameters, filled⟩)
  · obtain ⟨single, least⟩ := distance_nearest?_le nearest
    have one := (mem_singles_iff.mp single).2
    constructor
    · exact fun filled => .inl ⟨chosen, present, List.ne_nil_of_length_pos (by omega), filled⟩
    · rintro (any | ⟨noSingles, _⟩)
      · -- A filled single has no distance, so the nearest one has none either.
        obtain ⟨other, otherSingle, filled⟩ := any.exists_single unfilled
        have noDistance := (isFilledBy_iff_distance (mem_singles_iff.mp otherSingle).2).mp filled
        have atMost := least other otherSingle
        rw [noDistance] at atMost
        exact (isFilledBy_iff_distance one).mpr (Nat.eq_zero_of_le_zero atMost)
      · rw [noSingles] at single
        cases single
  · constructor
    · exact fun filled => .inr ⟨noSingles, chosen, isFirst, filled⟩
    · rintro (any | ⟨_, first, same, filled⟩)
      · obtain ⟨other, single, _⟩ := any.exists_single unfilled
        rw [noSingles] at single
        cases single
      · cases isFirst.symm.trans same
        exact filled

/-- Overloads of a function of a point, with an offset or without, and with nothing. -/
def ofPoint : List Overload :=
  [⟨"float", []⟩, ⟨"float", ["vec2"]⟩, ⟨"float", ["ivec3"]⟩, ⟨"vec2", ["vec2", "float"]⟩]

/-- A number and a vector of two numbers. -/
def numberAndVector : List Argument :=
  [{ text := "a", code := "a", type := "float" }, { text := "b", code := "b", type := "vec2" }]

/-- Three numbers fill the overload of a point with an offset. -/
theorem byComponents_fills_point_and_offset :
    ofPoint ≠ [] ∧ ∃ chosen ∈ ofPoint,
      Strategy.byComponents ofPoint numberAndVector = .ok (some chosen) ∧
        chosen.IsFilledBy numberAndVector := by
  have given : ofPoint ≠ [] := by decide
  obtain ⟨chosen, present, found, filled⟩ := byComponents_fills_iff ofPoint numberAndVector given
  refine ⟨given, chosen, present, found, filled.mpr (.inl ?_)⟩
  exact ⟨⟨"vec2", ["vec2", "float"]⟩, by decide, by decide, by unfold IsFilledBy; decide⟩

/-- Without arguments the overload without parameters would be filled, but the
nearest one with a single parameter is chosen. -/
theorem byComponents_passes_over_nothing :
    (∃ overload ∈ ofPoint, overload.IsFilledBy []) ∧
      Strategy.byComponents ofPoint [] = .ok (some ⟨"float", ["vec2"]⟩) ∧
      ¬IsFilledBy ⟨"float", ["vec2"]⟩ [] := by
  refine ⟨⟨⟨"float", []⟩, by decide, rfl⟩, ?_, ?_⟩
  · rfl
  · unfold IsFilledBy; decide

end Overload
end ShaderGraph
