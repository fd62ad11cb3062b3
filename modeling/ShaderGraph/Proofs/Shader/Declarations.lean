import ShaderGraph.Shader.Declarations

/-!
# Declarations for the variables of every shader

With the variables that every shader can use, an argument asks for a uniform of
each name it depends on, apart from the one that needs none; the computed variable
asks for the uniform it is computed from and is declared, once, where it is
mentioned.
-/

namespace ShaderGraph
namespace Shader

/-- The line that computes the coordinate from the resolution. -/
def coordinateLine : String :=
  statement "vec2 st = gl_FragCoord.xy / resolution"

theorem lookup?_default (name : String) :
    Builtins.lookup? {} name =
      if name = "gl_FragCoord" then some ⟨"gl_FragCoord", "vec4", 4, false, false, ""⟩
      else if name = "resolution" then some ⟨"resolution", "vec2", 2, true, false, ""⟩
      else if name = "time" then some ⟨"time", "float", 1, true, false, ""⟩
      else if name = "st" then
        some ⟨"st", "vec2", 2, true, true, "vec2 st = gl_FragCoord.xy / resolution"⟩
      else none := by
  simp only [Builtins.lookup?, List.reverse_cons, List.reverse_nil, List.nil_append,
    List.cons_append, List.find?_cons, List.find?_nil]
  grind

theorem uniformOf?_default (base : String) :
    uniformOf? {} base =
      if base = "gl_FragCoord" then none
      else some (if base = "st" then "resolution" else base) := by
  rw [uniformOf?, lookup?_default]
  grind

theorem declaration?_default (name : String) :
    declaration? {} name = if name = "st" then some coordinateLine else none := by
  rw [declaration?, lookup?_default, coordinateLine]
  grind

theorem mem_uniforms_default
    {excluded : List String}
    {arguments : List Argument}
    {name : String} :
    name ∈ uniforms {} excluded arguments ↔
      ∃ base ∈ mentionedBases arguments, base ∉ excluded ∧ base ≠ "gl_FragCoord" ∧
        name = if base = "st" then "resolution" else base := by
  rw [uniforms, List.mem_filterMap]
  constructor
  · rintro ⟨base, listed, asked⟩
    obtain ⟨present, included⟩ := List.mem_filter.mp listed
    rw [uniformOf?_default] at asked
    split at asked
    · cases asked
    case isFalse needed =>
      exact ⟨base, present, by simpa using included, needed, (Option.some.inj asked).symm⟩
  · rintro ⟨base, present, included, needed, rfl⟩
    refine ⟨base, List.mem_filter.mpr ⟨present, by simpa using included⟩, ?_⟩
    rw [uniformOf?_default, if_neg needed]

/-- Of names without repetition at most one is declared. -/
theorem filterMap_declaration?_default {names : List String} (nodup : names.Nodup) :
    names.filterMap (declaration? {}) = if "st" ∈ names then [coordinateLine] else [] := by
  induction names with
  | nil => rfl
  | cons first rest inductionHypothesis =>
      obtain ⟨fresh, others⟩ := List.nodup_cons.mp nodup
      rw [List.filterMap_cons, inductionHypothesis others, declaration?_default]
      by_cases same : first = "st"
      · subst same
        simp [fresh]
      · simp [same, Ne.symm same]

theorem declarations_default (names : List String) :
    declarations {} names = if "st" ∈ names then [coordinateLine] else [] := by
  have nodup : (Text.sortedNames names).Nodup :=
    (Text.pairwise_sortedNames names).imp String.ne_of_lt
  rw [declarations, filterMap_declaration?_default nodup]
  simp only [Text.mem_sortedNames]

end Shader
end ShaderGraph
