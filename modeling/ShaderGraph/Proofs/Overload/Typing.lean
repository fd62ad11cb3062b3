import ShaderGraph.Proofs.Overload.Dealing

/-!
# Types of slots

Numbers and whole numbers and the vectors of both are the basic types. Packing counts
components only, so a slot has as many components as its parameter, but not always its
type. Constructions have it. A slot that passes components of one argument as they are
has the element of that argument, and a lone zero is a number.
-/

namespace ShaderGraph

/-- What the components of a basic type are. -/
inductive Element
  | number
  | integer
  deriving DecidableEq

namespace Element

/-- The basic type with a number of components. -/
def type : Element -> Nat -> String
  | .number, size => selectionType size
  | .integer, 2 => "ivec2"
  | .integer, 3 => "ivec3"
  | .integer, 4 => "ivec4"
  | .integer, _ => "int"

/-- What the components of a type are. -/
def ofType (type : String) : Element :=
  if type ∈ ["int", "ivec2", "ivec3", "ivec4"] then .integer else .number

end Element

/-- A number, a whole number, or a vector of them. -/
def IsBasic (type : String) : Prop :=
  type ∈ ["float", "vec2", "vec3", "vec4", "int", "ivec2", "ivec3", "ivec4"]

instance : DecidablePred IsBasic := fun type =>
  inferInstanceAs (Decidable (type ∈ ["float", "vec2", "vec3", "vec4", "int", "ivec2", "ivec3",
    "ivec4"]))

/-- A basic type is told by its element and its number of components. -/
theorem IsBasic.eq_type {type : String} (basic : IsBasic type) :
    type = (Element.ofType type).type (componentCount type) := by
  have all : ∀ type ∈ ["float", "vec2", "vec3", "vec4", "int", "ivec2", "ivec3", "ivec4"],
      type = (Element.ofType type).type (componentCount type) := by decide
  exact all type basic

namespace Element

variable {element other : Element} {size : Nat}

theorem componentCount_type (positive : 0 < size) (small : size ≤ 4) :
    componentCount (element.type size) = size := by
  have all : ∀ size < 5, 0 < size -> ∀ element ∈ [Element.number, .integer],
      componentCount (element.type size) = size := by decide
  exact all size (by omega) positive element (by cases element <;> simp)

theorem isBasic_type (positive : 0 < size) (small : size ≤ 4) : IsBasic (element.type size) := by
  have all : ∀ size < 5, 0 < size -> ∀ element ∈ [Element.number, .integer],
      IsBasic (element.type size) := by decide
  exact all size (by omega) positive element (by cases element <;> simp)

theorem ofType_type (element : Element) (size : Nat) : ofType (element.type size) = element := by
  rcases size with _ | _ | _ | _ | _ | size
  all_goals cases element <;> rfl

/-- Types of one size are equal if their elements are. -/
theorem type_eq_iff {type : String} (basic : IsBasic type) :
    element.type (componentCount type) = type ↔ element = ofType type := by
  constructor
  · intro same
    rw [← same, ofType_type]
  · rintro rfl
    exact basic.eq_type.symm

end Element

/-! ## What types the rules of the shading language give -/

/-- The type of a part among arguments of the given types. Letters select from a
vector, and only components that it has. -/
def Atom.type? (types : List String) : Atom -> Option String
  | .zero => some "float"
  | .whole argument => types[argument]?
  | .selection argument indices =>
      match types[argument]? with
      | none => none
      | some type =>
          if 1 < componentCount type ∧ indices ≠ [] ∧ indices.length ≤ 4 ∧
              ∀ index ∈ indices, index < componentCount type then
            some ((Element.ofType type).type indices.length)
          else none

/-- The type of a slot. A vector is constructed from one scalar, or from parts that
have as many components as it has. -/
def Slot.type? (types : List String) : Slot -> Option String
  | .atom part => part.type? types
  | .construction type parts =>
      match parts.mapM (Atom.type? types) with
      | none => none
      | some given =>
          if given.map componentCount = [1] ∨ componentTotal given = componentCount type then
            some type
          else none

/-- The type of the text of a slot among arguments of the given types. -/
def Slot.typed? (types : List String) (text : String) : Option String :=
  (Slot.read? types.length text).bind (Slot.type? types)

/-- The argument that a portion comes from. -/
def Portion.argument? : Portion -> Option Nat
  | .zero => none
  | .component argument _ => some argument

/-- Portions suit a type if they are no lone zero, or the type is one of numbers, and
if they come from several sources, or from an argument with the same element. -/
def Suits (types : List String) (type : String) (portions : List Portion) : Prop :=
  (portions = [.zero] -> Element.ofType type = .number) ∧
    ∀ argument given, types[argument]? = some given ->
      (∀ portion ∈ portions, portion.argument? = some argument) ->
      Element.ofType given = Element.ofType type

namespace Component

variable {types : List String} {components : List Component}

/-- Components of one argument are one group. -/
theorem groups_of_same
    {argument : Nat}
    (filled : components ≠ [])
    (same : ∀ component ∈ components, component.argument = argument) :
    groups components = [components] := by
  induction components with
  | nil => exact absurd rfl filled
  | cons first rest inductionHypothesis =>
      obtain ⟨firstSame, restSame⟩ := List.forall_mem_cons.mp same
      cases rest with
      | nil => rfl
      | cons second others =>
          rw [groups, inductionHypothesis (by simp) restSame]
          dsimp only
          rw [if_pos (firstSame.trans (restSame second List.mem_cons_self).symm)]

/-- The part by which a stretch is passed has the element of its argument, and as many
components as the stretch. -/
theorem IsStretch.type?_ofGroup
    {group : List Component}
    (basic : ∀ type ∈ types, IsBasic type)
    (stretch : IsStretch (types.map componentCount) group) :
    ∃ argument source, types[argument]? = some source ∧
      (∀ component ∈ group, component.argument = argument) ∧ group.length ≤ 4 ∧
      (Atom.ofGroup group).type? types =
        some ((Element.ofType source).type group.length) := by
  obtain ⟨number, start, size, found, filled, fits, listed⟩ := stretch
  obtain ⟨source, sourceFound, rfl⟩ : ∃ source, types[number]? = some source ∧
      componentCount source = size := by
    rw [List.getElem?_map] at found
    exact Option.map_eq_some_iff.mp found
  have sourceBasic := basic source (List.mem_of_getElem? sourceFound)
  obtain ⟨positive, small⟩ := componentCount_bounds source
  have member : ∀ component ∈ group, component.argument = number ∧
      component.index < componentCount source := by
    intro component present
    rw [listed] at present
    obtain ⟨index, inRange, rfl⟩ := List.mem_map.mp present
    obtain ⟨_, below⟩ := List.mem_range'_1.mp inRange
    exact ⟨rfl, by dsimp only; omega⟩
  refine ⟨number, source, sourceFound, fun component present => (member component present).1,
    by omega, ?_⟩
  obtain ⟨first, rest, rfl⟩ := List.exists_cons_of_ne_nil filled
  have head : first = ⟨number, start, componentCount source⟩ := by
    rw [List.length_cons, List.range'_succ, List.map_cons, List.cons.injEq] at listed
    exact listed.1
  have firstArgument : first.argument = number := congrArg Component.argument head
  have firstSize : first.size = componentCount source := congrArg Component.size head
  rw [Atom.ofGroup, firstArgument, firstSize]
  split
  case isTrue whole =>
    have all : (first :: rest).length = componentCount source := by
      rw [Bool.or_eq_true, decide_eq_true_iff, decide_eq_true_iff] at whole
      rw [List.length_cons] at fits whole ⊢
      omega
    rw [Atom.type?, sourceFound, all]
    exact congrArg some sourceBasic.eq_type
  case isFalse part =>
    rw [Bool.or_eq_true, decide_eq_true_iff, decide_eq_true_iff, not_or] at part
    have selects : 1 < componentCount source ∧ (first :: rest).map Component.index ≠ [] ∧
        ((first :: rest).map Component.index).length ≤ 4 ∧
        ∀ index ∈ (first :: rest).map Component.index, index < componentCount source := by
      refine ⟨by omega, by simp, by rw [List.length_map]; omega, fun index present => ?_⟩
      obtain ⟨component, listed, rfl⟩ := List.mem_map.mp present
      exact (member component listed).2
    rw [Atom.type?, sourceFound]
    dsimp only
    rw [if_pos selects, List.length_map]

end Component

section Suiting

variable {types : List String} {type : String} {portions : List Portion}

theorem suits_zero_iff : Suits types type [.zero] ↔ Element.ofType type = .number := by
  refine ⟨fun suits => suits.1 rfl, fun isNumber => ⟨fun _ => isNumber, ?_⟩⟩
  intro argument given _ fromArgument
  cases fromArgument .zero List.mem_cons_self

/-- Several portions that do not come from one argument suit every type. -/
theorem Suits.of_mixed
    (several : portions.length ≠ 1)
    (mixed : ∀ argument, ¬∀ portion ∈ portions, portion.argument? = some argument) :
    Suits types type portions :=
  ⟨fun lone => absurd (congrArg List.length lone) several,
    fun argument _ _ fromArgument => absurd fromArgument (mixed argument)⟩

theorem suits_map_portion_iff
    {components : List Component}
    {argument : Nat}
    {source : String}
    (filled : components ≠ [])
    (found : types[argument]? = some source)
    (same : ∀ component ∈ components, component.argument = argument) :
    Suits types type (components.map Component.portion) ↔
      Element.ofType source = Element.ofType type := by
  constructor
  · intro suits
    refine suits.2 argument source found fun portion present => ?_
    obtain ⟨component, listed, rfl⟩ := List.mem_map.mp present
    exact congrArg some (same component listed)
  · intro sameElement
    obtain ⟨first, rest, rfl⟩ := List.exists_cons_of_ne_nil filled
    refine ⟨fun lone => ?_, fun other given otherFound fromOther => ?_⟩
    · cases (List.cons.inj lone).1
    · have isOther : some first.argument = some other := fromOther _ List.mem_cons_self
      rw [same first List.mem_cons_self, Option.some.injEq] at isOther
      rw [← isOther, found, Option.some.injEq] at otherFound
      rw [← otherFound, sameElement]

end Suiting

namespace Slot

variable {types : List String} {components : List Component} {type : String}

/-- The parts of a construction have types with as many components as the groups and
the zeros together. -/
theorem exists_types_of_parts
    {groups : List (List Component)}
    (basic : ∀ type ∈ types, IsBasic type)
    (stretches : ∀ group ∈ groups, Component.IsStretch (types.map componentCount) group)
    (zeros : Nat) :
    ∃ given, (groups.map Atom.ofGroup ++ List.replicate zeros Atom.zero).mapM (Atom.type? types) =
        some given ∧ componentTotal given = groups.flatten.length + zeros := by
  induction groups with
  | nil =>
      refine ⟨List.replicate zeros "float", mapM_eq_some_of_map ?_, ?_⟩
      · simp [List.map_replicate, Atom.type?]
      · have total : ∀ zeros, componentTotal (List.replicate zeros "float") = zeros := by
          intro zeros
          induction zeros with
          | zero => rfl
          | succ zeros inductionHypothesis =>
              rw [List.replicate_succ]
              change 1 + componentTotal (List.replicate zeros "float") = zeros + 1
              rw [inductionHypothesis, Nat.add_comm]
        simp [total]
  | cons group rest inductionHypothesis =>
      obtain ⟨stretch, others⟩ := List.forall_mem_cons.mp stretches
      obtain ⟨given, read, total⟩ := inductionHypothesis others
      obtain ⟨argument, source, _, _, small, typed⟩ := stretch.type?_ofGroup basic
      have positive : 0 < group.length := by
        obtain ⟨_, _, _, _, filled, _⟩ := stretch
        exact List.length_pos_iff.mpr filled
      refine ⟨(Element.ofType source).type group.length :: given, ?_, ?_⟩
      · rw [List.map_cons, List.cons_append, List.mapM_cons, typed, read]
        rfl
      · change componentCount _ + componentTotal given = _
        rw [Element.componentCount_type positive small, total, List.flatten_cons,
          List.length_append, Nat.add_assoc]

/-- A slot has a basic type with as many components as a parameter, and exactly the type
of the parameter if and only if the portions suit that. -/
def Serves (slot : Slot) (types : List String) (type : String) (portions : List Portion) : Prop :=
  ∃ given, slot.type? types = some given ∧ IsBasic given ∧
    componentCount given = componentCount type ∧ (given = type ↔ Suits types type portions)

/-- Without components a number is zero, and a vector is constructed from zero. -/
theorem ofComponents_nil_serves (typeBasic : IsBasic type) :
    (ofComponents type []).Serves types type
      (List.replicate (componentCount type) Portion.zero) := by
  obtain ⟨positive, small⟩ := componentCount_bounds type
  simp only [ofComponents, Component.groups, List.map_nil]
  split
  case isTrue one =>
    refine ⟨"float", rfl, by decide, one.symm, ?_⟩
    have lone : List.replicate 1 Portion.zero = [.zero] := rfl
    rw [one, lone, suits_zero_iff, eq_comm (a := Element.ofType type),
      ← Element.type_eq_iff typeBasic, one]
    rfl
  case isFalse several =>
    refine ⟨type, by simp [type?, Atom.type?, componentCount], typeBasic, rfl,
      iff_of_true rfl (.of_mixed (by simpa using several) fun argument fromOne => ?_)⟩
    have first : Portion.zero ∈ List.replicate (componentCount type) Portion.zero :=
      List.mem_replicate.mpr ⟨by omega, rfl⟩
    cases fromOne .zero first

/-- A stretch with as many components as the parameter is passed as it is. -/
theorem ofGroup_serves
    {group : List Component}
    (basic : ∀ type ∈ types, IsBasic type)
    (typeBasic : IsBasic type)
    (stretch : Component.IsStretch (types.map componentCount) group)
    (all : group.length = componentCount type) :
    (Slot.atom (Atom.ofGroup group)).Serves types type (group.map Component.portion) := by
  obtain ⟨positive, small⟩ := componentCount_bounds type
  have filled : group ≠ [] := List.ne_nil_of_length_pos (by omega)
  obtain ⟨argument, source, found, same, _, typed⟩ := stretch.type?_ofGroup basic
  refine ⟨_, typed, Element.isBasic_type (by omega) (by omega),
    (Element.componentCount_type (by omega) (by omega)).trans all, ?_⟩
  rw [suits_map_portion_iff filled found same, all, Element.type_eq_iff typeBasic]

/-- Where components are not a single group that fills the parameter, not all portions
come from one argument. -/
theorem portionsOf_mixed
    {group : List Component}
    {rest : List (List Component)}
    (grouped : Component.groups components = group :: rest)
    (fits : components.length ≤ componentCount type)
    (notAlone : ¬(rest = [] ∧ components.length = componentCount type))
    (argument : Nat) :
    ¬∀ portion ∈ Overload.portionsOf (type, components), portion.argument? = some argument := by
  intro fromOne
  have noZeros : componentCount type - components.length = 0 := by
    by_contra short
    have zero : Portion.zero ∈ Overload.portionsOf (type, components) :=
      List.mem_append_right _ (List.mem_replicate.mpr ⟨short, rfl⟩)
    cases fromOne .zero zero
  have same : ∀ component ∈ components, component.argument = argument :=
    fun component present => Option.some.inj (fromOne component.portion
      (List.mem_append_left _ (List.mem_map_of_mem present)))
  have componentsFilled : components ≠ [] := by
    rintro rfl
    cases grouped
  rw [Component.groups_of_same componentsFilled same, List.cons.injEq] at grouped
  exact notAlone ⟨grouped.2.symm, by omega⟩

/-- The slot of packed components serves the parameter for its portions. -/
theorem ofComponents_serves
    (basic : ∀ type ∈ types, IsBasic type)
    (typeBasic : IsBasic type)
    (run : Component.IsRun (types.map componentCount) components)
    (fits : components.length ≤ componentCount type) :
    (ofComponents type components).Serves types type
      (Overload.portionsOf (type, components)) := by
  have stretches := run.isStretch
  have flat := (Component.flatten_groups components).1
  cases grouped : Component.groups components with
  | nil =>
      rw [grouped] at flat
      obtain rfl : components = [] := flat.symm
      exact ofComponents_nil_serves typeBasic
  | cons group rest =>
      rw [grouped] at stretches flat
      simp only [ofComponents, grouped, List.map_cons, List.isEmpty_map]
      split
      case isTrue single =>
        rw [Bool.or_eq_true, Bool.and_eq_true, decide_eq_true_iff, decide_eq_true_iff,
          List.isEmpty_iff] at single
        obtain ⟨rfl, all⟩ := single_group grouped fits single
        obtain rfl : group = components := by simpa using flat
        have portions : Overload.portionsOf (type, group) = group.map Component.portion := by
          simp [Overload.portionsOf, all]
        rw [portions]
        exact ofGroup_serves basic typeBasic (stretches group List.mem_cons_self) all
      case isFalse notSingle =>
        rw [Bool.or_eq_true, Bool.and_eq_true, decide_eq_true_iff, decide_eq_true_iff,
          List.isEmpty_iff] at notSingle
        obtain ⟨several, notAlone⟩ := not_or.mp notSingle
        obtain ⟨given, read, total⟩ := exists_types_of_parts basic stretches
          (componentCount type - components.length)
        rw [flat, Nat.add_sub_cancel' fits] at total
        rw [List.map_cons] at read
        have constructs : (Slot.construction type (Atom.ofGroup group ::
            (rest.map Atom.ofGroup ++ List.replicate (componentCount type - components.length)
              Atom.zero))).type? types = some type := by
          rw [type?, ← List.cons_append, read]
          exact if_pos (.inr total)
        refine ⟨type, constructs, typeBasic, rfl, iff_of_true rfl (.of_mixed ?_ ?_)⟩
        · rw [Overload.length_portionsOf fits]
          exact several
        · exact portionsOf_mixed grouped fits notAlone

end Slot

namespace Overload

variable {types : List String}

/-- The text of a slot has a basic type with as many components as the parameter, which
is that of the parameter exactly if the portions suit it. -/
theorem typed?_pack
    {share : String × List Component}
    (basic : ∀ type ∈ types, IsBasic type)
    (shareBasic : IsBasic share.1)
    (run : Component.IsRun (types.map componentCount) share.2)
    (fits : share.2.length ≤ componentCount share.1) :
    ∃ given, Slot.typed? types (pack share.1 share.2) = some given ∧ IsBasic given ∧
      componentCount given = componentCount share.1 ∧
      (given = share.1 ↔ Suits types share.1 (portionsOf share)) := by
  have readable := run.isReadable
    (List.forall_mem_map.mpr fun type _ => (componentCount_bounds type).2)
  rw [List.length_map] at readable
  rw [Slot.typed?, Slot.read?_pack share.1 readable]
  exact Slot.ofComponents_serves basic shareBasic run fits

/-- The slot of every share is typed in this way, where all types are basic. -/
theorem typed?_of_mem_shares
    {parameters : List String}
    (basic : ∀ type ∈ parameters ++ types, IsBasic type)
    (share : String × List Component)
    (present : share ∈ shares parameters (Component.ofSizes 0 (types.map componentCount))) :
    ∃ given, Slot.typed? types (pack share.1 share.2) = some given ∧ IsBasic given ∧
      componentCount given = componentCount share.1 ∧
      (given = share.1 ↔ Suits types share.1 (portionsOf share)) := by
  have parameter : share.1 ∈ parameters :=
    map_fst_shares parameters _ ▸ List.mem_map_of_mem present
  obtain ⟨run, fits⟩ := isRun_of_mem_shares (Component.isRun_ofSizes (types.map componentCount))
    parameters share present
  exact typed?_pack (fun type given => basic type (List.mem_append_right _ given))
    (basic _ (List.mem_append_left _ parameter)) run fits

/-- Any portions suit a type of numbers, if those of arguments are numbers. -/
theorem suits_of_numbers
    {type : String}
    (isNumber : Element.ofType type = .number)
    (numbers : ∀ given ∈ types, Element.ofType given = .number)
    (portions : List Portion) : Suits types type portions :=
  ⟨fun _ => isNumber, fun _ given found _ => by
    rw [isNumber, numbers given (List.mem_of_getElem? found)]⟩

/-- Where all types are basic, every slot has a basic type with as many components as
its parameter, and exactly the type of the parameter if and only if its portions suit
that. This is so throughout where all types are of numbers. -/
theorem slots_typed_iff
    (overload : Overload)
    (arguments : List Argument)
    (basic : ∀ type ∈ overload.parameters ++ arguments.map Argument.type, IsBasic type) :
    let types := arguments.map Argument.type
    ∃ dealt : List (List Portion),
      (overload.slots arguments).map (Slot.denoted? (types.map componentCount)) =
          dealt.map some ∧
        (∀ (index : Nat) (type slot : String) (portions : List Portion),
          overload.parameters[index]? = some type ->
          (overload.slots arguments)[index]? = some slot -> dealt[index]? = some portions ->
          (∃ given, Slot.typed? types slot = some given ∧ IsBasic given ∧
            componentCount given = componentCount type) ∧
          (Slot.typed? types slot = some type ↔ Suits types type portions)) ∧
        ((∀ type ∈ overload.parameters ++ types, Element.ofType type = .number) ->
          (overload.slots arguments).map (Slot.typed? types) = overload.parameters.map some) := by
  intro types
  have sizes : types.map componentCount =
      arguments.map fun argument => componentCount argument.type := List.map_map
  have denoted := map_denoted?_slots overload arguments
  have slotted := slots_eq_map_pack overload arguments
  have parameters := map_fst_shares overload.parameters
    (Component.ofSizes 0 (types.map componentCount))
  have typed := typed?_of_mem_shares basic
  dsimp only at denoted
  rw [← sizes] at denoted slotted
  -- From here on the shares are known by their parameters, portions and types only.
  generalize shares overload.parameters (Component.ofSizes 0 (types.map componentCount)) =
    shared at denoted slotted parameters typed
  refine ⟨shared.map portionsOf, denoted, ?_, fun numbers => ?_⟩
  · intro index type slot portions typeFound slotFound portionsFound
    rw [← parameters, List.getElem?_map] at typeFound
    obtain ⟨share, found, rfl⟩ := Option.map_eq_some_iff.mp typeFound
    rw [slotted, List.getElem?_map, found] at slotFound
    rw [List.getElem?_map, found] at portionsFound
    cases slotFound
    cases portionsFound
    obtain ⟨given, read, givenBasic, sized, suits⟩ := typed share (List.mem_of_getElem? found)
    refine ⟨⟨given, read, givenBasic, sized⟩, ?_⟩
    rw [read, Option.some.injEq]
    exact suits
  · rw [slotted, ← parameters, List.map_map, List.map_map]
    refine List.map_congr_left fun share present => ?_
    obtain ⟨given, read, _, _, suits⟩ := typed share present
    obtain ⟨parameterNumbers, typeNumbers⟩ := List.forall_mem_append.mp numbers
    have isNumber := parameterNumbers share.1 (parameters ▸ List.mem_map_of_mem present)
    exact read.trans (congrArg some (suits.mpr (suits_of_numbers isNumber typeNumbers _)))

/-- An overload with slots of all kinds: a construction, a selection and a zero. -/
def ofOffset : Overload := ⟨"float", ["ivec3", "int", "float"]⟩

/-- A vector of whole numbers and a vector of numbers. -/
def offsets : List Argument :=
  [{ text := "a", code := "a", type := "ivec2" }, { text := "b", code := "b", type := "vec2" }]

/-- The construction and the zero have the types of their parameters; the selection from
a vector of numbers is no whole number. -/
theorem offsets_typed :
    (∀ type ∈ ofOffset.parameters ++ offsets.map Argument.type, IsBasic type) ∧
      ofOffset.slots offsets = ["ivec3(arg0, arg1.x)", "arg1.y", "0.0"] ∧
      Slot.typed? ["ivec2", "vec2"] "ivec3(arg0, arg1.x)" = some "ivec3" ∧
      Slot.typed? ["ivec2", "vec2"] "arg1.y" ≠ some "int" ∧
      Slot.typed? ["ivec2", "vec2"] "0.0" = some "float" := by
  have basic : ∀ type ∈ ofOffset.parameters ++ offsets.map Argument.type, IsBasic type := by decide
  have slotted : ofOffset.slots offsets = ["ivec3(arg0, arg1.x)", "arg1.y", "0.0"] := by
    decide +kernel
  have read : (ofOffset.slots offsets).map (Slot.denoted? [2, 2]) =
      [[.component 0 0, .component 0 1, .component 1 0], [.component 1 1], [.zero]].map some := by
    decide +kernel
  obtain ⟨dealt, denoted, typed, _⟩ := slots_typed_iff ofOffset offsets basic
  obtain rfl := List.map_injective_iff.mpr (fun _ _ => Option.some.inj) (denoted.symm.trans read)
  rw [slotted] at typed
  refine ⟨basic, slotted, ?_, ?_, ?_⟩
  · refine (typed 0 _ _ _ rfl rfl rfl).2.mpr ?_
    refine ⟨fun lone => (nomatch lone), fun argument given _ same => ?_⟩
    have first := same (.component 0 0) (by decide)
    have last := same (.component 1 0) (by decide)
    cases first.trans last.symm
  · intro isInteger
    have suits := (typed 1 _ _ _ rfl rfl rfl).2.mp isInteger
    cases suits.2 1 "vec2" rfl (by decide)
  · refine (typed 2 _ _ _ rfl rfl rfl).2.mpr ⟨fun _ => rfl, fun argument given _ same => ?_⟩
    cases same .zero (by decide)

/-- An adapter that is needed because of its types passes a vector of numbers for one of
whole numbers, and a zero for a whole number. -/
theorem adapter_keeps_element :
    (needsAdapter ⟨"int", ["ivec2"]⟩ [{ text := "st", code := "st", type := "vec2" }] = true ∧
      slots ⟨"int", ["ivec2"]⟩ [{ text := "st", code := "st", type := "vec2" }] = ["arg0"] ∧
      Slot.typed? ["vec2"] "arg0" = some "vec2") ∧
    (needsAdapter ⟨"int", ["int", "int"]⟩ [{ text := "n", code := "n", type := "int" }] = true ∧
      slots ⟨"int", ["int", "int"]⟩ [{ text := "n", code := "n", type := "int" }] =
        ["arg0", "0.0"] ∧
      Slot.typed? ["int"] "0.0" = some "float") := by
  decide +kernel

end Overload
end ShaderGraph
