import Mathlib.Data.List.Chain
import ShaderGraph.Proofs.Overload.Slot

/-!
# Dealing out components

The components of all arguments form a stream, which is dealt out to the parameters
of an overload in their order. Each slot stands for as many portions as its parameter
has components. All slots together stand for the start of the stream, and for zeros
where the stream is too short: no component is skipped, repeated or moved.
-/

namespace ShaderGraph

/-- What one component of a parameter is filled with. -/
inductive Portion
  | zero
  | component (argument index : Nat)
  deriving DecidableEq

namespace Portion

/-- The components of arguments of the given sizes, in their order. -/
def stream (sizes : List Nat) : List Portion :=
  sizes.zipIdx.flatMap fun (size, number) => (List.range size).map (.component number)

end Portion

/-- What the parts of a slot stand for. -/
def Atom.portions (sizes : List Nat) : Atom -> List Portion
  | .zero => [.zero]
  | .whole argument => (List.range (sizes.getD argument 0)).map (.component argument)
  | .selection argument indices => indices.map (.component argument)

/-- What a slot stands for. The construction from a single zero has zeros only. -/
def Slot.portions (sizes : List Nat) : Slot -> List Portion
  | .atom part => part.portions sizes
  | .construction type [.zero] => List.replicate (componentCount type) .zero
  | .construction _ parts => parts.flatMap (Atom.portions sizes)

/-- What the text of a slot stands for among arguments of the given sizes. -/
def Slot.denoted? (sizes : List Nat) (text : String) : Option (List Portion) :=
  (Slot.read? sizes.length text).map (Slot.portions sizes)

namespace Component

/-- The portion that a component is. -/
def portion (component : Component) : Portion :=
  .component component.argument component.index

/-- A component comes behind another one: the next one of the same argument, or one
of a later argument. -/
def ComesBehind (first second : Component) : Prop :=
  (second.argument = first.argument ∧ second.index = first.index + 1) ∨
    first.argument < second.argument

/-- Components of arguments of the given sizes in their order, none of which is left
out within an argument. -/
structure IsRun (sizes : List Nat) (components : List Component) : Prop where
  chain : components.IsChain ComesBehind
  known : ∀ component ∈ components,
    component.index < component.size ∧ sizes[component.argument]? = some component.size

variable {sizes : List Nat} {components : List Component}

theorem IsRun.take (run : IsRun sizes components) (count : Nat) :
    IsRun sizes (components.take count) where
  chain := run.chain.take count
  known component present := run.known component (List.mem_of_mem_take present)

theorem IsRun.drop (run : IsRun sizes components) (count : Nat) :
    IsRun sizes (components.drop count) where
  chain := run.chain.drop count
  known component present := run.known component (List.mem_of_mem_drop present)

/-- The components of vectors can be read back. -/
theorem IsRun.isReadable
    (run : IsRun sizes components)
    (small : ∀ size ∈ sizes, size ≤ 4) :
    ∀ component ∈ components, component.argument < sizes.length ∧ component.index < 4 := by
  intro component present
  obtain ⟨inside, found⟩ := run.known component present
  obtain ⟨argument, _⟩ := List.getElem?_eq_some_iff.mp found
  exact ⟨argument, Nat.lt_of_lt_of_le inside (small _ (List.mem_of_getElem? found))⟩

/-! ## The stream -/

/-- The components of an argument are those below its size. -/
theorem mem_ofArgument_iff {component : Component} {number size : Nat} :
    component ∈ ofArgument number size ↔
      component.argument = number ∧ component.size = size ∧ component.index < size := by
  obtain ⟨argument, index, own⟩ := component
  simp only [ofArgument, List.mem_map, List.mem_range, Component.mk.injEq]
  constructor
  · rintro ⟨other, small, rfl, rfl, rfl⟩
    exact ⟨rfl, rfl, small⟩
  · rintro ⟨rfl, rfl, small⟩
    exact ⟨index, small, rfl, rfl, rfl⟩

/-- A component belongs to the argument of its number. -/
theorem exists_of_mem_ofSizes
    {component : Component}
    {number : Nat}
    (present : component ∈ ofSizes number sizes) :
    component.index < component.size ∧
      ∃ offset, component.argument = number + offset ∧ sizes[offset]? = some component.size := by
  induction sizes generalizing number with
  | nil => cases present
  | cons size rest inductionHypothesis =>
      rcases List.mem_append.mp present with ofFirst | later
      · obtain ⟨rfl, rfl, small⟩ := mem_ofArgument_iff.mp ofFirst
        exact ⟨small, 0, rfl, rfl⟩
      · obtain ⟨small, offset, argument, found⟩ := inductionHypothesis later
        exact ⟨small, offset + 1, by omega, found⟩

/-- The components of arguments come behind each other. -/
theorem isChain_ofSizes (number : Nat) (sizes : List Nat) :
    (ofSizes number sizes).IsChain ComesBehind := by
  induction sizes generalizing number with
  | nil => exact List.isChain_nil
  | cons size rest inductionHypothesis =>
      refine List.isChain_append.mpr ⟨?_, inductionHypothesis (number + 1), ?_⟩
      · rw [ofArgument, List.isChain_map, List.range_eq_range']
        exact (List.isChain_range' 0 size 1).imp fun first second next => .inl ⟨rfl, next⟩
      · intro last ofFirst next later
        obtain ⟨argument, _, _⟩ := mem_ofArgument_iff.mp (List.mem_of_mem_getLast? ofFirst)
        obtain ⟨_, offset, laterArgument, _⟩ := exists_of_mem_ofSizes (List.mem_of_mem_head? later)
        exact .inr (by omega)

/-- All components of the arguments are a run. -/
theorem isRun_ofSizes (sizes : List Nat) : IsRun sizes (ofSizes 0 sizes) where
  chain := isChain_ofSizes 0 sizes
  known component present := by
    obtain ⟨small, offset, argument, found⟩ := exists_of_mem_ofSizes present
    rw [Nat.zero_add] at argument
    exact ⟨small, argument ▸ found⟩

/-- The components of arguments are the portions of their stream. -/
theorem map_portion_ofSizes (sizes : List Nat) :
    (ofSizes 0 sizes).map portion = Portion.stream sizes := by
  have counted (number : Nat) : (ofSizes number sizes).map portion =
      (sizes.zipIdx number).flatMap fun (size, number) =>
        (List.range size).map (.component number) := by
    induction sizes generalizing number with
    | nil => rfl
    | cons size rest inductionHypothesis =>
        rw [ofSizes, List.map_append, inductionHypothesis, ofArgument, List.map_map,
          List.zipIdx_cons, List.flatMap_cons]
        rfl
  exact counted 0

/-! ## Groups -/

/-- Components of one argument that follow each other. -/
def IsStretch (sizes : List Nat) (group : List Component) : Prop :=
  ∃ number start size, sizes[number]? = some size ∧ group ≠ [] ∧ start + group.length ≤ size ∧
    group = (List.range' start group.length).map fun index => ⟨number, index, size⟩

theorem IsStretch.single
    {component : Component}
    (small : component.index < component.size)
    (known : sizes[component.argument]? = some component.size) : IsStretch sizes [component] :=
  ⟨component.argument, component.index, component.size, known, by simp, small, rfl⟩

/-- A component in front of a stretch of its argument makes it longer. -/
theorem IsStretch.cons
    {first second : Component}
    {others : List Component}
    (known : sizes[first.argument]? = some first.size)
    (behind : ComesBehind first second)
    (same : first.argument = second.argument)
    (stretch : IsStretch sizes (second :: others)) :
    IsStretch sizes (first :: second :: others) := by
  obtain ⟨number, start, size, found, _, fits, listed⟩ := stretch
  rw [List.length_cons, List.range'_succ, List.map_cons, List.cons.injEq] at listed
  obtain ⟨rfl, rest⟩ := listed
  obtain ⟨argument, index, own⟩ := first
  cases same
  have next : start = index + 1 := by
    rcases behind with ⟨_, next⟩ | later
    · exact next
    · exact absurd later (Nat.lt_irrefl _)
  obtain rfl : own = size := Option.some.inj (known.symm.trans found)
  refine ⟨number, index, own, found, by simp, ?_, ?_⟩
  · simp only [List.length_cons] at fits ⊢
    omega
  · rw [List.length_cons, List.length_cons, List.range'_succ, List.range'_succ, List.map_cons,
      List.map_cons, ← next, ← rest]

/-- The groups of a run are stretches of one argument each. -/
theorem IsRun.isStretch
    (run : IsRun sizes components) : ∀ group ∈ groups components, IsStretch sizes group := by
  induction components with
  | nil => exact fun group present => nomatch present
  | cons first rest inductionHypothesis =>
      obtain ⟨small, known⟩ := run.known first List.mem_cons_self
      have behind := inductionHypothesis (run.drop 1)
      rw [groups]
      split
      case h_1 second others remaining grouped =>
        rw [grouped] at behind
        obtain ⟨secondStretch, later⟩ := List.forall_mem_cons.mp behind
        have joined : second :: others ++ remaining.flatten = rest := by
          rw [← (flatten_groups rest).1, grouped]
          rfl
        have follows : ComesBehind first second :=
          (List.isChain_cons.mp run.chain).1 second (by rw [← joined]; rfl)
        split
        case isTrue same =>
          exact List.forall_mem_cons.mpr ⟨.cons known follows same secondStretch, later⟩
        case isFalse =>
          exact List.forall_mem_cons.mpr ⟨.single small known, behind⟩
      case h_2 =>
        exact List.forall_mem_cons.mpr ⟨.single small known, behind⟩

/-- The part by which a stretch is passed stands for its components. -/
theorem IsStretch.portions_ofGroup
    {group : List Component}
    (stretch : IsStretch sizes group) :
    (Atom.ofGroup group).portions sizes = group.map portion := by
  obtain ⟨number, start, size, found, filled, fits, listed⟩ := stretch
  obtain ⟨first, rest, rfl⟩ := List.exists_cons_of_ne_nil filled
  have head : first = ⟨number, start, size⟩ := by
    rw [List.length_cons, List.range'_succ, List.map_cons, List.cons.injEq] at listed
    exact listed.1
  subst head
  rw [Atom.ofGroup]
  split
  case isTrue whole =>
    -- All components are there, since there is only one or as many as the argument has.
    have all : start = 0 ∧ ((⟨number, start, size⟩ : Component) :: rest).length = size := by
      rw [Bool.or_eq_true, decide_eq_true_iff, decide_eq_true_iff] at whole
      rw [List.length_cons] at fits whole ⊢
      dsimp only at whole
      omega
    rw [Atom.portions, List.getD_eq_getElem?_getD, found, Option.getD_some, listed, List.map_map,
      all.2, all.1, List.range_eq_range']
    rfl
  case isFalse =>
    rw [Atom.portions, listed, List.map_map, List.map_map, List.map_map]
    rfl

end Component

/-- A type has one to four components. -/
theorem componentCount_bounds (type : String) :
    0 < componentCount type ∧ componentCount type ≤ 4 := by
  unfold componentCount
  split <;> decide

namespace Slot

variable {sizes : List Nat} {components : List Component}

/-- A group that is not empty is no padding. -/
theorem ofGroup_ne_zero {group : List Component} (filled : group ≠ []) :
    Atom.ofGroup group ≠ .zero := by
  obtain ⟨first, rest, rfl⟩ := List.exists_cons_of_ne_nil filled
  rw [Atom.ofGroup]
  split <;> exact fun impossible => nomatch impossible

/-- A construction stands for its parts, unless it is from a single zero. -/
theorem portions_construction
    {first : Atom}
    (noZero : first ≠ .zero)
    (type : String)
    (rest : List Atom) :
    (construction type (first :: rest)).portions sizes =
      (first :: rest).flatMap (Atom.portions sizes) := by
  cases first with
  | zero => exact absurd rfl noZero
  | whole argument => rfl
  | selection argument indices => rfl

/-- The groups of a run stand for its components. -/
theorem flatMap_portions_groups (run : Component.IsRun sizes components) :
    ((Component.groups components).map Atom.ofGroup).flatMap (Atom.portions sizes) =
      components.map Component.portion := by
  have groups : (Component.groups components).flatMap (fun group =>
      (Atom.ofGroup group).portions sizes) =
      (Component.groups components).flatMap (List.map Component.portion) :=
    List.flatMap_congr fun group present => (run.isStretch group present).portions_ofGroup
  rw [List.flatMap_map, groups, List.flatMap_def, ← List.map_flatten,
    (Component.flatten_groups components).1]

/-- A slot is a single part only if one group fills the parameter. -/
theorem single_group
    {group : List Component}
    {rest : List (List Component)}
    {need : Nat}
    (grouped : Component.groups components = group :: rest)
    (fits : components.length ≤ need)
    (single : need = 1 ∨ rest = [] ∧ components.length = need) :
    rest = [] ∧ components.length = need := by
  rcases single with rfl | both
  · obtain ⟨flat, filled⟩ := Component.flatten_groups components
    rw [grouped] at flat filled
    have groupFilled : 0 < group.length :=
      List.length_pos_iff.mpr fun empty => filled (empty ▸ List.mem_cons_self)
    rw [← flat, List.flatten_cons, List.length_append] at fits ⊢
    cases rest with
    | nil => exact ⟨rfl, by simp only [List.flatten_nil, List.length_nil] at fits ⊢; omega⟩
    | cons next others =>
        have nextFilled : 0 < next.length :=
          List.length_pos_iff.mpr fun empty =>
            filled (empty ▸ List.mem_cons_of_mem group List.mem_cons_self)
        rw [List.flatten_cons, List.length_append] at fits
        omega
  · exact both

/-- Components packed into a parameter come first, and zeros fill it up. -/
theorem portions_ofComponents
    (type : String)
    (run : Component.IsRun sizes components)
    (fits : components.length ≤ componentCount type) :
    (ofComponents type components).portions sizes =
      components.map Component.portion ++
        List.replicate (componentCount type - components.length) .zero := by
  have joined := flatMap_portions_groups run
  obtain ⟨flat, filled⟩ := Component.flatten_groups components
  cases grouped : Component.groups components with
  | nil =>
      rw [grouped] at flat
      obtain rfl : components = [] := flat.symm
      simp only [ofComponents, grouped, List.map_nil, List.length_nil, Nat.sub_zero,
        List.nil_append]
      split
      case isTrue one => rw [one]; rfl
      case isFalse => rfl
  | cons group rest =>
      rw [grouped, List.map_cons] at joined
      rw [grouped] at filled
      simp only [ofComponents, grouped, List.map_cons, List.isEmpty_map]
      split
      case isTrue single =>
        rw [Bool.or_eq_true, Bool.and_eq_true, decide_eq_true_iff, decide_eq_true_iff,
          List.isEmpty_iff] at single
        obtain ⟨rfl, all⟩ := single_group grouped fits single
        rw [← joined, all, Nat.sub_self, List.replicate_zero, List.append_nil]
        exact (List.append_nil _).symm
      case isFalse =>
        have noZero : Atom.ofGroup group ≠ .zero :=
          ofGroup_ne_zero fun empty => filled (empty ▸ List.mem_cons_self)
        rw [List.cons_append, portions_construction noZero, ← List.cons_append,
          List.flatMap_append, joined]
        simp [Atom.portions, List.flatMap_replicate]

end Slot

namespace Overload

/-- The parameters with the components that each of them takes from a list. -/
def shares : List String -> List Component -> List (String × List Component)
  | [], _ => []
  | type :: rest, components =>
      (type, components.take (componentCount type)) ::
        shares rest (components.drop (componentCount type))

/-- The portions of a parameter that takes components: these, and zeros behind them. -/
def portionsOf (share : String × List Component) : List Portion :=
  share.2.map Component.portion ++
    List.replicate (componentCount share.1 - share.2.length) .zero

/-- The slots that an adapter passes to an overload. -/
def slots (overload : Overload) (arguments : List Argument) : List String :=
  packAll overload.parameters
    (Component.ofSizes 0 (arguments.map fun argument => componentCount argument.type))

variable {sizes : List Nat} {parameters : List String} {components : List Component}

/-- All parameters are packed from their shares. -/
theorem packAll_eq (parameters : List String) (components : List Component) :
    packAll parameters components =
      (shares parameters components).map fun share => pack share.1 share.2 := by
  induction parameters generalizing components with
  | nil => rfl
  | cons type rest inductionHypothesis =>
      rw [packAll, inductionHypothesis]
      rfl

/-- Every parameter gets a share. -/
theorem map_fst_shares (parameters : List String) (components : List Component) :
    (shares parameters components).map Prod.fst = parameters := by
  induction parameters generalizing components with
  | nil => rfl
  | cons type rest inductionHypothesis =>
      exact congrArg (type :: ·) (inductionHypothesis _)

/-- Each share is a run that fits its parameter. -/
theorem isRun_of_mem_shares
    (run : Component.IsRun sizes components)
    (parameters : List String) :
    ∀ share ∈ shares parameters components, Component.IsRun sizes share.2 ∧
      share.2.length ≤ componentCount share.1 := by
  induction parameters generalizing components with
  | nil => exact fun share present => nomatch present
  | cons type rest inductionHypothesis =>
      refine List.forall_mem_cons.mpr ⟨⟨run.take _, ?_⟩, inductionHypothesis (run.drop _)⟩
      exact List.length_take_le _ _

/-- A share is padded to the components of its parameter. -/
theorem length_portionsOf
    {share : String × List Component}
    (fits : share.2.length ≤ componentCount share.1) :
    (portionsOf share).length = componentCount share.1 := by
  rw [portionsOf, List.length_append, List.length_map, List.length_replicate]
  omega

/-- All shares together are the start of the components, and zeros where there are
too few. -/
theorem flatten_portionsOf (parameters : List String) (components : List Component) :
    ((shares parameters components).map portionsOf).flatten =
      (components.map Component.portion).take (componentTotal parameters) ++
        List.replicate (componentTotal parameters - components.length) .zero := by
  induction parameters generalizing components with
  | nil => simp [shares, componentTotal]
  | cons type rest inductionHypothesis =>
      have total : componentTotal (type :: rest) = componentCount type + componentTotal rest := rfl
      rw [shares, List.map_cons, List.flatten_cons, inductionHypothesis, portionsOf, total,
        List.map_take, List.map_drop, List.length_take, List.length_drop, List.take_add]
      rcases Nat.le_total (componentCount type) components.length with enough | short
      · have noZeros : componentCount type - min (componentCount type) components.length = 0 := by
          omega
        have sameZeros : componentTotal rest - (components.length - componentCount type) =
            componentCount type + componentTotal rest - components.length := by omega
        rw [noZeros, sameZeros, List.replicate_zero, List.append_nil, List.append_assoc]
      · have nothing : (components.map Component.portion).drop (componentCount type) = [] :=
          List.drop_eq_nil_of_le (by simpa using short)
        have zeros : componentCount type + componentTotal rest - components.length =
            (componentCount type - min (componentCount type) components.length) +
              (componentTotal rest - (components.length - componentCount type)) := by omega
        rw [nothing, zeros, ← List.replicate_append_replicate]
        simp

/-- Every slot is read as its portions. -/
theorem denoted?_pack
    {share : String × List Component}
    (small : ∀ size ∈ sizes, size ≤ 4)
    (run : Component.IsRun sizes share.2)
    (fits : share.2.length ≤ componentCount share.1) :
    Slot.denoted? sizes (pack share.1 share.2) = some (portionsOf share) := by
  rw [Slot.denoted?, Slot.read?_pack share.1 (run.isReadable small), Option.map_some,
    Slot.portions_ofComponents share.1 run fits]
  rfl

/-- The slots of an overload are packed from the shares of its parameters. -/
theorem slots_eq_map_pack (overload : Overload) (arguments : List Argument) :
    overload.slots arguments =
      (shares overload.parameters (Component.ofSizes 0
        (arguments.map fun argument => componentCount argument.type))).map
          fun share => pack share.1 share.2 :=
  packAll_eq ..

/-- The slots of an adapter are read as the portions of the shares. -/
theorem map_denoted?_slots (overload : Overload) (arguments : List Argument) :
    let sizes := arguments.map fun argument => componentCount argument.type
    (overload.slots arguments).map (Slot.denoted? sizes) =
      ((shares overload.parameters (Component.ofSizes 0 sizes)).map portionsOf).map some := by
  intro sizes
  have fitting := isRun_of_mem_shares (Component.isRun_ofSizes sizes) overload.parameters
  have small : ∀ size ∈ sizes, size ≤ 4 :=
    List.forall_mem_map.mpr fun argument _ => (componentCount_bounds argument.type).2
  rw [slots_eq_map_pack, List.map_map, List.map_map]
  exact List.map_congr_left fun share present =>
    denoted?_pack small (fitting share present).1 (fitting share present).2

/-- An adapter passes one slot for each parameter. Each slot stands for as many
portions as its parameter has components, and all slots together stand for the stream
of components of the arguments: for its start, or for all of it and zeros behind it. -/
theorem adaptedArguments_deals (overload : Overload) (arguments : List Argument) :
    let sizes := arguments.map fun argument => componentCount argument.type
    let total := componentTotal overload.parameters
    overload.adaptedArguments arguments = ", ".intercalate (overload.slots arguments) ∧
      ∃ dealt : List (List Portion),
        (overload.slots arguments).map (Slot.denoted? sizes) = dealt.map some ∧
        dealt.map List.length = overload.parameters.map componentCount ∧
        dealt.flatten = (Portion.stream sizes).take total ++
          List.replicate (total - (Portion.stream sizes).length) .zero := by
  intro sizes total
  have fitting := isRun_of_mem_shares (Component.isRun_ofSizes sizes) overload.parameters
  refine ⟨rfl, (shares overload.parameters (Component.ofSizes 0 sizes)).map portionsOf,
    map_denoted?_slots overload arguments, ?_, ?_⟩
  · refine Eq.trans ?_ (congrArg (List.map componentCount)
      (map_fst_shares overload.parameters (Component.ofSizes 0 sizes)))
    rw [List.map_map, List.map_map]
    exact List.map_congr_left fun share present => length_portionsOf (fitting share present).2
  · rw [flatten_portionsOf, ← Component.map_portion_ofSizes, List.length_map]

/-- The components of an argument may be shared by two parameters. -/
example : slots ⟨"float", ["vec2", "vec3", "ivec2"]⟩
    [{ text := "a", code := "a", type := "vec3" }, { text := "b", code := "b", type := "vec2" }] =
      ["arg0.xy", "vec3(arg0.z, arg1)", "ivec2(0.0)"] := by
  decide +kernel

end Overload
end ShaderGraph
