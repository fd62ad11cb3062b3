import Mathlib.Data.List.Induction
import Mathlib.Data.List.Nodup
import ShaderGraph.Proofs.Shader.Names
import ShaderGraph.Proofs.Trace.Attempt

/-!
# Blocks of a main function

The main function of a shader of a graph has one block of lines for every node: it
computes the temporaries of the arguments and then the result of the call. What is
said of a block depends on the blocks before it, which type the results that it
reads.
-/

namespace ShaderGraph

/-! ## Lists that are built step by step -/

/-- Every item of a list fits what stands before it. -/
def Stepwise (fits : List Item -> Item -> Prop) (items : List Item) : Prop :=
  ∀ before item after, items = before ++ item :: after -> fits before item

theorem concat_eq_append_cons_iff {items before after : List Item} {last item : Item} :
    items ++ [last] = before ++ item :: after ↔
      (before = items ∧ item = last) ∧ after = [] ∨
        ∃ rest, after = rest ++ [last] ∧ items = before ++ item :: rest := by
  constructor
  · intro split
    rcases List.eq_nil_or_concat after with rfl | ⟨rest, final, rfl⟩
    · obtain ⟨sameBefore, sameItem⟩ := List.append_inj' split rfl
      cases sameItem
      exact .inl ⟨⟨sameBefore.symm, rfl⟩, rfl⟩
    · have regrouped : items ++ [last] = (before ++ item :: rest) ++ [final] := by
        simpa using split
      obtain ⟨sameItems, sameLast⟩ := List.append_inj' regrouped rfl
      cases sameLast
      exact .inr ⟨rest, List.concat_eq_append, sameItems⟩
  · rintro (⟨⟨rfl, rfl⟩, rfl⟩ | ⟨rest, rfl, rfl⟩)
    · rfl
    · simp

/-- What fits somewhere in a longer list fits earlier or at its end. -/
theorem exists_split_concat_iff
    {fits : List Item -> Item -> Prop}
    {items : List Item}
    {last : Item} :
    (∃ before item after, items ++ [last] = before ++ item :: after ∧ fits before item) ↔
      (∃ before item after, items = before ++ item :: after ∧ fits before item) ∨
        fits items last := by
  constructor
  · rintro ⟨before, item, after, split, fitting⟩
    rcases concat_eq_append_cons_iff.mp split with ⟨⟨rfl, rfl⟩, _⟩ | ⟨rest, _, same⟩
    · exact .inr fitting
    · exact .inl ⟨before, item, rest, same, fitting⟩
  · rintro (⟨before, item, after, rfl, fitting⟩ | fitting)
    · exact ⟨before, item, after ++ [last], by simp, fitting⟩
    · exact ⟨items, last, [], rfl, fitting⟩

namespace Stepwise

variable {fits : List Item -> Item -> Prop} {items : List Item}

theorem nil : Stepwise fits [] := by
  intro before item after impossible
  simp at impossible

/-- A further item fits stepwise if it fits behind the others. -/
theorem concat_iff {last : Item} :
    Stepwise fits (items ++ [last]) ↔ Stepwise fits items ∧ fits items last := by
  constructor
  · intro all
    refine ⟨fun before item after split => ?_, all items last [] rfl⟩
    exact all before item (after ++ [last]) (by simp [split])
  · rintro ⟨earlier, fitting⟩ before item after split
    rcases concat_eq_append_cons_iff.mp split with ⟨⟨rfl, rfl⟩, _⟩ | ⟨rest, _, same⟩
    · exact fitting
    · exact earlier before item rest same

/-- A list may go on with items that all fit. -/
theorem append
    {others : List Item}
    (earlier : Stepwise fits items)
    (later : Stepwise (fun before item => fits (items ++ before) item) others) :
    Stepwise fits (items ++ others) := by
  induction others using List.reverseRecOn with
  | nil => simpa using earlier
  | append_singleton rest last inductionHypothesis =>
      obtain ⟨laterRest, fitting⟩ := concat_iff.mp later
      rw [← List.append_assoc]
      exact concat_iff.mpr ⟨inductionHypothesis laterRest, fitting⟩

/-- Items that fit stepwise fit a weaker condition. -/
theorem imp
    {others : List Item -> Item -> Prop}
    (all : Stepwise fits items)
    (implies : ∀ before item, fits before item -> others before item) : Stepwise others items :=
  fun before item after split => implies before item (all before item after split)

end Stepwise

/-! ## Declarations -/

/-- A declaration of a main function: a variable of a type with a value, and the
generated variables that the value may read. -/
structure Local where
  type : String
  name : String
  value : String
  reads : List String

/-- The line of a declaration. -/
def Local.line (declared : Local) : String :=
  Shader.statement s!"{declared.type} {declared.name} = {declared.value}"

/-- Every generated variable is declared before the lines that read it. -/
def DeclaredBeforeUse (locals : List Local) : Prop :=
  Stepwise (fun before declared => declared.reads ⊆ before.map Local.name) locals

/-- The temporaries of arguments, the first of which has the given number. -/
def temporaryLocals (stem : String) (reads : List String) : Nat -> List Argument -> List Local
  | _, [] => []
  | number, argument :: rest =>
      if Shader.needsTemporary argument then
        ⟨argument.type, Shader.temporary stem number, argument.code, reads⟩ ::
          temporaryLocals stem reads (number + 1) rest
      else temporaryLocals stem reads (number + 1) rest

/-- The temporaries of a block are written line by line. -/
theorem lines_temporaryLocals
    (stem : String)
    (reads : List String)
    (number : Nat)
    (arguments : List Argument) :
    (temporaryLocals stem reads number arguments).map Local.line =
      Shader.temporaries stem number arguments := by
  induction arguments generalizing number with
  | nil => rfl
  | cons argument rest inductionHypothesis =>
      rw [temporaryLocals, Shader.temporaries]
      split
      · rw [List.map_cons, inductionHypothesis]
        rfl
      · exact inductionHypothesis (number + 1)

/-- A temporary holds an argument by its number. -/
theorem mem_temporaryLocals
    {stem : String}
    {reads : List String}
    {number : Nat}
    {arguments : List Argument}
    {declared : Local} :
    declared ∈ temporaryLocals stem reads number arguments ↔
      ∃ index argument, arguments[index]? = some argument ∧
        Shader.needsTemporary argument = true ∧
        declared =
          ⟨argument.type, Shader.temporary stem (number + index), argument.code, reads⟩ := by
  induction arguments generalizing number with
  | nil => simp [temporaryLocals]
  | cons argument rest inductionHypothesis =>
      have later : declared ∈ temporaryLocals stem reads (number + 1) rest ↔
          ∃ index other, (argument :: rest)[index + 1]? = some other ∧
            Shader.needsTemporary other = true ∧
            declared =
              ⟨other.type, Shader.temporary stem (number + (index + 1)), other.code, reads⟩ := by
        rw [inductionHypothesis]
        simp only [List.getElem?_cons_succ, Nat.add_assoc, Nat.add_comm 1]
      rw [temporaryLocals]
      constructor
      · intro present
        split at present
        case isTrue needed =>
          rcases List.mem_cons.mp present with rfl | behind
          · exact ⟨0, argument, rfl, needed, rfl⟩
          · obtain ⟨index, found⟩ := later.mp behind
            exact ⟨index + 1, found⟩
        case isFalse =>
          obtain ⟨index, found⟩ := later.mp present
          exact ⟨index + 1, found⟩
      · rintro ⟨index, other, found, needed, same⟩
        cases index with
        | zero =>
            cases found
            rw [if_pos needed, same]
            exact List.mem_cons_self
        | succ index =>
            have behind := later.mpr ⟨index, other, found, needed, same⟩
            split
            · exact List.mem_cons_of_mem _ behind
            · exact behind

/-- Temporaries with different numbers have different names. -/
theorem nodup_temporaryLocals
    (node : String)
    (reads : List String)
    (number : Nat)
    (arguments : List Argument) :
    ((temporaryLocals (Assembly.stemOf node) reads number arguments).map Local.name).Nodup := by
  induction arguments generalizing number with
  | nil => exact List.nodup_nil
  | cons argument rest inductionHypothesis =>
      rw [temporaryLocals]
      split
      · rw [List.map_cons]
        refine List.nodup_cons.mpr ⟨fun repeated => ?_, inductionHypothesis (number + 1)⟩
        obtain ⟨declared, present, same⟩ := List.mem_map.mp repeated
        obtain ⟨index, other, _, _, rfl⟩ := mem_temporaryLocals.mp present
        have sameNumber := (Shader.temporary_inj same).2
        omega
      · exact inductionHypothesis (number + 1)

theorem getElem?_passedAll
    (stem : String)
    (number : Nat)
    {arguments : List Argument}
    {index : Nat}
    {argument : Argument}
    (found : arguments[index]? = some argument) :
    (Shader.passedAll stem number arguments)[index]? =
      some (Shader.passed stem (number + index) argument) := by
  induction arguments generalizing number index with
  | nil => simp at found
  | cons first rest inductionHypothesis =>
      cases index with
      | zero =>
          cases found
          rfl
      | succ index =>
          have later := inductionHypothesis (number + 1) found
          rw [Nat.add_right_comm] at later
          exact later

/-! ## Blocks -/

/-- What a block is made from: a node and its call, the descriptions of the
arguments, the type of the result, and the adapter that the call goes through. -/
structure Block where
  node : String
  call : Node
  arguments : List Argument
  type : String
  adapter : Option String

namespace Block

/-- The variable with the result. -/
def result (block : Block) : String :=
  Reference.resultName block.node

/-- The results that the arguments refer to. -/
def referenced (block : Block) : List String :=
  block.call.references.map Reference.resultName

/-- The declarations of the temporaries. -/
def temporaries (block : Block) : List Local :=
  temporaryLocals (Assembly.stemOf block.node) block.referenced 0 block.arguments

/-- The function that is called: the adapter, if there is one. -/
def callee (block : Block) : String :=
  if block.adapter.isSome then Assembly.adapterName block.call.function block.node
  else block.call.function

/-- The texts that the arguments are passed as. -/
def passed (block : Block) : List String :=
  Shader.passedAll (Assembly.stemOf block.node) 0 block.arguments

/-- The declaration of the result. -/
def declaration (block : Block) : Local where
  type := block.type
  name := block.result
  value := block.callee ++ "(" ++ ", ".intercalate block.passed ++ ")"
  reads := block.temporaries.map Local.name ++ block.referenced

/-- The declarations of a block. -/
def locals (block : Block) : List Local :=
  block.temporaries ++ [block.declaration]

/-- The types of the results of blocks. -/
def environment (blocks : List Block) : LocalTypes :=
  blocks.map fun block => (block.result, block.type)

/-- A block writes its temporaries and then its result. -/
theorem lines_locals (block : Block) :
    block.locals.map Local.line =
      Shader.temporaries (Assembly.stemOf block.node) 0 block.arguments ++
        [Generator.callStatement block.type block.result block.callee block.passed] := by
  rw [locals, List.map_append, temporaries, lines_temporaryLocals]
  simp [declaration, Local.line, Generator.callStatement, String.append_assoc, toString]

/-- An argument that needs a temporary is passed as that temporary, which the
block declares with the type and the text of the argument. -/
theorem passed_temporary
    {block : Block}
    {index : Nat}
    {argument : Argument}
    (found : block.arguments[index]? = some argument)
    (needed : Shader.needsTemporary argument = true) :
    block.passed[index]? = some (Shader.temporary (Assembly.stemOf block.node) index) ∧
      ∃ declared ∈ block.temporaries, declared.type = argument.type ∧
        declared.name = Shader.temporary (Assembly.stemOf block.node) index ∧
        declared.value = argument.code := by
  constructor
  · rw [passed, getElem?_passedAll _ 0 found, Shader.passed, Nat.zero_add]
    simp only [Shader.needsTemporary, Bool.and_eq_true, Bool.not_eq_true'] at needed
    simp [needed.1, needed.2]
  · refine ⟨_, mem_temporaryLocals.mpr ⟨index, argument, found, needed, rfl⟩, rfl, ?_, rfl⟩
    rw [Nat.zero_add]

/-- A name that a block declares belongs to its node. -/
theorem mem_names {block : Block} {name : String} (present : name ∈ block.locals.map Local.name) :
    name = Reference.resultName block.node ∨
      ∃ number, name = Shader.temporary (Assembly.stemOf block.node) number := by
  obtain ⟨declared, listed, rfl⟩ := List.mem_map.mp present
  rcases List.mem_append.mp listed with isTemporary | isResult
  · obtain ⟨index, argument, _, _, rfl⟩ := mem_temporaryLocals.mp isTemporary
    exact .inr ⟨_, rfl⟩
  · cases List.mem_singleton.mp isResult
    exact .inl rfl

/-- The locals of a block have different names. -/
theorem nodup_names (block : Block) : (block.locals.map Local.name).Nodup := by
  rw [locals, List.map_append, List.map_singleton]
  refine List.nodup_append'.mpr ⟨nodup_temporaryLocals _ _ 0 _, List.nodup_singleton _, ?_⟩
  rw [List.disjoint_singleton]
  intro repeated
  obtain ⟨declared, present, same⟩ := List.mem_map.mp repeated
  obtain ⟨index, argument, _, _, rfl⟩ := mem_temporaryLocals.mp present
  exact Shader.temporary_ne_resultName _ _ _ same

/-- Blocks of different nodes declare different names. -/
theorem disjoint_names
    {left right : Block}
    (different : left.node ≠ right.node) :
    List.Disjoint (left.locals.map Local.name) (right.locals.map Local.name) := by
  intro name inLeft inRight
  rcases mem_names inLeft with rfl | ⟨leftNumber, rfl⟩
  · rcases mem_names inRight with same | ⟨rightNumber, same⟩
    · exact different (Shader.resultName_injective same)
    · exact Shader.temporary_ne_resultName _ _ _ same.symm
  · rcases mem_names inRight with same | ⟨rightNumber, same⟩
    · exact Shader.temporary_ne_resultName _ _ _ same
    · exact different (Shader.temporary_inj same).1

/-- No two declarations of blocks of different nodes have the same name. -/
theorem nodup_names_flatMap {blocks : List Block} (nodup : (blocks.map node).Nodup) :
    ((blocks.flatMap locals).map Local.name).Nodup := by
  rw [List.map_flatMap]
  refine List.nodup_flatMap.mpr ⟨fun block _ => nodup_names block, ?_⟩
  exact (List.pairwise_map.mp nodup).imp disjoint_names

/-! ## Results of earlier blocks -/

theorem names_environment (blocks : List Block) :
    (environment blocks).names = blocks.map result := by
  simp [environment, Table.names]

/-- The type of a result is the one it is declared with. -/
theorem find?_environment
    {blocks : List Block}
    (nodup : (blocks.map node).Nodup)
    {block : Block}
    (present : block ∈ blocks) :
    Table.find? (environment blocks) block.result = some block.type := by
  induction blocks with
  | nil => cases present
  | cons first rest inductionHypothesis =>
      obtain ⟨fresh, others⟩ := List.nodup_cons.mp nodup
      rw [environment, List.map_cons, Table.find?_cons]
      rcases List.mem_cons.mp present with rfl | later
      · simp
      · have different : block.result ≠ first.result := by
          intro same
          rw [← Shader.resultName_injective same] at fresh
          exact fresh (List.mem_map_of_mem later)
        rw [if_neg (by simpa using different)]
        exact inductionHypothesis others later

/-- A result is added behind those of other nodes. -/
theorem set_environment
    {blocks : List Block}
    {block : Block}
    (fresh : block.node ∉ blocks.map node) :
    Table.set (environment blocks) block.result block.type = environment (blocks ++ [block]) := by
  have absent : Table.has (environment blocks) block.result = false := by
    rw [Bool.eq_false_iff, ne_eq, Table.has_iff_mem_names, names_environment]
    intro repeated
    obtain ⟨other, present, same⟩ := List.mem_map.mp repeated
    exact fresh (Shader.resultName_injective same ▸ List.mem_map_of_mem present)
  rw [Table.set_of_not_has absent, environment, environment, List.map_append]
  rfl

/-- A reference to an earlier block finds the type that its result is declared
with. -/
theorem exists_known
    {before : List Block}
    {reference : String}
    (nodup : (before.map node).Nodup)
    (listed : reference ∈ before.map node) :
    ∃ earlier ∈ before, earlier.node = reference ∧
      Table.find? (environment before) (Reference.resultName reference) = some earlier.type := by
  obtain ⟨earlier, present, rfl⟩ := List.mem_map.mp listed
  exact ⟨earlier, present, rfl, find?_environment nodup present⟩

theorem stepwise_nodup {blocks : List Block} (nodup : (blocks.map node).Nodup) :
    Stepwise (fun before _ => (before.map node).Nodup) blocks := by
  rintro before block after rfl
  rw [List.map_append] at nodup
  exact (List.nodup_append'.mp nodup).1

/-- When every block refers to results of earlier blocks only, everything is
declared before it is read. -/
theorem declaredBeforeUse
    {blocks : List Block}
    (earlier : Stepwise (fun before block => block.referenced ⊆ before.map result) blocks) :
    DeclaredBeforeUse (blocks.flatMap locals) := by
  induction blocks using List.reverseRecOn with
  | nil => exact Stepwise.nil
  | append_singleton rest last inductionHypothesis =>
      obtain ⟨earlierRest, fitting⟩ := Stepwise.concat_iff.mp earlier
      have declared : last.referenced ⊆ (rest.flatMap locals).map Local.name := by
        intro name read
        obtain ⟨block, present, rfl⟩ := List.mem_map.mp (fitting read)
        exact List.mem_map.mpr ⟨block.declaration, List.mem_flatMap.mpr
          ⟨block, present, List.mem_append_right _ List.mem_cons_self⟩, rfl⟩
      rw [List.flatMap_append, List.flatMap_singleton]
      refine Stepwise.append (inductionHypothesis earlierRest) (Stepwise.concat_iff.mpr ⟨?_, ?_⟩)
      · intro before item after split
        have present : item ∈ last.temporaries := by simp [split]
        obtain ⟨index, argument, _, _, rfl⟩ := mem_temporaryLocals.mp present
        rw [List.map_append]
        exact List.subset_append_of_subset_left _ declared
      · rw [List.map_append]
        refine List.append_subset.mpr ⟨List.subset_append_right _ _, ?_⟩
        exact List.subset_append_of_subset_left _ declared

end Block
end ShaderGraph
