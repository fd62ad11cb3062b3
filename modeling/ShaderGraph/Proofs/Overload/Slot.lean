import ShaderGraph.Overload.Adapter
import ShaderGraph.Proofs.Call.ArgumentList
import ShaderGraph.Proofs.Expression.Lexeme
import ShaderGraph.Proofs.Shader.Names

/-!
# Slots

What an adapter passes for one parameter is a slot: the literal zero, an argument,
a selection of its components, or the construction of a vector from such parts. The
text of a slot is read back by the rules of the shading language. Packed components
are read as the slot of their groups.
-/

namespace ShaderGraph

/-- Steps that all succeed succeed together. -/
theorem mapM_eq_some_of_map
    {step : Value -> Option Result}
    {values : List Value}
    {results : List Result}
    (same : values.map step = results.map some) : values.mapM step = some results := by
  induction values generalizing results with
  | nil =>
      rw [List.map_nil, eq_comm, List.map_eq_nil_iff] at same
      rw [same]
      rfl
  | cons first rest inductionHypothesis =>
      obtain ⟨result, others, rfl, found, behind⟩ := List.map_eq_cons_iff.mp same.symm
      rw [List.mapM_cons, ← found, inductionHypothesis behind.symm]
      rfl

/-- A part of a slot. -/
inductive Atom
  | zero
  | whole (argument : Nat)
  | selection (argument : Nat) (indices : List Nat)
  deriving DecidableEq

/-- What an adapter passes for one parameter. -/
inductive Slot
  | atom (atom : Atom)
  | construction (type : String) (parts : List Atom)
  deriving DecidableEq

namespace Atom

/-- Read a literal zero, the name of one of the arguments, or a selection from one. -/
def read? (arguments : Nat) (text : String) : Option Atom :=
  if text = "0.0" then some .zero
  else
    match (List.range arguments).find? fun number =>
        Component.argumentName number = Swizzle.base text with
    | none => none
    | some number =>
        if Swizzle.hasPoint text then
          ((Swizzle.selection text).toList.mapM fun letter =>
            componentLetters.idxOf? letter).map (.selection number)
        else some (.whole number)

end Atom

namespace Slot

/-- The type and the parts that a construction is written with. -/
def construction? (text : String) : Option (String × List String) :=
  match text.toList.reverse with
  | ')' :: before =>
      match before.dropWhile (· != '(') with
      | [] => none
      | _ :: type =>
          some (String.ofList type.reverse,
            Call.splitArguments (String.ofList (before.takeWhile (· != '(')).reverse))
  | _ => none

/-- Read the text of a slot among arguments. -/
def read? (arguments : Nat) (text : String) : Option Slot :=
  match construction? text with
  | none => (Atom.read? arguments text).map .atom
  | some (type, parts) => (parts.mapM (Atom.read? arguments)).map (.construction type)

end Slot

/-! ## Texts of parts -/

/-- The text of a part: letters, digits and points. -/
def IsPartText (text : List Char) : Prop :=
  text ≠ [] ∧ ∀ character ∈ text, Text.isNameRest character = true ∨ character = '.'

namespace IsPartText

variable {text : List Char}

/-- A part has no character but those of names and points. -/
theorem not_mem
    (part : IsPartText text)
    {mark : Char}
    (noName : Text.isNameRest mark = false)
    (noPoint : mark ≠ '.') : mark ∉ text := by
  intro present
  rcases part.2 mark present with named | point
  · rw [named] at noName
    cases noName
  · exact noPoint point

/-- No character of a part is blank. -/
theorem isBlank
    (part : IsPartText text)
    {character : Char}
    (present : character ∈ text) : Text.isBlank character = false := by
  rcases part.2 character present with named | rfl
  · exact Reference.isBlank_of_isWord (Argument.isWord_of_isNameRest named)
  · decide

/-- A part is whole and leaves the depth. -/
theorem isWhole_depthBehind (part : IsPartText text) (depth : Int) :
    Call.IsWhole depth text ∧ Call.depthBehind depth text = depth := by
  have noComma : ',' ∉ text := part.not_mem (by decide) (by decide)
  have noOpening : '(' ∉ text := part.not_mem (by decide) (by decide)
  have noClosing : ')' ∉ text := part.not_mem (by decide) (by decide)
  clear part
  induction text with
  | nil => exact ⟨Call.isWhole_nil depth, rfl⟩
  | cons first rest inductionHypothesis =>
      rw [List.mem_cons, not_or] at noComma noOpening noClosing
      have same : Call.depthAfter depth first = depth := by
        simp [Call.depthAfter, Ne.symm noOpening.1, Ne.symm noClosing.1]
      obtain ⟨whole, behind⟩ := inductionHypothesis noComma.2 noOpening.2 noClosing.2
      rw [Call.isWhole_cons_iff, same]
      refine ⟨⟨fun breaks => noComma.1 breaks.1.symm, whole⟩, ?_⟩
      change Call.depthBehind (Call.depthAfter depth first) rest = depth
      rw [same, behind]

/-- Blanks in front of a part are trimmed. -/
theorem trim_append
    (part : IsPartText text)
    (blanks : List Char)
    (areBlank : ∀ blank ∈ blanks, Text.isBlank blank = true) :
    Text.trim (blanks ++ text) = text := by
  have noneBehind : ∀ blank ∈ ([] : List Char), Text.isBlank blank = true := by simp
  have trimmed := Text.trim_append_append areBlank noneBehind
    (fun first leads => part.isBlank (List.mem_of_mem_head? leads))
    (fun last ends => part.isBlank (List.mem_of_mem_getLast? ends))
  rwa [List.append_nil] at trimmed

end IsPartText

theorem not_mem_intercalate
    {mark : Char}
    {separator : List Char}
    {parts : List (List Char)}
    (outside : mark ∉ separator)
    (free : ∀ part ∈ parts, mark ∉ part) : mark ∉ separator.intercalate parts := by
  induction parts with
  | nil => exact List.not_mem_nil
  | cons first rest inductionHypothesis =>
      obtain ⟨noFirst, noRest⟩ := List.forall_mem_cons.mp free
      cases rest with
      | nil => simpa using noFirst
      | cons next others =>
          rw [List.intercalate_cons_cons, List.mem_append, List.mem_append]
          simp [noFirst, outside, inductionHypothesis noRest]

/-- The padding is a part. -/
theorem isPartText_zero : IsPartText "0.0".toList := by
  refine ⟨by decide, fun character present => ?_⟩
  have all : "0.0".toList.all (fun character =>
      Text.isNameRest character || character == '.') = true := by decide
  simpa using List.all_eq_true.mp all character present

/-- Blanks behind commas belong to the texts that follow. -/
theorem intercalate_blank (first : List Char) (rest : List (List Char)) :
    [',', ' '].intercalate (first :: rest) =
      [','].intercalate (first :: rest.map (' ' :: ·)) := by
  induction rest generalizing first with
  | nil => rfl
  | cons next others inductionHypothesis =>
      rw [List.intercalate_cons_cons, inductionHypothesis, List.map_cons,
        List.intercalate_cons_cons]
      cases others with
      | nil => simp
      | cons later others => simp [List.intercalate_cons_cons]

namespace Call

variable {parts : List (List Char)}

/-- Parts behind blanks are a listing. -/
theorem isListing_blank (areParts : ∀ part ∈ parts, IsPartText part) :
    IsListing 0 (parts.map (' ' :: ·)) := by
  induction parts with
  | nil => trivial
  | cons part rest inductionHypothesis =>
      obtain ⟨isPart, areRest⟩ := List.forall_mem_cons.mp areParts
      obtain ⟨whole, closed⟩ := isPart.isWhole_depthBehind 0
      have spaced : IsWhole 0 (' ' :: part) := isWhole_cons_iff.mpr ⟨by decide, whole⟩
      exact .cons spaced (fun _ => closed) (inductionHypothesis areRest)

theorem map_trim_blank (areParts : ∀ part ∈ parts, IsPartText part) :
    (parts.map (' ' :: ·)).map Text.trim = parts := by
  rw [List.map_map]
  refine (List.map_congr_left fun part present => ?_).trans (List.map_id parts)
  exact (areParts part present).trim_append [' '] (List.all_eq_true.mp (by decide))

/-- Texts of parts are read back from their joined text. -/
theorem splitChars_join (areParts : ∀ part ∈ parts, IsPartText part) :
    splitChars ([',', ' '].intercalate parts) = parts := by
  cases parts with
  | nil => rfl
  | cons first rest =>
      obtain ⟨firstPart, restParts⟩ := List.forall_mem_cons.mp areParts
      obtain ⟨whole, closed⟩ := firstPart.isWhole_depthBehind 0
      have listing := IsListing.cons whole (fun _ => closed) (isListing_blank restParts)
      have trimmed : Text.trim first = first := firstPart.trim_append [] (by simp)
      rw [intercalate_blank, splitChars, listing.parts_intercalate, List.map_cons, trimmed,
        map_trim_blank restParts, List.filter_eq_self]
      intro part present
      simpa using (areParts part present).1

end Call

/-! ## Reading what is written -/

namespace Component

theorem toList_argumentName (number : Nat) :
    (argumentName number).toList = ['a', 'r', 'g'] ++ (Nat.repr number).toList := by
  simp [argumentName, toString]

/-- Different arguments have different names. -/
theorem argumentName_injective {left right : Nat} (same : argumentName left = argumentName right) :
    left = right := by
  have sameText := congrArg String.toList same
  rw [toList_argumentName, toList_argumentName] at sameText
  exact Nat.repr_injective (String.toList_inj.mp (List.append_cancel_left sameText))

/-- The name of an argument is a part. -/
theorem isPartText_argumentName (number : Nat) : IsPartText (argumentName number).toList := by
  rw [toList_argumentName]
  refine ⟨by simp, fun character present => .inl ?_⟩
  rcases List.mem_append.mp present with letter | digit
  · have letters : ['a', 'r', 'g'].all Text.isNameRest = true := by decide
    exact List.all_eq_true.mp letters character letter
  · exact Token.isNameRest_of_isDigit (Shader.isDigit_of_mem_repr digit)

theorem noPoint_argumentName (number : Nat) : '.' ∉ (argumentName number).toList := by
  rw [toList_argumentName]
  intro present
  rcases List.mem_append.mp present with letter | digit
  · revert letter; decide
  · cases Shader.isDigit_of_mem_repr digit

/-- The letters of components whose numbers are below four. -/
theorem idxOf?_letter {component : Component} (small : component.index < 4) :
    componentLetters.idxOf? component.letter = some component.index := by
  obtain ⟨argument, index, size⟩ := component
  change index < 4 at small
  change componentLetters.idxOf? (componentLetters.getD index 'w') = some index
  have all : ∀ index < 4,
      componentLetters.idxOf? (componentLetters.getD index 'w') = some index := by
    decide
  exact all index small

end Component

namespace Atom

/-- The part that a group of components of one argument is passed by. -/
def ofGroup : List Component -> Atom
  | [] => .zero
  | first :: rest =>
      if first.size = 1 || (first :: rest).length = first.size then .whole first.argument
      else .selection first.argument ((first :: rest).map Component.index)

/-- A text that starts like the name of an argument has the argument as its base. -/
theorem read?_of_base
    {arguments number : Nat}
    {text : String}
    (known : number < arguments)
    (base : Swizzle.base text = Component.argumentName number) :
    read? arguments text =
      if Swizzle.hasPoint text then
        ((Swizzle.selection text).toList.mapM fun letter =>
          componentLetters.idxOf? letter).map (.selection number)
      else some (.whole number) := by
  have noZero : text ≠ "0.0" := by
    rintro rfl
    have sameText := congrArg String.toList base
    rw [Component.toList_argumentName] at sameText
    cases sameText
  have found : ((List.range arguments).find? fun other =>
      Component.argumentName other = Swizzle.base text) = some number := by
    refine List.find?_range_eq_some.mpr ⟨by simp [base], List.mem_range.mpr known, ?_⟩
    intro other before
    have different : Component.argumentName other ≠ Swizzle.base text := fun same =>
      Nat.ne_of_lt before (Component.argumentName_injective (same.trans base))
    simp [different]
  rw [read?, if_neg noZero, found]

/-- The name of an argument is read as the whole argument. -/
theorem read?_argumentName {arguments number : Nat} (known : number < arguments) :
    read? arguments (Component.argumentName number) = some (.whole number) := by
  have noPoint := Component.noPoint_argumentName number
  have base : Swizzle.base (Component.argumentName number) = Component.argumentName number := by
    have whole : Swizzle.baseChars (Component.argumentName number).toList =
        (Component.argumentName number).toList :=
      List.takeWhile_eq_self_iff.mpr fun character present => by
        simpa using fun same : character = '.' => noPoint (same ▸ present)
    rw [Swizzle.base, whole, String.ofList_toList]
  rw [read?_of_base known base, if_neg (by simpa [Swizzle.hasPoint] using noPoint)]

/-- A selection of an argument is read as the selected components. -/
theorem read?_selection
    {arguments number : Nat}
    {group : List Component}
    (known : number < arguments)
    (small : ∀ component ∈ group, component.index < 4) :
    read? arguments (Component.argumentName number ++ "." ++
        String.ofList (group.map Component.letter)) =
      some (.selection number (group.map Component.index)) := by
  have noPoint := Component.noPoint_argumentName number
  have text : (Component.argumentName number ++ "." ++
      String.ofList (group.map Component.letter)).toList =
      (Component.argumentName number).toList ++ '.' :: group.map Component.letter := by
    simp
  have name : ∀ character ∈ (Component.argumentName number).toList, (character != '.') = true :=
    fun character present => by simpa using fun same : character = '.' => noPoint (same ▸ present)
  have base : Swizzle.base (Component.argumentName number ++ "." ++
      String.ofList (group.map Component.letter)) = Component.argumentName number := by
    rw [Swizzle.base, Swizzle.baseChars, text, List.takeWhile_append_of_pos name]
    simp
  have selection : (Swizzle.selection (Component.argumentName number ++ "." ++
      String.ofList (group.map Component.letter))).toList = group.map Component.letter := by
    rw [Swizzle.selection, String.toList_ofList, Swizzle.selectionChars, text,
      List.dropWhile_append_of_pos name]
    simp
  have point : Swizzle.hasPoint (Component.argumentName number ++ "." ++
      String.ofList (group.map Component.letter)) = true := by
    simp [Swizzle.hasPoint, text]
  have indices : (group.map Component.letter).map (fun letter => componentLetters.idxOf? letter) =
      (group.map Component.index).map some := by
    rw [List.map_map, List.map_map]
    exact List.map_congr_left fun component present =>
      Component.idxOf?_letter (small component present)
  rw [read?_of_base known base, if_pos point, selection, mapM_eq_some_of_map indices]
  rfl

end Atom

namespace Component

theorem isNameRest_letter (component : Component) : Text.isNameRest component.letter = true := by
  obtain ⟨argument, index, size⟩ := component
  rcases index with _ | _ | _ | _ | index
  all_goals rfl

variable {arguments : Nat} {group : List Component}

/-- A selection is a part. -/
theorem isPartText_select (filled : group ≠ []) : IsPartText (select group).toList := by
  obtain ⟨first, rest, rfl⟩ := List.exists_cons_of_ne_nil filled
  have name := isPartText_argumentName first.argument
  dsimp only [select]
  split
  · exact name
  · refine ⟨by simp, fun character present => ?_⟩
    rw [String.toList_append, String.toList_append] at present
    rcases List.mem_append.mp present with prefixed | letter
    · rcases List.mem_append.mp prefixed with inName | point
      · exact name.2 character inName
      · exact .inr (List.mem_singleton.mp point)
    · rw [String.toList_ofList] at letter
      obtain ⟨component, _, rfl⟩ := List.mem_map.mp letter
      exact .inl component.isNameRest_letter

/-- A selected group is read as the part that passes it. -/
theorem read?_select
    (filled : group ≠ [])
    (known : ∀ component ∈ group, component.argument < arguments ∧ component.index < 4) :
    Atom.read? arguments (select group) = some (Atom.ofGroup group) := by
  obtain ⟨first, rest, rfl⟩ := List.exists_cons_of_ne_nil filled
  have argument := (known first List.mem_cons_self).1
  dsimp only [select, Atom.ofGroup]
  split
  · exact Atom.read?_argumentName argument
  · exact Atom.read?_selection argument fun component present => (known component present).2

/-- Grouping drops no component, and no group is empty. -/
theorem flatten_groups (components : List Component) :
    (groups components).flatten = components ∧ [] ∉ groups components := by
  induction components with
  | nil => exact ⟨rfl, List.not_mem_nil⟩
  | cons first rest inductionHypothesis =>
      obtain ⟨joined, filled⟩ := inductionHypothesis
      rw [groups]
      split
      case h_1 second others remaining behind =>
        rw [behind] at joined filled
        split
        · refine ⟨congrArg (first :: ·) joined, ?_⟩
          simpa using fun present => filled (List.mem_cons_of_mem _ present)
        · exact ⟨congrArg (first :: ·) joined, by simpa using filled⟩
      case h_2 noGroup =>
        refine ⟨congrArg (first :: ·) joined, ?_⟩
        simpa using filled

end Component

namespace Slot

/-- The slot that components packed into a parameter are passed by. -/
def ofComponents (type : String) (components : List Component) : Slot :=
  let need := componentCount type
  match (Component.groups components).map Atom.ofGroup with
  | [] => if need = 1 then .atom .zero else .construction type [.zero]
  | first :: rest =>
      if need = 1 || (rest.isEmpty && components.length = need) then .atom first
      else .construction type (first :: rest ++ List.replicate (need - components.length) .zero)

/-- A part constructs nothing. -/
theorem construction?_of_isPartText
    {text : String}
    (part : IsPartText text.toList) : construction? text = none := by
  unfold construction?
  split
  case h_1 before closed =>
    have present : ')' ∈ text.toList := by
      rw [← List.mem_reverse, closed]
      exact List.mem_cons_self
    exact absurd present (part.not_mem (by decide) (by decide))
  case h_2 => rfl

/-- A construction is read back as its type and parts. -/
theorem construction?_written
    (type : String)
    {parts : List String}
    (areParts : ∀ part ∈ parts, IsPartText part.toList) :
    construction? (type ++ "(" ++ ", ".intercalate parts ++ ")") = some (type, parts) := by
  have inner : (", ".intercalate parts).toList =
      [',', ' '].intercalate (parts.map String.toList) := String.toList_intercalate ..
  have noOpening : '(' ∉ [',', ' '].intercalate (parts.map String.toList) := by
    refine not_mem_intercalate (by decide) fun part present => ?_
    obtain ⟨source, given, rfl⟩ := List.mem_map.mp present
    exact (areParts source given).not_mem (by decide) (by decide)
  have text : (type ++ "(" ++ ", ".intercalate parts ++ ")").toList.reverse =
      ')' :: (([',', ' '].intercalate (parts.map String.toList)).reverse ++
        '(' :: type.toList.reverse) := by
    simp [inner]
  have inside : ∀ character ∈ ([',', ' '].intercalate (parts.map String.toList)).reverse,
      (character != '(') = true := fun character present => by
    simpa using fun same : character = '(' => noOpening (same ▸ List.mem_reverse.mp present)
  have split : Call.splitArguments (String.ofList
      ([',', ' '].intercalate (parts.map String.toList))) = parts := by
    rw [Call.splitArguments, String.toList_ofList, Call.splitChars_join, List.map_map]
    · exact (List.map_congr_left fun _ _ => String.ofList_toList).trans (List.map_id parts)
    · intro part present
      obtain ⟨source, given, rfl⟩ := List.mem_map.mp present
      exact areParts source given
  simp only [construction?, text, List.dropWhile_append_of_pos inside,
    List.takeWhile_append_of_pos inside]
  simp [split]

/-- The parts of a construction are read one by one. -/
theorem read?_parts
    {arguments : Nat}
    {groups : List (List Component)}
    (zeros : Nat)
    (filled : ∀ group ∈ groups, group ≠ [])
    (known : ∀ group ∈ groups, ∀ component ∈ group,
      component.argument < arguments ∧ component.index < 4) :
    let parts := groups.map Component.select ++ List.replicate zeros "0.0"
    (∀ part ∈ parts, IsPartText part.toList) ∧
      parts.mapM (Atom.read? arguments) =
        some (groups.map Atom.ofGroup ++ List.replicate zeros Atom.zero) := by
  constructor
  · intro part present
    rcases List.mem_append.mp present with selected | zero
    · obtain ⟨group, listed, rfl⟩ := List.mem_map.mp selected
      exact Component.isPartText_select (filled group listed)
    · rw [List.eq_of_mem_replicate zero]
      exact isPartText_zero
  · have zero : Atom.read? arguments "0.0" = some Atom.zero := rfl
    apply mapM_eq_some_of_map
    rw [List.map_append, List.map_append, List.map_replicate, List.map_replicate, zero,
      List.map_map, List.map_map]
    congr 1
    exact List.map_congr_left fun group listed =>
      Component.read?_select (filled group listed) (known group listed)

/-- Packed components are read as the slot that passes them. -/
theorem read?_pack
    {arguments : Nat}
    {components : List Component}
    (type : String)
    (known : ∀ component ∈ components, component.argument < arguments ∧ component.index < 4) :
    read? arguments (Overload.pack type components) = some (ofComponents type components) := by
  obtain ⟨joined, filled⟩ := Component.flatten_groups components
  have groupFilled : ∀ group ∈ Component.groups components, group ≠ [] :=
    fun group present empty => filled (empty ▸ present)
  have groupKnown : ∀ group ∈ Component.groups components, ∀ component ∈ group,
      component.argument < arguments ∧ component.index < 4 := fun group present component inGroup =>
    known component (joined ▸ List.mem_flatten.mpr ⟨group, present, inGroup⟩)
  cases grouped : Component.groups components with
  | nil =>
      simp only [Overload.pack, ofComponents, grouped, List.map_nil]
      split
      · rfl
      · have written : type ++ "(0.0)" = type ++ "(" ++ ", ".intercalate ["0.0"] ++ ")" :=
          String.toList_inj.mp (by simp)
        rw [written, read?, construction?_written type (by simpa using isPartText_zero)]
        rfl
  | cons first rest =>
      rw [grouped] at groupFilled groupKnown
      simp only [Overload.pack, ofComponents, grouped, List.map_cons, List.isEmpty_map]
      split
      · rw [read?, construction?_of_isPartText
            (Component.isPartText_select (groupFilled first List.mem_cons_self)),
          Component.read?_select (groupFilled first List.mem_cons_self)
            (groupKnown first List.mem_cons_self)]
        rfl
      · obtain ⟨areParts, read⟩ :=
          read?_parts (componentCount type - components.length) groupFilled groupKnown
        rw [List.map_cons] at areParts read
        rw [read?, construction?_written type areParts]
        dsimp only
        rw [read]
        rfl

end Slot

end ShaderGraph
