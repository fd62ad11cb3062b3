import Mathlib.Data.List.Nodup
import ShaderGraph.Proofs.Graph.Removal
import ShaderGraph.Proofs.Plugin.Story

/-!
# Plugins that change their places

A name belongs to the first plugin that offers it. A plugin that is loaded again
goes behind all others, so a name that it shares with another plugin may change
its owner, even if every plugin offers what it offered before. A name changes its
owner exactly if its owner is overtaken.
-/

namespace ShaderGraph

namespace Table

/-- Erasing an unknown name changes nothing. -/
theorem erase_of_not_has {table : Table Value} {name : String} (absent : table.has name = false) :
    table.erase name = table := by
  refine List.filter_eq_self.mpr fun entry present => ?_
  have different : entry.1 ≠ name := by
    rintro rfl
    rw [has_iff_mem_names.mpr (List.mem_map_of_mem present)] at absent
    cases absent
  simpa using different

theorem names_append (table other : Table Value) :
    names (table ++ other) = names table ++ names other :=
  List.map_append

theorem find?_map (table : Table Value) (change : Value -> Other) (name : String) :
    find? (table.map fun entry => (entry.1, change entry.2)) name =
      (table.find? name).map change := by
  induction table with
  | nil => rfl
  | cons entry rest inductionHypothesis =>
      rw [List.map_cons, find?_cons, find?_cons, inductionHypothesis]
      split <;> rfl

theorem names_map (table : Table Value) (change : Value -> Other) :
    names (table.map fun entry => (entry.1, change entry.2)) = names table := by
  simp only [names, List.map_map]
  rfl

theorem without_map (table : Table Value) (change : Value -> Other) (names : List String) :
    without (table.map fun entry => (entry.1, change entry.2)) names =
      (table.without names).map fun entry => (entry.1, change entry.2) := by
  simp only [without, List.filter_map]
  rfl

end Table

/-- Whether a plugin offers a function of a name. -/
def Plugin.offers (plugin : Plugin) (name : String) : Bool :=
  (plugin.find? name).isSome

namespace Catalogue

/-! ## Owners -/

/-- The first entry with a plugin that offers a name. -/
def provider? (name : String) (entries : List (String × Plugin)) : Option (String × Plugin) :=
  entries.find? fun entry => entry.2.offers name

theorem owner?_eq (catalogue : Catalogue) (name : String) :
    catalogue.owner? name = (provider? name catalogue).map Prod.fst := rfl

/-- The first provider is in the first catalogue that has one. -/
theorem provider?_append (name : String) (first second : List (String × Plugin)) :
    provider? name (first ++ second) = (provider? name first).or (provider? name second) :=
  List.find?_append

/-- The functions under the aliases of their plugins. -/
def tables (catalogue : Catalogue) : Table (List Function) :=
  catalogue.map fun entry => (entry.1, entry.2.functions)

/-- The functions that are found depend on the tables only. -/
theorem find?_eq_of_tables_eq
    {catalogue other : Catalogue}
    (same : catalogue.tables = other.tables)
    (name : String) : catalogue.find? name = other.find? name := by
  have fromTables (catalogue : Catalogue) : catalogue.find? name =
      catalogue.tables.findSome? fun entry => entry.2.find? fun function =>
        function.name == name := by
    rw [tables, List.findSome?_map]
    rfl
  rw [fromTables, fromTables, same]

/-- The owner of a function depends on the tables only. -/
theorem owner?_eq_of_tables_eq
    {catalogue other : Catalogue}
    (same : catalogue.tables = other.tables)
    (name : String) : catalogue.owner? name = other.owner? name := by
  have fromTables (catalogue : Catalogue) : catalogue.owner? name =
      (List.find? (fun entry => (entry.2.find? fun function =>
        function.name == name).isSome) catalogue.tables).map Prod.fst := by
    rw [tables, List.find?_map, Option.map_map]
    rfl
  rw [fromTables, fromTables, same]

/-- The function of a name is the one that its owner offers. -/
theorem find?_of_owner?
    {catalogue : Catalogue}
    {name owner : String}
    (distinct : catalogue.names.Nodup)
    (owned : catalogue.owner? name = some owner) :
    ∃ plugin, Table.find? catalogue owner = some plugin ∧ plugin.offers name = true ∧
      catalogue.find? name = plugin.find? name := by
  obtain ⟨⟨_, plugin⟩, first, rfl⟩ := Option.map_eq_some_iff.mp owned
  obtain ⟨offered, before, after, split, earlier⟩ := List.find?_eq_some_iff_append.mp first
  refine ⟨plugin, Table.find?_of_mem distinct (List.mem_of_find?_eq_some first), offered, ?_⟩
  have none : before.findSome? (fun entry => entry.2.find? name) = none := by
    refine List.findSome?_eq_none_iff.mpr fun entry present => ?_
    simpa using earlier entry present
  obtain ⟨function, found⟩ := Option.isSome_iff_exists.mp offered
  rw [Catalogue.find?, split, List.findSome?_append, none, Option.none_or, List.findSome?_cons,
    found]

/-- A function without an owner is not found. -/
theorem find?_eq_none_of_owner?
    {catalogue : Catalogue}
    {name : String}
    (unowned : catalogue.owner? name = none) : catalogue.find? name = none := by
  have none := List.find?_eq_none.mp (Option.map_eq_none_iff.mp unowned)
  refine List.findSome?_eq_none_iff.mpr fun entry present => ?_
  simpa using none entry present

/-! ## Plugins that go behind the others -/

/-- The catalogue with the plugins of aliases behind all others, in the order of
the aliases. -/
def movedBehind (catalogue : Catalogue) (aliases : List String) : Catalogue :=
  Table.without catalogue aliases ++ aliases.filterMap fun pluginAlias =>
    (Table.find? catalogue pluginAlias).map fun plugin => (pluginAlias, plugin)

/-- The plugin that a name belongs to goes behind all others, and another plugin
that offers the name does not, or goes there earlier. -/
def Overtaken (catalogue : Catalogue) (aliases : List String) (name : String) : Prop :=
  ∃ front owner back other plugin, aliases = front ++ owner :: back ∧
    catalogue.owner? name = some owner ∧ Table.find? catalogue other = some plugin ∧
    plugin.offers name = true ∧ other ≠ owner ∧ other ∉ back

section Moved

variable {catalogue : Catalogue} {aliases : List String} {name : String}

/-- Plugins that are moved behind the others are the same ones. -/
theorem mem_movedBehind
    (distinct : catalogue.names.Nodup)
    {entry : String × Plugin} :
    entry ∈ catalogue.movedBehind aliases ↔ entry ∈ catalogue := by
  rw [movedBehind, List.mem_append, List.mem_filterMap]
  constructor
  · rintro (stays | ⟨pluginAlias, _, moved⟩)
    · exact (List.mem_filter.mp stays).1
    · obtain ⟨plugin, found, rfl⟩ := Option.map_eq_some_iff.mp moved
      exact Table.mem_of_find? found
  · intro present
    by_cases moved : entry.1 ∈ aliases
    · refine .inr ⟨entry.1, moved, ?_⟩
      have found : Table.find? catalogue entry.1 = some entry.2 :=
        Table.find?_of_mem distinct present
      rw [found]
      rfl
    · exact .inl (List.mem_filter.mpr ⟨present, by simpa using moved⟩)

/-- A plugin that stays and owned a name keeps it. -/
theorem owner?_movedBehind_of_stays
    {owner : String}
    (owned : catalogue.owner? name = some owner)
    (stays : owner ∉ aliases) : (catalogue.movedBehind aliases).owner? name = some owner := by
  obtain ⟨entry, first, rfl⟩ := Option.map_eq_some_iff.mp owned
  obtain ⟨offered, before, after, split, earlier⟩ := List.find?_eq_some_iff_append.mp first
  have firstStill : provider? name (Table.without catalogue aliases) = some entry := by
    rw [provider?, Table.without, List.find?_filter]
    refine List.find?_eq_some_iff_append.mpr ⟨?_, before, after, split, fun other present => ?_⟩
    · simpa [stays, Plugin.offers] using offered
    · have none : other.2.find? name = none := by simpa using earlier other present
      simp [Plugin.offers, none]
  rw [owner?_eq, movedBehind, provider?_append, firstStill]
  rfl

/-- A plugin that goes behind the others keeps a name that no plugin offers which
stays, or goes there earlier. -/
theorem owner?_movedBehind_of_alone
    {owner : String}
    {front back : List String}
    (distinct : catalogue.names.Nodup)
    (order : aliases = front ++ owner :: back)
    (owned : catalogue.owner? name = some owner)
    (alone : ∀ other plugin, Table.find? catalogue other = some plugin ->
      plugin.offers name = true -> other ≠ owner -> other ∈ back)
    (once : aliases.Nodup) : (catalogue.movedBehind aliases).owner? name = some owner := by
  obtain ⟨plugin, found, offered, _⟩ := find?_of_owner? distinct owned
  have behind : ∀ entry ∈ catalogue, entry.2.offers name = true -> entry.1 ∈ owner :: back := by
    intro entry present offers
    by_cases same : entry.1 = owner
    · exact same ▸ List.mem_cons_self
    · exact List.mem_cons_of_mem owner
        (alone entry.1 entry.2 (Table.find?_of_mem distinct present) offers same)
  have noneStays : provider? name (Table.without catalogue aliases) = none := by
    refine List.find?_eq_none.mpr fun entry present offers => ?_
    obtain ⟨listed, stays⟩ := List.mem_filter.mp present
    have moves : entry.1 ∈ aliases :=
      order ▸ List.mem_append_right front (behind entry listed offers)
    simp [moves] at stays
  have noneInFront : provider? name (front.filterMap fun pluginAlias =>
      (Table.find? catalogue pluginAlias).map fun plugin => (pluginAlias, plugin)) = none := by
    refine List.find?_eq_none.mpr fun entry present offers => ?_
    obtain ⟨pluginAlias, listed, moved⟩ := List.mem_filterMap.mp present
    obtain ⟨other, otherFound, rfl⟩ := Option.map_eq_some_iff.mp moved
    have later := behind _ (Table.mem_of_find? otherFound) offers
    exact (List.nodup_append'.mp (order ▸ once)).2.2 listed later
  rw [owner?_eq, movedBehind, provider?_append, noneStays, Option.none_or, order,
    List.filterMap_append, provider?_append, noneInFront, Option.none_or,
    List.filterMap_cons_some (by rw [found]; rfl), provider?,
    List.find?_cons_of_pos (by exact offered)]
  rfl

/-- A plugin that is overtaken loses the name to another plugin. -/
theorem owner?_movedBehind_of_overtaken
    (once : aliases.Nodup)
    (overtaken : catalogue.Overtaken aliases name) :
    (catalogue.movedBehind aliases).owner? name ≠ catalogue.owner? name := by
  obtain ⟨front, owner, back, other, plugin, order, owned, found, offered, different, notBehind⟩ :=
    overtaken
  rw [owned]
  intro kept
  obtain ⟨entry, first, rfl⟩ := Option.map_eq_some_iff.mp kept
  change provider? name (catalogue.movedBehind aliases) = some entry at first
  rw [movedBehind, provider?_append] at first
  have ownerMoves : entry.1 ∈ aliases := order ▸ by simp
  cases stays : provider? name (Table.without catalogue aliases) with
  | some stayed =>
      rw [stays] at first
      cases first
      have present := List.mem_of_find?_eq_some stays
      simpa [ownerMoves] using (List.mem_filter.mp present).2
  | none =>
      have listed : other ∈ front := by
        have moves : other ∈ aliases := by
          by_contra stayed
          refine List.find?_eq_none.mp stays (other, plugin) ?_ offered
          exact List.mem_filter.mpr ⟨Table.mem_of_find? found, by simpa using stayed⟩
        rw [order] at moves
        simpa [different, notBehind] using moves
      rw [stays, Option.none_or, order, List.filterMap_append, provider?_append] at first
      have present : (other, plugin) ∈ front.filterMap fun pluginAlias =>
          (Table.find? catalogue pluginAlias).map fun plugin => (pluginAlias, plugin) :=
        List.mem_filterMap.mpr ⟨other, listed, by rw [found]; rfl⟩
      cases inFront : provider? name (front.filterMap fun pluginAlias =>
          (Table.find? catalogue pluginAlias).map fun plugin => (pluginAlias, plugin)) with
      | none => exact List.find?_eq_none.mp inFront _ present offered
      | some winner =>
          rw [inFront] at first
          cases first
          obtain ⟨pluginAlias, early, moved⟩ :=
            List.mem_filterMap.mp (List.mem_of_find?_eq_some inFront)
          obtain ⟨_, _, rfl⟩ := Option.map_eq_some_iff.mp moved
          exact (List.nodup_append'.mp (order ▸ once)).2.2 early List.mem_cons_self

/-- Names keep their owners unless these are overtaken. -/
theorem owner?_movedBehind_iff
    (distinct : catalogue.names.Nodup)
    (once : aliases.Nodup) :
    (catalogue.movedBehind aliases).owner? name = catalogue.owner? name ↔
      ¬catalogue.Overtaken aliases name := by
  refine ⟨fun same overtaken => owner?_movedBehind_of_overtaken once overtaken same,
    fun free => ?_⟩
  cases owned : catalogue.owner? name with
  | none =>
      have none := List.find?_eq_none.mp (Option.map_eq_none_iff.mp owned)
      refine Option.map_eq_none_iff.mpr (List.find?_eq_none.mpr fun entry present => ?_)
      exact none entry ((mem_movedBehind distinct).mp present)
  | some owner =>
      by_cases moves : owner ∈ aliases
      · obtain ⟨front, back, order⟩ := List.append_of_mem moves
        refine owner?_movedBehind_of_alone distinct order owned ?_ once
        intro other plugin found offered different
        by_contra notBehind
        exact free ⟨front, owner, back, other, plugin, order, owned, found, offered, different,
          notBehind⟩
      · exact owner?_movedBehind_of_stays owned moves

/-- Plugins that are moved behind the others have different names still. -/
theorem names_movedBehind_nodup
    (distinct : catalogue.names.Nodup)
    (once : aliases.Nodup) : (catalogue.movedBehind aliases).names.Nodup := by
  have stayed : (Table.without catalogue aliases).names.Nodup :=
    distinct.sublist (Table.names_without_sublist catalogue aliases)
  have moved : Table.names (aliases.filterMap fun pluginAlias =>
      (Table.find? catalogue pluginAlias).map fun plugin => (pluginAlias, plugin)) =
      aliases.filter fun pluginAlias => Table.has catalogue pluginAlias := by
    rw [Table.names, List.map_filterMap, ← List.filterMap_eq_filter]
    refine List.filterMap_congr fun pluginAlias _ => ?_
    cases found : Table.find? catalogue pluginAlias <;> simp [Table.has, found, Option.guard]
  rw [movedBehind, Table.names_append, moved]
  refine List.nodup_append'.mpr ⟨stayed, once.filter _, fun pluginAlias stays moves => ?_⟩
  obtain ⟨entry, present, rfl⟩ := List.mem_map.mp stays
  simpa [(List.mem_filter.mp moves).1] using (List.mem_filter.mp present).2

/-- A name that keeps its owner keeps its function. -/
theorem find?_movedBehind
    (distinct : catalogue.names.Nodup)
    (once : aliases.Nodup)
    (same : (catalogue.movedBehind aliases).owner? name = catalogue.owner? name) :
    (catalogue.movedBehind aliases).find? name = catalogue.find? name := by
  cases owned : catalogue.owner? name with
  | none =>
      rw [find?_eq_none_of_owner? owned, find?_eq_none_of_owner? (same.trans owned)]
  | some owner =>
      obtain ⟨plugin, found, _, function⟩ := find?_of_owner? distinct owned
      have movedDistinct := names_movedBehind_nodup distinct once
      obtain ⟨other, otherFound, _, otherFunction⟩ :=
        find?_of_owner? movedDistinct (same.trans owned)
      have present := (mem_movedBehind distinct).mp (Table.mem_of_find? otherFound)
      rw [Table.find?_of_mem distinct present] at found
      cases found
      rw [function, otherFunction]

end Moved

end Catalogue
end ShaderGraph
