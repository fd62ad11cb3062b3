import ShaderGraph.Proofs.Graphics.Compilation
import ShaderGraph.Proofs.Host.Agreement

/-!
# Includes of embedded sources

A shader embeds sources of several files, but it has one directory that its includes
leave from: that of the called function, or of the first function with a source in the
chain of a graph. Every include line of every embedded source is resolved against this
directory, whatever file the source comes from. Only the lines of included files are
resolved against the directories of their own.
-/

namespace ShaderGraph

namespace Host

open ShaderGraph.Action

/-- The includes of a source that the shader of an artifact embeds leave from the
directory of the artifact. -/
structure ResolvesIncludes
    (host changed : Host)
    (artifact : Artifact)
    (source : String) : Prop where
  /-- The source stands in the fragment stage in lines of its own. -/
  held : HoldsLines artifact.fragment.toList source.toList
  /-- Without a directory the driver is handed the fragment stage with its include lines. -/
  kept : artifact.directory.isEmpty = true -> artifact.program.isSome = true ->
    ∃ vertex, changed.graphics.last = some (vertex, artifact.fragment)
  /-- From a directory every include line of the source leads to a file that can be read,
  and is replaced in the stage that the driver is handed. -/
  replaced : artifact.directory.isEmpty = false -> artifact.program.isSome = true ->
    ∃ vertex fragment, changed.graphics.last = some (vertex, fragment) ∧
      ∀ line target, HoldsLines source.toList line -> Directive.IsLine line target ->
        ∃ text front part back before after,
          host.files.read (Include.pathOf artifact.directory (String.ofList target)) = .ok text ∧
          fragment.toList = front ++ (part ++ back) ∧
          Include.Replaced host.files Include.depthLimit artifact.directory
            (String.ofList target) before part after

theorem Submits.resolvesIncludes
    {host changed : Host}
    {artifact : Artifact}
    {source : String}
    (submits : host.Submits changed artifact)
    (held : HoldsLines artifact.fragment.toList source.toList) :
    host.ResolvesIncludes changed artifact source := by
  have resolved (some : artifact.program.isSome = true) :
      ∃ vertex fragment,
        Include.resolve host.files artifact.directory artifact.fragment = .ok fragment ∧
          changed.graphics.last = Option.some (vertex, fragment) := by
    rw [submits.program] at some
    rw [submits.graphics]
    cases outcome : compilation host artifact with
    | mk result graphics =>
        rw [outcome] at some
        cases result with
        | error error => cases some
        | ok program =>
            obtain ⟨vertex, fragment, _, isResolved, last⟩ := Graphics.resolved_of_compile outcome
            exact ⟨vertex, fragment, isResolved, last⟩
  refine ⟨held, fun none some => ?_, fun directory some => ?_⟩
  · obtain ⟨vertex, fragment, isResolved, last⟩ := resolved some
    cases isResolved.symm.trans (Include.resolve_of_isEmpty none artifact.fragment _)
    exact ⟨vertex, last⟩
  · obtain ⟨vertex, fragment, isResolved, last⟩ := resolved some
    refine ⟨vertex, fragment, last, fun line target holds isLine => ?_⟩
    obtain ⟨front, part, back, before, after, split, readable, replaced⟩ :=
      Include.replaced_of_resolve directory (Directive.mem_split (held.trans holds) isLine)
        isResolved
    obtain ⟨text, read⟩ := replaced.readable readable
    exact ⟨text, front, part, back, before, after, read, split, replaced⟩

theorem exists_of_mem_nodesOf
    {graph : Graph}
    {chain : List String}
    {nodes : List Node}
    {call : Node}
    (found : nodesOf graph chain = .ok nodes)
    (listed : call ∈ nodes) : ∃ node ∈ chain, graph.find? node = some call := by
  induction chain generalizing nodes with
  | nil =>
      cases found
      cases listed
  | cons name rest inductionHypothesis =>
      rw [nodesOf, List.mapM_cons] at found
      cases known : graph.find? name with
      | none =>
          rw [known] at found
          cases found
      | some first =>
          rw [known] at found
          change (nodesOf graph rest >>= fun others => pure (first :: others)) = .ok nodes at found
          cases foundRest : nodesOf graph rest with
          | error failure =>
              rw [foundRest] at found
              cases found
          | ok others =>
              rw [foundRest] at found
              cases found
              rcases List.mem_cons.mp listed with rfl | later
              · exact ⟨name, List.mem_cons_self, known⟩
              · obtain ⟨node, present, isFound⟩ := inductionHypothesis foundRest later
                exact ⟨node, List.mem_cons_of_mem name present, isFound⟩

/-- Whatever a request hands to the compiler, all include lines of all sources that it
embeds leave from one directory. For a call this is the directory of the called function,
for a graph that of the first function in the chain that has a source, or none. -/
theorem includes_leave_from_one_directory (host : Host) :
    (∀ name texts, (createShader name texts).Meets host fun _ changed =>
      ∀ artifact, host.Submits changed artifact ->
        artifact.directory =
            ((host.registry.catalogue.sourcePath? name).map Path.directory).getD "" ∧
          ∀ function ∈ host.generator.embedded name (texts.map Text.trimmed),
            host.ResolvesIncludes changed artifact
              (host.generator.sourceOf host.files function)) ∧
    ∀ output, (compileGraph output).Meets host fun _ changed =>
      ∀ artifact, host.Submits changed artifact ->
        ∃ chain nodes, (host.graph.analyze output).1 = .ok chain ∧
          nodesOf (host.graph.analyze output).2 chain = .ok nodes ∧
          artifact.directory = includeDirectory host.registry.catalogue nodes ∧
          ∀ call ∈ nodes, ∀ function ∈ host.generator.needed call.function
              (call.arguments.map Reference.substitute),
            host.ResolvesIncludes changed artifact
              (host.generator.sourceOf host.files function) := by
  constructor
  · intro name texts
    refine (createShader_submits name texts host).imp fun _ changed given artifact submits => ?_
    obtain ⟨shader, isShader, carries⟩ := given artifact submits
    refine ⟨carries.directory, fun function listed => submits.resolvesIncludes ?_⟩
    rw [carries.fragment]
    exact Generator.holdsLines_of_generate isShader.generated (List.mem_map_of_mem listed)
  · intro output
    refine (compileGraph_submits output host).imp fun _ changed given artifact submits => ?_
    obtain ⟨chain, nodes, shader, isShader, carries⟩ := given artifact submits
    refine ⟨chain, nodes, isShader.analyzed, isShader.nodes, carries.directory,
      fun call listed function needed => submits.resolvesIncludes ?_⟩
    obtain ⟨node, present, found⟩ := exists_of_mem_nodesOf isShader.nodes listed
    rw [carries.fragment]
    exact Generator.holdsLines_of_unify isShader.unified present found needed

/-- A host with two plugins in directories of their own. The source of the function of the
second one includes a file that stands beside it. -/
def scattered : Host where
  files := {
    entries := [
      (["plugins"], .directory),
      (["plugins", "palettes"], .directory),
      (["plugins", "palettes", "palette.glsl"],
        .text "vec3 palette(float at) { return vec3(at); }"),
      (["plugins", "waves"], .directory),
      (["plugins", "waves", "ripple.glsl"],
        .text "#include \"random.glsl\"\nfloat ripple(vec2 at) { return random(at); }"),
      (["plugins", "waves", "random.glsl"],
        .text "float random(vec2 at) { return fract(at.x); }")] }
  registry :=
    { registrations := [
        ("palettes", {
          plugin :=
            { functions := [⟨"palette", "palette.glsl", "palette", [⟨"vec3", ["float"]⟩]⟩]
              path := "plugins/palettes" }
          library := ⟨{}, "palettes.py", 0⟩ }),
        ("waves", {
          plugin :=
            { functions := [⟨"ripple", "ripple.glsl", "ripple", [⟨"float", ["vec2"]⟩]⟩]
              path := "plugins/waves" }
          library := ⟨{}, "waves.py", 1⟩ })] }

theorem trimmed_nested_call : ["ripple(st)"].map Text.trimmed = ["ripple(st)"] := by
  decide +kernel

/-- A shader is generated and handed over for a call of the first function with a call of
the second one. -/
theorem exists_submits_scattered :
    ∃ artifact,
      scattered.Submits ((createShader "palette" ["ripple(st)"]).final scattered) artifact := by
  have offered : scattered.registry.catalogue.owner? "palette" = some "palettes" := by
    decide +kernel
  have callable : scattered.builtins.isCallable "palette" = false := by decide +kernel
  have described : (Attempt.outcome
      (scattered.generator.interpreter.describe [] ["ripple(st)"])).toBool = true := by
    decide +kernel
  have valid :
      (scattered.generator.vocabulary.analyze "palette" ["ripple(st)"]).value.isValid = true := by
    decide +kernel
  have available : ∀ function ∈ scattered.generator.needed "palette" ["ripple(st)"],
      (scattered.generator.sourceOf scattered.files function).isEmpty = false := by
    decide +kernel
  cases outcome : Attempt.outcome
      (scattered.generator.interpreter.describe [] ["ripple(st)"]) with
  | error failure =>
      rw [outcome] at described
      cases described
  | ok arguments =>
      obtain ⟨recipe, isRecipe, _⟩ :=
        exists_isRecipe (by decide +kernel) outcome rfl valid available
      rw [← trimmed_nested_call] at isRecipe
      exact (createShader_realizes callable offered rfl ["ripple(st)"]).submits recipe isRecipe

/-- The include line of a nested function is not resolved against the directory of its own
file. The included file stands in this directory and can be read, but it is looked for in
the directory of the called function, so the shader does not compile. -/
theorem scattered_misses_include :
    scattered.registry.catalogue.sourcePath? "ripple" = some "plugins/waves/ripple.glsl" ∧
    Directive.Piece.directive "random.glsl" ∈
      Directive.split (scattered.generator.sourceOf scattered.files "ripple").toList ∧
    (scattered.files.read
      (Include.pathOf (Path.directory "plugins/waves/ripple.glsl") "random.glsl")).isOk = true ∧
    ∃ artifact,
      scattered.Submits ((createShader "palette" ["ripple(st)"]).final scattered) artifact ∧
      HoldsLines artifact.fragment.toList
        (scattered.generator.sourceOf scattered.files "ripple").toList ∧
      artifact.directory = "plugins/palettes" ∧ artifact.program.isSome = false := by
  have embedded : "ripple" ∈ scattered.generator.embedded "palette" ["ripple(st)"] := by
    decide +kernel
  have unreadable :
      (scattered.files.read (Include.pathOf "plugins/palettes" "random.glsl")).isOk = false := by
    decide +kernel
  have source : scattered.generator.sourceOf scattered.files "ripple" =
      "#include \"random.glsl\"" ++ "\nfloat ripple(vec2 at) { return random(at); }" := by
    decide +kernel
  have holds : HoldsLines (scattered.generator.sourceOf scattered.files "ripple").toList
      "#include \"random.glsl\"".toList := by
    rw [source]
    exact ⟨[], _, String.toList_append, .inl rfl, .inr (by decide)⟩
  have isLine : Directive.IsLine "#include \"random.glsl\"".toList "random.glsl".toList := {
    written := ⟨[], [' '], [], by decide, rfl, by simp, by decide, rfl⟩
    named := by decide
    plain := by decide
    single := by decide }
  obtain ⟨artifact, submits⟩ := exists_submits_scattered
  obtain ⟨shader, isShader, carries⟩ :=
    createShader_submits "palette" ["ripple(st)"] scattered artifact submits
  rw [trimmed_nested_call] at isShader
  have held : HoldsLines artifact.fragment.toList
      (scattered.generator.sourceOf scattered.files "ripple").toList := by
    rw [carries.fragment]
    exact Generator.holdsLines_of_generate isShader.generated (List.mem_map_of_mem embedded)
  have directory : artifact.directory = "plugins/palettes" := by
    rw [carries.directory]
    decide +kernel
  refine ⟨by decide +kernel, Directive.mem_split holds isLine, by decide +kernel, artifact, submits,
    held, directory, Bool.eq_false_iff.mpr fun some => ?_⟩
  obtain ⟨_, _, _, replaced⟩ := (submits.resolvesIncludes held).replaced
    (by rw [directory]; decide) some
  obtain ⟨text, _, _, _, _, _, read, _⟩ := replaced _ _ holds isLine
  rw [directory, String.ofList_toList] at read
  rw [read] at unreadable
  cases unreadable

end Host
end ShaderGraph
