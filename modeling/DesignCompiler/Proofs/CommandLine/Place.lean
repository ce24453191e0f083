import DesignCompiler.Proofs.CommandLine.Component
import DesignCompiler.Proofs.CommandLine.Options
import DesignCompiler.Proofs.Component.Name
import DesignCompiler.Proofs.Text.Part

/-!
Contract: where a component is kept when no place is asked for.

Owns:
- the path of a text that is a single name;
- `IsStem`, the names that files have before their extension;
- the law that a component without a place of its own is kept in the working directory, whatever its
  layer is called.

Does not own: what is kept, see `DesignCompiler.Proofs.CommandLine.Component`.
-/

set_option autoImplicit false

namespace DesignCompiler

open DesignCompiler.Http

/-! ### Single names -/

namespace Files.Path

private theorem leadingSlashes_of_notMem {cs : List Char} (absent : '/' ∉ cs) :
    leadingSlashes cs = 0 := by
  unfold leadingSlashes
  split
  · exact absurd List.mem_cons_self absent
  · exact absurd List.mem_cons_self absent
  · exact absurd List.mem_cons_self absent
  · rfl

/-- A text without separators is a name, unless it is empty or means the directory itself. -/
theorem ofText_of_name {text : String} (absent : '/' ∉ text.toList) (notEmpty : text ≠ "")
    (notHere : text ≠ ".") : ofText text = ⟨0, [text]⟩ := by
  have kept : (text.toList ≠ [] && text.toList ≠ ['.']) = true := by
    rw [Bool.and_eq_true, decide_eq_true_eq, decide_eq_true_eq]
    exact ⟨mt String.toList_eq_nil_iff.mp notEmpty,
      fun isDot => notHere (String.toList_inj.mp isDot)⟩
  unfold ofText
  dsimp only
  rw [leadingSlashes_of_notMem absent, Text.splitOn_of_notMem absent]
  simp only [List.filter_cons, kept, List.filter_nil, ↓reduceIte, List.map_cons, List.map_nil,
    String.ofList_toList]

private theorem resolveUp_concat {name : String} (down : name ≠ "..") (done names : List String) :
    resolveUp done (names ++ [name]) = resolveUp done names ++ [name] := by
  induction names generalizing done with
  | nil => simp [resolveUp, down]
  | cons first names inductionHypothesis =>
      rw [List.cons_append, resolveUp, resolveUp]
      split
      · exact inductionHypothesis done.tail
      · exact inductionHypothesis (first :: done)

private theorem resolveUp_of_straight {names : List String} (straight : ".." ∉ names)
    (done : List String) : resolveUp done names = done.reverse ++ names := by
  induction names generalizing done with
  | nil => simp [resolveUp]
  | cons first names inductionHypothesis =>
      rw [List.mem_cons, not_or] at straight
      rw [resolveUp, if_neg (Ne.symm straight.1), inductionHypothesis straight.2,
        List.reverse_cons, List.append_assoc, List.singleton_append]

end Files.Path

namespace CommandLine

open DesignCompiler.Files

/-! ### Files of the working directory -/

/-- The working directory: the place that a single dot names. -/
def workingPlace (tree : Tree) : Location :=
  (Path.ofText ".").locate tree.here

private theorem workingPlace_of_straight {tree : Tree} (straight : ".." ∉ tree.here) :
    workingPlace tree = tree.here := by
  have dot : Path.ofText "." = ⟨0, []⟩ := rfl
  rw [workingPlace, dot, Path.locate, if_pos rfl, List.append_nil,
    Path.resolveUp_of_straight straight, List.reverse_nil, List.nil_append]

structure IsStem (stem : String) : Prop where
  notEmpty : stem.toList ≠ []
  plain : ∀ c ∈ stem.toList, Text.isAlphanumeric c = true

private theorem isStem_suggest (layerName : String) : IsStem (Component.suggest layerName) := by
  refine ⟨?_, Component.isAlphanumeric_suggest layerName⟩
  rcases Component.suggest_cases layerName with ⟨valid, name⟩ | ⟨-, name⟩
  · rw [name]
    intro isEmpty
    rw [Component.validate, isEmpty] at valid
    cases valid
  · rw [name]
    exact (Component.isAlphanumeric_derive layerName).1

private theorem isStem_componentName {options : ComponentOptions} (usable : options.HasUsableName)
    (frame : Design.Node) : IsStem (componentName options frame) := by
  unfold componentName
  cases given : options.name.filter fun name => !name.isEmpty with
  | none => exact isStem_suggest frame.attributes.name
  | some name =>
      obtain ⟨isName, notEmpty⟩ := Option.filter_eq_some_iff.mp given
      have notEmpty : name ≠ "" := by simpa using notEmpty
      have valid := (usable name isName).resolve_left notEmpty
      exact ⟨mt String.toList_eq_nil_iff.mp notEmpty, Component.isAlphanumeric_of_validate valid⟩

private theorem toList_fileName (stem : String) (variant : Component.Variant) :
    (Component.fileName stem variant).toList =
      stem.toList ++ '.' :: variant.extension.toList := by
  rw [Component.fileName, String.toList_append, String.toList_append, List.append_assoc]
  rfl

/-- The file of a stem is neither hidden nor a step upwards. -/
theorem IsStem.fileName_ne {stem : String} (isStem : IsStem stem) (variant : Component.Variant)
    {text : String} (dotted : text.toList.head? = some '.') :
    Component.fileName stem variant ≠ text := by
  rintro rfl
  obtain ⟨first, rest, isText⟩ := List.exists_cons_of_ne_nil isStem.notEmpty
  rw [toList_fileName, isText] at dotted
  have letter := isStem.plain first (isText ▸ List.mem_cons_self)
  rw [Option.some.inj dotted] at letter
  revert letter
  decide

private theorem IsStem.slash_notMem_fileName {stem : String} (isStem : IsStem stem)
    (variant : Component.Variant) : '/' ∉ (Component.fileName stem variant).toList := by
  rw [toList_fileName, List.mem_append, not_or]
  constructor
  · intro inStem
    have letter := isStem.plain _ inStem
    revert letter
    decide
  · cases variant <;> decide

private theorem IsStem.locate_fileName {stem : String} (isStem : IsStem stem)
    (variant : Component.Variant) (tree : Tree) :
    (Path.ofText (Component.fileName stem variant)).locate tree.here =
      workingPlace tree ++ [Component.fileName stem variant] := by
  have notEmpty : Component.fileName stem variant ≠ "" := by
    intro isEmpty
    have noText := toList_fileName stem variant
    rw [isEmpty] at noText
    exact List.append_ne_nil_of_right_ne_nil _ (List.cons_ne_nil _ _) noText.symm
  have dot : Path.ofText "." = ⟨0, []⟩ := rfl
  rw [workingPlace, dot, Path.ofText_of_name (isStem.slash_notMem_fileName variant) notEmpty
    (isStem.fileName_ne variant rfl), Path.locate, Path.locate, if_pos rfl, if_pos rfl,
    List.append_nil, Path.resolveUp_concat (isStem.fileName_ne variant rfl)]

/-! ### Components -/

variable {context : Context} {tree : Tree} {replies : Replies} {fileKey frameId : String}
  {options : ComponentOptions}

private theorem ComponentOptions.hasUsableName_of_validated {checked : Option String}
    (validated : (options.name.filter fun name => !name.isEmpty).mapM Component.validate =
      .ok checked) : options.HasUsableName := by
  intro name given
  by_cases isEmpty : name = ""
  · exact Or.inl isEmpty
  · have filtered : (options.name.filter fun name => !name.isEmpty) = some name := by
      simp [given, isEmpty]
    rw [filtered] at validated
    cases valid : Component.validate name with
    | error wrong => simp [valid] at validated
    | ok accepted => exact Or.inr (congrArg Except.ok (Component.eq_of_validate valid))

/-- Where a component without a place of its own is kept. -/
theorem Making.path_names (making : Making context tree replies fileKey frameId options)
    (unplaced : options.output = none ∨ options.output = some "")
    (usable : options.HasUsableName) :
    making.path.names = workingPlace tree ++
      [Component.fileName (componentName options making.frame) options.variant] := by
  have isStem := isStem_componentName usable making.frame
  have located := making.located
  have noPlace : options.output.filter (fun path => !path.isEmpty) = none := by
    rcases unplaced with absent | isEmpty
    · rw [absent]
      rfl
    · rw [isEmpty]
      rfl
  unfold Component.outputPath Component.chosenPath at located
  rw [noPlace] at located
  dsimp only at located
  split at located
  · cases located
  · rw [← Except.ok.inj located, ← isStem.locate_fileName options.variant tree]
    rfl

def extensionOf (framework : String) : String :=
  if framework ∈ ["mui-tsx", "vanilla-jsx"] then "tsx" else "jsx"

/-- The variant of a framework that is accepted has its name. -/
theorem variant_of_known
    (known : options.framework ∈ Component.Variant.all.map Component.Variant.name) :
    options.variant.name = options.framework ∧
      options.variant.extension = extensionOf options.framework := by
  obtain ⟨variant, -, name⟩ := List.mem_map.mp known
  have resolved : options.variant = variant := by
    rw [ComponentOptions.variant, ← name]
    cases variant <;> decide
  rw [resolved, ← name]
  cases variant <;> decide

/-- A component without a place of its own is kept in the working directory or not at all: in one
file, whose name is made of the name of the component, with nothing but ASCII letters and digits,
and the extension of the framework.  Nothing that a server answers has any part in the place but the
letters of this name. -/
theorem run_stays_in_working_directory {arguments : List String}
    (asked : parse arguments = .ok (.toReact fileKey frameId options))
    (unplaced : options.output = none ∨ options.output = some "") (context : Context) (tree : Tree)
    (replies : Replies) :
    options.framework ∈ ["mui-tsx", "mui-jsx", "styled-components", "vanilla-jsx"] ∧
    ((run context tree replies arguments).tree.file? = tree.file? ∨
      ∃ stem source, IsStem stem ∧
        (run context tree replies arguments).tree.file? =
          Function.update tree.file?
            (workingPlace tree ++ [stem ++ "." ++ extensionOf options.framework])
            (some (.text source)) ∧
        (run context tree replies arguments).output =
          "✓ Component saved to: "
            ++ (Path.ofLocation (workingPlace tree ++
              [stem ++ "." ++ extensionOf options.framework])).text
            ++ "\n✓ Framework: " ++ options.framework ++ "\n✓ Component name: " ++ stem
            ++ "\n") := by
  have known := framework_mem_of_parse asked
  obtain ⟨name, extension⟩ := variant_of_known known
  refine ⟨known, ?_⟩
  rw [run_of_parse asked]
  cases validated : (options.name.filter fun name => !name.isEmpty).mapM Component.validate with
  | error wrong =>
      left
      simp only [runCommand, runToReact, validated]
      rfl
  | ok checked =>
      have usable := ComponentOptions.hasUsableName_of_validated validated
      have ending := ending_runToReact context tree replies fileKey frameId options
      change Ending context tree replies fileKey frameId options
        (runCommand context tree replies (.toReact fileKey frameId options)) at ending
      generalize runCommand context tree replies (.toReact fileKey frameId options) = outcome
        at ending ⊢
      cases ending with
      | failed events error => exact Or.inl rfl
      | unwritten making after events error refused =>
          exact Or.inl (Tree.file?_of_writeWithDirectories_error refused)
      | written making after events saved =>
          have place := making.path_names unplaced usable
          rw [Component.fileName, extension] at place
          have absolute := (resolved_of_outputPath making.located).1
          refine Or.inr ⟨componentName options making.frame, making.source,
            isStem_componentName usable making.frame, ?_, ?_⟩
          · rw [← place]
            exact making.file?_of_write saved
          · rw [← place, ← absolute, ← name]
            rfl

/-- A layer is called after a place above the working directory. -/
theorem run_stays_below_layer_of_steps_upwards :
    let context : Context := { token := some "token", home := "/home", directory := ⟨1, ["home"]⟩ }
    let body := "\x7b\"nodes\":\x7b\"1:2\":\x7b\"document\":"
      ++ "\x7b\"name\":\"../ß/..\",\"type\":\"FRAME\"\x7d\x7d\x7d\x7d"
    let replies : Replies := fun _ => .response { status := 200, body := body.toUTF8.data.toList }
    let tree := Tree.empty ["work"]
    let outcome := run context tree replies ["figma", "to-react", "K", "1-2", "-f", "mui-jsx"]
    ∃ stem source, IsStem stem ∧
      outcome.tree.file? =
        Function.update tree.file? ["work", stem ++ ".jsx"] (some (.text source)) := by
  intro context body replies tree outcome
  have asked : parse ["figma", "to-react", "K", "1-2", "-f", "mui-jsx"] =
      .ok (.toReact "K" "1-2" { framework := "mui-jsx" }) := rfl
  have here : workingPlace tree = ["work"] := workingPlace_of_straight (by decide)
  have extension : extensionOf "mui-jsx" = "jsx" := by decide
  have written : (outcome.tree.file? ["work", "SS.jsx"]).isSome = true := by decide +kernel
  have absent : tree.file? ["work", "SS.jsx"] = none := by decide +kernel
  rcases (run_stays_in_working_directory asked (Or.inl rfl) context tree replies).2 with
    unchanged | ⟨stem, source, isStem, update, -⟩
  · have same : outcome.tree.file? ["work", "SS.jsx"] = none := by
      rw [unchanged, absent]
    rw [same] at written
    cases written
  · rw [here, extension, String.append_assoc] at update
    exact ⟨stem, source, isStem, update⟩

end CommandLine

end DesignCompiler
