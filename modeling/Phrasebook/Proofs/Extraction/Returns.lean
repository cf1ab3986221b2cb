import Phrasebook.Proofs.Component.Plugin
import Phrasebook.Proofs.Extraction.Script

namespace Phrasebook

namespace Component

def Section.Overshoots (parsers : Script.Parsers) (part : Section) : Prop :=
  ∃ tree, (Script.recover parsers part.typed false part.content).tree = some tree ∧ tree.Overshoots

/-- The sections of a component that are parsed when it is read without its syntax tree. -/
def scripts (code : List Char) : List Section :=
  (Sections.ofText code).moduleScript.toList ++ (Sections.ofText code).script.toList

namespace Scan

variable {scan : Scan} {parsers : Script.Parsers} {code : List Char}

theorem fails_sectionItems_iff {part : Section} :
    Fails (scan.sectionItems parsers code part) ↔ part.Overshoots parsers := by
  unfold sectionItems Section.Overshoots
  cases parsed : (Script.recover parsers part.typed false part.content).tree with
  | none => exact ⟨fun fails => absurd fails (not_fails_ok _), nofun⟩
  | some tree =>
    simp only [Option.some.injEq, exists_eq_left']
    exact fails_map_iff.trans (Extraction.fails_keyedCalls_iff scan.names tree)

theorem fails_fallbackItems_iff :
    Fails (scan.fallbackItems parsers code) ↔ ∃ part ∈ scripts code, part.Overshoots parsers := by
  have parts : Fails (scan.fallbackItems parsers code) ↔
      Fails ((scripts code).mapM (scan.sectionItems parsers code)) := fails_map_iff
  rw [parts, fails_mapM_iff]
  simp only [fails_sectionItems_iff]

end Scan

end Component

namespace ComponentPlugin

def Finds (plugin : ComponentPlugin) (parsers : Script.Parsers) (file : String) (code : List Char)
    (found : List Item) : Prop :=
  ∃ grammar, plugin.grammar = some grammar ∧
    plugin.structuralItems parsers grammar file code = .ok found ∧ found ≠ []

section

variable {plugin : ComponentPlugin} {parsers : Script.Parsers} {file : String} {code : List Char}

/-- However the pass over the tree came to nothing, the extraction is the search without a tree. -/
theorem extract_of_not_finds (untried : plugin.loading = .untried)
    (nothing : ∀ found, ¬ plugin.Finds parsers file code found) :
    (plugin.extract parsers file code).outcome =
      ((plugin.scan file).fallbackItems parsers code).map Item.dedupe := by
  have without : (plugin.load.structuralPass parsers file code).1 = [] := by
    by_contra filled
    obtain ⟨grammar, given, result⟩ := exists_of_structuralPass_load untried filled
    exact nothing _ ⟨grammar, given, result, filled⟩
  unfold extract
  simp only [without, List.isEmpty_nil, if_true, load_scan]

theorem fails_extract_iff (untried : plugin.loading = .untried) :
    Fails (plugin.extract parsers file code).outcome ↔
      (∀ found, ¬ plugin.Finds parsers file code found) ∧
        ∃ part ∈ Component.scripts code, part.Overshoots parsers := by
  by_cases finds : ∃ found, plugin.Finds parsers file code found
  · obtain ⟨found, grammar, given, ends, filled⟩ := finds
    have returned := (extract_eq_ok_iff untried).2 ⟨found, .tree given ends filled, rfl⟩
    rw [returned]
    refine ⟨fun fails => absurd fails (not_fails_ok _), fun ⟨nothing, _⟩ => ?_⟩
    exact absurd ⟨grammar, given, ends, filled⟩ (nothing found)
  · have nothing := not_exists.1 finds
    rw [extract_of_not_finds untried nothing, fails_map_iff, Component.Scan.fails_fallbackItems_iff]
    exact (and_iff_right nothing).symm

end

end ComponentPlugin

/-- When extractions end with a list. A script that is searched on request, or typed, does unless it is
    parsed without a mistake and a call in it overshoots. A component does, whatever its grammar is,
    where the pass over its tree finds an item; where that comes to nothing, for whatever reason, it is
    read section by section, and ends with a list unless a call in a parsed section overshoots. -/
theorem extractions_return_iff (options : ExtractOptions) (language : Language) (names : List String)
    (available : Bool) (grammar : Option ComponentGrammar) (uses : List ComponentPlugin.Use)
    (parsers : Script.Parsers) (file : String) (code : List Char) :
    let searching := { options with fallback := true }
    let made := ComponentPlugin.create language names available grammar
    let outcome := ((made.useAll parsers uses).extract parsers file code).outcome
    let typedMistake := Script.Mistaken parsers true (Extraction.endsWith file ".tsx") code
    let mistake := Script.Mistaken parsers false (Extraction.endsWith file ".jsx") code
    let typedOvershoot := Script.Overshoots parsers true (Extraction.endsWith file ".tsx") code
    let overshoot := Script.Overshoots parsers false (Extraction.endsWith file ".jsx") code
    ((∃ items, Extraction.untyped parsers searching file code = .ok items) ↔ ¬ overshoot) ∧
      (mistake → Extraction.untyped parsers searching file code =
        .ok (Extraction.bySearch searching file code)) ∧
      ((∃ items, Extraction.typed parsers options file code = .ok items) ↔
        ¬ typedOvershoot ∧ (typedMistake → ¬ overshoot)) ∧
      (typedMistake →
        Extraction.typed parsers options file code = Extraction.untyped parsers searching file code) ∧
      ((∃ items, outcome = .ok items) ↔
        (∃ found, made.Finds parsers file code found) ∨
          ∀ part ∈ Component.scripts code, ¬ part.Overshoots parsers) ∧
      ((∀ found, ¬ made.Finds parsers file code found) →
        outcome = ((made.scan file).fallbackItems parsers code).map Item.dedupe) := by
  intro searching made outcome typedMistake mistake typedOvershoot overshoot
  have same : outcome = (made.extract parsers file code).outcome := by
    simp only [outcome, ComponentPlugin.extract_useAll]
  refine ⟨?_, Extraction.untyped_of_mistaken rfl, ?_, Extraction.typed_of_mistaken, ?_, ?_⟩
  · rw [← not_fails_iff, Extraction.fails_untyped_iff rfl]
  · rw [← not_fails_iff, Extraction.fails_typed_iff, not_or, not_and]
  · rw [← not_fails_iff, same, ComponentPlugin.fails_extract_iff rfl, not_and_or]
    simp only [not_forall, not_not, not_exists, not_and]
  · intro nothing
    rw [same]
    exact ComponentPlugin.extract_of_not_finds rfl nothing

def beyondLast : List Char := "f('\\u\x7b110000\x7d')".toList

namespace BeyondLast

/-- The call after one that has a key. -/
def script : List Char := "t('k'); ".toList ++ beyondLast

def component : List Char := "<script>".toList ++ beyondLast ++ "</script>".toList

def parsers : Script.Parsers := fun _ source =>
  if source = Text.encode script then
    .branch "program" 0
      [.branch "expression_statement" 0 [.stringCall 0 1 6, .leaf ";" false 6 7],
        .branch "expression_statement" 8 [.stringCall 8 9 23]]
  else .script [.stringCall 0 1 15]

def grammar : ComponentGrammar := fun _ =>
  .ok (.branch "document" 0 [.branch "script_element" 0
    [.leaf "start_tag" true 0 8, .leaf "raw_text" true 8 23, .leaf "end_tag" true 23 32]])

end BeyondLast

/-- Such a call takes a script its keys, though it is none of the calls looked for. In a component the
    search fails as the pass over the tree does, so that no grammar is better than another. -/
theorem beyondLast_not_returned :
    let parsers := BeyondLast.parsers
    let searching := { ExtractOptions.default with fallback := true }
    let plugin := ComponentPlugin.create .svelte ["t"] true
    let broken : ComponentGrammar := fun _ => .error "broken"
    Extraction.untyped parsers searching "a.js" BeyondLast.script = .error (.literal .aboveLast) ∧
      Extraction.typed parsers searching "a.ts" BeyondLast.script = .error (.literal .aboveLast) ∧
      ∀ grammar ∈ [none, some broken, some BeyondLast.grammar],
        ((plugin grammar).extract parsers "a.svelte" BeyondLast.component).outcome =
          .error .aboveLast := by
  decide +kernel

end Phrasebook
