import Phrasebook.Proofs.Call
import Phrasebook.Proofs.Component.Scan
import Phrasebook.Proofs.Extraction.Plugin

namespace Phrasebook.ComponentPlugin

/-- What a plugin is asked for: an extraction, or a search by patterns. -/
inductive Use where
  | extract (file : String) (code : List Char)
  | search (file : String) (code : List Char)

def Use.isExtract : Use → Bool
  | extract _ _ => true
  | search _ _ => false

section

variable (plugin : ComponentPlugin) (parsers : Script.Parsers)

def use : Use → ComponentPlugin
  | .extract file code => (plugin.extract parsers file code).plugin
  | .search _ _ => plugin

def useAll (uses : List Use) : ComponentPlugin := uses.foldl (use · parsers) plugin

theorem use_eq (one : Use) : plugin.use parsers one = if one.isExtract then plugin.load else plugin := by
  cases one <;> rfl

theorem useAll_eq (uses : List Use) :
    plugin.useAll parsers uses = if uses.any Use.isExtract then plugin.load else plugin := by
  induction uses generalizing plugin with
  | nil => rfl
  | cons one rest ih =>
    have next : plugin.useAll parsers (one :: rest) = (plugin.use parsers one).useAll parsers rest := rfl
    rw [next, ih, use_eq, List.any_cons]
    cases one.isExtract with
    | false => rfl
    | true =>
      rw [if_pos rfl, load_load, ite_self]
      rfl

theorem extract_useAll (uses : List Use) (file : String) (code : List Char) :
    (plugin.useAll parsers uses).extract parsers file code = plugin.extract parsers file code := by
  rw [useAll_eq]
  split
  · exact extract_load plugin parsers file code
  · rfl

theorem extractSync_useAll (uses : List Use) (file : String) (code : List Char) :
    (plugin.useAll parsers uses).extractSync file code = plugin.extractSync file code := by
  rw [useAll_eq]
  split
  · exact extractSync_load plugin file code
  · rfl

end

/-- The items an extraction chooses from: those of the syntax tree, if there is a grammar and the pass
    over the tree ends with any; otherwise those found without a tree. -/
inductive Draws (plugin : ComponentPlugin) (parsers : Script.Parsers) (file : String) (code : List Char) :
    List Item → Prop where
  | tree {grammar : ComponentGrammar} {found : List Item} (given : plugin.grammar = some grammar)
      (ends : plugin.structuralItems parsers grammar file code = .ok found) (filled : found ≠ []) :
      Draws plugin parsers file code found
  | fallback {found : List Item}
      (nothing : ∀ grammar items, plugin.grammar = some grammar →
        plugin.structuralItems parsers grammar file code = .ok items → items = [])
      (ends : (plugin.scan file).fallbackItems parsers code = .ok found) :
      Draws plugin parsers file code found

section

variable {plugin : ComponentPlugin} {parsers : Script.Parsers} {file : String} {code : List Char}

theorem usableGrammar?_load (untried : plugin.loading = .untried) :
    plugin.load.usableGrammar? = plugin.grammar := by
  cases given : plugin.grammar <;> simp [usableGrammar?, load, untried, given]

theorem structuralItems_load (grammar : ComponentGrammar) :
    plugin.load.structuralItems parsers grammar file code =
      plugin.structuralItems parsers grammar file code := by
  unfold structuralItems
  rw [load_scan]

theorem structuralPass_load (untried : plugin.loading = .untried) :
    (plugin.load.structuralPass parsers file code).1 =
      match plugin.grammar with
      | none => []
      | some grammar =>
        match plugin.structuralItems parsers grammar file code with
        | .ok items => items
        | .error _ => [] := by
  unfold structuralPass
  rw [usableGrammar?_load untried]
  cases plugin.grammar with
  | none => rfl
  | some grammar =>
    simp only [structuralItems_load]
    cases plugin.structuralItems parsers grammar file code <;> rfl

theorem structuralPass_load_of_ok (untried : plugin.loading = .untried) {grammar : ComponentGrammar}
    {items : List Item} (given : plugin.grammar = some grammar)
    (ends : plugin.structuralItems parsers grammar file code = .ok items) :
    (plugin.load.structuralPass parsers file code).1 = items := by
  rw [structuralPass_load untried, given]
  simp only [ends]

theorem exists_of_structuralPass_load (untried : plugin.loading = .untried)
    (filled : (plugin.load.structuralPass parsers file code).1 ≠ []) :
    ∃ grammar, plugin.grammar = some grammar ∧ plugin.structuralItems parsers grammar file code =
      .ok (plugin.load.structuralPass parsers file code).1 := by
  rw [structuralPass_load untried] at filled ⊢
  cases given : plugin.grammar with
  | none => simp [given] at filled
  | some grammar =>
    refine ⟨grammar, rfl, ?_⟩
    cases result : plugin.structuralItems parsers grammar file code with
    | error fault => simp [given, result] at filled
    | ok items => simp only [result]

theorem draws_iff (untried : plugin.loading = .untried) {found : List Item} :
    plugin.Draws parsers file code found ↔
      (if (plugin.load.structuralPass parsers file code).1.isEmpty then
          (plugin.scan file).fallbackItems parsers code
        else .ok (plugin.load.structuralPass parsers file code).1) = .ok found := by
  constructor
  · rintro (⟨given, ends, filled⟩ | ⟨nothing, ends⟩)
    · rw [structuralPass_load_of_ok untried given ends, if_neg (by simpa using filled)]
    · have empty : (plugin.load.structuralPass parsers file code).1 = [] := by
        by_contra filled
        obtain ⟨grammar, given, result⟩ := exists_of_structuralPass_load untried filled
        exact filled (nothing grammar _ given result)
      rw [empty, List.isEmpty_nil, if_pos rfl]
      exact ends
  · intro drawn
    split at drawn
    · rename_i empty
      refine .fallback (fun grammar items given result => ?_) drawn
      rw [← structuralPass_load_of_ok untried given result, List.isEmpty_iff.1 empty]
    · rename_i filled
      cases drawn
      rw [List.isEmpty_iff] at filled
      obtain ⟨grammar, given, result⟩ := exists_of_structuralPass_load untried filled
      exact .tree given result filled

theorem extract_eq_ok_iff (untried : plugin.loading = .untried) {items : List Item} :
    (plugin.extract parsers file code).outcome = .ok items ↔
      ∃ found, plugin.Draws parsers file code found ∧ Item.dedupe found = items := by
  simp only [draws_iff untried, ← load_scan plugin]
  exact map_eq_ok_iff

theorem structuralItems_eq_ok {grammar : ComponentGrammar} {items : List Item}
    (h : plugin.structuralItems parsers grammar file code = .ok items) :
    ∃ root, grammar (Text.encode code) = .ok root ∧
      (plugin.scan file).structuralItems parsers (Text.encode code) root = .ok items := by
  cases parsed : grammar (Text.encode code) with
  | error message =>
    simp [structuralItems, parsed, Except.mapError, Bind.bind, Except.bind] at h
  | ok root =>
    cases scanned : (plugin.scan file).structuralItems parsers (Text.encode code) root with
    | error fault =>
      simp [structuralItems, parsed, scanned, Except.mapError, Bind.bind, Except.bind] at h
    | ok found =>
      simp only [structuralItems, parsed, scanned, Except.mapError, Bind.bind, Except.bind] at h
      cases h
      exact ⟨root, rfl, scanned⟩

theorem Draws.keyed {found : List Item} (h : plugin.Draws parsers file code found) : Keyed found := by
  cases h with
  | fallback _ ends => exact Component.Scan.keyed_fallbackItems ends
  | tree _ ends _ =>
    obtain ⟨root, _, scanned⟩ := structuralItems_eq_ok ends
    exact Component.Scan.keyed_structuralItems scanned

end

def matched (plugin : ComponentPlugin) (file : String) (code : List Char) : List Item :=
  (plugin.language.dialect.candidates plugin.names code).map (Dialect.Find.item file code 0)

theorem extractSync_eq (plugin : ComponentPlugin) (file : String) (code : List Char) :
    plugin.extractSync file code = firstsBy Item.key (plugin.matched file code) :=
  Dialect.itemsAt_eq ..

/-- A plugin in use, from its making on. The grammar is asked for by the first extraction, and by
    nothing after or before it; until then the plugin counts as available as it was made, and from
    then on if there is a grammar. An extraction keeps the first item of every key, either of the
    syntax tree or, if that gives nothing or breaks down, of the search without one. -/
theorem useAll_extract (language : Language) (names : List String) (available : Bool)
    (grammar : Option ComponentGrammar) (parsers : Script.Parsers) (uses : List Use) :
    let made := create language names available grammar
    let plugin := made.useAll parsers uses
    let asked := uses.any Use.isExtract
    plugin.loads = (if asked then 1 else 0) ∧
      plugin.available = (if asked then grammar.isSome else available) ∧
      (∀ file code items, (plugin.extract parsers file code).outcome = .ok items ↔
        ∃ found, made.Draws parsers file code found ∧ Item.dedupe found = items) ∧
      (∀ file code found, made.Draws parsers file code found →
        AreFirsts Item.key found (Item.dedupe found) ∧ Keyed (Item.dedupe found)) ∧
      ∀ file code,
        AreFirsts Item.key (made.matched file code) (plugin.extractSync file code) ∧
          Keyed (plugin.extractSync file code) := by
  intro made plugin asked
  have untried : made.loading = .untried := rfl
  refine ⟨?_, ?_, fun file code items => ?_, fun file code found drawn => ?_, fun file code => ?_⟩
  · simp only [plugin, useAll_eq]
    split <;> rfl
  · simp only [plugin, useAll_eq]
    split <;> rfl
  · simp only [plugin, extract_useAll]
    exact extract_eq_ok_iff untried
  · have firsts := areFirsts_firstsBy Item.key found
    exact ⟨firsts, drawn.keyed.of_sublist firsts.sublist⟩
  · simp only [plugin, extractSync_useAll]
    refine ⟨?_, Component.Scan.keyed_searchItems code⟩
    rw [extractSync_eq]
    exact areFirsts_firstsBy Item.key _

def twice : List Char := "\x7bt('k')\x7d \x7bt('k')\x7d".toList

/-- A plugin that was made unavailable has its grammar after all: the tree gives one key, at its first
    place. -/
theorem useAll_extract_twice :
    let root := Syntax.Node.branch "document" 0
      [.leaf "expression" true 0 8, .leaf "text" true 8 9, .leaf "expression" true 9 17]
    let grammar : ComponentGrammar := fun _ => .ok root
    let parsers : Script.Parsers := fun _ _ => .script [.stringCall 0 1 6]
    let made := create .svelte ["t"] false (some grammar)
    let plugin := made.useAll parsers [.search "a" twice, .extract "a" twice, .extract "b" twice]
    let item := Item.create "k" "a" 1 2 none
    plugin.loads = 1 ∧ plugin.available = true ∧
      (plugin.extract parsers "a" twice).outcome = .ok [item] ∧
      ∃ found, made.Draws parsers "a" twice found ∧ AreFirsts Item.key found [item] := by
  intro root grammar parsers made plugin item
  obtain ⟨loads, available, returns, draws, _⟩ := useAll_extract .svelte ["t"] false (some grammar) parsers
    [.search "a" twice, .extract "a" twice, .extract "b" twice]
  have outcome : (plugin.extract parsers "a" twice).outcome = .ok [item] := by decide +kernel
  obtain ⟨found, drawn, kept⟩ := (returns "a" twice _).1 outcome
  have firsts := (draws "a" twice found drawn).1
  rw [kept] at firsts
  exact ⟨loads, available, outcome, found, drawn, firsts⟩

end Phrasebook.ComponentPlugin
