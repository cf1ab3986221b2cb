import Phrasebook.Proofs.Component.Plugin
import Phrasebook.Proofs.Convention.Lowered

namespace Phrasebook

open Text

namespace Component

namespace Block

variable (tag : Tag)

theorem firstFrom?_succ (accept : Block → Bool) (index : Nat) (text : List Char) :
    firstFrom? tag accept (index + 1) text =
      (firstFrom? tag accept index text).map (Prod.map (· + 1) id) := by
  induction text generalizing index with
  | nil => rfl
  | cons c text ih =>
    rw [firstFrom?, firstFrom?]
    cases (at? tag (c :: text)).filter accept with
    | none => exact ih (index + 1)
    | some block => rfl

theorem first?_cons_feed (accept : Block → Bool) (text : List Char) :
    first? tag accept ('\n' :: text) = (first? tag accept text).map (Prod.map (· + 1) id) :=
  firstFrom?_succ tag accept 0 text

end Block

def Section.further (part : Section) : Section :=
  { part with start := part.start + 1, stop := part.stop + 1, contentStart := part.contentStart + 1 }

theorem Section.ofBlock_further (found : Nat × Block) :
    ofBlock (Prod.map (· + 1) id found) = (ofBlock found).further := by
  simp only [ofBlock, further, Prod.map_fst, Prod.map_snd, id_eq, Nat.add_right_comm]

theorem map_ofBlock_cons_feed (tag : Tag) (accept : Block → Bool) (text : List Char) :
    (Block.first? tag accept ('\n' :: text)).map Section.ofBlock =
      ((Block.first? tag accept text).map Section.ofBlock).map Section.further := by
  rw [Block.first?_cons_feed, Option.map_map, Option.map_map]
  congr 1
  funext found
  exact Section.ofBlock_further found

theorem isSome_template_cons_feed (text : List Char) :
    (Sections.ofText ('\n' :: text)).template.isSome = (Sections.ofText text).template.isSome := by
  have template : templateText ('\n' :: text) = '\n' :: templateText text := rfl
  have blank : isBlank '\n' = true := by decide
  simp only [Sections.ofText, template, List.all_cons, blank, Bool.true_and]
  split <;> rfl

namespace Scan

variable {scan : Scan} (parsers : Script.Parsers)

theorem searchItems_cons_feed (inLine : ∀ name ∈ scan.names, name.toList.head? ≠ some '\n')
    (text : List Char) :
    scan.searchItems ('\n' :: text) = (scan.searchItems text).map (Item.lowered 1) :=
  scan.language.dialect.items_cons_feed scan.file inLine text

theorem sectionItems_cons_feed (code : List Char) (part : Section) :
    scan.sectionItems parsers ('\n' :: code) part.further =
      (scan.sectionItems parsers code part).map (List.map (Item.lowered 1)) := by
  have parsed : Script.recover parsers part.further.typed false part.further.content =
      Script.recover parsers part.typed false part.content := rfl
  rw [sectionItems, sectionItems, parsed]
  cases (Script.recover parsers part.typed false part.content).tree with
  | none =>
    exact congrArg Except.ok
      (Dialect.script.itemsAt_cons_feed scan.file scan.names code part.contentStart part.content)
  | some tree =>
    have base : Position.ofIndex ('\n' :: code) part.further.contentStart =
        ⟨(Position.ofIndex code part.contentStart).line + 1,
          (Position.ofIndex code part.contentStart).column⟩ :=
      Position.ofIndex_cons_feed code part.contentStart
    have lower : ∀ inner : Position,
        (Position.ofIndex ('\n' :: code) part.further.contentStart).within inner =
          ⟨((Position.ofIndex code part.contentStart).within inner).line + 1,
            ((Position.ofIndex code part.contentStart).within inner).column⟩ := by
      intro inner
      have line : 1 ≤ (Position.ofIndex code part.contentStart).line := Nat.le_add_left 1 _
      simp only [base, Position.within, Position.mk.injEq, and_true]
      omega
    dsimp only
    cases Extraction.keyedCalls scan.names tree with
    | error fault => rfl
    | ok calls =>
      refine congrArg Except.ok ?_
      rw [List.map_map]
      refine List.map_congr_left fun call _ => ?_
      rw [lower call.position]
      rfl

theorem fallbackItems_cons_feed (inLine : ∀ name ∈ scan.names, name.toList.head? ≠ some '\n')
    (code : List Char) :
    scan.fallbackItems parsers ('\n' :: code) =
      (scan.fallbackItems parsers code).map (List.map (Item.lowered 1)) := by
  have scripts : (Sections.ofText ('\n' :: code)).moduleScript.toList ++
      (Sections.ofText ('\n' :: code)).script.toList =
        ((Sections.ofText code).moduleScript.toList ++ (Sections.ofText code).script.toList).map
          Section.further := by
    have moduleScript := map_ofBlock_cons_feed .script (marksModule ·.attributes) code
    have script := map_ofBlock_cons_feed .script (!marksModule ·.attributes) code
    rw [List.map_append, ← Option.toList_map, ← Option.toList_map]
    exact congrArg₂ (fun one other : Option Section => one.toList ++ other.toList) moduleScript script
  have each : ∀ parts : List Section,
      (parts.map Section.further).mapM (scan.sectionItems parsers ('\n' :: code)) =
        (parts.mapM (scan.sectionItems parsers code)).map (List.map (List.map (Item.lowered 1))) := by
    intro parts
    rw [List.mapM_map, ← mapM_map]
    congr 1
    funext part
    exact sectionItems_cons_feed parsers code part
  have masked : maskBlocks ('\n' :: code) = '\n' :: maskBlocks code := rfl
  rw [fallbackItems, fallbackItems, isSome_template_cons_feed, masked,
    searchItems_cons_feed inLine, scripts, each]
  cases ((Sections.ofText code).moduleScript.toList ++ (Sections.ofText code).script.toList).mapM
      (scan.sectionItems parsers code) with
  | error fault => rfl
  | ok found =>
    refine congrArg Except.ok ?_
    rw [List.map_append, List.map_flatten]
    split <;> rfl

end Scan

end Component

/-- What one line feed in front moves down by one line, some of them move down by as many lines. -/
theorem lowered_of_feeds {α : Type} (lower : Nat → α → α) (none' : ∀ a, lower 0 a = a)
    (twice : ∀ lines lines' a, lower lines' (lower lines a) = lower (lines + lines') a)
    {found : List Char → α} (step : ∀ code, found ('\n' :: code) = lower 1 (found code)) (lines : Nat)
    (code : List Char) : found (List.replicate lines '\n' ++ code) = lower lines (found code) := by
  induction lines with
  | zero => exact (none' _).symm
  | succ lines ih => rw [List.replicate_succ, List.cons_append, step, ih, twice]

namespace ComponentPlugin

theorem outcome_extract_of_grammar_eq_none {plugin : ComponentPlugin} (given : plugin.grammar = none)
    (parsers : Script.Parsers) (file : String) (code : List Char) :
    (plugin.extract parsers file code).outcome =
      ((plugin.scan file).fallbackItems parsers code).map Item.dedupe := by
  have unloaded : plugin.load.usableGrammar? = none := by
    unfold usableGrammar? load
    split <;> simp [given]
  have pass : plugin.load.structuralPass parsers file code = ([], []) := by
    rw [structuralPass, unloaded]
  rw [extract, pass, load_scan]
  rfl

/-- Line feeds in front of a component move down what is found in it without a syntax tree, whatever parsers
    read its scripts, and change nothing else: not the keys, their order, their columns or their
    parameters. -/
theorem found_below_feeds (plugin : ComponentPlugin)
    (inLine : ∀ name ∈ plugin.names, name.toList.head? ≠ some '\n') (file : String) (lines : Nat)
    (code : List Char) :
    let below := List.replicate lines '\n' ++ code
    let lower := List.map (Item.lowered lines)
    plugin.extractSync file below = lower (plugin.extractSync file code) ∧
      ∀ parsers,
        (plugin.scan file).fallbackItems parsers below =
          ((plugin.scan file).fallbackItems parsers code).map lower ∧
        (plugin.grammar = none →
          (plugin.extract parsers file below).outcome =
            (plugin.extract parsers file code).outcome.map lower) := by
  intro below lower
  have inLine' : ∀ name ∈ (plugin.scan file).names, name.toList.head? ≠ some '\n' := inLine
  have fallback : ∀ parsers, (plugin.scan file).fallbackItems parsers below =
      ((plugin.scan file).fallbackItems parsers code).map lower := by
    intro parsers
    refine lowered_of_feeds (fun lines => Except.map (List.map (Item.lowered lines))) ?_ ?_
      (Component.Scan.fallbackItems_cons_feed parsers inLine') lines code
    · rintro (fault | items)
      · rfl
      · exact congrArg Except.ok (Item.map_lowered_zero items)
    · rintro m n (fault | items)
      · rfl
      · exact congrArg Except.ok (Item.map_lowered_lowered m n items)
  refine ⟨?_, fun parsers => ⟨fallback parsers, fun given => ?_⟩⟩
  · exact lowered_of_feeds (fun lines => List.map (Item.lowered lines)) Item.map_lowered_zero
      Item.map_lowered_lowered (Component.Scan.searchItems_cons_feed inLine') lines code
  · rw [outcome_extract_of_grammar_eq_none given, outcome_extract_of_grammar_eq_none given, fallback]
    cases (plugin.scan file).fallbackItems parsers code with
    | error fault => rfl
    | ok items => exact congrArg Except.ok (Item.firstsBy_map_lowered lines items)

/-- A script and a template, two lines further down. -/
theorem found_below_feeds_greeting :
    let plugin := create .svelte ["$t", "t"] true none
    let parsers : Script.Parsers := fun _ _ => .script [.stringCall 0 1 6]
    let code := "<script>t('a')</script>\n\x7b$t('b \x7bn\x7d')\x7d".toList
    let below := List.replicate 2 '\n' ++ code
    let script := Item.create "a" "a.svelte" 3 9 none
    let template := Item.create "b \x7bn\x7d" "a.svelte" 4 1 none
    (∀ name ∈ plugin.names, name.toList.head? ≠ some '\n') ∧
      plugin.extractSync "a.svelte" below = [template, script] ∧
        (plugin.extract parsers "a.svelte" below).outcome = .ok [script, template] ∧
          template.params = ["n"] := by
  intro plugin parsers code below script template
  have inLine : ∀ name ∈ plugin.names, name.toList.head? ≠ some '\n' := by decide +kernel
  obtain ⟨searched, others⟩ := found_below_feeds plugin inLine "a.svelte" 2 code
  refine ⟨inLine, searched.trans ?_, ((others parsers).2 rfl).trans ?_, ?_⟩
  · decide +kernel
  · decide +kernel
  · decide +kernel

end ComponentPlugin

end Phrasebook
