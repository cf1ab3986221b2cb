import Phrasebook.Component.Scan
import Phrasebook.Proofs.Syntax.Place

namespace Phrasebook.Component

open Syntax Node

theorem firstDescendant?_eq (kind : String) (node : Node) :
    firstDescendant? kind node = node.preorder.find? (·.kind == kind) := by
  rw [firstDescendant?, visit_singleton]

theorem mem_of_firstDescendant? {kind : String} {node inner : Node}
    (found : firstDescendant? kind node = some inner) : inner ∈ node.preorder := by
  rw [firstDescendant?_eq] at found
  exact List.mem_of_find?_eq_some found

/-- The region covers a byte of a source of some length. -/
def Region.Covers (length : Nat) (region : Region) (i : Nat) : Prop :=
  region.start ≤ i ∧ i < region.stopIn length

theorem Region.stopIn_of_nonneg {region : Region} (inside : 0 ≤ region.stop) (length : Nat) :
    (region.stopIn length : Int) = region.stop := by
  rw [stopIn, if_neg (Int.not_lt.2 inside), Int.toNat_of_nonneg inside]

theorem Region.not_covers_of_le {a b : Region} (inside : 0 ≤ a.stop) (apart : a.stop ≤ b.start)
    (length i : Nat) : ¬ (a.Covers length i ∧ b.Covers length i) := by
  rintro ⟨first, second⟩
  have bound := a.stopIn_of_nonneg inside length
  have before := first.2
  have behind := second.1
  omega

/-- An interpolation without text that ends before it could have been opened. -/
def isStunted (node : Node) : Bool :=
  node.kind == "interpolation" && (firstDescendant? "raw_text" node).isNone && node.stop < 2

/-- What the region of a node can be: the text of a script, the bytes of a node inside, or those of the
    node itself without some at its ends. -/
inductive Yields (language : Language) (node : Node) (region : Region) : Prop
  | script (kind : node.kind = "script_element") (raw : Node) (mine : raw ∈ node.namedChildren)
      (text : raw.kind = "raw_text") (starts : region.start = raw.start)
      (stops : region.stop = raw.stop)
  | inner (kind : node.kind ≠ "script_element") (plain : node.kind ≠ "style_element") (part : Node)
      (inside : part ∈ node.preorder) (starts : region.start = part.start)
      (stops : region.stop = part.stop)
  | trimmed (kind : node.kind ≠ "script_element") (plain : node.kind ≠ "style_element")
      (starts : node.start ≤ region.start) (stops : region.stop ≤ node.stop)
      (inside : 0 ≤ region.stop ∨ language = .vue ∧ isStunted node = true)

variable {source : List UInt8} {node : Node} {region : Region}

theorem Yields.of_scriptRegion? {language : Language} (kind : node.kind = "script_element")
    (found : scriptRegion? source node = some region) : Yields language node region := by
  obtain ⟨raw, first, same⟩ := Option.bind_eq_some_iff.1 found
  cases same
  refine .script kind raw (List.mem_of_find?_eq_some first) ?_ rfl rfl
  simpa using List.find?_some first

theorem tagRegion?_eq_some (found : Svelte.tagRegion? source node = some region) :
    node.start ≤ region.start ∧ region.stop = (node.stop - 1 : Nat) := by
  simp only [Svelte.tagRegion?, Option.ite_none_left_eq_some] at found
  cases found.2
  exact ⟨by dsimp only; omega, rfl⟩

theorem Yields.of_svelteJudge (taken : Svelte.judge source node = .take region) :
    Yields .svelte node region := by
  unfold Svelte.judge at taken
  by_cases script : node.kind = "script_element"
  · rw [if_pos (beq_iff_eq.2 script), Verdict.ofOption_eq_take_iff] at taken
    exact .of_scriptRegion? script taken
  · rw [if_neg (by simpa using script)] at taken
    by_cases style : node.kind = "style_element"
    · rw [if_pos (beq_iff_eq.2 style)] at taken
      cases taken
    · rw [if_neg (by simpa using style)] at taken
      split at taken
      · have ⟨starts, stops⟩ := tagRegion?_eq_some (Verdict.ofOption_eq_take_iff.1 taken)
        exact .trimmed script style starts (by omega) (.inl (by omega))
      · cases taken

theorem Yields.of_interpolation (kind : node.kind = "interpolation") :
    Yields .vue node (Vue.interpolationRegion node) := by
  have script : node.kind ≠ "script_element" := by rw [kind]; decide
  have style : node.kind ≠ "style_element" := by rw [kind]; decide
  unfold Vue.interpolationRegion
  cases found : firstDescendant? "raw_text" node with
  | some raw => exact .inner script style raw (mem_of_firstDescendant? found) rfl rfl
  | none =>
    refine .trimmed script style ?_ ?_ ?_
    · exact Nat.le_add_right _ _
    · dsimp only
      omega
    · rw [isStunted, kind, found]
      by_cases short : node.stop < 2
      · exact .inr ⟨rfl, by simp [short]⟩
      · exact .inl (by dsimp only; omega)

theorem Yields.of_directiveRegion? (script : node.kind ≠ "script_element")
    (style : node.kind ≠ "style_element") (found : Vue.directiveRegion? source node = some region) :
    Yields .vue node region := by
  obtain ⟨value, first, found⟩ := Option.bind_eq_some_iff.1 found
  split at found
  · cases found
  · cases found
    exact .inner script style value (mem_of_firstDescendant? first) rfl rfl

theorem Yields.of_vueJudge (taken : Vue.judge source node = .take region) :
    Yields .vue node region := by
  unfold Vue.judge at taken
  by_cases script : node.kind = "script_element"
  · rw [if_pos (beq_iff_eq.2 script), Verdict.ofOption_eq_take_iff] at taken
    exact .of_scriptRegion? script taken
  · rw [if_neg (by simpa using script)] at taken
    by_cases interpolation : node.kind = "interpolation"
    · rw [if_pos (beq_iff_eq.2 interpolation)] at taken
      cases taken
      exact .of_interpolation interpolation
    · rw [if_neg (by simpa using interpolation)] at taken
      split at taken
      · next directive =>
        refine .of_directiveRegion? script ?_ (Verdict.ofOption_eq_take_iff.1 taken)
        rw [beq_iff_eq.1 directive]
        decide
      · split at taken <;> cases taken

theorem Yields.of_judge {language : Language} (taken : language.judge source node = .take region) :
    Yields language node region := by
  cases language with
  | svelte => exact .of_svelteJudge taken
  | vue => exact .of_vueJudge taken

/-- A region and the node of a component that it belongs to. -/
structure Origin (language : Language) (source : List UInt8) (root : Node) (site : Site)
    (region : Region) : Prop where
  stands : root.at? site.1 = some site.2
  taken : language.judge source site.2 = .take region
  within : site.2.start ≤ region.start ∧ region.stop ≤ site.2.stop
  script : site.2.kind = "script_element" → ∃ raw ∈ site.2.namedChildren,
    raw.kind = "raw_text" ∧ region.start = raw.start ∧ region.stop = raw.stop
  style : site.2.kind ≠ "style_element"
  outside :
    ¬ Under (fun node => node.kind == "script_element" || node.kind == "style_element") root site.1

theorem Yields.within {language : Language} (yields : Yields language node region)
    (nested : node.Nested) : node.start ≤ region.start ∧ region.stop ≤ node.stop := by
  cases yields with
  | script kind raw mine text starts stops =>
    cases nested with
    | intro _ inside _ _ =>
      have bounds := inside raw (List.mem_filter.1 mine).1
      omega
  | inner kind plain part inside starts stops =>
    obtain ⟨place, stands⟩ := mem_preorder_iff.1 inside
    have bounds := (nested.within stands).2
    omega
  | trimmed kind plain starts stops => exact ⟨starts, stops⟩

theorem Yields.stop_nonneg {language : Language} (yields : Yields language node region)
    (full : language = .vue → isStunted node = false) : 0 ≤ region.stop := by
  cases yields with
  | script kind raw mine text starts stops => omega
  | inner kind plain part inside starts stops => omega
  | trimmed kind plain starts stops inside =>
    rcases inside with inside | ⟨vue, stunted⟩
    · exact inside
    · rw [full vue] at stunted
      cases stunted

theorem judge_stops_of_section (language : Language)
    (element : (node.kind == "script_element" || node.kind == "style_element") = true) :
    (language.judge source node).stops = true := by
  rw [Bool.or_eq_true, beq_iff_eq, beq_iff_eq] at element
  cases language with
  | svelte =>
    rcases element with kind | kind <;> rw [Language.judge, Svelte.judge, kind]
    · exact Verdict.stops_ofOption _
    · rfl
  | vue =>
    rcases element with kind | kind <;> rw [Language.judge, Vue.judge, kind]
    · exact Verdict.stops_ofOption _
    · rfl

theorem Origin.of_outermost {language : Language} {root : Node} {place : Place} (nested : root.Nested)
    (outermost : Outermost (fun node => (language.judge source node).stops) root place node)
    (taken : language.judge source node = .take region) :
    Origin language source root (place, node) region := by
  have yields := Yields.of_judge taken
  refine ⟨outermost.stands, taken, yields.within (nested.within outermost.stands).1, ?_, ?_,
    outermost.not_under fun node => judge_stops_of_section language⟩
  · intro kind
    cases yields with
    | script _ raw mine text starts stops => exact ⟨raw, mine, text, starts, stops⟩
    | inner other => exact absurd kind other
    | trimmed other => exact absurd kind other
  · cases yields with
    | script kind =>
      rw [kind]
      decide
    | inner _ plain => exact plain
    | trimmed _ plain => exact plain

/-- Every region of a component with the node that it belongs to, in tree order. -/
def origins (language : Language) (source : List UInt8) (root : Node) : List (Site × Region) :=
  (root.outermost fun node => (language.judge source node).stops).filterMap fun site =>
    (language.judge source site.2).taken?.map (Prod.mk site)

theorem regions_eq_map_origins (language : Language) (source : List UInt8) (root : Node) :
    language.regions source root = (origins language source root).map (·.2) := by
  rw [Language.regions, sweep_singleton, gather_eq_filterMap, origins, List.map_filterMap]
  simp only [Option.map_map]
  refine List.filterMap_congr fun site _ => ?_
  exact Option.map_id'.symm

theorem mem_origins_iff {language : Language} {root : Node} {site : Site} :
    (site, region) ∈ origins language source root ↔
      Outermost (fun node => (language.judge source node).stops) root site.1 site.2 ∧
        language.judge source site.2 = .take region := by
  rw [origins, List.mem_filterMap]
  constructor
  · rintro ⟨other, member, taken⟩
    obtain ⟨_, found, same⟩ := Option.map_eq_some_iff.1 taken
    cases same
    exact ⟨mem_outermost_iff.1 member, Verdict.taken?_eq_some_iff.1 found⟩
  · rintro ⟨outermost, taken⟩
    exact ⟨site, mem_outermost_iff.2 outermost, by rw [taken]; rfl⟩

theorem pairwise_origins (language : Language) (source : List UInt8) (root : Node) :
    (origins language source root).Pairwise fun a b => a.1.1.Before b.1.1 := by
  rw [origins, List.pairwise_filterMap]
  refine (pairwise_outermost _ root).imp fun before a takenA b takenB => ?_
  obtain ⟨_, _, rfl⟩ := Option.map_eq_some_iff.1 takenA
  obtain ⟨_, _, rfl⟩ := Option.map_eq_some_iff.1 takenB
  exact before

/-- The regions of a component are found as by a recursion over its tree. They come from nodes that
    follow one another, none inside a script or a style, and start and end within these, so that each
    ends before the next one starts; a script has no region but its text. No byte is covered twice
    unless an interpolation is so close to the start that the end of its region is below zero. -/
theorem regions_apart (language : Language) (source : List UInt8) {root : Node}
    (nested : root.Nested) :
    language.regions source root = root.gather (language.judge source) ∧
      (∃ origins : List (Site × Region),
        language.regions source root = origins.map (·.2) ∧
        (∀ origin ∈ origins, Origin language source root origin.1 origin.2) ∧
        origins.Pairwise fun a b => a.1.1.Before b.1.1 ∧ ¬ a.1.1 <+: b.1.1 ∧ ¬ b.1.1 <+: a.1.1 ∧
          a.1.2.stop ≤ b.1.2.start) ∧
      (language.regions source root).Pairwise (fun a b => a.stop ≤ b.start) ∧
      ((∀ node ∈ root.preorder, language = .vue → isStunted node = false) →
        (language.regions source root).Pairwise fun a b =>
          ∀ i, ¬ (a.Covers source.length i ∧ b.Covers source.length i)) := by
  have each : ∀ origin ∈ origins language source root, Origin language source root origin.1 origin.2 :=
    fun origin member => .of_outermost nested (mem_origins_iff.1 member).1 (mem_origins_iff.1 member).2
  have apart : (origins language source root).Pairwise fun a b => a.1.1.Before b.1.1 ∧
      ¬ a.1.1 <+: b.1.1 ∧ ¬ b.1.1 <+: a.1.1 ∧ a.1.2.stop ≤ b.1.2.start := by
    refine (pairwise_origins language source root).imp_of_mem fun memberA memberB before => ?_
    exact ⟨before, before.not_prefix.1, before.not_prefix.2,
      nested.apart_of_before before (each _ memberA).stands (each _ memberB).stands⟩
  rw [regions_eq_map_origins]
  refine ⟨?_, ⟨_, rfl, each, apart⟩, ?_, fun full => ?_⟩
  · rw [← regions_eq_map_origins, Language.regions, sweep_singleton]
  · rw [List.pairwise_map]
    refine apart.imp_of_mem fun memberA memberB ⟨_, _, _, between⟩ => ?_
    have left := (each _ memberA).within.2
    have right := (each _ memberB).within.1
    omega
  · rw [List.pairwise_map]
    refine apart.imp_of_mem fun {a b} memberA memberB ⟨_, _, _, between⟩ => ?_
    have left := (each a memberA).within.2
    have right := (each b memberB).within.1
    have shown : a.1.2 ∈ root.preorder := mem_preorder_iff.2 ⟨_, (each a memberA).stands⟩
    have inside := (Yields.of_judge (each a memberA).taken).stop_nonneg (full _ shown)
    exact Region.not_covers_of_le inside (by omega) _

section

def greeting : Node :=
  branch "component" 0
    [branch "script_element" 0
      [leaf "start_tag" true 0 8, leaf "raw_text" true 8 14, leaf "end_tag" true 14 23],
    branch "interpolation" 23 [leaf "\x7b\x7b" false 23 25, leaf "raw_text" true 25 28,
      leaf "\x7d\x7d" false 28 30]]

def greetingSource : List UInt8 := Text.encode "<script>t('a')</script>\x7b\x7b b \x7d\x7d".toList

theorem nested_greeting : greeting.Nested := by
  have leaves : ∀ child ∈ greeting.children, child.Nested := by
    simp only [greeting, branch, List.forall_mem_cons]
    refine ⟨.intro (by decide) (by decide) (by decide) ?_,
      .intro (by decide) (by decide) (by decide) ?_, nofun⟩
    all_goals
      simp only [List.forall_mem_cons]
      exact ⟨.leaf (by decide) rfl, .leaf (by decide) rfl, .leaf (by decide) rfl, nofun⟩
  exact .intro (by decide) (by decide) (by decide) leaves

theorem regions_apart_greeting :
    greeting.Nested ∧
      (Language.vue.regions greetingSource greeting).map (fun r => (r.start, r.stop)) =
        [(8, 14), (25, 28)] ∧
      (Language.vue.regions greetingSource greeting).Pairwise (fun a b => a.stop ≤ b.start) ∧
      (Language.vue.regions greetingSource greeting).Pairwise fun a b =>
        ∀ i, ¬ (a.Covers greetingSource.length i ∧ b.Covers greetingSource.length i) := by
  obtain ⟨-, -, ordered, disjoint⟩ := regions_apart .vue greetingSource nested_greeting
  exact ⟨nested_greeting, by decide +kernel, ordered, disjoint (by decide +kernel)⟩

def stunted : Node :=
  { branch "component" 0 [leaf "interpolation" true 0 1,
      branch "interpolation" 10 [leaf "raw_text" true 10 16]] with stop := 18 }

def stuntedSource : List UInt8 := Text.encode "x t('y'), t('z') y".toList

theorem nested_stunted : stunted.Nested := by
  refine .intro (by decide) (by decide) (by decide) ?_
  simp only [stunted, branch, List.forall_mem_cons]
  refine ⟨.leaf (by decide) rfl, .intro (by decide) (by decide) (by decide) ?_, nofun⟩
  simp only [List.forall_mem_cons]
  exact ⟨.leaf (by decide) rfl, nofun⟩

/-- An interpolation of a single byte at the start has all of the source but two bytes and the last as
    its region. -/
theorem regions_stunted :
    stunted.Nested ∧
      ¬ (Language.vue.regions stuntedSource stunted).Pairwise fun a b =>
        ∀ i, ¬ (a.Covers stuntedSource.length i ∧ b.Covers stuntedSource.length i) := by
  have found : Language.vue.regions stuntedSource stunted =
      [⟨.expression, 2, -1, false⟩, ⟨.expression, 10, 16, false⟩] := by decide +kernel
  refine ⟨nested_stunted, fun disjoint => ?_⟩
  rw [found] at disjoint
  refine (List.pairwise_pair.1 disjoint) 10 ⟨⟨?_, ?_⟩, ?_, ?_⟩ <;> decide

end

end Phrasebook.Component
