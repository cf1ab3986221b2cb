import Phrasebook.Proofs.Extraction.History
import Phrasebook.Proofs.Extraction.Run
import Phrasebook.Proofs.Sorting

namespace Phrasebook.Registry

/-- The plugins held after a history, each with the place where its name came in, in this order. -/
structure Lists (history : List Change) (entries : List (Nat × Plugin)) : Prop where
  sorted : entries.Pairwise fun a b => a.1 < b.1
  complete : ∀ entry, entry ∈ entries ↔ Held history entry.1 entry.2

namespace Lists

variable {history : List Change} {entries : List (Nat × Plugin)} (h : Lists history entries)

include h

theorem nodup_names : ((entries.map (·.2)).map Plugin.name).Nodup := by
  rw [List.map_map, List.Nodup, List.pairwise_map]
  refine h.sorted.imp_of_mem fun {a b} here there before same => ?_
  have named : a.2.name = b.2.name := same
  have entered := ((h.complete a).1 here).entered
  rw [named] at entered
  exact absurd (entered.unique ((h.complete b).1 there).entered) (Nat.ne_of_lt before)

theorem mem_iff (plugin : Plugin) :
    plugin ∈ entries.map (·.2) ↔ ∃ place, Held history place plugin := by
  rw [List.mem_map]
  constructor
  · rintro ⟨entry, member, rfl⟩
    exact ⟨entry.1, (h.complete entry).1 member⟩
  · intro ⟨place, held⟩
    exact ⟨(place, plugin), (h.complete (place, plugin)).2 held, rfl⟩

theorem mem_names_iff (name : String) :
    name ∈ (entries.map (·.2)).map Plugin.name ↔ ∃ place, EnteredAt history name place := by
  rw [List.mem_map]
  constructor
  · rintro ⟨plugin, member, rfl⟩
    obtain ⟨place, held⟩ := (h.mem_iff plugin).1 member
    exact ⟨place, held.entered⟩
  · intro ⟨place, entered⟩
    obtain ⟨plugin, named, held⟩ := entered.exists_held
    exact ⟨plugin, (h.mem_iff plugin).2 ⟨place, held⟩, named⟩

theorem map {last : Change} {f : Plugin → Plugin}
    (held : ∀ place plugin, Held (history ++ [last]) place plugin ↔
      ∃ before, Held history place before ∧ plugin = f before) :
    Lists (history ++ [last]) (entries.map fun entry => (entry.1, f entry.2)) := by
  refine ⟨List.pairwise_map.2 h.sorted, fun ⟨place, plugin⟩ => ?_⟩
  rw [held, List.mem_map]
  constructor
  · rintro ⟨entry, member, same⟩
    cases same
    exact ⟨entry.2, (h.complete entry).1 member, rfl⟩
  · rintro ⟨before, there, rfl⟩
    exact ⟨(place, before), (h.complete (place, before)).2 there, rfl⟩

theorem unregister (name : String) :
    Lists (history ++ [.unregister name]) (entries.filter (·.2.name != name)) := by
  refine ⟨h.sorted.filter _, fun entry => ?_⟩
  rw [held_concat_unregister, List.mem_filter, h.complete, bne_iff_ne]

theorem append {plugin : Plugin} (new : ∀ place, ¬ EnteredAt history plugin.name place) :
    Lists (history ++ [.register plugin]) (entries ++ [(history.length, plugin)]) := by
  constructor
  · rw [List.pairwise_append]
    refine ⟨h.sorted, List.pairwise_singleton _ _, fun entry member last atEnd => ?_⟩
    rw [List.mem_singleton.1 atEnd]
    exact ((h.complete entry).1 member).entered.registered.lt_length
  · intro entry
    rw [held_concat_register_new new, List.mem_append, h.complete, List.mem_singleton, Prod.ext_iff]

theorem step {registry : Registry} (holds : registry.plugins = entries.map (·.2)) (last : Change) :
    ∃ next, Lists (history ++ [last]) next ∧ (registry.change last).plugins = next.map (·.2) := by
  cases last with
  | register plugin =>
    have there := h.mem_names_iff plugin.name
    rw [← holds] at there
    -- Only the first plugin of the name is replaced; that there is no other is what keeps names distinct.
    by_cases known : plugin.name ∈ registry.plugins.map Plugin.name
    · refine ⟨_, h.map fun _ _ => held_concat_register_known (there.1 known), ?_⟩
      have distinct := h.nodup_names
      rw [← holds] at distinct
      rw [change, register, put_eq_map distinct known, holds, List.map_map, List.map_map]
      rfl
    · refine ⟨_, h.append fun place entered => known (there.2 ⟨place, entered⟩), ?_⟩
      rw [change, register, put_of_not_mem known, holds, List.map_append, List.map_singleton]
  | unregister name =>
    refine ⟨_, h.unregister name, ?_⟩
    rw [change, Registry.unregister, holds, List.filter_map]
    rfl
  | shift name one =>
    refine ⟨_, h.map fun _ _ => held_concat_shift, ?_⟩
    rw [change, shift, holds, List.map_map, List.map_map]
    rfl

end Lists

theorem exists_lists (history : List Change) :
    ∃ entries, Lists history entries ∧ (empty.changeAll history).plugins = entries.map (·.2) := by
  induction history using List.reverseRecOn with
  | nil =>
    refine ⟨[], ⟨.nil, fun entry => ⟨nofun, fun held => ?_⟩⟩, rfl⟩
    exact absurd held.entered.registered.lt_length (Nat.not_lt_zero _)
  | append_singleton history last ih =>
    obtain ⟨entries, lists, holds⟩ := ih
    rw [changeAll_append]
    exact lists.step holds last

theorem nodup_names_changeAll (initial : List Plugin) (changes : List Change) :
    ((ofList initial).changeAll changes).names.Nodup := by
  obtain ⟨entries, lists, holds⟩ := exists_lists (history initial changes)
  rw [changeAll_history] at holds
  rw [names, holds]
  exact lists.nodup_names

structure Takes (history : List Change) (extension : String) (place : Nat) (plugin : Plugin) :
    Prop where
  held : Held history place plugin
  claims : plugin.claims extension = true
  available : plugin.isAvailable = true

section

variable {history : List Change} {entries : List (Nat × Plugin)} (h : Lists history entries)
  {registry : Registry} (holds : registry.plugins = entries.map (·.2))

include h

theorem Lists.takes_iff {extension : String} (entry : Nat × Plugin) :
    Takes history extension entry.1 entry.2 ↔
      entry ∈ entries ∧ (entry.2.claims extension && entry.2.isAvailable) = true := by
  rw [h.complete, Bool.and_eq_true]
  exact ⟨fun ⟨held, claims, available⟩ => ⟨held, claims, available⟩,
    fun ⟨held, claims, available⟩ => ⟨held, claims, available⟩⟩

include holds

theorem Lists.pairwise_plugins :
    registry.plugins.Pairwise fun a b => ∀ place later,
      EnteredAt history a.name place → EnteredAt history b.name later → place < later := by
  rw [holds, List.pairwise_map]
  refine h.sorted.imp_of_mem fun {a b} here there before place later entered entered' => ?_
  rw [entered.unique ((h.complete a).1 here).entered,
    entered'.unique ((h.complete b).1 there).entered]
  exact before

omit h in
theorem lookup_eq_map (extension : String) : registry.lookup extension =
    (entries.find? fun entry => entry.2.claims extension && entry.2.isAvailable).map (·.2) := by
  rw [lookup, holds, List.find?_map]
  rfl

theorem Lists.lookup_eq_some_iff {extension : String} {plugin : Plugin} :
    registry.lookup extension = some plugin ↔
      ∃ place, Takes history extension place plugin ∧
        ∀ later other, Takes history extension later other → place ≤ later := by
  rw [lookup_eq_map holds, Option.map_eq_some_iff]
  simp only [find?_eq_some_iff_of_sorted h.sorted]
  constructor
  · rintro ⟨entry, ⟨member, fits, least⟩, rfl⟩
    refine ⟨entry.1, (h.takes_iff entry).2 ⟨member, fits⟩, fun later other takes => ?_⟩
    obtain ⟨member', fits'⟩ := (h.takes_iff (later, other)).1 takes
    exact least (later, other) member' fits'
  · intro ⟨place, takes, least⟩
    obtain ⟨member, fits⟩ := (h.takes_iff (place, plugin)).1 takes
    refine ⟨(place, plugin), ⟨member, fits, fun other member' fits' => ?_⟩, rfl⟩
    exact least other.1 other.2 ((h.takes_iff other).2 ⟨member', fits'⟩)

theorem Lists.lookup_eq_none_iff {extension : String} :
    registry.lookup extension = none ↔ ∀ place plugin, ¬ Takes history extension place plugin := by
  rw [lookup_eq_map holds, Option.map_eq_none_iff, List.find?_eq_none]
  constructor
  · intro unfit place plugin takes
    obtain ⟨member, fits⟩ := (h.takes_iff (place, plugin)).1 takes
    exact unfit (place, plugin) member fits
  · intro untaken entry member fits
    exact untaken entry.1 entry.2 ((h.takes_iff entry).2 ⟨member, fits⟩)

end

/-- After any changes, a registry holds one plugin under each name that has come in and has not been
    removed since: the one registered last under it. They are in the order in which their names came
    in, and the first one that takes an extension is found for it; none is found only if none does. -/
theorem changeAll_follows_history (initial : List Plugin) (changes : List Change) :
    let registry := (ofList initial).changeAll changes
    let history := history initial changes
    registry.names.Nodup ∧
      (∀ plugin, plugin ∈ registry.plugins ↔ ∃ place, Held history place plugin) ∧
      (registry.plugins.Pairwise fun a b => ∀ place later,
        EnteredAt history a.name place → EnteredAt history b.name later → place < later) ∧
      (∀ extension plugin, registry.lookup extension = some plugin ↔
        ∃ place, Takes history extension place plugin ∧
          ∀ later other, Takes history extension later other → place ≤ later) ∧
      ∀ extension, registry.lookup extension = none ↔
        ∀ place plugin, ¬ Takes history extension place plugin := by
  intro registry history
  obtain ⟨entries, lists, holds⟩ := exists_lists history
  rw [changeAll_history] at holds
  refine ⟨nodup_names_changeAll initial changes, fun plugin => ?_, ?_, fun extension plugin => ?_,
    fun extension => ?_⟩
  · rw [holds]
    exact lists.mem_iff plugin
  · exact lists.pairwise_plugins holds
  · exact lists.lookup_eq_some_iff holds
  · exact lists.lookup_eq_none_iff holds

/-- A name that is removed loses its place; one that is only registered again keeps it. -/
example :
    let plain (name : String) : Plugin :=
      .custom ⟨name, [], true, [], fun _ available _ => (.ok [], available)⟩
    ((ofList [plain "a", plain "b", plain "c"]).changeAll
      [.register (plain "b"), .unregister "a", .register (plain "a")]).names = ["b", "c", "a"] := by
  decide

def Change.Asks (change : Change) : Prop :=
  ∃ name one, change = .shift name one ∧ one.Asks

def Asked (registry next : Registry) : Prop :=
  ∃ changes : List Change, (∀ one ∈ changes, one.Asks) ∧ next = registry.changeAll changes

theorem Asked.refl (registry : Registry) : Asked registry registry := ⟨[], nofun, rfl⟩

theorem Asked.trans {registry next last : Registry} (h : Asked registry next) (h' : Asked next last) :
    Asked registry last := by
  obtain ⟨changes, are, rfl⟩ := h
  obtain ⟨more, are', rfl⟩ := h'
  refine ⟨changes ++ more, fun one member => ?_, (registry.changeAll_append changes more).symm⟩
  exact (List.mem_append.1 member).elim (are one) (are' one)

theorem names_shift (registry : Registry) (name : String) (one : Plugin.Shift) :
    (registry.shift name one).names = registry.names := by
  rw [names, names, shift, List.map_map]
  refine List.map_congr_left fun plugin _ => ?_
  rw [Function.comp_apply]
  split
  · exact plugin.name_shift one
  · rfl

theorem Asked.names_eq {registry next : Registry} (h : Asked registry next) :
    next.names = registry.names := by
  obtain ⟨changes, are, rfl⟩ := h
  induction changes generalizing registry with
  | nil => rfl
  | cons one rest ih =>
    obtain ⟨name, shift, rfl, _⟩ := are one List.mem_cons_self
    exact (ih fun other member => are other (List.mem_cons_of_mem _ member)).trans
      (names_shift registry name shift)

theorem asked_register {registry : Registry} (distinct : registry.names.Nodup) {plugin : Plugin}
    (member : plugin ∈ registry.plugins) {one : Plugin.Shift} (asks : one.Asks) :
    Asked registry (registry.register (plugin.shift one)) := by
  have known : (plugin.shift one).name ∈ registry.plugins.map Plugin.name :=
    plugin.name_shift one ▸ List.mem_map_of_mem member
  have same : registry.register (plugin.shift one) = registry.shift plugin.name one := by
    rw [register, put_eq_map distinct known, shift, plugin.name_shift one]
    congr 1
    refine List.map_congr_left fun other there => ?_
    by_cases named : other.name = plugin.name
    · rw [if_pos named, if_pos named, List.inj_on_of_nodup_map distinct there member named]
    · rw [if_neg named, if_neg named]
  exact ⟨[.shift plugin.name one], List.forall_mem_singleton.2 ⟨_, _, rfl, asks⟩, same⟩

end Phrasebook.Registry

namespace Phrasebook.Extraction

open Registry (Asked Change asked_register nodup_names_changeAll ofList)

variable (parsers : Script.Parsers) (tree : Tree) (options : ExtractOptions) (place : String)

theorem asked_withoutPlugin {registry : Registry} (distinct : registry.names.Nodup)
    (file extension : String) (code : List Char) :
    ∃ next, (withoutPlugin parsers options (some registry) file extension code).registry = some next ∧
      Asked registry next := by
  cases found : registry.claimant? extension with
  | none =>
    rw [withoutPlugin_unclaimed parsers options file code found]
    exact ⟨registry, rfl, .refl registry⟩
  | some plugin =>
    have member : plugin ∈ registry.plugins := (Registry.of_claimant? found).1
    simp only [withoutPlugin, found]
    split
    · exact ⟨registry, rfl, .refl registry⟩
    · split
      · exact ⟨registry, rfl, .refl registry⟩
      · exact ⟨_, rfl, asked_register distinct member (Plugin.Shift.asks_search file code)⟩

theorem asked_visit {registry : Registry} (distinct : registry.names.Nodup) (path : Path) :
    ∃ next, (visit parsers tree options place registry path).registry = some next ∧
      Asked registry next := by
  unfold visit fromFile
  cases tree.readText path with
  | error fault => exact ⟨registry, rfl, .refl registry⟩
  | ok code =>
    cases found : registry.lookup path.suffix with
    | none =>
      simp only [ofText_of_lookup_none parsers options _ code found]
      exact asked_withoutPlugin parsers options distinct _ _ code
    | some plugin =>
      have member : plugin ∈ registry.plugins := List.mem_of_find?_eq_some found
      simp only [ofText_of_lookup parsers options _ code found]
      exact ⟨_, rfl, asked_register distinct member (Plugin.Shift.asks_extract parsers _ code)⟩

theorem asked_fromFiles {registry : Registry} (distinct : registry.names.Nodup) (files : List Path) :
    Asked registry (fromFiles parsers tree options registry place files).registry := by
  suffices general : ∀ total (run : FolderRun), run.registry.names.Nodup →
      Asked run.registry
        (files.foldl (FolderRun.step parsers tree options place total) run).registry from
    general files.length ⟨[], [], 0, registry, []⟩ distinct
  intro total run distinct
  induction files generalizing run with
  | nil => exact .refl _
  | cons path rest ih =>
    obtain ⟨next, visited, asked⟩ := asked_visit parsers tree options place distinct path
    have stepped : (run.step parsers tree options place total path).registry = next := by
      rw [step_registry, visited, Option.getD_some]
    have further := ih (run.step parsers tree options place total path)
    rw [stepped, asked.names_eq] at further
    exact asked.trans (further distinct)

theorem fromFiles_follows_history (initial : List Plugin) (changes : List Change)
    (files : List Path) :
    ∃ later : List Change, (∀ one ∈ later, one.Asks) ∧
      (fromFiles parsers tree options ((ofList initial).changeAll changes) place files).registry =
        (ofList initial).changeAll (changes ++ later) := by
  obtain ⟨later, are, left⟩ := asked_fromFiles parsers tree options place
    (nodup_names_changeAll initial changes) files
  exact ⟨later, are, left.trans (Registry.changeAll_append ..).symm⟩

end Phrasebook.Extraction
