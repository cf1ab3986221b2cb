import Mathlib.Data.List.Nodup
import Phrasebook.Extraction.Plugin

namespace Phrasebook.ComponentPlugin

theorem load_load (plugin : ComponentPlugin) : plugin.load.load = plugin.load := by
  unfold load
  by_cases untried : plugin.loading = .untried
  · cases plugin.grammar <;> simp [untried]
  · simp [untried]

theorem load_language (plugin : ComponentPlugin) : plugin.load.language = plugin.language := by
  unfold load
  split <;> rfl

theorem load_scan (plugin : ComponentPlugin) (file : String) :
    plugin.load.scan file = plugin.scan file := by
  unfold load scan
  split <;> rfl

theorem extract_load (plugin : ComponentPlugin) (parsers : Script.Parsers) (file : String)
    (code : List Char) : plugin.load.extract parsers file code = plugin.extract parsers file code := by
  unfold extract
  rw [load_load]

theorem extractSync_load (plugin : ComponentPlugin) (file : String) (code : List Char) :
    plugin.load.extractSync file code = plugin.extractSync file code := by
  unfold extractSync
  rw [load_scan]

end Phrasebook.ComponentPlugin

namespace Phrasebook.Plugin

/-- A plugin for scripts, or one for components whose grammar has not been asked for. -/
def Fresh : Plugin → Prop
  | script _ _ => True
  | component plugin => plugin.loading = .untried
  | custom _ => False

/-- A fresh plugin as it is once files with these extensions have been extracted. -/
def after (seen : List String) : Plugin → Plugin
  | component plugin =>
    if plugin.available ∧ plugin.language.extension ∈ seen then component plugin.load
    else component plugin
  | plugin => plugin

theorem claims_component {plugin : ComponentPlugin} {extension : String} :
    (component plugin).claims extension = true ↔ extension = plugin.language.extension := by
  simp [claims, extensions]

def ownerOf (extension : String) : String :=
  if untypedExtensions.contains extension then "javascript"
  else if typedExtensions.contains extension then "typescript"
  else if extension = Language.svelte.extension then Language.svelte.name
  else Language.vue.name

theorem name_of_claims {plugin : Plugin} (fresh : plugin.Fresh) {extension : String}
    (h : plugin.claims extension = true) : plugin.name = ownerOf extension := by
  cases plugin with
  | script typed options =>
    cases typed with
    | false =>
      have claimed : untypedExtensions.contains extension = true := h
      rw [ownerOf, if_pos claimed]
      rfl
    | true =>
      have claimed : typedExtensions.contains extension = true := h
      simp only [typedExtensions, List.contains_cons, List.contains_nil, Bool.or_false,
        Bool.or_eq_true, beq_iff_eq] at claimed
      rcases claimed with rfl | rfl <;> rfl
  | component inner =>
    rw [claims_component.1 h]
    simp only [name]
    cases inner.language <;> rfl
  | custom => exact absurd fresh id

end Phrasebook.Plugin

namespace Phrasebook.Registry

def names (registry : Registry) : List String := registry.plugins.map Plugin.name

theorem map_name_put (plugin : Plugin) (plugins : List Plugin) :
    (put plugin plugins).map Plugin.name =
      if plugin.name ∈ plugins.map Plugin.name then plugins.map Plugin.name
      else plugins.map Plugin.name ++ [plugin.name] := by
  induction plugins with
  | nil => simp [put]
  | cons other rest ih =>
    by_cases same : other.name = plugin.name
    · simp [put, same]
    · have hb : (other.name == plugin.name) = false := by simpa using same
      have other' : plugin.name ≠ other.name := fun e => same e.symm
      simp only [put, hb, Bool.false_eq_true, if_false, List.map_cons, ih, List.mem_cons, other',
        false_or]
      split <;> simp

theorem mem_of_mem_put {plugin other : Plugin} {plugins : List Plugin}
    (h : other ∈ put plugin plugins) : other = plugin ∨ other ∈ plugins := by
  induction plugins with
  | nil => exact .inl (List.mem_singleton.1 h)
  | cons first rest ih =>
    unfold put at h
    split at h
    · exact (List.mem_cons.1 h).imp_right (List.mem_cons_of_mem _)
    · rcases List.mem_cons.1 h with rfl | h
      · exact .inr List.mem_cons_self
      · exact (ih h).imp_right (List.mem_cons_of_mem _)

theorem put_of_not_mem {plugin : Plugin} {plugins : List Plugin}
    (h : plugin.name ∉ plugins.map Plugin.name) : put plugin plugins = plugins ++ [plugin] := by
  induction plugins with
  | nil => rfl
  | cons other rest ih =>
    rw [List.map_cons, List.mem_cons, not_or] at h
    have hb : (other.name == plugin.name) = false := beq_false_of_ne fun e => h.1 e.symm
    simp only [put, hb, Bool.false_eq_true, if_false, ih h.2, List.cons_append]

theorem put_eq_map {plugin : Plugin} {plugins : List Plugin} (distinct : (plugins.map Plugin.name).Nodup)
    (h : plugin.name ∈ plugins.map Plugin.name) :
    put plugin plugins = plugins.map fun other => if other.name = plugin.name then plugin else other := by
  induction plugins with
  | nil => cases h
  | cons other rest ih =>
    rw [List.map_cons, List.nodup_cons] at distinct
    by_cases same : other.name = plugin.name
    · have fixed : ∀ third ∈ rest,
          (if third.name = plugin.name then plugin else third) = third := fun third member => by
        rw [if_neg]
        intro e
        exact distinct.1 (same ▸ e ▸ List.mem_map_of_mem member)
      simp only [put, same, BEq.rfl, if_true, List.map_cons, List.map_congr_left fixed, List.map_id']
    · have hb : (other.name == plugin.name) = false := by simpa using same
      have inside : plugin.name ∈ rest.map Plugin.name := by
        rw [List.map_cons, List.mem_cons] at h
        exact h.resolve_left fun e => same e.symm
      simp only [put, hb, Bool.false_eq_true, if_false, List.map_cons, same, ih distinct.2 inside]

/-- Plugins under distinct names, all of them as they were made. -/
structure Fresh (registry : Registry) : Prop where
  distinct : registry.names.Nodup
  fresh : ∀ plugin ∈ registry.plugins, plugin.Fresh

theorem Fresh.register {registry : Registry} (h : registry.Fresh) {plugin : Plugin}
    (fresh : plugin.Fresh) : (registry.register plugin).Fresh := by
  constructor
  · have distinct := h.distinct
    unfold names at distinct ⊢
    rw [Registry.register, map_name_put]
    split
    · exact distinct
    · rename_i outside
      rw [List.nodup_append]
      refine ⟨distinct, by simp, fun a ha b hb => ?_⟩
      rw [List.mem_singleton.1 hb]
      exact fun e => outside (e ▸ ha)
  · intro other member
    rcases mem_of_mem_put member with rfl | member
    · exact fresh
    · exact h.fresh other member

/-- A fresh registry as it is once files with these extensions have been extracted. -/
def after (seen : List String) (registry : Registry) : Registry :=
  ⟨registry.plugins.map (Plugin.after seen)⟩

theorem of_claimant? {registry : Registry} {extension : String} {plugin : Plugin}
    (h : registry.claimant? extension = some plugin) :
    plugin ∈ registry.plugins ∧ plugin.claims extension = true := by
  unfold claimant? at h
  have claimed := List.find?_some h
  exact ⟨List.mem_of_find?_eq_some h, claimed⟩

section

variable {registry : Registry} (h : registry.Fresh)

include h

theorem Fresh.once (extension : String) :
    registry.plugins.Pairwise fun a b => a.claims extension = true → b.claims extension = false := by
  have distinct := h.distinct
  unfold names List.Nodup at distinct
  rw [List.pairwise_map] at distinct
  refine distinct.imp_of_mem fun {a b} ha hb other claimed => ?_
  rw [← Bool.not_eq_true]
  intro claims
  apply other
  rw [Plugin.name_of_claims (h.fresh a ha) claimed, Plugin.name_of_claims (h.fresh b hb) claims]

end

end Phrasebook.Registry
