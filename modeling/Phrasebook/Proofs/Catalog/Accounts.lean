import Phrasebook.Catalog.File
import Phrasebook.Proofs.Catalog.Marking

namespace Phrasebook.Catalog

inductive Fate where
  | added
  | replaced
  | marked (existing : String)
  | unchanged
  deriving DecidableEq, Repr

namespace Fate

def of (options : ReconcileOptions) (found : Option String) (entry : Entry) : Fate :=
  match found with
  | none => .added
  | some existing =>
    if options.replaceUntranslated = true ∧ existing = entry.1 then .replaced
    else if options.validateParams = true ∧ Flagged entry.1 entry.2 existing then .marked existing
    else .unchanged

def isMarked : Fate → Bool
  | marked _ => true
  | _ => false

def mismatch? (key : String) : Fate → Option Mismatch
  | marked existing => some ⟨key, existing⟩
  | _ => none

theorem length_eq (fates : List Fate) :
    fates.length = fates.count .added + fates.count .unchanged + fates.count .replaced +
      fates.countP isMarked := by
  induction fates with
  | nil => rfl
  | cons fate fates ih =>
    rw [List.length_cons, ih]
    cases fate <;> simp [List.countP_cons, isMarked] <;> omega

end Fate

def ReconcileStats.count (stats : ReconcileStats) (fate : Fate) : ReconcileStats :=
  { stats with
    total := stats.total + 1
    added := stats.added + if fate = .added then 1 else 0
    unchanged := stats.unchanged + if fate = .unchanged then 1 else 0 }

theorem ReconcileStats.foldl_count (fates : List Fate) (stats : ReconcileStats) :
    fates.foldl count stats =
      { stats with
        total := stats.total + fates.length
        added := stats.added + fates.count .added
        unchanged := stats.unchanged + fates.count .unchanged } := by
  induction fates generalizing stats with
  | nil => rfl
  | cons fate fates ih =>
    rw [List.foldl_cons, ih]
    simp only [count, List.length_cons, List.count_cons, beq_iff_eq, mk.injEq, true_and]
    omega

namespace Reconciled

theorem step_counts (options : ReconcileOptions) (state : Reconciled) (entry : Entry) :
    let fate := Fate.of options (state.result.get? entry.1) entry
    (state.step options entry).stats = state.stats.count fate ∧
      (state.step options entry).mismatches = state.mismatches ++ (fate.mismatch? entry.1).toList := by
  intro fate
  cases found : state.result.get? entry.1 with
  | none =>
    have added : fate = .added := by simp only [fate, found, Fate.of]
    rw [added]
    simp [step, found, ReconcileStats.count, Fate.mismatch?]
  | some existing =>
    rw [step_of_get? options found]
    by_cases replaced : options.replaceUntranslated = true ∧ existing = entry.1
    · have met : fate = .replaced := by simp only [fate, found, Fate.of, if_pos replaced]
      rw [met]
      simp [replaced, ReconcileStats.count, Fate.mismatch?]
    by_cases flagged : options.validateParams = true ∧ Flagged entry.1 entry.2 existing
    · have met : fate = .marked existing := by
        simp only [fate, found, Fate.of, if_neg replaced, if_pos flagged]
      rw [met]
      simp [replaced, flagged, ReconcileStats.count, Fate.mismatch?]
    · have met : fate = .unchanged := by
        simp only [fate, found, Fate.of, if_neg replaced, if_neg flagged]
      rw [met]
      simp [replaced, flagged, keep, ReconcileStats.count, Fate.mismatch?]

theorem get?_step_of_ne (options : ReconcileOptions) (state : Reconciled) {entry : Entry}
    {key : String} (other : key ≠ entry.1) :
    (state.step options entry).result.get? key = state.result.get? key := by
  have apart : (key == entry.1) = false := by simpa using other
  rw [get?, get?]
  by_cases member : entry.1 ∈ state.result.keys
  · rw [step_entries_of_mem options member, Entry.lookup_map (reconciledEntry_fst options [entry])]
    have kept : ∀ text, (reconciledEntry options [entry] (key, text)).2 = text := by
      intro text
      rw [reconciledEntry_cons_of_ne options [] other, reconciledEntry_nil]
    simp only [kept, Option.map_id']
  · rw [step_entries_of_not_mem options member, List.lookup_append]
    simp [List.lookup, apart]

theorem foldl_step_counts (options : ReconcileOptions) {source : List Entry}
    (nodup : (Entry.keys source).Nodup) (state : Reconciled) :
    let fate := fun entry : Entry => Fate.of options (state.result.get? entry.1) entry
    let last := source.foldl (step options) state
    last.stats = (source.map fate).foldl ReconcileStats.count state.stats ∧
      last.mismatches =
        state.mismatches ++ source.filterMap fun entry => (fate entry).mismatch? entry.1 := by
  induction source generalizing state with
  | nil => simp
  | cons entry rest ih =>
    simp only [Entry.keys, List.map_cons, List.nodup_cons] at nodup
    have later : ∀ other ∈ rest, Fate.of options ((state.step options entry).result.get? other.1) other =
        Fate.of options (state.result.get? other.1) other := by
      intro other member
      have apart : other.1 ≠ entry.1 := fun same => nodup.1 (same ▸ Entry.mem_keys_of_mem member)
      rw [get?_step_of_ne options state apart]
    obtain ⟨stats, mismatches⟩ := step_counts options state entry
    obtain ⟨allStats, allMismatches⟩ := ih nodup.2 (state.step options entry)
    constructor
    · rw [List.foldl_cons, allStats, List.map_congr_left later, stats]
      rfl
    · have told : ∀ other ∈ rest, Fate.mismatch? other.1
            (Fate.of options ((step options state entry).result.get? other.1) other) =
          Fate.mismatch? other.1 (Fate.of options (state.result.get? other.1) other) :=
        fun other member => congrArg (Fate.mismatch? other.1) (later other member)
      rw [List.foldl_cons, allMismatches, mismatches, List.append_assoc,
        List.filterMap_congr told, List.filterMap_cons]
      cases (Fate.of options (state.result.get? entry.1) entry).mismatch? entry.1 <;> rfl

end Reconciled

section

variable (options : ReconcileOptions) (source target : Catalog)

def overwritten : List String :=
  source.keys.filter fun key => options.replaceUntranslated = true ∧ target.get? key = some key

def newlyMarked : List Mismatch :=
  source.keys.filterMap fun key =>
    (target.get? key).bind fun existing =>
      if (options.replaceUntranslated = true → existing ≠ key) ∧
          (reconcile options source target).get? key = some (mark existing) then
        some ⟨key, existing⟩
      else none

def fates : List Fate :=
  source.entries.map fun entry => Fate.of options (target.get? entry.1) entry

theorem get?_start {key : String} (h : key ∈ source.keys) :
    (Reconciled.start options source target).result.get? key = target.get? key := by
  rw [get?, Reconciled.start_result_entries,
    Entry.lookup_filter fun k => options.flush = true → k ∈ source.keys, if_pos fun _ => h, get?]

theorem reconcileFully_fates :
    let run := reconcileFully options source target
    let start := Reconciled.start options source target
    run.stats = (fates options source target).foldl ReconcileStats.count start.stats ∧
      run.mismatches = source.entries.filterMap fun entry =>
        (Fate.of options (target.get? entry.1) entry).mismatch? entry.1 := by
  intro run start
  have fate : ∀ entry ∈ source.entries, Fate.of options (start.result.get? entry.1) entry =
      Fate.of options (target.get? entry.1) entry := by
    intro entry member
    rw [get?_start options source target (Entry.mem_keys_of_mem member)]
  obtain ⟨stats, mismatches⟩ := Reconciled.foldl_step_counts options source.nodup start
  constructor
  · rw [fates, ← List.map_congr_left fate]
    exact stats
  · have told : ∀ entry ∈ source.entries,
        Fate.mismatch? entry.1 (Fate.of options (start.result.get? entry.1) entry) =
          Fate.mismatch? entry.1 (Fate.of options (target.get? entry.1) entry) :=
      fun entry member => congrArg (Fate.mismatch? entry.1) (fate entry member)
    rw [← List.filterMap_congr told]
    exact mismatches

theorem length_filter_keys (p : String → Bool) :
    (source.keys.filter p).length = source.entries.countP fun entry => p entry.1 := by
  rw [keys, Entry.keys, List.filter_map, List.length_map, ← List.countP_eq_length_filter]
  rfl

theorem count_added :
    (fates options source target).count .added =
      (source.keys.filter fun key => key ∉ target.keys).length := by
  rw [length_filter_keys, fates, List.count_eq_countP, List.countP_map]
  apply List.countP_congr
  intro entry _
  rw [Function.comp_apply, beq_iff_eq, decide_eq_true_iff, ← get?_eq_none_iff]
  cases found : target.get? entry.1 with
  | none => simp [Fate.of]
  | some existing =>
    have there : Fate.of options (some existing) entry ≠ .added := by
      unfold Fate.of
      dsimp only
      split
      · nofun
      · split <;> nofun
    simp [there]

theorem count_replaced :
    (fates options source target).count .replaced = (overwritten options source target).length := by
  rw [overwritten, length_filter_keys, fates, List.count_eq_countP, List.countP_map]
  apply List.countP_congr
  intro entry _
  rw [Function.comp_apply, beq_iff_eq, decide_eq_true_iff]
  cases found : target.get? entry.1 with
  | none => simp [Fate.of]
  | some existing =>
    by_cases replaced : options.replaceUntranslated = true ∧ existing = entry.1
    · simp [Fate.of, replaced]
    · have other : Fate.of options (some existing) entry ≠ .replaced := by
        simp only [Fate.of, if_neg replaced]
        split <;> nofun
      simp [other, replaced]

theorem mismatch?_eq {entry : Entry} (member : entry ∈ source.entries) :
    (Fate.of options (target.get? entry.1) entry).mismatch? entry.1 =
      (target.get? entry.1).bind fun existing =>
        if (options.replaceUntranslated = true → existing ≠ entry.1) ∧
            (reconcile options source target).get? entry.1 = some (mark existing) then
          some ⟨entry.1, existing⟩
        else none := by
  cases found : target.get? entry.1 with
  | none => rfl
  | some existing =>
    have after : (reconcile options source target).get? entry.1 =
        some (reconciledText options entry.1 entry.2 existing) := by
      rw [get?_reconcile, get?_of_mem member, found]
    rw [Option.bind_some, after, reconciledText_eq, Fate.of]
    by_cases replaced : options.replaceUntranslated = true ∧ existing = entry.1
    · have overwritten : ¬ (options.replaceUntranslated = true → existing ≠ entry.1) :=
        fun other => other replaced.1 replaced.2
      rw [if_pos replaced, if_neg fun h => overwritten h.1]
      rfl
    have left : options.replaceUntranslated = true → existing ≠ entry.1 :=
      fun replaces same => replaced ⟨replaces, same⟩
    rw [if_neg replaced, if_neg replaced]
    by_cases flagged : options.validateParams = true ∧ Flagged entry.1 entry.2 existing
    · rw [if_pos flagged, if_pos flagged, if_pos ⟨left, rfl⟩]
      rfl
    · have bare : some existing ≠ some (mark existing) :=
        fun same => mark_ne_self existing (Option.some.inj same).symm
      rw [if_neg flagged, if_neg flagged, if_neg fun h => bare h.2]
      rfl

theorem mismatches_eq : (reconcileFully options source target).mismatches =
    newlyMarked options source target := by
  rw [(reconcileFully_fates options source target).2, newlyMarked, keys, Entry.keys,
    List.filterMap_map]
  apply List.filterMap_congr
  intro entry member
  exact mismatch?_eq options source target member

theorem countP_isMarked :
    (fates options source target).countP Fate.isMarked =
      (newlyMarked options source target).length := by
  rw [← mismatches_eq, (reconcileFully_fates options source target).2, fates, List.countP_map]
  induction source.entries with
  | nil => rfl
  | cons entry rest ih =>
    rw [List.countP_cons, ih, List.filterMap_cons, Function.comp_apply]
    cases Fate.of options (target.get? entry.1) entry <;> rfl

theorem stats_eq :
    let stats := (reconcileFully options source target).stats
    let fates := fates options source target
    stats.total = fates.length ∧ stats.added = fates.count .added ∧
      stats.unchanged = fates.count .unchanged ∧
      stats.removed = (Reconciled.start options source target).stats.removed := by
  have counted := (reconcileFully_fates options source target).1
  rw [ReconcileStats.foldl_count] at counted
  rw [counted]
  simp [Reconciled.start]

theorem kept_add_unused :
    (Reconciled.start options source target).result.size +
      (if options.flush then (unused source target).length else 0) = target.size := by
  cases flush : options.flush with
  | false => simp [Reconciled.start, flush]
  | true =>
    have kept : (target.filter fun entry => source.contains entry.1).size =
        (target.keys.filter fun key => source.contains key).length := by
      rw [length_filter_keys, List.countP_eq_length_filter]
      rfl
    have whole : target.size = target.keys.length := by rw [keys, Entry.keys, List.length_map, size]
    have parts := target.keys.length_eq_length_filter_add fun key => source.contains key
    simp only [Reconciled.start, flush, if_true, kept, whole, unused]
    exact parts.symm

theorem removed_eq : (reconcileFully options source target).stats.removed =
    if options.flush then (unused source target).length else 0 := by
  have start : (Reconciled.start options source target).stats.removed =
      target.size - (Reconciled.start options source target).result.size := rfl
  have parts := kept_add_unused options source target
  rw [(stats_eq options source target).2.2.2, start]
  omega

theorem size_result :
    (reconcileFully options source target).result.size =
      (Reconciled.start options source target).result.size + (fates options source target).count .added := by
  have entries := entries_reconcile options source target
  rw [← Reconciled.start_result_entries] at entries
  have result : (reconcile options source target).size = _ := congrArg List.length entries
  rw [List.length_append, List.length_map] at result
  have added := length_filter_keys source fun key => key ∉ target.keys
  rw [count_added, added, List.countP_eq_length_filter]
  exact result

end

/-- The statistics account for every key of the source, and for the change in size; and every
    translation that is marked is warned of once, in the order of the source. -/
theorem reconcileFully_accounts (options : ReconcileOptions) (source target : Catalog) :
    let run := reconcileFully options source target
    let marked := newlyMarked options source target
    run.stats.total = source.size ∧
      run.stats.total = run.stats.added + run.stats.unchanged +
        (overwritten options source target).length + marked.length ∧
      run.stats.added = (source.keys.filter fun key => key ∉ target.keys).length ∧
      run.stats.removed = (if options.flush then (unused source target).length else 0) ∧
      run.result.size + run.stats.removed = target.size + run.stats.added ∧
      run.mismatches = marked ∧
      run.mismatches.map Mismatch.record =
        marked.map fun mismatch => ⟨.warning, origin, mismatch.message⟩ := by
  intro run marked
  obtain ⟨total, added, unchanged, -⟩ := stats_eq options source target
  have mismatches : run.mismatches = marked := mismatches_eq options source target
  have removed : run.stats.removed = _ := removed_eq options source target
  have result : run.result.size = _ := size_result options source target
  have parts := kept_add_unused options source target
  refine ⟨?_, ?_, ?_, removed, ?_, mismatches, ?_⟩
  · rw [total, fates, List.length_map, size]
  · rw [total, added, unchanged, ← count_replaced, ← countP_isMarked, Fate.length_eq]
  · rw [added, count_added]
  · rw [result, removed, added]
    omega
  · rw [mismatches]
    rfl

end Phrasebook.Catalog
