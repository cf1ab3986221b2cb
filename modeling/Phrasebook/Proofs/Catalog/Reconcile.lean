import Phrasebook.Catalog.Reconcile
import Phrasebook.Proofs.Text.Letter
import Phrasebook.Proofs.Catalog.Entries
import Phrasebook.Proofs.Placeholders

namespace Phrasebook.Catalog

theorem hasPlaceholders_iff (text : String) :
    hasPlaceholders text = true ↔ Mentions text := by
  rw [← placeholders_ne_nil_iff]
  simp [hasPlaceholders]

theorem isMarked_iff (text : String) :
    isMarked text = true ↔ mismatchMarker.toList <+: text.toList := by
  simp [isMarked]

theorem sameParams_iff (a b : String) :
    sameParams a b = true ↔ (placeholders a).Perm (placeholders b) := by
  have sorted : ∀ text, (sortedParams text).Perm (placeholders text) := fun text =>
    List.mergeSort_perm (placeholders text) Wording.le
  have ordered : ∀ text, (sortedParams text).Pairwise fun a b => Wording.le a b = true := by
    intro text
    apply List.pairwise_mergeSort
    · exact fun _ _ _ => Wording.le_trans
    · exact Wording.le_total
  rw [sameParams, beq_iff_eq]
  constructor
  · intro same
    exact (sorted a).symm.trans (same ▸ sorted b)
  · intro same
    exact ((sorted a).trans (same.trans (sorted b).symm)).eq_of_pairwise
      (fun _ _ _ _ => Wording.le_antisymm) (ordered a) (ordered b)

/-- A translation whose parameters are checked and found to differ from those of the source. -/
structure Flagged (key text existing : String) : Prop where
  mentions : Mentions key
  unmarked : ¬ mismatchMarker.toList <+: existing.toList
  differ : ¬ (placeholders text).Perm (placeholders existing)

instance (key text existing : String) : Decidable (Flagged key text existing) :=
  decidable_of_iff
    (Mentions key ∧ ¬ mismatchMarker.toList <+: existing.toList ∧
      ¬ (placeholders text).Perm (placeholders existing))
    ⟨fun h => ⟨h.1, h.2.1, h.2.2⟩, fun h => ⟨h.1, h.2, h.3⟩⟩

theorem flags_iff_checks (options : ReconcileOptions) (key text existing : String) :
    options.validateParams = true ∧ Flagged key text existing ↔
      (options.validateParams && hasPlaceholders key) = true ∧
        (isMarked existing || sameParams text existing) = false := by
  rw [Bool.and_eq_true, hasPlaceholders_iff, Bool.or_eq_false_iff, ← Bool.not_eq_true,
    ← Bool.not_eq_true, isMarked_iff, sameParams_iff]
  constructor
  · intro ⟨validates, flagged⟩
    exact ⟨⟨validates, flagged.mentions⟩, flagged.unmarked, flagged.differ⟩
  · intro ⟨⟨validates, mentions⟩, unmarked, differ⟩
    exact ⟨validates, mentions, unmarked, differ⟩

/-- The text under a key that source and target have in common. -/
def reconciledText (options : ReconcileOptions) (key text existing : String) : String :=
  if options.replaceUntranslated ∧ existing = key then text
  else if options.validateParams ∧ Mentions key ∧
      ¬ mismatchMarker.toList <+: existing.toList ∧
      ¬ (placeholders text).Perm (placeholders existing) then
    mismatchMarker ++ existing
  else existing

theorem reconciledText_eq (options : ReconcileOptions) (key text existing : String) :
    reconciledText options key text existing =
      if options.replaceUntranslated = true ∧ existing = key then text
      else if options.validateParams = true ∧ Flagged key text existing then mark existing
      else existing := by
  unfold reconciledText
  by_cases replaced : options.replaceUntranslated = true ∧ existing = key
  · rw [if_pos replaced, if_pos replaced]
  rw [if_neg replaced, if_neg replaced]
  by_cases flagged : options.validateParams = true ∧ Flagged key text existing
  · obtain ⟨validates, mentions, unmarked, differ⟩ := flagged
    rw [if_pos ⟨validates, mentions, unmarked, differ⟩,
      if_pos ⟨validates, mentions, unmarked, differ⟩]
    rfl
  · rw [if_neg flagged, if_neg fun h => flagged ⟨h.1, h.2.1, h.2.2.1, h.2.2.2⟩]

theorem reconciledText_self (options : ReconcileOptions) (key text : String) :
    reconciledText options key text text = text := by
  unfold reconciledText
  split
  · rfl
  · rw [if_neg fun h => h.2.2.2 (List.Perm.refl _)]

def reconciledEntry (options : ReconcileOptions) (source : List Entry) (entry : Entry) : Entry :=
  match source.lookup entry.1 with
  | some text => (entry.1, reconciledText options entry.1 text entry.2)
  | none => entry

theorem reconciledEntry_fst (options : ReconcileOptions) (source : List Entry) (entry : Entry) :
    (reconciledEntry options source entry).1 = entry.1 := by
  unfold reconciledEntry
  split <;> rfl

theorem reconciledEntry_of_not_mem (options : ReconcileOptions) {source : List Entry} {entry : Entry}
    (h : entry.1 ∉ Entry.keys source) : reconciledEntry options source entry = entry := by
  rw [reconciledEntry, Entry.lookup_eq_none_iff.2 h]

@[simp] theorem reconciledEntry_nil (options : ReconcileOptions) (entry : Entry) :
    reconciledEntry options [] entry = entry := rfl

theorem reconciledEntry_cons_of_eq (options : ReconcileOptions) {first entry : Entry}
    (rest : List Entry) (h : entry.1 = first.1) :
    reconciledEntry options (first :: rest) entry =
      (first.1, reconciledText options first.1 first.2 entry.2) := by
  simp [reconciledEntry, List.lookup, h]

theorem reconciledEntry_cons_of_ne (options : ReconcileOptions) {first entry : Entry}
    (rest : List Entry) (h : entry.1 ≠ first.1) :
    reconciledEntry options (first :: rest) entry = reconciledEntry options rest entry := by
  have hb : (entry.1 == first.1) = false := by simpa using h
  simp [reconciledEntry, List.lookup, hb]

namespace Reconciled

theorem step_entries_of_not_mem (options : ReconcileOptions) {state : Reconciled} {entry : Entry}
    (h : entry.1 ∉ state.result.keys) :
    (state.step options entry).result.entries = state.result.entries ++ [entry] := by
  simp only [step, get?_eq_none_iff.2 h]
  exact Entry.put_of_not_mem entry.2 h

theorem insert_entries_eq_map {catalog : Catalog} {key : String} (text : String)
    (h : key ∈ catalog.keys) :
    (catalog.insert key text).entries =
      catalog.entries.map fun entry => if entry.1 = key then (key, text) else entry :=
  Entry.put_of_mem catalog.nodup text h

theorem insert_existing {catalog : Catalog} {key existing : String}
    (h : catalog.get? key = some existing) : catalog.insert key existing = catalog := by
  apply Catalog.ext
  rw [insert_entries_eq_map existing (mem_keys_of_get? h)]
  refine (List.map_congr_left fun entry member => ?_).trans (List.map_id' _)
  split
  · rename_i hk
    have same := get?_of_mem member
    rw [hk, h] at same
    cases same
    rw [← hk]
  · rfl

theorem step_of_get? (options : ReconcileOptions) {state : Reconciled} {entry : Entry}
    {existing : String} (h : state.result.get? entry.1 = some existing) :
    state.step options entry =
      let next := { state with stats.total := state.stats.total + 1 }
      if options.replaceUntranslated = true ∧ existing = entry.1 then
        { next with result := state.result.insert entry.1 entry.2 }
      else if options.validateParams = true ∧ Flagged entry.1 entry.2 existing then
        { next with
          result := state.result.insert entry.1 (mark existing)
          mismatches := state.mismatches ++ [⟨entry.1, existing⟩] }
      else next.keep := by
  simp only [step, h]
  by_cases replaced : options.replaceUntranslated = true ∧ existing = entry.1
  · simp [replaced]
  have replaced' : (options.replaceUntranslated && existing == entry.1) = false := by
    simpa using replaced
  rw [replaced', if_neg replaced, if_neg Bool.false_ne_true]
  by_cases flagged : options.validateParams = true ∧ Flagged entry.1 entry.2 existing
  · obtain ⟨checked, faulty⟩ := (flags_iff_checks options _ _ _).1 flagged
    rw [if_pos flagged, if_pos checked, faulty, if_neg Bool.false_ne_true]
  · rw [if_neg flagged]
    rw [flags_iff_checks, not_and, Bool.not_eq_false] at flagged
    by_cases checked : (options.validateParams && hasPlaceholders entry.1) = true
    · rw [if_pos checked, if_pos (flagged checked)]
    · rw [if_neg checked]

theorem step_result_of_get? (options : ReconcileOptions) {state : Reconciled} {entry : Entry}
    {existing : String} (h : state.result.get? entry.1 = some existing) :
    (state.step options entry).result =
      state.result.insert entry.1 (reconciledText options entry.1 entry.2 existing) := by
  rw [step_of_get? options h, reconciledText_eq]
  by_cases replaced : options.replaceUntranslated = true ∧ existing = entry.1
  · simp only [if_pos replaced]
  by_cases flagged : options.validateParams = true ∧ Flagged entry.1 entry.2 existing
  · simp only [if_neg replaced, if_pos flagged]
  · simp only [if_neg replaced, if_neg flagged, keep, insert_existing h]

theorem step_entries_of_mem (options : ReconcileOptions) {state : Reconciled} {entry : Entry}
    (h : entry.1 ∈ state.result.keys) :
    (state.step options entry).result.entries =
      state.result.entries.map (reconciledEntry options [entry]) := by
  obtain ⟨existing, found⟩ : ∃ existing, state.result.get? entry.1 = some existing := by
    cases hg : state.result.get? entry.1 with
    | none => exact absurd h (get?_eq_none_iff.1 hg)
    | some existing => exact ⟨existing, rfl⟩
  rw [step_result_of_get? options found, insert_entries_eq_map _ h]
  apply List.map_congr_left
  intro other member
  by_cases hk : other.1 = entry.1
  · have same := get?_of_mem member
    rw [hk, found] at same
    cases same
    rw [if_pos hk, reconciledEntry_cons_of_eq options [] hk]
  · rw [if_neg hk, reconciledEntry_cons_of_ne options [] hk, reconciledEntry_nil]

/-- The loop over the source, from any state: the entries there are reconciled with those of the
    source still to come, and the others among these are added behind. -/
theorem foldl_step_entries (options : ReconcileOptions) {source : List Entry}
    (nodup : (Entry.keys source).Nodup) (state : Reconciled) :
    (source.foldl (step options) state).result.entries =
      state.result.entries.map (reconciledEntry options source) ++
        source.filter fun entry => entry.1 ∉ state.result.keys := by
  induction source generalizing state with
  | nil => simp [List.map_id'' (reconciledEntry_nil options)]
  | cons entry rest ih =>
    simp only [Entry.keys, List.map_cons, List.nodup_cons] at nodup
    rw [List.foldl_cons, ih nodup.2]
    by_cases h : entry.1 ∈ state.result.keys
    · have keys : (state.step options entry).result.keys = state.result.keys := by
        simp only [Catalog.keys, Entry.keys, step_entries_of_mem options h, List.map_map]
        exact List.map_congr_left fun other _ => reconciledEntry_fst options [entry] other
      rw [step_entries_of_mem options h, keys, List.filter_cons_of_neg (by simpa using h),
        List.map_map]
      congr 1
      apply List.map_congr_left
      intro other _
      rw [Function.comp_apply]
      by_cases hk : other.1 = entry.1
      · rw [reconciledEntry_cons_of_eq options [] hk, reconciledEntry_cons_of_eq options rest hk]
        exact reconciledEntry_of_not_mem options nodup.1
      · rw [reconciledEntry_cons_of_ne options [] hk, reconciledEntry_cons_of_ne options rest hk,
          reconciledEntry_nil]
    · have keys : (state.step options entry).result.keys = state.result.keys ++ [entry.1] := by
        simp [Catalog.keys, Entry.keys, step_entries_of_not_mem options h]
      rw [step_entries_of_not_mem options h, keys, List.filter_cons_of_pos (by simpa using h),
        List.map_append, List.map_singleton, reconciledEntry_of_not_mem options nodup.1,
        List.append_assoc]
      congr 1
      · apply List.map_congr_left
        intro other member
        have hk : other.1 ≠ entry.1 := fun e => h (e ▸ Entry.mem_keys_of_mem member)
        exact (reconciledEntry_cons_of_ne options rest hk).symm
      · rw [List.singleton_append]
        congr 1
        apply List.filter_congr
        intro other member
        have hk : other.1 ≠ entry.1 := fun e => nodup.1 (e ▸ Entry.mem_keys_of_mem member)
        simp [hk]

theorem start_result_entries (options : ReconcileOptions) (source target : Catalog) :
    (start options source target).result.entries =
      target.entries.filter fun entry => options.flush → entry.1 ∈ source.keys := by
  cases hf : options.flush with
  | false => simp [start, hf, List.filter_eq_self.2]
  | true =>
    simp only [start, hf, if_true, Catalog.filter, true_implies]
    apply List.filter_congr
    intro entry _
    simp [contains]

theorem mem_start_keys_iff (options : ReconcileOptions) {source target : Catalog} {key : String}
    (h : key ∈ source.keys) :
    key ∈ (start options source target).result.keys ↔ key ∈ target.keys := by
  simp only [Catalog.keys, Entry.keys, start_result_entries, List.mem_map, List.mem_filter,
    decide_eq_true_eq]
  constructor
  · rintro ⟨entry, ⟨member, _⟩, rfl⟩
    exact ⟨entry, member, rfl⟩
  · rintro ⟨entry, member, rfl⟩
    exact ⟨entry, ⟨member, fun _ => List.mem_map.1 h⟩, rfl⟩

end Reconciled

theorem entries_reconcile (options : ReconcileOptions) (source target : Catalog) :
    (reconcile options source target).entries =
      (target.entries.filter fun entry => options.flush → entry.1 ∈ source.keys).map
          (reconciledEntry options source.entries) ++
        source.entries.filter fun entry => entry.1 ∉ target.keys := by
  rw [reconcile, reconcileFully, Reconciled.foldl_step_entries options source.nodup,
    Reconciled.start_result_entries]
  congr 1
  apply List.filter_congr
  intro entry member
  simp only [Reconciled.mem_start_keys_iff options (Entry.mem_keys_of_mem member)]

theorem get?_reconcile (options : ReconcileOptions) (source target : Catalog) (key : String) :
    (reconcile options source target).get? key =
      match source.get? key, target.get? key with
      | none, existing => if options.flush then none else existing
      | some text, none => some text
      | some text, some existing => some (reconciledText options key text existing) := by
  rw [get?, entries_reconcile, List.lookup_append,
    Entry.lookup_map (reconciledEntry_fst options source.entries),
    Entry.lookup_filter fun k => options.flush → k ∈ source.keys,
    Entry.lookup_filter fun k => k ∉ target.keys]
  cases hs : source.get? key with
  | none =>
    have outside := get?_eq_none_iff.1 hs
    have none' : source.entries.lookup key = none := hs
    cases hf : options.flush <;> simp [none', outside, reconciledEntry, get?]
  | some text =>
    have inside := mem_keys_of_get? hs
    have some' : source.entries.lookup key = some text := hs
    cases ht : target.get? key with
    | none =>
      have outside := get?_eq_none_iff.1 ht
      have none' : target.entries.lookup key = none := ht
      simp [none', some', outside]
    | some existing =>
      have there : target.entries.lookup key = some existing := ht
      simp [there, some', inside, reconciledEntry]

/-- Reconciling keeps the target's keys in their order, without those that are flushed, and adds the
    keys it lacks in the order of the source. A key that only one of the two has keeps its text. -/
theorem reconcile_keys_and_texts (options : ReconcileOptions) (source target : Catalog) :
    (reconcile options source target).keys =
        (target.keys.filter fun key => options.flush → key ∈ source.keys) ++
          source.keys.filter (· ∉ target.keys) ∧
      ∀ key, (reconcile options source target).get? key =
        match source.get? key, target.get? key with
        | none, existing => if options.flush then none else existing
        | some text, none => some text
        | some text, some existing => some (reconciledText options key text existing) := by
  refine ⟨?_, get?_reconcile options source target⟩
  simp only [keys, Entry.keys, entries_reconcile, List.map_append, List.map_map, List.filter_map]
  congr 1
  exact List.map_congr_left fun entry _ => reconciledEntry_fst options source.entries entry

end Phrasebook.Catalog
