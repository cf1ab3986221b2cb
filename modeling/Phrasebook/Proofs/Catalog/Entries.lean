import Mathlib
import Phrasebook.Catalog.Basic

namespace Phrasebook.Entry

theorem keys_append (front back : List Entry) : keys (front ++ back) = keys front ++ keys back :=
  List.map_append

theorem mem_keys_of_mem {entries : List Entry} {entry : Entry} (h : entry ∈ entries) :
    entry.1 ∈ keys entries := List.mem_map_of_mem h

theorem keys_filter (p : String → Bool) (entries : List Entry) :
    keys (entries.filter fun entry => p entry.1) = (keys entries).filter p := by
  rw [keys, keys, List.filter_map]
  rfl

theorem lookup_eq_none_iff {entries : List Entry} {key : String} :
    entries.lookup key = none ↔ key ∉ keys entries := by
  simp only [List.lookup_eq_none_iff, keys, List.mem_map, bne_iff_ne, not_exists, not_and]
  exact ⟨fun h entry member e => h entry member e.symm, fun h entry member e => h entry member e.symm⟩

theorem mem_of_lookup {entries : List Entry} {key text : String}
    (h : entries.lookup key = some text) : (key, text) ∈ entries := by
  obtain ⟨front, back, rfl, _⟩ := List.lookup_eq_some_iff.1 h
  simp

theorem lookup_of_mem {α : Type} {pairs : List (String × α)} (nodup : (pairs.map (·.1)).Nodup)
    {pair : String × α} (h : pair ∈ pairs) : pairs.lookup pair.1 = some pair.2 := by
  obtain ⟨front, back, rfl⟩ := List.append_of_mem h
  rw [List.lookup_eq_some_iff]
  refine ⟨front, back, rfl, fun other member => ?_⟩
  rw [List.map_append, List.nodup_append] at nodup
  have distinct := nodup.2.2 other.1 (List.mem_map_of_mem member) pair.1 (by simp)
  simpa using distinct.symm

theorem lookup_eq_some_iff {entries : List Entry} (nodup : (keys entries).Nodup)
    {key text : String} : entries.lookup key = some text ↔ (key, text) ∈ entries :=
  ⟨mem_of_lookup, fun h => lookup_of_mem nodup h⟩

theorem lookup_filter (p : String → Prop) [DecidablePred p] (entries : List Entry) (key : String) :
    (entries.filter fun entry => p entry.1).lookup key =
      if p key then entries.lookup key else none := by
  induction entries with
  | nil => simp
  | cons entry rest ih =>
    by_cases hk : key = entry.1
    · subst hk
      by_cases hp : p entry.1
      · simp [hp, List.lookup]
      · simp only [List.filter_cons, hp, decide_false, Bool.false_eq_true, if_false, ih]
    · have hb : (key == entry.1) = false := by simpa using hk
      by_cases hp : p entry.1
      · simp only [List.filter_cons, hp, decide_true, if_true, List.lookup, hb, ih]
      · simp only [List.filter_cons, hp, decide_false, Bool.false_eq_true, if_false, List.lookup, hb, ih]

theorem lookup_map {f : Entry → Entry} (hf : ∀ entry, (f entry).1 = entry.1) (entries : List Entry)
    (key : String) :
    (entries.map f).lookup key = (entries.lookup key).map fun text => (f (key, text)).2 := by
  induction entries with
  | nil => rfl
  | cons entry rest ih =>
    by_cases hk : key = entry.1
    · subst hk
      simp [List.lookup, hf]
    · have hb : (key == entry.1) = false := by simpa using hk
      simp only [List.map_cons, List.lookup, hf, hb, ih]

theorem put_of_not_mem {entries : List Entry} {key : String} (text : String)
    (h : key ∉ keys entries) : put key text entries = entries ++ [(key, text)] := by
  induction entries with
  | nil => rfl
  | cons entry rest ih =>
    simp only [keys, List.map_cons, List.mem_cons, not_or] at h
    have hk : (entry.1 == key) = false := by simpa using fun e => h.1 e.symm
    simp only [put, hk, Bool.false_eq_true, if_false, ih h.2, List.cons_append]

theorem put_of_mem {entries : List Entry} (nodup : (keys entries).Nodup) {key : String}
    (text : String) (h : key ∈ keys entries) :
    put key text entries = entries.map fun entry => if entry.1 = key then (key, text) else entry := by
  induction entries with
  | nil => simp [keys] at h
  | cons entry rest ih =>
    simp only [keys, List.map_cons, List.nodup_cons] at nodup
    by_cases hk : entry.1 = key
    · have fixed : ∀ other ∈ rest,
          (if other.1 = key then (key, text) else other) = other := fun other member => by
        rw [if_neg]
        intro e
        exact nodup.1 (hk ▸ e ▸ mem_keys_of_mem member)
      simp only [put, hk, BEq.rfl, if_true, List.map_cons, List.map_congr_left fixed, List.map_id']
    · have hb : (entry.1 == key) = false := by simpa using hk
      have hm : key ∈ keys rest := by
        simp only [keys, List.map_cons, List.mem_cons] at h
        exact h.resolve_left fun e => hk e.symm
      simp only [put, hb, Bool.false_eq_true, if_false, List.map_cons, hk, ih nodup.2 hm]

end Phrasebook.Entry

namespace Phrasebook.Catalog

theorem get?_eq_none_iff {catalog : Catalog} {key : String} :
    catalog.get? key = none ↔ key ∉ catalog.keys := Entry.lookup_eq_none_iff

theorem get?_eq_some_iff {catalog : Catalog} {key text : String} :
    catalog.get? key = some text ↔ (key, text) ∈ catalog.entries :=
  Entry.lookup_eq_some_iff catalog.nodup

theorem mem_keys_of_get? {catalog : Catalog} {key text : String}
    (h : catalog.get? key = some text) : key ∈ catalog.keys :=
  Entry.mem_keys_of_mem (get?_eq_some_iff.1 h)

theorem get?_of_mem {catalog : Catalog} {entry : Entry} (h : entry ∈ catalog.entries) :
    catalog.get? entry.1 = some entry.2 := get?_eq_some_iff.2 h

theorem entries_foldl_insert {entries : List Entry} {catalog : Catalog}
    (nodup : (Entry.keys (catalog.entries ++ entries)).Nodup) :
    (entries.foldl (fun c entry => c.insert entry.1 entry.2) catalog).entries =
      catalog.entries ++ entries := by
  induction entries generalizing catalog with
  | nil => simp
  | cons entry entries ih =>
    have outside : entry.1 ∉ Entry.keys catalog.entries := by
      rw [Entry.keys_append, List.nodup_append] at nodup
      exact fun h => nodup.2.2 _ h _ (by simp [Entry.keys]) rfl
    have inserted : (catalog.insert entry.1 entry.2).entries = catalog.entries ++ [entry] :=
      Entry.put_of_not_mem entry.2 outside
    rw [List.foldl_cons, ih (by rw [inserted, List.append_assoc]; exact nodup), inserted,
      List.append_assoc]
    rfl

theorem ofList_entries (catalog : Catalog) : ofList catalog.entries = catalog := by
  have start : (Entry.keys (empty.entries ++ catalog.entries)).Nodup := catalog.nodup
  exact ext (entries_foldl_insert start)

end Phrasebook.Catalog
