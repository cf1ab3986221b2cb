import Phrasebook.Catalog.File
import Phrasebook.Proofs.Catalog.Entries
import Phrasebook.Proofs.Data.Json
import Phrasebook.Proofs.Text.Encoding

namespace Phrasebook.Entry

def toMember (entry : Entry) : Data × Data := (.string entry.1, .string entry.2)

def toNamed (entry : Entry) : String × Data := (entry.1, .string entry.2)

end Phrasebook.Entry

namespace Phrasebook.Catalog

open Data

/-- What a layout puts around entries: white space, one comma, one colon, and no carriage return. -/
structure Layout.Spaced (layout : Layout) (gap space : List Char) : Prop where
  opening : ∀ c ∈ layout.opening, Json.isBlank c = true ∧ c ≠ '\r'
  between : layout.between = ',' :: gap
  gap : ∀ c ∈ gap, Json.isBlank c = true ∧ c ≠ '\r'
  colon : layout.colon = ':' :: space
  space : ∀ c ∈ space, Json.isBlank c = true ∧ c ≠ '\r'
  closing : ∀ c ∈ layout.closing, Json.isBlank c = true ∧ c ≠ '\r'

theorem Layout.pretty_spaced : Layout.pretty.Spaced ['\n', ' ', ' '] [' '] := by
  have space : Json.isBlank ' ' = true ∧ ' ' ≠ '\r' := by decide
  have feed : Json.isBlank '\n' = true ∧ '\n' ≠ '\r' := by decide
  have line : ∀ c ∈ ['\n', ' ', ' '], Json.isBlank c = true ∧ c ≠ '\r' :=
    List.forall_mem_cons.2 ⟨feed, List.forall_mem_cons.2 ⟨space, List.forall_mem_singleton.2 space⟩⟩
  exact ⟨line, rfl, line, rfl, List.forall_mem_singleton.2 space, List.forall_mem_singleton.2 feed⟩

theorem Layout.compact_spaced : Layout.compact.Spaced [] [] :=
  ⟨List.forall_mem_nil _, rfl, List.forall_mem_nil _, rfl, List.forall_mem_nil _,
    List.forall_mem_nil _⟩

def Layout.of (pretty : Bool) : Layout := if pretty then Layout.pretty else Layout.compact

theorem Layout.of_spaced (pretty : Bool) : ∃ gap space, (Layout.of pretty).Spaced gap space := by
  cases pretty
  · exact ⟨_, _, Layout.compact_spaced⟩
  · exact ⟨_, _, Layout.pretty_spaced⟩

theorem renderEntry_append (layout : Layout) (entry : Entry) (text : List Char) :
    renderEntry layout entry ++ text =
      Json.quote entry.1.toList ++ (layout.colon ++ (Json.quote entry.2.toList ++ text)) := by
  simp only [renderEntry, List.append_assoc]

theorem renderEntries_append (layout : Layout) (entry : Entry) (entries : List Entry)
    (text : List Char) :
    ∃ behind, renderEntries layout (entry :: entries) ++ text =
      Json.quote entry.1.toList ++ behind := by
  cases entries with
  | nil => exact ⟨_, renderEntry_append layout entry text⟩
  | cons next entries =>
    refine ⟨layout.colon ++ (Json.quote entry.2.toList ++ (layout.between ++
      (renderEntries layout (next :: entries) ++ text))), ?_⟩
    simp only [renderEntries, ← renderEntry_append, List.append_assoc]

section

variable {layout : Layout} {gap space : List Char} (spaced : layout.Spaced gap space)

include spaced

theorem skipBlanks_colon (entry : Entry) (text : List Char) :
    Json.skipBlanks (layout.colon ++ (Json.quote entry.2.toList ++ text)) =
      ':' :: (space ++ (Json.quote entry.2.toList ++ text)) := by
  rw [spaced.colon]
  exact Json.skipBlanks_cons (by decide) _

theorem skipBlanks_space (entry : Entry) (text : List Char) :
    Json.skipBlanks (space ++ (Json.quote entry.2.toList ++ text)) =
      Json.quote entry.2.toList ++ text := by
  rw [Json.skipBlanks_append fun c h => (spaced.space c h).1, Json.skipBlanks_quote]

theorem skipBlanks_between (text : List Char) :
    Json.skipBlanks (layout.between ++ text) = ',' :: (gap ++ text) := by
  rw [spaced.between]
  exact Json.skipBlanks_cons (by decide) _

theorem skipBlanks_closing (text : List Char) :
    Json.skipBlanks (layout.closing ++ '\x7d' :: text) = '\x7d' :: text := by
  rw [Json.skipBlanks_append fun c h => (spaced.closing c h).1]
  exact Json.skipBlanks_cons (by decide) _

theorem members_renderEntries {entries : List Entry} (some : entries ≠ []) {n : Nat}
    (bound : entries.length < n) (rest : List Char) :
    Json.members n (renderEntries layout entries ++ (layout.closing ++ '\x7d' :: rest)) =
      .ok (entries.map Entry.toMember, rest) := by
  induction entries generalizing n with
  | nil => exact absurd rfl some
  | cons entry entries ih =>
    obtain ⟨m, rfl⟩ : ∃ m, n = m + 2 := ⟨n - 2, by simp only [List.length_cons] at bound; omega⟩
    cases entries with
    | nil =>
      have read := Json.members_last (n := m + 1) rfl (Json.quoted_quote entry.1.toList _)
        (skipBlanks_colon spaced entry _)
        (by rw [skipBlanks_space spaced]; exact Json.value_quote m entry.2 _)
        (skipBlanks_closing spaced rest)
      rw [← renderEntry_append, String.ofList_toList] at read
      exact read
    | cons next entries =>
      have others := ih (by simp) (n := m + 1) (by simp only [List.length_cons] at bound ⊢; omega)
      obtain ⟨behind, begins⟩ := renderEntries_append layout next entries
        (layout.closing ++ '\x7d' :: rest)
      rw [begins] at others
      have read := Json.members_more (n := m + 1) rfl (Json.quoted_quote entry.1.toList _)
        (skipBlanks_colon spaced entry _)
        (by rw [skipBlanks_space spaced]; exact Json.value_quote m entry.2 _)
        (skipBlanks_between spaced _)
        (by
          rw [Json.skipBlanks_append fun c h => (spaced.gap c h).1, Json.skipBlanks_quote]
          exact others)
      rw [← begins, ← renderEntry_append, String.ofList_toList] at read
      simp only [renderEntries, List.append_assoc]
      exact read

end

theorem length_le_length_renderEntries (layout : Layout) (entries : List Entry) :
    entries.length ≤ (renderEntries layout entries).length := by
  induction entries with
  | nil => simp
  | cons entry entries ih =>
    have one : 1 ≤ (renderEntry layout entry).length := by
      simp [renderEntry, Json.quote]
    cases entries with
    | nil => simpa [renderEntries] using one
    | cons next entries =>
      simp only [renderEntries, List.length_append, List.length_cons] at ih ⊢
      omega

theorem render_eq (pretty : Bool) (catalog : Catalog) (h : catalog.entries ≠ []) :
    catalog.render pretty = '\x7b' :: ((Layout.of pretty).opening ++
      (renderEntries (Layout.of pretty) catalog.entries ++ ((Layout.of pretty).closing ++ ['\x7d']))) := by
  simp [render, Layout.of, h]

theorem parse_render (pretty : Bool) (catalog : Catalog) :
    Json.parse (catalog.render pretty ++ ['\n']) =
      .ok (.mapping (catalog.entries.map Entry.toMember)) := by
  by_cases h : catalog.entries = []
  · have empty : catalog.render pretty = ['\x7b', '\x7d'] := by simp [render, h]
    rw [empty, h]
    rfl
  obtain ⟨entry, entries, he⟩ := List.exists_cons_of_ne_nil h
  obtain ⟨gap, space, spaced⟩ := Layout.of_spaced pretty
  rw [render_eq pretty catalog h]
  generalize Layout.of pretty = layout at spaced
  let inside := renderEntries layout catalog.entries ++ (layout.closing ++ '\x7d' :: ['\n'])
  have text : '\x7b' :: (layout.opening ++ (renderEntries layout catalog.entries ++
      (layout.closing ++ ['\x7d']))) ++ ['\n'] = '\x7b' :: (layout.opening ++ inside) := by
    simp [inside]
  have bound : catalog.entries.length < (layout.opening ++ inside).length + 1 := by
    have := length_le_length_renderEntries layout catalog.entries
    simp only [inside, List.length_append]
    omega
  have read : Json.members ((layout.opening ++ inside).length + 1) inside =
      .ok (catalog.entries.map Entry.toMember, ['\n']) :=
    members_renderEntries spaced h bound ['\n']
  obtain ⟨behind, begins⟩ := renderEntries_append layout entry entries
    (layout.closing ++ '\x7d' :: ['\n'])
  have starts : inside = Json.quote entry.1.toList ++ behind := by simp only [inside, he, begins]
  have skipped : Json.skipBlanks (layout.opening ++ inside) = inside := by
    rw [Json.skipBlanks_append fun c h => (spaced.opening c h).1, starts, Json.skipBlanks_quote]
  have head : inside.head? = some '"' := by
    rw [starts]
    rfl
  rw [text]
  exact Json.parse_object (by rw [skipped, head]) (by rw [skipped, read]) (by decide)

theorem foldl_firstOccurrences_of_nodup {items seen : List String} (nodup : (seen ++ items).Nodup) :
    items.foldl (fun seen a => if seen.contains a then seen else seen ++ [a]) seen =
      seen ++ items := by
  induction items generalizing seen with
  | nil => simp
  | cons item items ih =>
    have fresh : seen.contains item = false := by
      rw [List.nodup_append] at nodup
      simpa using fun h => nodup.2.2 item h item (by simp) rfl
    rw [List.foldl_cons, fresh, if_neg (by simp), ih (by rw [List.append_assoc]; exact nodup),
      List.append_assoc]
    rfl

theorem firstOccurrences_of_nodup {items : List String} (nodup : items.Nodup) :
    firstOccurrences items = items := by
  have start : ([] ++ items).Nodup := nodup
  exact foldl_firstOccurrences_of_nodup start

theorem filterMap_toMember {name : Data × Data → Option (String × Data)}
    (h : ∀ entry, name (Entry.toMember entry) = some (Entry.toNamed entry)) (entries : List Entry) :
    (entries.map Entry.toMember).filterMap name = entries.map Entry.toNamed := by
  rw [List.filterMap_map, ← List.filterMap_eq_map]
  exact List.filterMap_congr fun entry _ => h entry

theorem lastValues_toMember (catalog : Catalog) :
    lastValues (catalog.entries.map Entry.toMember) = catalog.entries.map Entry.toNamed := by
  have keys : (catalog.entries.map Entry.toNamed).map (·.1) = catalog.keys := by
    rw [List.map_map]
    rfl
  have distinct : ((catalog.entries.map Entry.toNamed).reverse.map (·.1)).Nodup := by
    rw [List.map_reverse, (List.reverse_perm _).nodup_iff, keys]
    exact catalog.nodup
  have first : firstOccurrences catalog.keys = catalog.keys :=
    firstOccurrences_of_nodup catalog.nodup
  unfold lastValues
  rw [filterMap_toMember]
  rotate_left
  · exact fun _ => rfl
  simp only [keys, first]
  rw [Catalog.keys, Entry.keys, List.filterMap_map, List.filterMap_eq_map_iff_forall_eq_some]
  intro entry member
  have found := Entry.lookup_of_mem distinct
    (List.mem_reverse.2 (List.mem_map_of_mem (f := Entry.toNamed) member))
  exact congrArg (Option.map (entry.1, ·)) found

theorem stringEntries_toNamed (entries : List Entry) :
    stringEntries (entries.map Entry.toNamed) = .ok entries := by
  induction entries with
  | nil => rfl
  | cons entry entries ih =>
    simp only [List.map_cons, Entry.toNamed, stringEntries, Data.string?, ih]
    rfl

theorem ofText_render (pretty : Bool) (catalog : Catalog) :
    ofText (catalog.render pretty ++ ['\n']) = .ok catalog := by
  simp only [ofText, parse_render, Except.mapError, Bind.bind, Except.bind, ofData,
    lastValues_toMember, stringEntries_toNamed, Functor.map, Except.map, ofList_entries]

theorem return_not_mem_quote (text : List Char) : '\r' ∉ Json.quote text :=
  fun h => absurd (Json.le_toNat_of_mem_quote h) (by decide)

theorem return_not_mem_renderEntries {layout : Layout} {gap space : List Char}
    (spaced : layout.Spaced gap space) (entries : List Entry) :
    '\r' ∉ renderEntries layout entries := by
  have colon : '\r' ∉ layout.colon := by
    rw [spaced.colon]
    simpa using fun h => (spaced.space _ h).2 rfl
  have between : '\r' ∉ layout.between := by
    rw [spaced.between]
    simpa using fun h => (spaced.gap _ h).2 rfl
  have single : ∀ entry, '\r' ∉ renderEntry layout entry := by
    intro entry
    simp [renderEntry, return_not_mem_quote, colon]
  induction entries with
  | nil => simp [renderEntries]
  | cons entry entries ih =>
    cases entries with
    | nil => exact single entry
    | cons next entries => simp [renderEntries, single, between, ih]

theorem return_not_mem_render (pretty : Bool) (catalog : Catalog) :
    '\r' ∉ catalog.render pretty := by
  by_cases h : catalog.entries = []
  · simp [render, h]
  · obtain ⟨gap, space, spaced⟩ := Layout.of_spaced pretty
    rw [render_eq pretty catalog h]
    have inside := return_not_mem_renderEntries spaced catalog.entries
    have opening : '\r' ∉ (Layout.of pretty).opening := fun h => (spaced.opening _ h).2 rfl
    have closing : '\r' ∉ (Layout.of pretty).closing := fun h => (spaced.closing _ h).2 rfl
    simp [inside, opening, closing]

def fileBytes (sorted pretty : Bool) (catalog : Catalog) : List UInt8 :=
  Text.encode (catalog.fileText sorted pretty)

def ofBytes (bytes : List UInt8) : Except Fault Catalog := do
  ofText (Text.unifyNewlines (← (Text.decode bytes).mapError fun defect => .file (.undecodable defect)))

theorem ofBytes_fileBytes (sorted pretty : Bool) (catalog : Catalog) :
    ofBytes (catalog.fileBytes sorted pretty) = .ok (if sorted then catalog.sort else catalog) := by
  have plain : '\r' ∉ catalog.fileText sorted pretty := by
    simp [fileText, return_not_mem_render]
  simp only [ofBytes, fileBytes, Text.decode_encode, Except.mapError, Bind.bind, Except.bind,
    Text.unifyNewlines_of_not_mem plain]
  exact ofText_render pretty _

end Phrasebook.Catalog
