import Phrasebook.Component.Scan
import Phrasebook.Proofs.Attempts
import Phrasebook.Proofs.Convention.Dialect

namespace Phrasebook

def Keyed (items : List Item) : Prop := ∀ item ∈ items, item.key ≠ []

theorem keyed_nil : Keyed [] := by simp [Keyed]

theorem Keyed.append {front back : List Item} (first : Keyed front) (second : Keyed back) :
    Keyed (front ++ back) := by
  intro item member
  rcases List.mem_append.1 member with member | member
  · exact first item member
  · exact second item member

theorem Keyed.of_sublist {items kept : List Item} (h : Keyed items) (sublist : kept.Sublist items) :
    Keyed kept := fun item member => h item (sublist.subset member)

theorem keyed_flatten {ε α : Type} {f : α → Except ε (List Item)}
    (each : ∀ a items, f a = .ok items → Keyed items) {parts : List α} {results : List (List Item)}
    (h : parts.mapM f = .ok results) : Keyed results.flatten := by
  intro item member
  obtain ⟨items, found, inside⟩ := List.mem_flatten.1 member
  obtain ⟨part, _, yields⟩ := (mem_mapM_iff h).1 found
  exact each part items yields item inside

namespace Extraction

theorem keyedCalls_eq_ok {names : List String} {tree : Script.SyntaxTree} {calls : List Call}
    (h : keyedCalls names tree = .ok calls) : ∀ call ∈ calls, call.key ≠ [] := by
  obtain ⟨all, _, rfl⟩ := map_eq_ok_iff.1 h
  intro call member
  simpa using (List.mem_filter.1 member).2

theorem keyed_of_keyedCalls {names : List String} {tree : Script.SyntaxTree} {toItem : Call → Item}
    (same : ∀ call, (toItem call).key = call.key) {items : List Item}
    (h : (keyedCalls names tree).map (List.map toItem) = .ok items) : Keyed items := by
  obtain ⟨calls, found, rfl⟩ := map_eq_ok_iff.1 h
  intro item member
  obtain ⟨call, inside, rfl⟩ := List.mem_map.1 member
  rw [same]
  exact keyedCalls_eq_ok found call inside

end Extraction

namespace Component.Scan

variable {scan : Scan} {parsers : Script.Parsers}

theorem keyed_literalItems {source : List UInt8} {region : Region} {tree : Script.SyntaxTree}
    {items : List Item} (h : scan.literalItems source region tree = .ok items) : Keyed items := by
  unfold literalItems at h
  cases found : literalExpression tree.source tree.root with
  | error fault =>
    rw [found] at h
    cases h
  | ok argument? =>
    rw [found] at h
    simp only [Bind.bind, Except.bind, Pure.pure, Except.pure] at h
    split at h
    · split at h
      · rename_i key _
        split at h
        · rename_i literal
          cases h
          intro item member
          rw [List.mem_singleton.1 member]
          rw [Bool.and_eq_true, bne_iff_ne] at literal
          exact literal.2
        · cases h
          exact keyed_nil
      · cases h
        exact keyed_nil
    · cases h
      exact keyed_nil

theorem keyed_regionItems {source : List UInt8} {region : Region} {items : List Item}
    (h : scan.regionItems parsers source region = .ok items) : Keyed items := by
  unfold regionItems at h
  split at h
  · cases h
    exact keyed_nil
  · split at h
    · exact keyed_literalItems h
    · exact Extraction.keyed_of_keyedCalls (fun _ => rfl) h

theorem keyed_structuralItems {source : List UInt8} {root : Syntax.Node} {items : List Item}
    (h : scan.structuralItems parsers source root = .ok items) : Keyed items := by
  obtain ⟨results, found, rfl⟩ := map_eq_ok_iff.1 h
  exact keyed_flatten (fun _ _ => keyed_regionItems) found

theorem keyed_sectionItems {code : List Char} {part : Section} {items : List Item}
    (h : scan.sectionItems parsers code part = .ok items) : Keyed items := by
  unfold sectionItems at h
  split at h
  · cases h
    exact fun _ => Dialect.key_ne_empty_of_mem_itemsAt
  · exact Extraction.keyed_of_keyedCalls (fun _ => rfl) h

theorem keyed_searchItems (text : List Char) : Keyed (scan.searchItems text) :=
  fun _ => Dialect.key_ne_empty_of_mem_itemsAt

theorem keyed_fallbackItems {code : List Char} {items : List Item}
    (h : scan.fallbackItems parsers code = .ok items) : Keyed items := by
  obtain ⟨scripts, found, rfl⟩ := map_eq_ok_iff.1 h
  refine (keyed_flatten (fun _ _ => keyed_sectionItems) found).append ?_
  split
  · exact keyed_searchItems _
  · exact keyed_nil

end Component.Scan

end Phrasebook
