import Phrasebook.Extraction.Script
import Phrasebook.Proofs.Call
import Phrasebook.Proofs.Convention.Search

namespace Phrasebook

open Convention Text

namespace Convention

/-- Letters, digits, the underscore and the dollar sign. -/
def isNameChar (c : Char) : Bool := isWord c || c == '$'

def IsName (name : List Char) : Prop := name ≠ [] ∧ name.all isNameChar = true

theorem isWord_eq_false_iff {c : Char} (named : isNameChar c = true) : isWord c = false ↔ c = '$' := by
  constructor
  · intro wordless
    simpa [isNameChar, wordless] using named
  · rintro rfl
    decide

theorem nameMayStart_iff {name : List Char} (isName : IsName name) {c : Char}
    (named : isNameChar c = true) :
    nameMayStart (some c) name = true ↔ c = '$' ∨ name.head? = some '$' := by
  obtain ⟨filled, chars⟩ := isName
  cases name with
  | nil => exact absurd rfl filled
  | cons d rest =>
    have before := isWord_eq_false_iff named
    have first := isWord_eq_false_iff (List.all_eq_true.1 chars d List.mem_cons_self)
    simp only [nameMayStart, startsWord, Option.all_some, Bool.or_eq_true, Bool.not_eq_true', before,
      first, List.head?_cons, Option.some.injEq]
    exact Or.comm

/-- Right after a character of a longer name, the pattern of a listed name matches exactly if that character
    or the first one of the listed name is a dollar sign, a call is spelled out there and the place is not
    covered by an earlier match. After a letter, a digit or an underscore, a name that does not begin with a
    dollar sign is never matched. -/
theorem exists_match_after_name_iff {names : List String} (isName : ∀ name ∈ names, IsName name.toList)
    {name : String} (listed : name ∈ names) {quote : Char} (quoted : quote ∈ quotes) {c : Char}
    (named : isNameChar c = true) (front back : List Char) :
    let pattern := Pattern.call .bare name.toList quote
    let text := front ++ c :: back
    (∃ found ∈ pattern.matchesIn text, found.start = front.length + 1) ↔
      (c = '$' ∨ name.toList.head? = some '$') ∧
        (∃ body call rest, Calls name.toList quote body call ∧ back = call ++ rest) ∧
          ∀ outer ∈ pattern.matchesIn text, ¬ outer.Covers (front.length + 1) := by
  intro pattern text
  have split : text = (front ++ [c]) ++ back := by simp [text]
  have length : (front ++ [c]).length = front.length + 1 := by simp
  have last : (front ++ [c]).getLast? = some c := by simp
  have place := Pattern.exists_match_at_iff pattern (front ++ [c]) back
  rw [← split, length, last] at place
  have matches' : ∀ body, (∃ rest, pattern.match? (some c) back = some (body, rest)) ↔
      (c = '$' ∨ name.toList.head? = some '$') ∧
        ∃ call rest, Calls name.toList quote body call ∧ back = call ++ rest := by
    intro body
    rw [Pattern.exists_match?_bare_iff quoted, nameMayStart_iff (isName name listed) named]
  constructor
  · rintro ⟨found, member, start⟩
    obtain ⟨matched, uncovered⟩ := (place found.body).1 ⟨found, member, start, rfl⟩
    obtain ⟨dollar, calls⟩ := (matches' found.body).1 matched
    exact ⟨dollar, ⟨found.body, calls⟩, uncovered⟩
  · rintro ⟨dollar, ⟨body, calls⟩, uncovered⟩
    obtain ⟨found, member, start, _⟩ := (place body).2 ⟨(matches' body).2 ⟨dollar, calls⟩, uncovered⟩
    exact ⟨found, member, start⟩

/-- A listed name that begins with a dollar sign, at the end of a longer one. -/
theorem exists_match_after_name_iff_prefixed :
    let call := "$t('k')".toList
    let text := 'x' :: call
    (∀ name ∈ ["$t", "t"], IsName name.toList) ∧ isNameChar 'x' = true ∧
      Calls "$t".toList '\'' ['k'] call ∧
        ∃ found ∈ (Pattern.call .bare "$t".toList '\'').matchesIn text, found.start = 1 := by
  intro call text
  have isName : ∀ name ∈ ["$t", "t"], IsName name.toList :=
    List.forall_mem_cons.2 ⟨⟨by decide, by decide⟩, List.forall_mem_singleton.2 ⟨by decide, by decide⟩⟩
  have named : isNameChar 'x' = true := by decide
  have calls : Calls "$t".toList '\'' ['k'] call :=
    ⟨[], [], nofun, ⟨[], [], nofun, nofun, rfl⟩, .plain (by decide) (by decide) .nil, rfl⟩
  refine ⟨isName, named, calls, ?_⟩
  refine (exists_match_after_name_iff isName List.mem_cons_self (by decide) named [] call).2 ?_
  exact ⟨.inr rfl, ⟨['k'], _, [], calls, (List.append_nil _).symm⟩, by decide +kernel⟩

/-- Calls of other functions whose keys are found, while the syntax tree of the script has no call of a
    listed name. -/
theorem longer_names_matched :
    let tree := fun (text : List Char) (paren : Nat) =>
      Script.SyntaxTree.mk (.script [.stringCall 0 paren text.length]) (encode text) .javascript
    ((Dialect.script.items ["$t"] "a.js" "x$t('k')".toList).map Item.key = ["k"] ∧
      Extraction.itemsOfTree ["$t"] "a.js" (tree "x$t('k')".toList 3) = .ok []) ∧
    (Dialect.script.items ["t"] "a.js" "$t('k')".toList).map Item.key = ["k"] ∧
      Extraction.itemsOfTree ["t"] "a.js" (tree "$t('k')".toList 2) = .ok [] := by
  decide +kernel

end Convention

end Phrasebook
