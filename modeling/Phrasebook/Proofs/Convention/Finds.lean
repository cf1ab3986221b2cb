import Phrasebook.Proofs.Convention.Dialect
import Phrasebook.Proofs.Convention.Pattern
import Phrasebook.Proofs.Literal.Normal

namespace Phrasebook

open Convention Text

inductive Convention.Spells (names : List String) (before : Option Char) (body : List Char) :
    Convention → List Char → Prop
  | wrapped {name : String} {quote : Char} {call : List Char} (listed : name ∈ names)
      (quoted : quote ∈ quotes) (calls : Calls name.toList quote body call) :
      Spells names before body wrapped ('\x7b' :: (call ++ ['\x7d']))
  | doubleWrapped {name : String} {quote : Char} {call blanks blanks' : List Char} (listed : name ∈ names)
      (quoted : quote ∈ quotes) (calls : Calls name.toList quote body call) (blank : Blanks blanks)
      (blank' : Blanks blanks') :
      Spells names before body doubleWrapped
        ('\x7b' :: '\x7b' :: (blanks ++ (call ++ (blanks' ++ ['\x7d', '\x7d']))))
  | bare {name : String} {quote : Char} {call : List Char} (listed : name ∈ names)
      (quoted : quote ∈ quotes) (starts : nameMayStart before name.toList = true)
      (calls : Calls name.toList quote body call) : Spells names before body bare call
  | method {name : String} {quote : Char} {owner call : List Char} (listed : name ∈ names)
      (quoted : quote ∈ quotes) (owned : owner ∈ owners) (starts : startsWord before = true)
      (calls : Calls name.toList quote body call) :
      Spells names before body method (owner ++ '.' :: call)
  | block {quote : Char} {blanks : List Char} (quoted : quote ∈ ['\'', '"']) (blank : Blanks blanks)
      (apart : blanks ≠ []) (closed : Body quote body) :
      Spells names before body block
        ('\x7b' :: '#' :: 't' :: (blanks ++ quote :: (body ++ [quote, '\x7d'])))
  | directive {outer inner : Char} (quoted : (outer, inner) ∈ [('"', '\''), ('\'', '"')])
      (closed : Body inner body) :
      Spells names before body directive
        ('v' :: '-' :: 't' :: '=' :: outer :: inner :: (body ++ [inner, outer]))

namespace Convention

section

variable {names : List String} {before : Option Char} {text body rest : List Char}

theorem mem_callPatterns_iff {wrapping : Wrapping} {pattern : Pattern} :
    pattern ∈ callPatterns wrapping (names.map (·.toList)) ↔
      ∃ name ∈ names, ∃ quote ∈ quotes, pattern = .call wrapping name.toList quote := by
  simp [callPatterns, eq_comm]

theorem spells_of_block {quote : Char} (quoted : quote ∈ ['\'', '"'])
    (h : (Pattern.block quote).match? before text = some (body, rest)) :
    ∃ spelled, block.Spells names before body spelled ∧ text = spelled ++ rest := by
  simp only [Pattern.match?, Option.bind_eq_bind, Option.bind_eq_some_iff,
    List.isPrefixOf?_eq_some_iff_append_eq] at h
  obtain ⟨inside, rfl, h⟩ := h
  split at h
  · cases h
  rename_i spaced
  simp only [Option.bind_eq_some_iff, List.isPrefixOf?_eq_some_iff_append_eq] at h
  obtain ⟨⟨body', behind⟩, literal, rest', closing, made⟩ := h
  cases made
  obtain ⟨blanks, whole, blank⟩ := exists_dropWhile_isBlank inside
  obtain ⟨closed, opened⟩ := literal?_eq_some literal
  have apart : blanks ≠ [] := by
    rintro rfl
    rw [List.nil_append] at whole
    rw [whole, opened] at spaced
    have visible : isBlank quote = false := by
      simp only [List.mem_cons, List.not_mem_nil, or_false] at quoted
      rcases quoted with rfl | rfl <;> decide
    exact spaced (by simp [visible])
  refine ⟨_, .block quoted blank apart closed, ?_⟩
  dsimp only at closing
  rw [whole, opened, ← closing]
  simp

theorem spells_of_directive {outer inner : Char}
    (quoted : (outer, inner) ∈ [('"', '\''), ('\'', '"')])
    (h : (Pattern.directive outer inner).match? before text = some (body, rest)) :
    ∃ spelled, directive.Spells names before body spelled ∧ text = spelled ++ rest := by
  simp only [Pattern.match?, Option.bind_eq_bind, Option.bind_eq_some_iff,
    List.isPrefixOf?_eq_some_iff_append_eq] at h
  obtain ⟨inside, rfl, ⟨body', behind⟩, literal, rest', closing, made⟩ := h
  cases made
  obtain ⟨closed, opened⟩ := literal?_eq_some literal
  refine ⟨_, .directive quoted closed, ?_⟩
  dsimp only at closing
  rw [opened, ← closing]
  simp

theorem spells_of_match? {convention : Convention} {pattern : Pattern}
    (member : pattern ∈ convention.patterns (names.map (·.toList)))
    (h : pattern.match? before text = some (body, rest)) :
    ∃ spelled, convention.Spells names before body spelled ∧ text = spelled ++ rest := by
  cases convention with
  | wrapped =>
    obtain ⟨name, listed, quote, quoted, rfl⟩ := mem_callPatterns_iff.1 member
    simp only [Pattern.match?, Option.bind_eq_bind, Option.bind_eq_some_iff,
      List.isPrefixOf?_eq_some_iff_append_eq] at h
    obtain ⟨inside, rfl, h⟩ := h
    obtain ⟨call, ending, calls, ends, rfl⟩ := call?_eq_some h
    cases ends
    exact ⟨_, .wrapped listed quoted calls, by simp⟩
  | doubleWrapped =>
    obtain ⟨name, listed, quote, quoted, rfl⟩ := mem_callPatterns_iff.1 member
    simp only [Pattern.match?, Option.bind_eq_bind, Option.bind_eq_some_iff,
      List.isPrefixOf?_eq_some_iff_append_eq] at h
    obtain ⟨inside, rfl, h⟩ := h
    obtain ⟨blanks, behind, blank, rfl, matched⟩ := afterBlanks?_eq_some h
    obtain ⟨call, ending, calls, ends, rfl⟩ := call?_eq_some matched
    cases ends with
    | doubleBraces blank' => exact ⟨_, .doubleWrapped listed quoted calls blank blank', by simp⟩
  | bare =>
    obtain ⟨name, listed, quote, quoted, rfl⟩ := mem_callPatterns_iff.1 member
    simp only [Pattern.match?] at h
    split at h
    · rename_i starts
      obtain ⟨call, ending, calls, ends, rfl⟩ := call?_eq_some h
      cases ends
      exact ⟨call, .bare listed quoted starts calls, by simp⟩
    · cases h
  | method =>
    simp only [patterns, List.mem_flatMap, List.mem_map] at member
    obtain ⟨_, ⟨name, listed, rfl⟩, quote, quoted, owner, owned, rfl⟩ := member
    simp only [Pattern.match?] at h
    split at h
    · rename_i starts
      simp only [Option.bind_eq_bind, Option.bind_eq_some_iff,
        List.isPrefixOf?_eq_some_iff_append_eq] at h
      obtain ⟨_, rfl, inside, rfl, h⟩ := h
      obtain ⟨call, ending, calls, ends, rfl⟩ := call?_eq_some h
      cases ends
      exact ⟨_, .method listed quoted owned starts calls, by simp⟩
    · cases h
  | block =>
    simp only [patterns, List.mem_cons, List.not_mem_nil, or_false] at member
    rcases member with rfl | rfl
    · exact spells_of_block (by simp) h
    · exact spells_of_block (by simp) h
  | directive =>
    simp only [patterns, List.mem_cons, List.not_mem_nil, or_false] at member
    rcases member with rfl | rfl
    · exact spells_of_directive (by simp) h
    · exact spells_of_directive (by simp) h

end

end Convention

namespace Dialect

theorem exists_spells_of_mem_candidates {dialect : Dialect} {names : List String} {text : List Char}
    {find : Find} (h : find ∈ dialect.candidates names text) :
    ∃ front spelled rest body, ∃ convention ∈ dialect.conventions,
      convention.Spells names front.getLast? body spelled ∧ text = front ++ (spelled ++ rest) ∧
        find = ⟨Literal.normalize body, front.length⟩ := by
  have found := (List.mem_filter.1 h).1
  simp only [patterns, List.mem_flatMap, List.mem_map] at found
  obtain ⟨pattern, ⟨convention, follows, member⟩, matched, inside, rfl⟩ := found
  obtain ⟨front, back, rest, rfl, start, h⟩ := Pattern.exists_of_mem_matchesIn inside
  obtain ⟨spelled, spells, rfl⟩ := spells_of_match? member h
  refine ⟨front, spelled, rest, matched.body, convention, follows, spells, rfl, ?_⟩
  rw [Find.ofMatch, start]

/-- Every item stands for a place in the section where a convention of the dialect is spelled out: its key
    is the body there, normalized, and its position is that of the place in the document. Keys are not
    empty, on one line and without white space at their ends, and no two are the same. -/
theorem itemsAt_spelled (dialect : Dialect) (names : List String) (file : String)
    (document : List Char) (start : Nat) (part : List Char) :
    let items := dialect.itemsAt names file document start part
    (∀ item ∈ items, ∃ front spelled rest body, ∃ convention ∈ dialect.conventions,
      convention.Spells names front.getLast? body spelled ∧ part = front ++ (spelled ++ rest) ∧
        let position := Position.ofIndex document (start + front.length)
        item = Item.create (.ofChars (Literal.normalize body)) file position.line position.column none) ∧
    (∀ item ∈ items, ∃ key, item.key = .ofChars key ∧ key ≠ [] ∧ '\n' ∉ key ∧ Trimmed key) ∧
    (items.map Item.key).Nodup := by
  intro items
  have firsts := areFirsts_firstsBy Item.key
    ((dialect.candidates names part).map (Find.item file document start))
  rw [← itemsAt_eq] at firsts
  have origin : ∀ item ∈ items, ∃ find ∈ dialect.candidates names part,
      find.item file document start = item :=
    fun item member => List.mem_map.1 (firsts.sublist.subset member)
  refine ⟨fun item member => ?_, fun item member => ?_, firsts.distinct⟩
  · obtain ⟨find, candidate, rfl⟩ := origin item member
    obtain ⟨front, spelled, rest, body, convention, follows, spells, whole, rfl⟩ :=
      exists_spells_of_mem_candidates candidate
    exact ⟨front, spelled, rest, body, convention, follows, spells, whole, rfl⟩
  · obtain ⟨find, candidate, rfl⟩ := origin item member
    obtain ⟨front, spelled, rest, body, convention, follows, spells, whole, rfl⟩ :=
      exists_spells_of_mem_candidates candidate
    exact ⟨Literal.normalize body, rfl, key_ne_empty_of_mem_candidates candidate,
      Literal.feed_not_mem_normalize body, Literal.trimmed_normalize body⟩

/-- A call in braces with an escaped quote in its key, in a section on the second line. -/
theorem itemsAt_spelled_braces :
    let part := "a \x7bt( 'it\\'s' , b)\x7d".toList
    let item := Item.create "it's" "a.svelte" 2 3 none
    item ∈ svelte.itemsAt ["t"] "a.svelte" ('\n' :: part) 1 part ∧
      (∃ front spelled rest body, ∃ convention ∈ svelte.conventions,
        convention.Spells ["t"] front.getLast? body spelled ∧ part = front ++ (spelled ++ rest) ∧
          let position := Position.ofIndex ('\n' :: part) (1 + front.length)
          item = Item.create (.ofChars (Literal.normalize body)) "a.svelte" position.line position.column
            none) ∧
      ∃ key, item.key = .ofChars key ∧ key ≠ [] ∧ '\n' ∉ key ∧ Trimmed key := by
  intro part item
  have member : item ∈ svelte.itemsAt ["t"] "a.svelte" ('\n' :: part) 1 part := by decide +kernel
  have result := itemsAt_spelled svelte ["t"] "a.svelte" ('\n' :: part) 1 part
  exact ⟨member, result.1 item member, result.2.1 item member⟩

end Dialect

end Phrasebook
