import Mathlib.Data.List.Pairwise
import Phrasebook.Proofs.Convention.Finds

namespace Phrasebook

open Convention Text

namespace Convention

section Reading

variable {quote : Char} {name body : List Char}

theorem visible_of_mem_quotes (quoted : quote ∈ quotes) : isBlank quote = false := by
  simp only [quotes, List.mem_cons, List.not_mem_nil, or_false] at quoted
  rcases quoted with rfl | rfl | rfl <;> decide

theorem ne_backslash_of_mem_quotes (quoted : quote ∈ quotes) : quote ≠ '\\' := by
  rintro rfl
  exact absurd quoted (by decide)

theorem literal?_of_body (unlike : quote ≠ '\\') (closed : Body quote body) (rest : List Char) :
    literal? quote (quote :: (body ++ quote :: rest)) = some (body, rest) := by
  rw [literal?, if_pos (beq_self_eq_true quote)]
  induction closed with
  | nil => simp [literalBody?, unlike]
  | plain bare inner later ih => simp [literalBody?, bare, inner, ih]
  | escaped inLine later ih => simp [literalBody?, inLine, ih]

theorem exists_afterParenthesis? (skipped rest : List Char) :
    ∃ rest', afterParenthesis? Wrapping.bare.close? (skipped ++ ')' :: rest) = some rest' := by
  induction skipped with
  | nil => exact ⟨rest, by simp [afterParenthesis?, Wrapping.close?]⟩
  | cons c skipped ih =>
    by_cases closes : c = ')'
    · exact ⟨skipped ++ ')' :: rest, by simp [afterParenthesis?, Wrapping.close?, closes]⟩
    · obtain ⟨rest', reads⟩ := ih
      exact ⟨rest', by simp [afterParenthesis?, closes, reads]⟩

/-- A second argument is skipped up to a closing parenthesis, though maybe not to the last one. -/
theorem exists_callEnd?_of_gap {gap : List Char} (fills : Gap gap) (rest : List Char) :
    ∃ rest', callEnd? .bare (gap ++ ')' :: rest) = some rest' := by
  obtain ⟨blanks, more, blank, comma, rfl⟩ := fills
  have seen : ∀ c ∈ (more ++ ')' :: rest).head?, isBlank c = false := by
    intro c first
    cases more with
    | nil =>
      cases first
      decide
    | cons d more =>
      cases first
      rw [comma c rfl]
      decide
  rw [callEnd?, List.append_assoc, dropWhile_isBlank_append blank _ seen]
  cases more with
  | nil => exact ⟨rest, rfl⟩
  | cons c more =>
    obtain rfl := comma c rfl
    exact exists_afterParenthesis? more rest

theorem exists_call?_iff (quoted : quote ∈ quotes) {text : List Char} :
    (∃ rest, call? .bare name quote text = some (body, rest)) ↔
      ∃ call rest, Calls name quote body call ∧ text = call ++ rest := by
  constructor
  · rintro ⟨rest, matched⟩
    obtain ⟨call, _, calls, ends, rfl⟩ := call?_eq_some matched
    cases ends
    exact ⟨call, rest, calls, rfl⟩
  · rintro ⟨_, rest, ⟨blanks, gap, blank, fills, closed, rfl⟩, rfl⟩
    obtain ⟨rest', ended⟩ := exists_callEnd?_of_gap fills rest
    have seen : ∀ c ∈ (quote :: (body ++ quote :: (gap ++ ')' :: rest))).head?, isBlank c = false := by
      simpa using visible_of_mem_quotes quoted
    have literal := literal?_of_body (ne_backslash_of_mem_quotes quoted) closed (gap ++ ')' :: rest)
    rw [← dropWhile_isBlank_append blank _ seen] at literal
    refine ⟨rest', ?_⟩
    simp only [call?, Option.bind_eq_bind, Option.bind_eq_some_iff,
      List.isPrefixOf?_eq_some_iff_append_eq]
    exact ⟨_, by simp, _, rfl, _, literal, rest', ended, rfl⟩

end Reading

/-- The place lies inside the match, behind its first character. -/
def Match.Covers (found : Match) (index : Nat) : Prop := found.start < index ∧ index < found.stop

instance (found : Match) (index : Nat) : Decidable (found.Covers index) :=
  inferInstanceAs (Decidable (_ ∧ _))

namespace Pattern

section Places

variable {pattern : Pattern} {before : Option Char} {index covered : Nat}
  {text front back body rest : List Char}

theorem match?_nil (pattern : Pattern) (before : Option Char) : pattern.match? before [] = none := by
  cases pattern with
  | call wrapping name quote =>
    cases wrapping <;> cases name <;> simp [match?, call?]
  | block quote => rfl
  | directive outer inner => rfl

theorem le_start_of_mem_matchesFrom {found : Match}
    (h : found ∈ pattern.matchesFrom before index covered text) : index + covered ≤ found.start := by
  fun_induction matchesFrom pattern before index covered text with
  | case1 => cases h
  | case2 before index covered c text ih =>
    have later := ih h
    omega
  | case3 before index c text body rest matched length ih =>
    rcases List.mem_cons.1 h with rfl | h
    · exact Nat.le_refl _
    · have later := ih h
      omega
  | case4 before index c text unmatched ih =>
    have later := ih h
    omega

theorem matchesFrom_apart (pattern : Pattern) (before : Option Char) (index covered : Nat)
    (text : List Char) :
    (pattern.matchesFrom before index covered text).Pairwise fun a b => a.stop ≤ b.start := by
  fun_induction matchesFrom pattern before index covered text with
  | case1 => exact .nil
  | case2 before index covered c text ih => exact ih
  | case3 before index c text body rest matched length ih =>
    refine List.pairwise_cons.2 ⟨fun later member => ?_, ih⟩
    have behind := le_start_of_mem_matchesFrom member
    show index + length ≤ later.start
    omega
  | case4 before index c text unmatched ih => exact ih

/-- Where a pattern matches, the search finds that match or has one before that covers the place. -/
theorem mem_matchesFrom_or (here : pattern.match? (front.getLast?.or before) back = some (body, rest))
    (index : Nat) (after : covered ≤ front.length) :
    (∃ found ∈ pattern.matchesFrom before index covered (front ++ back),
        found.start = index + front.length ∧ found.body = body) ∨
      ∃ outer ∈ pattern.matchesFrom before index covered (front ++ back),
        outer.Covers (index + front.length) := by
  -- With each character that is searched the place comes nearer; a match found on the way either reaches it
  -- or is over before.
  induction front generalizing before index covered with
  | nil =>
    obtain rfl : covered = 0 := Nat.le_zero.1 after
    cases back with
    | nil => simp [match?_nil] at here
    | cons c text =>
      rw [List.getLast?_nil, Option.none_or] at here
      refine .inl ⟨⟨index, index + ((c :: text).length - rest.length), body⟩, ?_, rfl, rfl⟩
      rw [List.nil_append, matchesFrom, here]
      exact List.mem_cons_self
  | cons c front ih =>
    rw [getLast?_cons_or] at here
    have place : index + (c :: front).length = index + 1 + front.length := by
      rw [List.length_cons]
      omega
    rw [place, List.cons_append]
    cases covered with
    | succ covered => exact ih here (index + 1) (Nat.le_of_succ_le_succ after)
    | zero =>
      rw [matchesFrom]
      split
      · rename_i body' rest' _
        by_cases inside : front.length < (c :: (front ++ back)).length - rest'.length - 1
        · refine .inr ⟨_, List.mem_cons_self, ?_, ?_⟩
          · show index < index + 1 + front.length
            omega
          · show index + 1 + front.length < index + ((c :: (front ++ back)).length - rest'.length)
            omega
        · rcases ih here (index + 1) (Nat.le_of_not_lt inside) with found | outer
          · obtain ⟨found, member, same⟩ := found
            exact .inl ⟨found, List.mem_cons_of_mem _ member, same⟩
          · obtain ⟨outer, member, covers⟩ := outer
            exact .inr ⟨outer, List.mem_cons_of_mem _ member, covers⟩
      · exact ih here (index + 1) (Nat.zero_le _)

theorem start_le_stop {found : Match} (h : found ∈ pattern.matchesIn text) : found.start ≤ found.stop := by
  obtain ⟨_, _, _, _, _, stop, _⟩ := has_of_mem_matchesFrom h
  omega

theorem not_covers_start {found outer : Match} (h : found ∈ pattern.matchesIn text)
    (h' : outer ∈ pattern.matchesIn text) : ¬ outer.Covers found.start := by
  rintro ⟨starts, stops⟩
  have apart : (pattern.matchesIn text).Pairwise fun a b => a.stop ≤ b.start ∨ b.stop ≤ a.start :=
    (matchesFrom_apart pattern none 0 0 text).imp .inl
  have : Std.Symm fun a b : Match => a.stop ≤ b.start ∨ b.stop ≤ a.start := ⟨fun _ _ => Or.symm⟩
  have distinct : found ≠ outer := by
    rintro rfl
    exact absurd starts (Nat.lt_irrefl _)
  have ordered := start_le_stop h
  rcases apart.forall h h' distinct with first | second <;> omega

theorem exists_match_at_iff (pattern : Pattern) (front back body : List Char) :
    (∃ found ∈ pattern.matchesIn (front ++ back), found.start = front.length ∧ found.body = body) ↔
      (∃ rest, pattern.match? front.getLast? back = some (body, rest)) ∧
        ∀ outer ∈ pattern.matchesIn (front ++ back), ¬ outer.Covers front.length := by
  constructor
  · rintro ⟨found, member, start, rfl⟩
    obtain ⟨front', back', rest, whole, start', matched⟩ := exists_of_mem_matchesIn member
    obtain ⟨rfl, rfl⟩ := List.append_inj whole (start.symm.trans start')
    exact ⟨⟨rest, matched⟩, fun outer member' => start ▸ not_covers_start member member'⟩
  · rintro ⟨⟨rest, matched⟩, uncovered⟩
    rw [← Option.or_none (o := front.getLast?)] at matched
    have either := mem_matchesFrom_or matched 0 (Nat.zero_le front.length)
    rw [Nat.zero_add] at either
    rcases either with found | ⟨outer, member, covers⟩
    · exact found
    · exact absurd covers (uncovered outer member)

end Places

section Bare

variable {name body text : List Char} {quote : Char} {before : Option Char}

theorem exists_match?_bare_iff (quoted : quote ∈ quotes) :
    (∃ rest, (call .bare name quote).match? before text = some (body, rest)) ↔
      nameMayStart before name = true ∧ ∃ call rest, Calls name quote body call ∧ text = call ++ rest := by
  simp only [match?, ← exists_call?_iff quoted]
  by_cases starts : nameMayStart before name = true <;> simp [starts]

/-- A match of a name by itself is a call of that name, from its first to its last character. -/
theorem exists_call_of_mem_matchesIn {found : Match}
    (h : found ∈ (call .bare name quote).matchesIn text) :
    ∃ front call rest, Calls name quote found.body call ∧ text = front ++ (call ++ rest) ∧
      found.start = front.length ∧ found.stop = (front ++ call).length := by
  obtain ⟨front, back, rest, rfl, start, stop, matched⟩ := has_of_mem_matchesFrom h
  simp only [match?] at matched
  split at matched
  · obtain ⟨call, _, calls, ends, rfl⟩ := call?_eq_some matched
    cases ends
    refine ⟨front, call, rest, calls, by simp, by omega, ?_⟩
    simp only [List.nil_append, List.length_append] at stop ⊢
    omega
  · cases matched

end Bare

end Pattern

section Overlap

variable {name body call body' call' front front' rest rest' : List Char} {quote : Char}

theorem Calls.getElem?_name (calls : Calls name quote body call) (front rest : List Char) {i : Nat}
    (inside : i < name.length) :
    (front ++ (call ++ rest))[front.length + i]? = some name[i] := by
  obtain ⟨blanks, gap, _, _, _, rfl⟩ := calls
  rw [List.getElem?_append_right (Nat.le_add_right _ _), Nat.add_sub_cancel_left, List.append_assoc,
    List.getElem?_append_left inside, List.getElem?_eq_getElem inside]

theorem Calls.getElem?_opening (calls : Calls name quote body call) (front rest : List Char) :
    (front ++ (call ++ rest))[front.length + name.length]? = some '(' := by
  obtain ⟨blanks, gap, _, _, _, rfl⟩ := calls
  simp

/-- A call that starts inside another one of the same name starts behind its opening parenthesis. -/
theorem Calls.behind_opening (outer : Calls name quote body' call') (calls : Calls name quote body call)
    (same : front' ++ (call' ++ rest') = front ++ (call ++ rest)) (later : front'.length < front.length)
    (named : '(' ∉ name) : front'.length + name.length < front.length := by
  by_contra early
  obtain ⟨i, place⟩ := Nat.exists_eq_add_of_le (Nat.le_of_not_lt early)
  have inside : i < name.length := by omega
  have opening := outer.getElem?_opening front' rest'
  rw [same, place, calls.getElem?_name front rest inside, Option.some.injEq] at opening
  exact named (opening ▸ List.getElem_mem inside)

end Overlap

end Convention

namespace Dialect

theorem bare_mem_conventions (dialect : Dialect) : Convention.bare ∈ dialect.conventions := by
  cases dialect <;> decide

theorem bare_mem_patterns (dialect : Dialect) {names : List String} {name : String} {quote : Char}
    (listed : name ∈ names) (quoted : quote ∈ quotes) :
    Pattern.call .bare name.toList quote ∈ dialect.patterns (names.map (·.toList)) :=
  List.mem_flatMap.2
    ⟨.bare, dialect.bare_mem_conventions, mem_callPatterns_iff.2 ⟨name, listed, quote, quoted, rfl⟩⟩

/-- The key of a call is found unless a match of the same name and quotes covers the start of the call, and
    nothing else has the key. Such a match is a call itself, with the other one behind its opening
    parenthesis. -/
theorem mem_keys_of_calls_iff {names : List String} {name : String} (listed : name ∈ names)
    {quote : Char} (quoted : quote ∈ quotes) {body call front : List Char}
    (calls : Calls name.toList quote body call)
    (starts : nameMayStart front.getLast? name.toList = true) (filled : Literal.normalize body ≠ [])
    (rest : List Char) (dialect : Dialect) (file : String) (document : List Char) (start : Nat) :
    let part := front ++ (call ++ rest)
    let key := Literal.normalize body
    let pattern := Pattern.call .bare name.toList quote
    (.ofChars key ∈ dialect.keys names file document start part ↔
      (∀ outer ∈ pattern.matchesIn part, ¬ outer.Covers front.length) ∨
        ∃ other ∈ dialect.patterns (names.map (·.toList)), ∃ found ∈ other.matchesIn part,
          Literal.normalize found.body = key ∧ (other = pattern → found.start ≠ front.length)) ∧
      ∀ outer ∈ pattern.matchesIn part, outer.Covers front.length →
        ∃ front' call' rest', Calls name.toList quote outer.body call' ∧
          part = front' ++ (call' ++ rest') ∧ front'.length < front.length ∧
            front.length < (front' ++ call').length ∧
              ('(' ∉ name.toList → front'.length + name.length < front.length) := by
  intro part key pattern
  have member : pattern ∈ dialect.patterns (names.map (·.toList)) :=
    dialect.bare_mem_patterns listed quoted
  have matched : ∃ rest', pattern.match? front.getLast? (call ++ rest) = some (body, rest') :=
    (Pattern.exists_match?_bare_iff quoted).2 ⟨starts, call, rest, calls, rfl⟩
  constructor
  · have filled' : Wording.ofChars key ≠ [] := fun empty => filled (Wording.ofChars_eq_nil.1 empty)
    simp only [mem_keys_iff, Wording.ofChars_injective.eq_iff]
    constructor
    · rintro ⟨_, other, member', found, inside, same⟩
      by_cases here : other = pattern ∧ found.start = front.length
      · obtain ⟨rfl, place⟩ := here
        exact .inl fun outer member'' => place ▸ Pattern.not_covers_start inside member''
      · exact .inr ⟨other, member', found, inside, same, fun equal place => here ⟨equal, place⟩⟩
    · rintro (uncovered | ⟨other, member', found, inside, same, _⟩)
      · obtain ⟨found, inside, _, rfl⟩ :=
          (Pattern.exists_match_at_iff pattern front (call ++ rest) body).2 ⟨matched, uncovered⟩
        exact ⟨filled', pattern, member, found, inside, rfl⟩
      · exact ⟨filled', other, member', found, inside, same⟩
  · rintro outer inside ⟨before, behind⟩
    obtain ⟨front', call', rest', calls', whole, start', stop'⟩ := Pattern.exists_call_of_mem_matchesIn inside
    rw [start'] at before
    rw [stop'] at behind
    exact ⟨front', call', rest', calls', whole, before, behind,
      calls'.behind_opening calls whole.symm before⟩

/-- Of two calls in the arguments of another, the one with the same quotes is passed over, and its key is
    found in the one with other quotes. -/
theorem mem_keys_of_calls_iff_nested :
    let front := "t('a', ".toList
    let call := "t('b')".toList
    let part := front ++ (call ++ ", t(\"b\"))".toList)
    let outer : Match := ⟨0, 13, ['a']⟩
    Calls "t".toList '\'' ['b'] call ∧ nameMayStart front.getLast? "t".toList = true ∧
      Literal.normalize ['b'] ≠ [] ∧ outer ∈ (Pattern.call .bare "t".toList '\'').matchesIn part ∧
        outer.Covers front.length ∧
        (∃ front' call' rest', Calls "t".toList '\'' ['a'] call' ∧ part = front' ++ (call' ++ rest') ∧
          front'.length + 1 < front.length ∧ front.length < (front' ++ call').length) ∧
        .ofString "b" ∈ script.keys ["t"] "a.js" part 0 part := by
  intro front call part outer
  have calls : Calls "t".toList '\'' ['b'] call :=
    ⟨[], [], nofun, ⟨[], [], nofun, nofun, rfl⟩, .plain (by decide) (by decide) .nil, rfl⟩
  have starts : nameMayStart front.getLast? "t".toList = true := by decide +kernel
  have filled : Literal.normalize ['b'] ≠ [] := by decide
  have inside : outer ∈ (Pattern.call .bare "t".toList '\'').matchesIn part := by decide +kernel
  have covers : outer.Covers front.length := ⟨by decide, by decide⟩
  have listed : "t" ∈ ["t"] := List.mem_cons_self
  have result := mem_keys_of_calls_iff listed (by decide) calls starts filled ", t(\"b\"))".toList script
    "a.js" part 0
  obtain ⟨front', call', rest', calls', whole, _, behind, opening⟩ := result.2 outer inside covers
  refine ⟨calls, starts, filled, inside, covers,
    ⟨front', call', rest', calls', whole, opening (by decide), behind⟩, result.1.2 (.inr ?_)⟩
  exact ⟨.call .bare "t".toList '"', by decide +kernel, ⟨15, 21, ['b']⟩, by decide +kernel,
    by decide, nofun⟩

/-- A complete call whose key is lost: a call of the same name with the same quotes is around it. -/
theorem nested_call_not_found :
    let front := "t('a', ".toList
    let call := "t('b')".toList
    let part := front ++ (call ++ ")".toList)
    Calls "t".toList '\'' ['b'] call ∧ nameMayStart front.getLast? "t".toList = true ∧
      Literal.normalize ['b'] = ['b'] ∧
        (script.itemsAt ["t"] "a.js" part 0 part).map Item.key = [.ofString "a"] := by
  intro front call part
  exact ⟨⟨[], [], nofun, ⟨[], [], nofun, nofun, rfl⟩, .plain (by decide) (by decide) .nil, rfl⟩,
    by decide +kernel, by decide, by decide +kernel⟩

end Dialect

end Phrasebook
