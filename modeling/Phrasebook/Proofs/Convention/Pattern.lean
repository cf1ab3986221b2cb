import Phrasebook.Convention.Pattern
import Phrasebook.Proofs.Text.Blank

namespace Phrasebook.Convention

open Text

def Blanks (text : List Char) : Prop := ∀ c ∈ text, isBlank c = true

/-- The body of a literal. A quote stands in it only after a backslash, which takes the next character
    with it; that is no line feed. -/
inductive Body (quote : Char) : List Char → Prop
  | nil : Body quote []
  | plain {c : Char} {body : List Char} (bare : c ≠ '\\') (inner : c ≠ quote) (later : Body quote body) :
      Body quote (c :: body)
  | escaped {c : Char} {body : List Char} (inLine : c ≠ '\n') (later : Body quote body) :
      Body quote ('\\' :: c :: body)

def Gap (gap : List Char) : Prop :=
  ∃ blanks more, Blanks blanks ∧ (∀ c ∈ more.head?, c = ',') ∧ gap = blanks ++ more

/-- A call from its name on, with a literal for its first argument. -/
def Calls (name : List Char) (quote : Char) (body call : List Char) : Prop :=
  ∃ blanks gap, Blanks blanks ∧ Gap gap ∧ Body quote body ∧
    call = name ++ '(' :: (blanks ++ quote :: (body ++ quote :: (gap ++ [')'])))

inductive Wrapping.Ends : Wrapping → List Char → Prop
  | bare : Ends bare []
  | braces : Ends braces ['\x7d']
  | doubleBraces {blanks : List Char} (blank : Blanks blanks) :
      Ends doubleBraces (blanks ++ ['\x7d', '\x7d'])
  | method {owner : List Char} : Ends (method owner) []

theorem literalBody?_eq_some {quote : Char} {text body rest : List Char}
    (h : literalBody? quote text = some (body, rest)) : Body quote body ∧ text = body ++ quote :: rest := by
  fun_induction literalBody? quote text generalizing body rest with
  | case1 => cases h
  | case2 => cases h
  | case3 => cases h
  | case4 c text inLine ih =>
    obtain ⟨⟨inner, rest'⟩, found, same⟩ := Option.map_eq_some_iff.1 h
    cases same
    obtain ⟨closed, rfl⟩ := ih found
    exact ⟨.escaped (by simpa using inLine) closed, rfl⟩
  | case5 c text _ _ closes =>
    cases h
    exact ⟨.nil, by rw [beq_iff_eq.1 closes, List.nil_append]⟩
  | case6 c text single pair inner ih =>
    -- A backslash is taken with the character after it, or is the last one.
    have bare : c ≠ '\\' := by
      intro same
      cases text with
      | nil => exact single same rfl
      | cons d text => exact pair d text same rfl
    obtain ⟨⟨inner', rest'⟩, found, same⟩ := Option.map_eq_some_iff.1 h
    cases same
    obtain ⟨closed, rfl⟩ := ih found
    exact ⟨.plain bare (by simpa using inner) closed, rfl⟩

theorem literal?_eq_some {quote : Char} {text body rest : List Char}
    (h : literal? quote text = some (body, rest)) :
    Body quote body ∧ text = quote :: (body ++ quote :: rest) := by
  cases text with
  | nil => cases h
  | cons c text =>
    rw [literal?] at h
    split at h
    · rename_i opens
      obtain ⟨closed, rfl⟩ := literalBody?_eq_some h
      rw [beq_iff_eq] at opens
      exact ⟨closed, by rw [opens]⟩
    · cases h

section

variable {α : Type} {read? : List Char → Option α} {text : List Char} {a : α}

theorem afterParenthesis?_eq_some (h : afterParenthesis? read? text = some a) :
    ∃ skipped rest, text = skipped ++ ')' :: rest ∧ read? rest = some a := by
  induction text with
  | nil => cases h
  | cons c text ih =>
    have later : afterParenthesis? read? text = some a →
        ∃ skipped rest, c :: text = skipped ++ ')' :: rest ∧ read? rest = some a := by
      intro found
      obtain ⟨skipped, rest, rfl, reads⟩ := ih found
      exact ⟨c :: skipped, rest, rfl, reads⟩
    unfold afterParenthesis? at h
    split at h
    · rename_i closes
      split at h
      · rename_i reads
        cases h
        exact ⟨[], text, by rw [beq_iff_eq.1 closes, List.nil_append], reads⟩
      · exact later h
    · exact later h

theorem afterBlanks?_eq_some (h : afterBlanks? read? text = some a) :
    ∃ blanks rest, Blanks blanks ∧ text = blanks ++ rest ∧ read? rest = some a := by
  induction text with
  | nil => exact ⟨[], [], List.forall_mem_nil _, rfl, h⟩
  | cons c text ih =>
    have here : read? (c :: text) = some a →
        ∃ blanks rest, Blanks blanks ∧ c :: text = blanks ++ rest ∧ read? rest = some a :=
      fun reads => ⟨[], c :: text, List.forall_mem_nil _, rfl, reads⟩
    unfold afterBlanks? at h
    split at h
    · rename_i blank
      split at h
      · rename_i found
        cases h
        obtain ⟨blanks, rest, inner, rfl, reads⟩ := ih found
        exact ⟨c :: blanks, rest, List.forall_mem_cons.2 ⟨blank, inner⟩, rfl, reads⟩
      · exact here h
    · exact here h

end

theorem Wrapping.close?_eq_some {wrapping : Wrapping} {text rest : List Char}
    (h : wrapping.close? text = some rest) : ∃ ending, wrapping.Ends ending ∧ text = ending ++ rest := by
  cases wrapping with
  | bare =>
    cases h
    exact ⟨[], .bare, rfl⟩
  | braces => exact ⟨_, .braces, (List.isPrefixOf?_eq_some_iff_append_eq.1 h).symm⟩
  | doubleBraces =>
    obtain ⟨blanks, whole, blank⟩ := exists_dropWhile_isBlank text
    have closed := List.isPrefixOf?_eq_some_iff_append_eq.1 h
    exact ⟨_, .doubleBraces blank, by rw [List.append_assoc, closed, ← whole]⟩
  | method owner =>
    cases h
    exact ⟨[], .method, rfl⟩

theorem callEnd?_eq_some {wrapping : Wrapping} {text rest : List Char}
    (h : callEnd? wrapping text = some rest) :
    ∃ gap ending, Gap gap ∧ wrapping.Ends ending ∧ text = gap ++ ')' :: (ending ++ rest) := by
  obtain ⟨blanks, whole, blank⟩ := exists_dropWhile_isBlank text
  unfold callEnd? at h
  split at h
  · rename_i text' closes
    obtain ⟨ending, ends, rfl⟩ := Wrapping.close?_eq_some h
    have gap : Gap blanks := ⟨blanks, [], blank, nofun, (List.append_nil _).symm⟩
    exact ⟨blanks, ending, gap, ends, by rw [whole, closes]⟩
  · rename_i text' comma
    obtain ⟨skipped, text'', rfl, closes⟩ := afterParenthesis?_eq_some h
    obtain ⟨ending, ends, rfl⟩ := Wrapping.close?_eq_some closes
    have gap : Gap (blanks ++ ',' :: skipped) := ⟨blanks, ',' :: skipped, blank, by simp, rfl⟩
    exact ⟨_, ending, gap, ends, by rw [whole, comma, List.append_assoc, List.cons_append]⟩
  · cases h

theorem call?_eq_some {wrapping : Wrapping} {name : List Char} {quote : Char} {text body rest : List Char}
    (h : call? wrapping name quote text = some (body, rest)) :
    ∃ call ending, Calls name quote body call ∧ wrapping.Ends ending ∧ text = call ++ (ending ++ rest) := by
  simp only [call?, Option.bind_eq_bind, Option.bind_eq_some_iff,
    List.isPrefixOf?_eq_some_iff_append_eq] at h
  obtain ⟨_, rfl, inside, rfl, ⟨body', behind⟩, literal, rest', ended, made⟩ := h
  cases made
  obtain ⟨blanks, whole, blank⟩ := exists_dropWhile_isBlank inside
  obtain ⟨closed, opened⟩ := literal?_eq_some literal
  obtain ⟨gap, ending, fills, ends, rfl⟩ := callEnd?_eq_some ended
  refine ⟨_, ending, ⟨blanks, gap, blank, fills, closed, rfl⟩, ends, ?_⟩
  rw [whole, opened]
  simp

theorem getLast?_cons_or (c : Char) (front : List Char) (before : Option Char) :
    (c :: front).getLast?.or before = front.getLast?.or (some c) := by
  rw [List.getLast?_cons]
  cases front.getLast? <;> rfl

namespace Pattern

def Has (pattern : Pattern) (before : Option Char) (index : Nat) (text : List Char) (found : Match) : Prop :=
  ∃ front back rest, text = front ++ back ∧ found.start = index + front.length ∧
    found.stop = found.start + (back.length - rest.length) ∧
      pattern.match? (front.getLast?.or before) back = some (found.body, rest)

theorem Has.cons {pattern : Pattern} {index : Nat} {c : Char} {text : List Char} {found : Match}
    (h : pattern.Has (some c) (index + 1) text found) (before : Option Char) :
    pattern.Has before index (c :: text) found := by
  obtain ⟨front, back, rest, rfl, start, stop, matched⟩ := h
  refine ⟨c :: front, back, rest, rfl, ?_, stop, ?_⟩
  · rw [start, List.length_cons]
    omega
  · rwa [getLast?_cons_or]

theorem has_of_mem_matchesFrom {pattern : Pattern} {before : Option Char} {index covered : Nat}
    {text : List Char} {found : Match} (h : found ∈ pattern.matchesFrom before index covered text) :
    pattern.Has before index text found := by
  fun_induction matchesFrom pattern before index covered text with
  | case1 => cases h
  | case2 before index covered c text ih => exact (ih h).cons before
  | case3 before index c text body rest matched length ih =>
    rcases List.mem_cons.1 h with rfl | h
    · exact ⟨[], c :: text, rest, rfl, rfl, rfl, matched⟩
    · exact (ih h).cons before
  | case4 before index c text unmatched ih => exact (ih h).cons before

theorem exists_of_mem_matchesIn {pattern : Pattern} {text : List Char} {found : Match}
    (h : found ∈ pattern.matchesIn text) :
    ∃ front back rest, text = front ++ back ∧ found.start = front.length ∧
      pattern.match? front.getLast? back = some (found.body, rest) := by
  obtain ⟨front, back, rest, whole, start, _, matched⟩ := has_of_mem_matchesFrom h
  rw [Option.or_none] at matched
  exact ⟨front, back, rest, whole, by rw [start, Nat.zero_add], matched⟩

end Pattern

end Phrasebook.Convention
