import Mathlib.Data.List.Infix
import Phrasebook.Project.Wildcard

namespace Phrasebook.Wildcard

def Plain (text : List Char) : Prop := ∀ c ∈ text, c ∉ ['*', '?', '[']

theorem Plain.head {c : Char} {text : List Char} (plain : Plain (c :: text)) :
    c ≠ '*' ∧ c ≠ '?' ∧ c ≠ '[' := by
  have first := plain c List.mem_cons_self
  simpa using first

theorem Plain.tail {c : Char} {text : List Char} (plain : Plain (c :: text)) : Plain text :=
  fun d member => plain d (List.mem_cons_of_mem _ member)

theorem parse_append {front : List Char} (plain : Plain front) (back : List Char) :
    parse (front ++ back) = front.map .char ++ parse back := by
  induction front with
  | nil => rfl
  | cons c front ih =>
    obtain ⟨star, mark, bracket⟩ := plain.head
    have rest := ih plain.tail
    rw [parse] at rest
    rw [List.cons_append, parse, parseFrom]
    simp only [beq_iff_eq, star, mark, bracket, if_false, rest, List.map_cons, List.cons_append]

theorem anyEnd_iff {p : List Char → Bool} {text : List Char} :
    anyEnd p text = true ↔ ∃ back, back <:+ text ∧ p back = true := by
  induction text with
  | nil => simp [anyEnd]
  | cons c text ih =>
    rw [anyEnd, Bool.or_eq_true, ih]
    constructor
    · intro either
      rcases either with whole | ⟨back, inside, accepted⟩
      · exact ⟨c :: text, List.suffix_refl _, whole⟩
      · exact ⟨back, inside.trans (List.suffix_cons c text), accepted⟩
    · intro ⟨back, inside, accepted⟩
      rcases List.suffix_cons_iff.1 inside with rfl | inside
      · exact .inl accepted
      · exact .inr ⟨back, inside, accepted⟩

theorem accepts_nil_iff {text : List Char} : accepts [] text = true ↔ text = [] := by
  cases text <;> simp [accepts]

theorem accepts_run_iff {pattern : List Wildcard} {text : List Char} :
    accepts (.run :: pattern) text = true ↔ ∃ back, back <:+ text ∧ accepts pattern back = true := by
  cases text <;> rw [accepts, anyEnd_iff]

theorem accepts_chars_append_iff {front : List Char} {pattern : List Wildcard} {text : List Char} :
    accepts (front.map .char ++ pattern) text = true ↔
      ∃ back, text = front ++ back ∧ accepts pattern back = true := by
  induction front generalizing text with
  | nil => simp
  | cons c front ih =>
    rw [List.map_cons, List.cons_append]
    cases text with
    | nil => simp [accepts]
    | cons d text =>
      rw [accepts, Bool.and_eq_true, beq_iff_eq, ih]
      constructor
      · intro ⟨same, back, whole, accepted⟩
        exact ⟨back, by rw [same, whole, List.cons_append], accepted⟩
      · intro ⟨back, whole, accepted⟩
        obtain ⟨same, whole⟩ := List.cons.inj whole
        exact ⟨same.symm, back, whole, accepted⟩

theorem accepts_chars_iff {pattern text : List Char} :
    accepts (pattern.map .char) text = true ↔ text = pattern := by
  have whole : accepts (pattern.map .char ++ []) text = true ↔
      ∃ back, text = pattern ++ back ∧ accepts [] back = true := accepts_chars_append_iff
  simpa [accepts_nil_iff] using whole

theorem accepts_run_chars_iff {ending text : List Char} :
    accepts (.run :: ending.map .char) text = true ↔ ending <:+ text := by
  rw [accepts_run_iff]
  constructor
  · intro ⟨back, inside, accepted⟩
    exact accepts_chars_iff.1 accepted ▸ inside
  · intro inside
    exact ⟨ending, inside, accepts_chars_iff.2 rfl⟩

theorem accepts_runs (text : List Char) : accepts [.run, .run] text = true := by
  rw [accepts_run_iff]
  refine ⟨text, List.suffix_refl _, accepts_run_iff.2 ⟨[], List.nil_suffix, rfl⟩⟩

end Phrasebook.Wildcard

namespace Phrasebook

/-- The pattern for everything in a folder covers the texts that begin with the folder and a slash. -/
theorem matchesWildcards_folder_iff {folder text : List Char} (plain : Wildcard.Plain folder) :
    matchesWildcards (folder ++ ['/', '*', '*']) text = true ↔ folder ++ ['/'] <+: text := by
  have slash : Wildcard.Plain (folder ++ ['/']) := by
    intro c member
    rcases List.mem_append.1 member with member | member
    · exact plain c member
    · rw [List.mem_singleton.1 member]
      decide
  have parts : folder ++ ['/', '*', '*'] = folder ++ ['/'] ++ ['*', '*'] := by simp
  have runs : Wildcard.parse ['*', '*'] = [.run, .run] := by decide
  rw [matchesWildcards, parts, Wildcard.parse_append slash, runs, Wildcard.accepts_chars_append_iff]
  constructor
  · intro ⟨back, whole, _⟩
    exact ⟨back, whole.symm⟩
  · intro ⟨back, whole⟩
    exact ⟨back, whole.symm, Wildcard.accepts_runs back⟩

end Phrasebook
