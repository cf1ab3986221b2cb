import Phrasebook.Text.Split

namespace Phrasebook.Braces

def isBrace (c : Char) : Bool := c == '\x7b' || c == '\x7d'

def inside? (text : List Char) : Option (List Char × List Char) :=
  let inside := text.takeWhile fun c => !isBrace c
  match text.drop inside.length with
  | '\x7d' :: after => some (inside, after)
  | _ => none

/-- A group without groups inside, and the text around it. -/
structure Group where
  before : List Char
  inside : List Char
  after : List Char
  deriving DecidableEq, Repr

def firstGroup? : List Char → Option Group
  | [] => none
  | c :: text =>
    match if c == '\x7b' then inside? text else none with
    | some (inside, after) => some ⟨[], inside, after⟩
    | none => (firstGroup? text).map fun group => { group with before := c :: group.before }

theorem length_of_inside? {text inside after : List Char} (h : inside? text = some (inside, after)) :
    text.length = inside.length + after.length + 1 := by
  unfold inside? at h
  simp only at h
  split at h
  · rename_i rest hr
    simp only [Option.some.injEq, Prod.mk.injEq] at h
    obtain ⟨h₁, h₂⟩ := h
    have := congrArg List.length hr
    simp only [List.length_drop, List.length_cons] at this
    subst h₁
    subst h₂
    omega
  · simp at h

theorem length_of_firstGroup? {text : List Char} {group : Group} (h : firstGroup? text = some group) :
    text.length = group.before.length + group.inside.length + group.after.length + 2 := by
  induction text generalizing group with
  | nil => simp [firstGroup?] at h
  | cons c text ih =>
    simp only [firstGroup?] at h
    split at h
    · rename_i inside after hi
      split at hi
      · simp only [Option.some.injEq] at h
        subst h
        simp [length_of_inside? hi]
      · simp at hi
    · obtain ⟨inner, hf, rfl⟩ := Option.map_eq_some_iff.1 h
      simp only [List.length_cons, ih hf]
      omega

theorem length_le_of_mem_splitAt {mark : Char} {text part : List Char}
    (h : part ∈ Text.splitAt mark text) : part.length ≤ text.length := by
  induction text generalizing part with
  | nil =>
    simp only [Text.splitAt, List.mem_singleton] at h
    simp [h]
  | cons c text ih =>
    simp only [Text.splitAt] at h
    split at h
    · rcases List.mem_cons.1 h with h | h
      · simp [h]
      · exact Nat.le_succ_of_le (ih h)
    · split at h
      · rename_i head tail hs
        rcases List.mem_cons.1 h with h | h
        · have hm : head ∈ Text.splitAt mark text := by simp [hs]
          have := ih hm
          simp only [h, List.length_cons]
          omega
        · exact Nat.le_succ_of_le (ih (by simp [hs, h]))
      · rename_i hs
        exact absurd hs (Text.splitAt_ne_nil mark text)

/-- The patterns a pattern with groups stands for, with the choices of the first group varying
    slowest. -/
def expand (pattern : List Char) : List (List Char) :=
  match _h : firstGroup? pattern with
  | none => [pattern]
  | some group =>
    (Text.splitAt ',' group.inside).attach.flatMap fun ⟨choice, _⟩ =>
      expand (group.before ++ choice ++ group.after)
termination_by pattern.length
decreasing_by
  rename_i hc
  have hl := length_of_firstGroup? _h
  have hp := length_le_of_mem_splitAt hc
  simp only [List.length_append]
  omega

end Phrasebook.Braces
