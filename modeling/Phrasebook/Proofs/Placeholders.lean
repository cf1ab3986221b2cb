import Phrasebook.Item

namespace Phrasebook

def Mentions (text : Wording) : Prop :=
  ∃ before name after, name ≠ [] ∧ Letter.char '\x7d' ∉ name ∧
    text = before ++ .char '\x7b' :: (name ++ .char '\x7d' :: after)

structure MentionsAfter (text front name rest : Wording) : Prop where
  named : name ≠ []
  closed : Letter.char '\x7d' ∉ name
  split : text = front ++ .char '\x7b' :: (name ++ .char '\x7d' :: rest)

inductive Tokens : Wording → List Wording → Prop
  | nil {text : Wording} (silent : ∀ front name rest, ¬ MentionsAfter text front name rest) :
      Tokens text []
  | cons {text front name rest : Wording} {names : List Wording}
      (mention : MentionsAfter text front name rest)
      (earliest : ∀ front' name' rest', MentionsAfter text front' name' rest' →
        front.length ≤ front'.length)
      (later : Tokens rest names) : Tokens text (name :: names)

theorem placeholdersFrom_none_cons {c : Letter} (other : c ≠ .char '\x7b') (text : Wording) :
    placeholdersFrom none (c :: text) = placeholdersFrom none text := by
  rw [placeholdersFrom, if_neg (by simpa using other)]

theorem placeholdersFrom_some_cons {c : Letter} (other : c ≠ .char '\x7d') (read text : Wording) :
    placeholdersFrom (some read) (c :: text) = placeholdersFrom (some (c :: read)) text := by
  rw [placeholdersFrom, if_neg (by simpa using other)]

theorem placeholdersFrom_append_of_not_mem {front : Wording} (h : Letter.char '\x7b' ∉ front)
    (back : Wording) : placeholdersFrom none (front ++ back) = placeholdersFrom none back := by
  induction front with
  | nil => rfl
  | cons c front ih =>
    rw [List.mem_cons, not_or] at h
    rw [List.cons_append, placeholdersFrom_none_cons (Ne.symm h.1), ih h.2]

theorem placeholdersFrom_of_not_mem {text : Wording} (open' : Letter.char '\x7d' ∉ text) (read : Wording) :
    placeholdersFrom (some read) text = [] := by
  induction text generalizing read with
  | nil => rfl
  | cons c text ih =>
    rw [List.mem_cons, not_or] at open'
    rw [placeholdersFrom_some_cons (Ne.symm open'.1), ih open'.2]

theorem placeholdersFrom_name {name : Wording} (closed : Letter.char '\x7d' ∉ name) (read rest : Wording) :
    placeholdersFrom (some read) (name ++ .char '\x7d' :: rest) =
      if read.reverse ++ name = [] then placeholdersFrom none rest
      else (read.reverse ++ name) :: placeholdersFrom none rest := by
  induction name generalizing read with
  | nil => cases read <;> simp [placeholdersFrom]
  | cons c name ih =>
    rw [List.mem_cons, not_or] at closed
    rw [List.cons_append, placeholdersFrom_some_cons (Ne.symm closed.1), ih closed.2]
    simp

/-- No name begins at either of two braces that have nothing between them. -/
theorem MentionsAfter.two_le {before name rest rest' : Wording}
    (mention : MentionsAfter (.char '\x7b' :: .char '\x7d' :: rest) before name rest') :
    2 ≤ before.length := by
  obtain ⟨named, closed, split⟩ := mention
  rcases before with _ | ⟨d, _ | ⟨e, before⟩⟩
  · cases name with
    | nil => exact absurd rfl named
    | cons e name =>
      have first : .char '\x7d' = e := (List.cons.inj (List.cons.inj split).2).1
      exact absurd (first ▸ List.mem_cons_self) closed
  · have second : Letter.char '\x7d' = .char '\x7b' := (List.cons.inj (List.cons.inj split).2).1
    exact absurd second (by decide)
  · simp

theorem MentionsAfter.mem {text front name rest : Wording}
    (mention : MentionsAfter text front name rest) : Letter.char '\x7d' ∈ text := by
  simp [mention.split]

theorem MentionsAfter.pos {c : Letter} (other : c ≠ .char '\x7b') {text before name rest : Wording}
    (mention : MentionsAfter (c :: text) before name rest) : 1 ≤ before.length := by
  cases before with
  | nil => exact absurd (List.cons.inj mention.split).1 other
  | cons => simp

theorem Tokens.append (front : Wording) {text : Wording} {names : List Wording}
    (idle : ∀ before name rest, MentionsAfter (front ++ text) before name rest →
      front.length ≤ before.length) (tokens : Tokens text names) : Tokens (front ++ text) names := by
  have inner : ∀ before name rest, MentionsAfter (front ++ text) before name rest →
      ∃ middle, before = front ++ middle ∧ MentionsAfter text middle name rest := by
    intro before name rest mention
    have long := idle before name rest mention
    obtain ⟨named, closed, split⟩ := mention
    have taken := congrArg (List.take front.length) split
    have dropped := congrArg (List.drop front.length) split
    rw [List.take_left, List.take_append_of_le_length long] at taken
    rw [List.drop_left, List.drop_append_of_le_length long] at dropped
    refine ⟨before.drop front.length, ?_, named, closed, dropped⟩
    have whole := List.take_append_drop front.length before
    rw [← taken] at whole
    exact whole.symm
  cases tokens with
  | nil silent =>
    refine .nil fun before name rest mention => ?_
    obtain ⟨middle, -, found⟩ := inner before name rest mention
    exact silent middle name rest found
  | @cons _ middle name rest names mention earliest later =>
    obtain ⟨named, closed, split⟩ := mention
    have found : MentionsAfter (front ++ text) (front ++ middle) name rest :=
      ⟨named, closed, by rw [split, List.append_assoc]⟩
    refine .cons found (fun before name' rest' other => ?_) later
    obtain ⟨middle', same, other'⟩ := inner before name' rest' other
    have bound := earliest middle' name' rest' other'
    rw [same, List.length_append, List.length_append]
    omega

theorem tokens_placeholdersFrom (text : Wording) : Tokens text (placeholdersFrom none text) := by
  induction length : text.length using Nat.strongRecOn generalizing text with
  | _ n ih =>
    subst length
    cases text with
    | nil => exact .nil fun _ _ _ mention => absurd mention.mem List.not_mem_nil
    | cons c text =>
      by_cases brace : c = .char '\x7b'
      · subst brace
        simp only [placeholdersFrom, BEq.rfl, if_true]
        by_cases closes : Letter.char '\x7d' ∈ text
        · obtain ⟨name, rest, rfl, closed⟩ := List.eq_append_cons_of_mem closes
          have later := ih rest.length (by simp; omega) rest rfl
          rw [placeholdersFrom_name closed]
          by_cases empty : name = []
          · subst empty
            have bare : ([] : Wording).reverse ++ [] = [] := rfl
            rw [if_pos bare]
            exact Tokens.append [.char '\x7b', .char '\x7d'] (fun _ _ _ mention => mention.two_le) later
          · rw [if_neg (by simpa using empty)]
            have mention : MentionsAfter (.char '\x7b' :: (name ++ .char '\x7d' :: rest)) [] name rest :=
              ⟨empty, closed, rfl⟩
            exact .cons mention (fun _ _ _ _ => Nat.zero_le _) later
        · rw [placeholdersFrom_of_not_mem closes]
          exact .nil fun _ _ _ mention => closes (by simpa using mention.mem)
      · have later := ih text.length (by simp) text rfl
        rw [placeholdersFrom_none_cons brace]
        exact Tokens.append [c] (fun _ _ _ mention => mention.pos brace) later

theorem placeholders_ne_nil_iff (text : Wording) : placeholders text ≠ [] ↔ Mentions text := by
  have tokens : Tokens text (placeholders text) := tokens_placeholdersFrom text
  generalize placeholders text = names at tokens ⊢
  cases tokens with
  | nil silent =>
    refine iff_of_false (fun filled => filled rfl) ?_
    rintro ⟨front, name, rest, named, closed, split⟩
    exact silent front name rest ⟨named, closed, split⟩
  | cons mention =>
    refine iff_of_true (List.cons_ne_nil _ _) ?_
    exact ⟨_, _, _, mention.named, mention.closed, mention.split⟩

instance (text : Wording) : Decidable (Mentions text) :=
  decidable_of_iff _ (placeholders_ne_nil_iff text)

end Phrasebook
