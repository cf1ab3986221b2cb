namespace Phrasebook

section

variable {ε α β : Type} {f : α → Except ε β}

theorem bind_eq_ok_iff {attempt : Except ε α} {b : β} :
    attempt >>= f = .ok b ↔ ∃ a, attempt = .ok a ∧ f a = .ok b := by
  cases attempt <;> simp [bind, Except.bind]

theorem mapM_cons_eq_ok_iff {a : α} {items : List α} {results : List β} :
    (a :: items).mapM f = .ok results ↔
      ∃ b rest, f a = .ok b ∧ items.mapM f = .ok rest ∧ results = b :: rest := by
  rw [List.mapM_cons]
  cases first : f a with
  | error fault => simp [Bind.bind, Except.bind]
  | ok b =>
    cases others : items.mapM f with
    | error fault => simp [Bind.bind, Except.bind]
    | ok rest => simp [Bind.bind, Except.bind, Pure.pure, Except.pure, eq_comm]

theorem mem_mapM_iff {items : List α} {results : List β} (h : items.mapM f = .ok results) {b : β} :
    b ∈ results ↔ ∃ a ∈ items, f a = .ok b := by
  induction items generalizing results with
  | nil =>
    cases h
    simp
  | cons a items ih =>
    obtain ⟨c, rest, first, others, rfl⟩ := mapM_cons_eq_ok_iff.1 h
    simp only [List.mem_cons, exists_eq_or_imp, ih others, first, Except.ok.injEq]
    exact or_congr_left eq_comm

theorem mapM_filter {p : α → Bool} {q : β → Bool} {items : List α} {results : List β}
    (h : items.mapM f = .ok results) (same : ∀ a b, f a = .ok b → q b = p a) :
    (items.filter p).mapM f = .ok (results.filter q) := by
  induction items generalizing results with
  | nil =>
    cases h
    rfl
  | cons a items ih =>
    obtain ⟨b, rest, first, others, rfl⟩ := mapM_cons_eq_ok_iff.1 h
    rw [List.filter_cons, List.filter_cons, same a b first]
    split
    · exact mapM_cons_eq_ok_iff.2 ⟨b, _, first, ih others, rfl⟩
    · exact ih others

theorem mapM_map {γ : Type} {g : β → γ} (items : List α) :
    (items.mapM fun a => (f a).map g) = (items.mapM f).map (List.map g) := by
  induction items with
  | nil => rfl
  | cons a items ih =>
    rw [List.mapM_cons, List.mapM_cons, ih]
    cases f a with
    | error fault => rfl
    | ok b => cases items.mapM f <;> rfl

theorem map_eq_ok_iff {g : α → β} {attempt : Except ε α} {b : β} :
    attempt.map g = .ok b ↔ ∃ a, attempt = .ok a ∧ g a = b := by
  cases attempt <;> simp [Except.map]

/-- The attempt gives no result. -/
def Fails (attempt : Except ε α) : Prop := ∃ fault, attempt = .error fault

theorem fails_error (fault : ε) : Fails (.error fault : Except ε α) := ⟨fault, rfl⟩

theorem not_fails_ok (a : α) : ¬ Fails (.ok a : Except ε α) := nofun

theorem not_fails_iff {attempt : Except ε α} : ¬ Fails attempt ↔ ∃ a, attempt = .ok a := by
  cases attempt with
  | error fault => simp [Fails]
  | ok a => simp [Fails]

theorem fails_map_iff {g : α → β} {attempt : Except ε α} : Fails (attempt.map g) ↔ Fails attempt := by
  cases attempt with
  | error fault => exact ⟨fun _ => fails_error fault, fun _ => fails_error fault⟩
  | ok a => exact ⟨nofun, nofun⟩

theorem fails_mapError_iff {δ : Type} {g : ε → δ} {attempt : Except ε α} :
    Fails (attempt.mapError g) ↔ Fails attempt := by
  cases attempt with
  | error fault => exact ⟨fun _ => fails_error fault, fun _ => fails_error (g fault)⟩
  | ok a => exact ⟨nofun, nofun⟩

theorem fails_mapM_iff {items : List α} : Fails (items.mapM f) ↔ ∃ a ∈ items, Fails (f a) := by
  induction items with
  | nil => exact ⟨nofun, nofun⟩
  | cons a items ih =>
    simp only [List.mapM_cons, List.mem_cons, exists_eq_or_imp, ← ih]
    cases first : f a with
    | error fault => exact ⟨fun _ => .inl (fails_error fault), fun _ => fails_error fault⟩
    | ok b =>
      cases others : items.mapM f with
      | error fault => exact ⟨fun _ => .inr (fails_error fault), fun _ => fails_error fault⟩
      | ok rest => exact ⟨nofun, fun either => either.elim nofun nofun⟩

end

end Phrasebook
