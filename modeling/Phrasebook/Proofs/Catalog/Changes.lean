import Phrasebook.Proofs.Catalog.Settled

namespace Phrasebook.Catalog

inductive Rewrites (options : ReconcileOptions) (key text existing : String) : Prop
  | replaced (asked : options.replaceUntranslated = true) (untranslated : existing = key)
      (other : text ≠ existing)
  | marked (kept : ¬ (options.replaceUntranslated = true ∧ existing = key))
      (asked : options.validateParams = true) (flagged : Flagged key text existing)

theorem reconciledText_ne_iff {options : ReconcileOptions} {key text existing : String} :
    reconciledText options key text existing ≠ existing ↔ Rewrites options key text existing := by
  rw [reconciledText_eq]
  split
  · next replaced =>
    constructor
    · exact fun other => .replaced replaced.1 replaced.2 other
    · rintro (⟨_, _, other⟩ | kept)
      · exact other
      · exact absurd replaced kept
  · next kept =>
    split
    · next flagged => exact ⟨fun _ => .marked kept flagged.1 flagged.2, fun _ => mark_ne_self existing⟩
    · next sound =>
      constructor
      · exact fun other => absurd rfl other
      · rintro (⟨asked, untranslated, _⟩ | ⟨_, asked, flagged⟩)
        · exact absurd ⟨asked, untranslated⟩ kept
        · exact absurd ⟨asked, flagged⟩ sound

def Rewritten (options : ReconcileOptions) (source target : Catalog) (key : String) : Prop :=
  ∃ text existing, source.get? key = some text ∧ target.get? key = some existing ∧
    Rewrites options key text existing

theorem Rewritten.mem_keys {options : ReconcileOptions} {source target : Catalog} {key : String}
    (rewritten : Rewritten options source target key) :
    key ∈ target.keys ∧ key ∈ (reconcile options source target).keys := by
  obtain ⟨text, existing, wanted, found, _⟩ := rewritten
  exact ⟨mem_keys_of_get? found, mem_keys_reconcile (mem_keys_of_get? wanted)⟩

theorem get?_reconcile_ne_iff (options : ReconcileOptions) (source target : Catalog) (key : String) :
    (reconcile options source target).get? key ≠ target.get? key ↔
      (key ∉ target.keys ∧ key ∈ (reconcile options source target).keys ∨
        key ∈ target.keys ∧ key ∉ (reconcile options source target).keys) ∨
      Rewritten options source target key := by
  have inside {catalog : Catalog} : key ∈ catalog.keys ↔ catalog.get? key ≠ none := by
    rw [Ne, get?_eq_none_iff, not_not]
  have result := get?_reconcile options source target key
  rw [inside, inside, result, Rewritten]
  cases source.get? key with
  | none =>
    cases options.flush <;> cases target.get? key <;> simp
  | some text =>
    cases target.get? key with
    | none => simp
    | some existing => simp [← reconciledText_ne_iff]

end Phrasebook.Catalog
