import Phrasebook.Proofs.Catalog.Settled

namespace Phrasebook.Catalog

/-- The update marks some translation in a way that makes it look untranslated. -/
def Relapse (options : ReconcileOptions) (source target : Catalog) : Prop :=
  ∃ key text existing, source.get? key = some text ∧ target.get? key = some existing ∧
    Relapses options key text existing

section

variable {options : ReconcileOptions} {source target : Catalog}

theorem get?_reconcile_of_common {key text existing : String} (wanted : source.get? key = some text)
    (found : target.get? key = some existing) :
    (reconcile options source target).get? key =
      some (reconciledText options key text existing) := by
  rw [get?_reconcile, wanted, found]

/-- Under a key of the source the first update leaves a text that the second one leaves too. -/
theorem reconciledText_of_not_relapse (stays : ¬ Relapse options source target)
    {key text existing : String} (wanted : source.get? key = some text)
    (found : (reconcile options source target).get? key = some existing) :
    reconciledText options key text existing = existing := by
  cases before : target.get? key with
  | none =>
    rw [get?_reconcile, wanted, before] at found
    cases found
    exact reconciledText_self options key text
  | some earlier =>
    rw [get?_reconcile_of_common wanted before] at found
    cases found
    apply reconciledText_again
    intro relapses
    exact stays ⟨key, text, earlier, wanted, before, relapses⟩

theorem reconcile_reconcile (stays : ¬ Relapse options source target) :
    reconcile options source (reconcile options source target) = reconcile options source target := by
  apply reconcile_eq_self
  · intro key member
    exact mem_keys_reconcile member
  · intro flush key member
    exact mem_source_of_flush flush member
  · intro key text existing wanted found
    exact reconciledText_of_not_relapse stays wanted found

theorem get?_of_relapses {key text existing : String} (wanted : source.get? key = some text)
    (found : target.get? key = some existing) (relapses : Relapses options key text existing) :
    (reconcile options source target).get? key = some (mark existing) ∧
      (reconcile options source (reconcile options source target)).get? key = some text := by
  have first : (reconcile options source target).get? key =
      some (reconciledText options key text existing) := get?_reconcile_of_common wanted found
  have second : (reconcile options source (reconcile options source target)).get? key =
      some (reconciledText options key text (reconciledText options key text existing)) :=
    get?_reconcile_of_common wanted first
  rw [reconciledText_again_of_relapses relapses] at second
  rw [relapses.reconciledText_eq_mark] at first
  exact ⟨first, second⟩

end

/-- The second of two equal updates changes nothing exactly if no marked translation looks
    untranslated; one that does is replaced by the text of the source, which is another one. -/
theorem reconcile_reconcile_iff (options : ReconcileOptions) (source target : Catalog) :
    (reconcile options source (reconcile options source target) = reconcile options source target ↔
        ¬ Relapse options source target) ∧
      ∀ key text existing, source.get? key = some text → target.get? key = some existing →
        Relapses options key text existing →
          (reconcile options source target).get? key = some (mark existing) ∧
            (reconcile options source (reconcile options source target)).get? key = some text ∧
            text ≠ mark existing := by
  have overwritten : ∀ key text existing, source.get? key = some text →
      target.get? key = some existing → Relapses options key text existing →
        (reconcile options source target).get? key = some (mark existing) ∧
          (reconcile options source (reconcile options source target)).get? key = some text ∧
          text ≠ mark existing := by
    intro key text existing wanted found relapses
    obtain ⟨first, second⟩ := get?_of_relapses wanted found relapses
    exact ⟨first, second, relapses.flagged.text_ne_mark⟩
  refine ⟨⟨?_, reconcile_reconcile⟩, overwritten⟩
  rintro same ⟨key, text, existing, wanted, found, relapses⟩
  obtain ⟨first, second, other⟩ := overwritten key text existing wanted found relapses
  rw [same, first] at second
  cases second
  exact other rfl

section

def asked : Catalog := ofList [(mark "\x7bn\x7d", "Number"), ("Bye", "Bye")]

def answered : Catalog := ofList [(mark "\x7bn\x7d", "\x7bn\x7d"), ("Bye", "Salut")]

/-- The first update marks a translation, and the second one loses it. -/
theorem reconcile_reconcile_iff_marked :
    let options : ReconcileOptions := ⟨false, true, true⟩
    reconcile options asked (reconcile options asked answered) ≠ reconcile options asked answered ∧
      (reconcile options asked (reconcile options asked answered)).get? (mark "\x7bn\x7d") =
        some "Number" := by
  intro options
  have wanted : asked.get? (mark "\x7bn\x7d") = some "Number" := by decide +kernel
  have found : answered.get? (mark "\x7bn\x7d") = some "\x7bn\x7d" := by decide +kernel
  have flagged : Flagged (mark "\x7bn\x7d") "Number" "\x7bn\x7d" := by decide +kernel
  have relapses : Relapses options (mark "\x7bn\x7d") "Number" "\x7bn\x7d" := ⟨rfl, rfl, flagged, rfl⟩
  obtain ⟨unchanged, overwritten⟩ := reconcile_reconcile_iff options asked answered
  refine ⟨fun same => ?_, (overwritten _ _ _ wanted found relapses).2.1⟩
  exact unchanged.1 same ⟨_, _, _, wanted, found, relapses⟩

end

end Phrasebook.Catalog
