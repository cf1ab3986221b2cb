import Phrasebook.Catalog.Coverage
import Phrasebook.Proofs.Catalog.Reconcile

namespace Phrasebook.Catalog

theorem toList_mark (text : String) : (mark text).toList = mismatchMarker.toList ++ text.toList :=
  String.toList_append

theorem marker_isPrefix_mark (text : String) : mismatchMarker.toList <+: (mark text).toList := by
  rw [toList_mark]
  exact List.prefix_append _ _

theorem mark_ne_empty (text : String) : mark text ≠ "" := by
  intro empty
  have shorter := (marker_isPrefix_mark text).length_le
  rw [empty] at shorter
  exact absurd shorter (by decide)

theorem mark_ne_self (text : String) : mark text ≠ text := by
  intro same
  have lengths := congrArg (fun s : String => s.toList.length) same
  simp only [toList_mark, List.length_append] at lengths
  have marker : mismatchMarker.toList.length = 17 := by decide
  omega

theorem placeholders_mark (text : String) : placeholders (mark text) = placeholders text := by
  have braceless : .char '\x7b' ∉ Wording.ofString mismatchMarker := by decide
  rw [placeholders, mark, Wording.ofString_append, placeholdersFrom_append_of_not_mem braceless,
    placeholders]

theorem Flagged.text_ne_mark {key text existing : String} (flagged : Flagged key text existing) :
    text ≠ mark existing := by
  rintro rfl
  have same := flagged.differ
  rw [placeholders_mark] at same
  exact same (List.Perm.refl _)

theorem not_flagged_mark (key text existing : String) : ¬ Flagged key text (mark existing) :=
  fun flagged => flagged.unmarked (marker_isPrefix_mark existing)

/-- A translation that is marked and then looks untranslated: with the marker before it, it is its key. -/
structure Relapses (options : ReconcileOptions) (key text existing : String) : Prop where
  replaces : options.replaceUntranslated = true
  validates : options.validateParams = true
  flagged : Flagged key text existing
  becomes : key = mark existing

theorem Relapses.reconciledText_eq_mark {options : ReconcileOptions} {key text existing : String}
    (relapses : Relapses options key text existing) :
    reconciledText options key text existing = mark existing := by
  have kept : ¬ (options.replaceUntranslated = true ∧ existing = key) := by
    rintro ⟨-, same⟩
    exact mark_ne_self existing (relapses.becomes.symm.trans same.symm)
  rw [reconciledText_eq, if_neg kept, if_pos ⟨relapses.validates, relapses.flagged⟩]

/-- What the first update leaves is what the second one leaves, unless a mark is taken for the key. -/
theorem reconciledText_again_of_relapses {options : ReconcileOptions} {key text existing : String}
    (relapses : Relapses options key text existing) :
    reconciledText options key text (reconciledText options key text existing) = text := by
  have taken : options.replaceUntranslated = true ∧ mark existing = key :=
    ⟨relapses.replaces, relapses.becomes.symm⟩
  rw [relapses.reconciledText_eq_mark, reconciledText_eq, if_pos taken]

theorem reconciledText_again {options : ReconcileOptions} {key text existing : String}
    (stays : ¬ Relapses options key text existing) :
    reconciledText options key text (reconciledText options key text existing) =
      reconciledText options key text existing := by
  by_cases replaced : options.replaceUntranslated = true ∧ existing = key
  · have first : reconciledText options key text existing = text := by
      rw [reconciledText_eq, if_pos replaced]
    rw [first, reconciledText_self]
  by_cases flagged : options.validateParams = true ∧ Flagged key text existing
  · have first : reconciledText options key text existing = mark existing := by
      rw [reconciledText_eq, if_neg replaced, if_pos flagged]
    have other : ¬ (options.replaceUntranslated = true ∧ mark existing = key) :=
      fun taken => stays ⟨taken.1, flagged.1, flagged.2, taken.2.symm⟩
    have once : ¬ (options.validateParams = true ∧ Flagged key text (mark existing)) :=
      fun again => not_flagged_mark key text existing again.2
    rw [first, reconciledText_eq, if_neg other, if_neg once]
  · have first : reconciledText options key text existing = existing := by
      rw [reconciledText_eq, if_neg replaced, if_neg flagged]
    rw [first, first]

/-- An update in which nothing is flushed or replaced. -/
structure Review where
  source : Catalog
  validateParams : Bool

namespace Review

def options (review : Review) : ReconcileOptions := ⟨false, false, review.validateParams⟩

def apply (target : Catalog) (review : Review) : Catalog :=
  reconcile review.options review.source target

/-- The review finds that the translation of a key has to be marked. -/
def Flags (review : Review) (key existing : String) : Prop :=
  review.validateParams = true ∧
    ∃ text, review.source.get? key = some text ∧ Flagged key text existing

theorem flags_iff (review : Review) {key text : String} (h : review.source.get? key = some text)
    (existing : String) :
    review.Flags key existing ↔ review.validateParams = true ∧ Flagged key text existing := by
  unfold Flags
  rw [h]
  constructor
  · rintro ⟨validates, other, same, flagged⟩
    cases same
    exact ⟨validates, flagged⟩
  · rintro ⟨validates, flagged⟩
    exact ⟨validates, text, rfl, flagged⟩

theorem not_flags_of_get?_eq_none {review : Review} {key : String}
    (h : review.source.get? key = none) (existing : String) : ¬ review.Flags key existing := by
  rintro ⟨_, text, found, _⟩
  rw [h] at found
  cases found

theorem Flags.unmarked {review : Review} {key existing : String} (flags : review.Flags key existing) :
    ¬ mismatchMarker.toList <+: existing.toList := by
  obtain ⟨_, _, _, flagged⟩ := flags
  exact flagged.unmarked

theorem not_flags_mark (review : Review) (key existing : String) :
    ¬ review.Flags key (mark existing) :=
  fun flags => flags.unmarked (marker_isPrefix_mark existing)

theorem reconciledText_options (review : Review) (key text existing : String) :
    reconciledText review.options key text existing =
      if review.validateParams = true ∧ Flagged key text existing then mark existing
      else existing := by
  rw [reconciledText_eq, if_neg (by simp [options])]
  rfl

/-- The step of a run: a translation is marked if the review flags it, and stays as it is if not. -/
theorem get?_apply (review : Review) {target : Catalog} {key existing : String}
    (h : target.get? key = some existing) :
    (review.Flags key existing ∧ (apply target review).get? key = some (mark existing)) ∨
      (¬ review.Flags key existing ∧ (apply target review).get? key = some existing) := by
  unfold apply
  rw [get?_reconcile, h]
  cases found : review.source.get? key with
  | none => exact .inr ⟨not_flags_of_get?_eq_none found existing, rfl⟩
  | some text =>
    simp only [reconciledText_options, review.flags_iff found]
    by_cases flagged : review.validateParams = true ∧ Flagged key text existing
    · exact .inl ⟨flagged, by rw [if_pos flagged]⟩
    · exact .inr ⟨flagged, by rw [if_neg flagged]⟩

theorem keys_prefix_apply (review : Review) (target : Catalog) :
    target.keys <+: (apply target review).keys := by
  have keys := (reconcile_keys_and_texts review.options review.source target).1
  have all : (target.keys.filter fun key => review.options.flush → key ∈ review.source.keys) =
      target.keys := by simp [options]
  rw [all] at keys
  exact ⟨_, keys.symm⟩

end Review

def reviewAll (target : Catalog) (reviews : List Review) : Catalog := reviews.foldl Review.apply target

theorem reviewAll_cons (target : Catalog) (review : Review) (rest : List Review) :
    target.reviewAll (review :: rest) = (review.apply target).reviewAll rest := rfl

theorem keys_prefix_reviewAll (target : Catalog) (reviews : List Review) :
    target.keys <+: (target.reviewAll reviews).keys := by
  induction reviews generalizing target with
  | nil => exact List.prefix_rfl
  | cons review rest ih => exact (review.keys_prefix_apply target).trans (ih (review.apply target))

theorem get?_reviewAll (reviews : List Review) {target : Catalog} {key existing : String}
    (h : target.get? key = some existing) :
    ((∃ review ∈ reviews, review.Flags key existing) ∧
        (target.reviewAll reviews).get? key = some (mark existing)) ∨
      ((∀ review ∈ reviews, ¬ review.Flags key existing) ∧
        (target.reviewAll reviews).get? key = some existing) := by
  induction reviews generalizing target existing with
  | nil => exact .inr ⟨nofun, h⟩
  | cons review rest ih =>
    rw [reviewAll_cons]
    rcases review.get?_apply h with ⟨flags, marked⟩ | ⟨keeps, same⟩
    · -- What bears the marker is flagged by none of the later reviews.
      rcases ih marked with ⟨⟨later, _, again⟩, _⟩ | ⟨_, final⟩
      · exact absurd again (later.not_flags_mark key existing)
      · exact .inl ⟨⟨review, List.mem_cons_self, flags⟩, final⟩
    · rcases ih same with ⟨⟨later, member, flags⟩, final⟩ | ⟨keep, final⟩
      · exact .inl ⟨⟨later, List.mem_cons_of_mem _ member, flags⟩, final⟩
      · exact .inr ⟨List.forall_mem_cons.2 ⟨keeps, keep⟩, final⟩

/-- Over any number of reviews with any sources, the keys of a catalog keep their places, before all
    that is added. Each translation stays as it is, or has one marker before it: the latter if it had
    none and one of the reviews flags it. -/
theorem reviewAll_keys_and_texts (target : Catalog) (reviews : List Review) :
    target.keys <+: (target.reviewAll reviews).keys ∧
      ∀ key existing, target.get? key = some existing →
        ((target.reviewAll reviews).get? key = some (mark existing) ∧
            ¬ mismatchMarker.toList <+: existing.toList ∧
            ∃ review ∈ reviews, review.Flags key existing) ∨
          ((target.reviewAll reviews).get? key = some existing ∧
            ∀ review ∈ reviews, ¬ review.Flags key existing) := by
  refine ⟨keys_prefix_reviewAll target reviews, fun key existing found => ?_⟩
  rcases get?_reviewAll reviews found with ⟨flags, final⟩ | ⟨keep, final⟩
  · obtain ⟨review, member, flag⟩ := flags
    exact .inl ⟨final, flag.unmarked, review, member, flag⟩
  · exact .inr ⟨final, keep⟩

section

def greeting : Catalog := ofList [("Hi \x7bn\x7d", "Salut"), ("Bye", "")]

def greetings : List Review :=
  [⟨ofList [("New", "New"), ("Hi \x7bn\x7d", "Hi")], true⟩,
    ⟨ofList [("Hi \x7bn\x7d", "Hi \x7bn\x7d")], true⟩,
    ⟨ofList [("Hi \x7bn\x7d", "Hi \x7bn\x7d \x7bn\x7d"), ("Bye", "Bye")], true⟩]

/-- The first of three reviews has nothing to object to, the second marks the translation and the third
    leaves it so. -/
theorem reviewAll_keys_and_texts_greeting :
    greeting.keys <+: (greeting.reviewAll greetings).keys ∧
      (greeting.reviewAll greetings).get? "Hi \x7bn\x7d" = some "[PARAM_MISMATCH] Salut" ∧
      (greeting.reviewAll greetings).get? "Bye" = some "" := by
  obtain ⟨keys, texts⟩ := reviewAll_keys_and_texts greeting greetings
  have changed : (greeting.reviewAll greetings).get? "Hi \x7bn\x7d" ≠ some "Salut" := by decide +kernel
  have kept : (greeting.reviewAll greetings).get? "Bye" ≠ some (mark "") := by decide +kernel
  refine ⟨keys, ?_, ?_⟩
  · rcases texts "Hi \x7bn\x7d" "Salut" (by decide +kernel) with ⟨marked, _, _⟩ | ⟨same, _⟩
    · rw [marked]
      decide +kernel
    · exact absurd same changed
  · rcases texts "Bye" "" (by decide +kernel) with ⟨marked, _, _⟩ | ⟨same, _⟩
    · exact absurd marked kept
    · exact same

end

theorem mem_missing_iff {source target : Catalog} {key text existing : String}
    (wanted : source.get? key = some text) (found : target.get? key = some existing) :
    key ∈ missing source target ↔ existing = "" ∨ existing = key := by
  have member := mem_keys_of_get? wanted
  simp only [missing, translates, found, List.mem_filter, member, true_and, Bool.not_eq_true',
    Bool.and_eq_false_iff, bne_eq_false_iff_eq]

/-- Validating parameters leaves a common key missing or translated as it was, unless its translation
    is marked and was empty or the key itself, or is the key once it is marked. -/
theorem missing_reconcile_iff {source target : Catalog} {key text existing : String}
    (wanted : source.get? key = some text) (found : target.get? key = some existing) :
    (key ∈ missing source (reconcile ⟨false, false, true⟩ source target) ↔
        key ∈ missing source target) ↔
      ¬ (Flagged key text existing ∧ (existing = "" ∨ existing = key ∨ mark existing = key)) := by
  let review : Review := ⟨source, true⟩
  have flags : review.Flags key existing ↔ Flagged key text existing :=
    (review.flags_iff wanted existing).trans (and_iff_right rfl)
  rw [mem_missing_iff wanted found]
  rcases review.get?_apply found with ⟨flagged, marked⟩ | ⟨kept, same⟩
  · have flagged := flags.1 flagged
    have both : mark existing = key → ¬ (existing = "" ∨ existing = key) := by
      rintro rfl (rfl | same)
      · exact absurd flagged.mentions (by decide)
      · exact mark_ne_self existing same.symm
    have after : key ∈ missing source (reconcile ⟨false, false, true⟩ source target) ↔
        mark existing = key :=
      (mem_missing_iff wanted marked).trans (or_iff_right (mark_ne_empty existing))
    rw [after]
    constructor
    · rintro same ⟨_, blank | repeats | becomes⟩
      · exact both (same.2 (.inl blank)) (.inl blank)
      · exact both (same.2 (.inr repeats)) (.inr repeats)
      · exact both becomes (same.1 becomes)
    · intro none'
      constructor
      · exact fun becomes => absurd ⟨flagged, .inr (.inr becomes)⟩ none'
      · rintro (blank | repeats)
        · exact absurd ⟨flagged, .inl blank⟩ none'
        · exact absurd ⟨flagged, .inr (.inl repeats)⟩ none'
  · have after : key ∈ missing source (reconcile ⟨false, false, true⟩ source target) ↔
        existing = "" ∨ existing = key := mem_missing_iff wanted same
    rw [after]
    exact ⟨fun _ flagged => kept (flags.2 flagged.1), fun _ => Iff.rfl⟩

section

def salutation : Catalog := ofList [("Hi \x7bn\x7d", "Hi \x7bn\x7d")]

/-- A marked translation is still one. -/
theorem missing_reconcile_iff_greeting :
    "Hi \x7bn\x7d" ∉ missing salutation (reconcile ⟨false, false, true⟩ salutation greeting) := by
  have text : salutation.get? "Hi \x7bn\x7d" = some "Hi \x7bn\x7d" := by decide +kernel
  have existing : greeting.get? "Hi \x7bn\x7d" = some "Salut" := by decide +kernel
  have translated : "Hi \x7bn\x7d" ∉ missing salutation greeting := by decide +kernel
  have same := (missing_reconcile_iff text existing).2 (by decide +kernel)
  exact fun lacks => translated (same.1 lacks)

/-- An empty text, or one that only repeats its key, is missing until it is marked; and a translation
    may be what its key is but for the marker. -/
theorem missing_reconcile_untranslated :
    ("Hi \x7bn\x7d" ∈ missing salutation (ofList [("Hi \x7bn\x7d", "")]) ∧
        "Hi \x7bn\x7d" ∉ missing salutation
          (reconcile ⟨false, false, true⟩ salutation (ofList [("Hi \x7bn\x7d", "")]))) ∧
      ("Hi \x7bn\x7d" ∈ missing (ofList [("Hi \x7bn\x7d", "Hi")]) salutation ∧
        "Hi \x7bn\x7d" ∉ missing (ofList [("Hi \x7bn\x7d", "Hi")])
          (reconcile ⟨false, false, true⟩ (ofList [("Hi \x7bn\x7d", "Hi")]) salutation)) ∧
      (mark "\x7bn\x7d" ∉ missing (ofList [(mark "\x7bn\x7d", "n")])
          (ofList [(mark "\x7bn\x7d", "\x7bn\x7d")]) ∧
        mark "\x7bn\x7d" ∈ missing (ofList [(mark "\x7bn\x7d", "n")])
          (reconcile ⟨false, false, true⟩ (ofList [(mark "\x7bn\x7d", "n")])
            (ofList [(mark "\x7bn\x7d", "\x7bn\x7d")]))) := by
  decide +kernel

end

end Phrasebook.Catalog
