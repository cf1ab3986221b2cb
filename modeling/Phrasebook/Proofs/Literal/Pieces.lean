import Phrasebook.Convention.Dialect
import Phrasebook.Proofs.Text.Letter
import Phrasebook.Proofs.Literal

namespace Phrasebook.Literal

/-- A piece of the body of a literal: a character that denotes itself, or one with a backslash. -/
inductive Piece where
  | plain (c : Char) (bare : c ≠ '\\') (visible : Text.isBlank c = false)
  | escaped (c : Char) (known : c ∈ '\\' :: Convention.quotes)

namespace Piece

def spelling : Piece → List Char
  | plain c _ _ => [c]
  | escaped c _ => ['\\', c]

def char : Piece → Char
  | plain c _ _ => c
  | escaped c _ => c

theorem isBlank_char (piece : Piece) : Text.isBlank piece.char = false := by
  cases piece with
  | plain c bare visible => exact visible
  | escaped c known =>
    have each : ∀ c ∈ '\\' :: Convention.quotes, Text.isBlank c = false := by
      simp [Convention.quotes, Text.isBlank]
    exact each c known

end Piece

def spelled (pieces : List Piece) : List Char := pieces.flatMap Piece.spelling

def denoted (pieces : List Piece) : List Char := pieces.map Piece.char

theorem spelled_plain {c : Char} (bare : c ≠ '\\') (visible : Text.isBlank c = false)
    (pieces : List Piece) : spelled (.plain c bare visible :: pieces) = c :: spelled pieces := rfl

theorem spelled_escaped {c : Char} (known : c ∈ '\\' :: Convention.quotes) (pieces : List Piece) :
    spelled (.escaped c known :: pieces) = '\\' :: c :: spelled pieces := rfl

theorem denoted_cons (piece : Piece) (pieces : List Piece) :
    denoted (piece :: pieces) = piece.char :: denoted pieces := rfl

theorem isBlank_denoted (pieces : List Piece) : ∀ c ∈ denoted pieces, Text.isBlank c = false := by
  intro c member
  obtain ⟨piece, _, rfl⟩ := List.mem_map.1 member
  exact piece.isBlank_char

section Cooking

theorem codePointsFrom_plain {c : Char} (bare : c ≠ '\\') (text : List Char) :
    codePointsFrom 0 (c :: text) = (c.toNat :: ·) <$> codePointsFrom 0 text := by
  rw [codePointsFrom, if_neg (by simpa using bare)]
  rfl

theorem codePointsFrom_escaped {c : Char} (known : c ∈ '\\' :: Convention.quotes) (text : List Char) :
    codePointsFrom 0 ('\\' :: c :: text) = (c.toNat :: ·) <$> codePointsFrom 0 text := by
  simp only [Convention.quotes, List.mem_cons, List.not_mem_nil, or_false] at known
  rcases known with rfl | rfl | rfl | rfl <;> rfl

theorem codePointsFrom_spelled (pieces : List Piece) :
    codePointsFrom 0 (spelled pieces) = .ok ((denoted pieces).map Char.toNat) := by
  induction pieces with
  | nil => rfl
  | cons piece pieces ih =>
    cases piece with
    | plain c bare visible =>
      rw [spelled_plain, codePointsFrom_plain bare, ih]
      rfl
    | escaped c known =>
      rw [spelled_escaped, codePointsFrom_escaped known, ih]
      rfl

theorem cook_spelled (pieces : List Piece) :
    cook (spelled pieces) = .ok (.ofChars (denoted pieces)) := by
  rw [cook, codePointsFrom_spelled]
  exact congrArg Except.ok (Wording.ofChars_toNat _)

end Cooking

section Undoing

variable {escapes : List (Char × Char)}

def undo (escapes : List (Char × Char)) : List Char → List Char
  | c :: d :: text =>
    match (if c = '\\' then escapes.lookup d else none) with
    | some plain => plain :: undo escapes text
    | none => c :: undo escapes (d :: text)
  | text => text

theorem unescape_cons_of_ne {marked plain c : Char} (bare : c ≠ '\\') (text : List Char) :
    unescape marked plain (c :: text) = c :: unescape marked plain text := by
  cases text with
  | nil => rfl
  | cons d text => simp [unescape, bare]

theorem unescape_backslash {marked plain : Char} {text : List Char} (other : text.head? ≠ some marked) :
    unescape marked plain ('\\' :: text) = '\\' :: unescape marked plain text := by
  cases text with
  | nil => rfl
  | cons d text =>
    have differs : d ≠ marked := by simpa using other
    simp [unescape, differs]

theorem unescape_escape (marked plain : Char) (text : List Char) :
    unescape marked plain ('\\' :: marked :: text) = plain :: unescape marked plain text := by
  simp [unescape]

theorem undo_cons_of_ne {c : Char} (bare : c ≠ '\\') (text : List Char) :
    undo escapes (c :: text) = c :: undo escapes text := by
  cases text with
  | nil => rfl
  | cons d text => simp [undo, bare]

theorem undo_escape {d plain : Char} (found : escapes.lookup d = some plain) (text : List Char) :
    undo escapes ('\\' :: d :: text) = plain :: undo escapes text := by
  simp [undo, found]

theorem undo_backslash {d : Char} (unknown : escapes.lookup d = none) (text : List Char) :
    undo escapes ('\\' :: d :: text) = '\\' :: undo escapes (d :: text) := by
  simp [undo, unknown]

structure Independent (escapes : List (Char × Char)) : Prop where
  fresh : escapes.Pairwise fun a b => b.1 ≠ a.1 ∧ b.1 ≠ a.2
  bare : ∀ escape ∈ escapes, escape.1 ≠ '\\' ∧ escape.2 ≠ '\\'

theorem head?_undo_ne {marked : Char} (apart : ∀ escape ∈ escapes, marked ≠ escape.2)
    {d : Char} (differs : d ≠ marked) (text : List Char) :
    (undo escapes (d :: text)).head? ≠ some marked := by
  cases text with
  | nil => simpa [undo] using differs
  | cons e text =>
    unfold undo
    split
    · rename_i plain found
      split at found
      · obtain ⟨key, member⟩ : ∃ key, (key, plain) ∈ escapes := by
          obtain ⟨_, _, split, _⟩ := List.lookup_eq_some_iff.1 found
          exact ⟨e, by simp [split]⟩
        simpa using (apart _ member).symm
      · cases found
    · simpa using differs

theorem unescape_undo {marked plain : Char}
    (independent : Independent (escapes ++ [(marked, plain)])) (text : List Char) :
    unescape marked plain (undo escapes text) = undo (escapes ++ [(marked, plain)]) text := by
  obtain ⟨fresh, bare⟩ := independent
  have later := fun escape member =>
    (List.pairwise_append.1 fresh).2.2 escape member (marked, plain) (List.mem_singleton.2 rfl)
  have unknown : escapes.lookup marked = none :=
    List.lookup_eq_none_iff.2 fun escape member => bne_iff_ne.2 (later escape member).1
  have marks : marked ≠ '\\' := (bare (marked, plain) (by simp)).1
  have joined : ∀ d, (escapes ++ [(marked, plain)]).lookup d =
      (escapes.lookup d).or (if d = marked then some plain else none) := by
    intro d
    rw [List.lookup_append]
    by_cases same : d = marked
    · simp [same]
    · simp [List.lookup_cons, same, beq_eq_false_iff_ne.2 same]
  fun_induction undo escapes text with
  | case1 c d text result found ih =>
    obtain ⟨rfl, known⟩ : c = '\\' ∧ escapes.lookup d = some result := by simpa using found
    obtain ⟨_, _, split, _⟩ := List.lookup_eq_some_iff.1 known
    have other : result ≠ '\\' := (bare (d, result) (by simp [split])).2
    have found' : (escapes ++ [(marked, plain)]).lookup d = some result := by
      rw [joined, known]
      rfl
    rw [unescape_cons_of_ne other, ih, undo_escape found']
  | case2 c d text none' ih =>
    by_cases backslash : c = '\\'
    · subst backslash
      have none' : escapes.lookup d = none := by simpa using none'
      by_cases same : d = marked
      · subst same
        -- The step for the rest of the text is that for what follows the marked character.
        rw [undo_cons_of_ne marks, unescape_cons_of_ne marks, undo_cons_of_ne marks] at ih
        have found : (escapes ++ [(d, plain)]).lookup d = some plain := by
          rw [joined, none', if_pos rfl]
          rfl
        rw [undo_cons_of_ne marks, unescape_escape, (List.cons.inj ih).2, undo_escape found]
      · have unknown' : (escapes ++ [(marked, plain)]).lookup d = none := by
          rw [joined, none', if_neg same]
          rfl
        have head := head?_undo_ne (fun escape member => (later escape member).2) same text
        rw [unescape_backslash head, ih, undo_backslash unknown']
    · rw [unescape_cons_of_ne backslash, ih, undo_cons_of_ne backslash]
  | case3 text short =>
    cases text with
    | nil => rfl
    | cons c text =>
      cases text with
      | nil => rfl
      | cons d text => exact absurd rfl (short c d text)

theorem undo_nil (text : List Char) : undo [] text = text := by
  fun_induction undo [] text with
  | case1 c d text plain found => simp at found
  | case2 c d text _ ih => rw [ih]
  | case3 => rfl

theorem Independent.front {others : List (Char × Char)} (h : Independent (escapes ++ others)) :
    Independent escapes :=
  ⟨(List.pairwise_append.1 h.fresh).1, fun escape member => h.bare escape (by simp [member])⟩

theorem foldl_unescape (independent : Independent escapes) (text : List Char) :
    escapes.foldl (fun text (marked, plain) => unescape marked plain text) text = undo escapes text := by
  induction escapes using List.reverseRecOn with
  | nil => exact (undo_nil text).symm
  | append_singleton escapes escape ih =>
    rw [List.foldl_append, ih independent.front]
    exact unescape_undo independent text

end Undoing

section Reading

def earlyEscapes : List (Char × Char) := templateEscapes.dropLast

theorem independent_earlyEscapes : Independent earlyEscapes := by
  constructor <;> decide

def afterBackslash (c : Char) : Char := (earlyEscapes.lookup c).getD c

theorem afterBackslash_eq_iff (c : Char) : afterBackslash c = c ↔ c ∉ ['n', 't', 'r'] := by
  by_cases early : c ∈ earlyEscapes.map Prod.fst
  · have each : ∀ c ∈ earlyEscapes.map Prod.fst, (afterBackslash c = c ↔ c ∉ ['n', 't', 'r']) :=
      List.forall_mem_map.2 (by decide)
    exact each c early
  · have unknown : earlyEscapes.lookup c = none := by
      refine List.lookup_eq_none_iff.2 fun escape member => bne_iff_ne.2 ?_
      rintro rfl
      exact early (List.mem_map_of_mem member)
    have apart : c ∉ ['n', 't', 'r'] := by
      have covers : ['n', 't', 'r'] ⊆ earlyEscapes.map Prod.fst := by decide
      exact fun member => early (covers member)
    simp [afterBackslash, unknown, apart]

def blurFrom : (before : Option Char) → List Char → List Char
  | _, [] => []
  | before, c :: text =>
    (if before = some '\\' then afterBackslash c else c) :: blurFrom (some c) text

def blur (text : List Char) : List Char := blurFrom none text

theorem length_blurFrom (before : Option Char) (text : List Char) :
    (blurFrom before text).length = text.length := by
  induction text generalizing before with
  | nil => rfl
  | cons c text ih => exact congrArg (· + 1) (ih (some c))

theorem blur_cons_of_ne {c : Char} (bare : c ≠ '\\') (text : List Char) :
    blur (c :: text) = c :: blur text := by
  have blind : blurFrom (some c) text = blurFrom none text := by
    cases text with
    | nil => rfl
    | cons d text => simp [blurFrom, bare]
  rw [blur, blurFrom, if_neg nofun, blind, blur]

theorem blurFrom_backslash {c : Char} (same : afterBackslash c = c) (text : List Char) :
    blurFrom (some '\\') (c :: text) = blur (c :: text) := by
  rw [blurFrom, if_pos rfl, same]
  rfl

def reduced (text : List Char) : List Char := unescape '\\' '\\' (undo earlyEscapes text)

theorem foldl_templateEscapes (text : List Char) :
    templateEscapes.foldl (fun text (marked, plain) => unescape marked plain text) text = reduced text := by
  have last : templateEscapes = earlyEscapes ++ [('\\', '\\')] := rfl
  rw [last, List.foldl_append, foldl_unescape independent_earlyEscapes]
  rfl

theorem reduced_cons_of_ne {c : Char} (bare : c ≠ '\\') (text : List Char) :
    reduced (c :: text) = c :: reduced text := by
  rw [reduced, undo_cons_of_ne bare, unescape_cons_of_ne bare, reduced]

theorem reduced_escape {c plain : Char} (found : earlyEscapes.lookup c = some plain)
    (bare : plain ≠ '\\') (text : List Char) : reduced ('\\' :: c :: text) = plain :: reduced text := by
  rw [reduced, undo_escape found, unescape_cons_of_ne bare, reduced]

theorem reduced_backslashes {d : Char} (unknown : earlyEscapes.lookup d = none) (text : List Char) :
    reduced ('\\' :: '\\' :: d :: text) = '\\' :: reduced (d :: text) := by
  have itself : earlyEscapes.lookup '\\' = none := by decide
  rw [reduced, undo_backslash itself, undo_backslash unknown, unescape_escape, reduced]

theorem reduced_backslashes_cons {c : Char} (bare : c ≠ '\\') (text : List Char) :
    reduced ('\\' :: '\\' :: c :: text) = '\\' :: afterBackslash c :: reduced text := by
  cases found : earlyEscapes.lookup c with
  | none =>
    rw [reduced_backslashes found, reduced_cons_of_ne bare, afterBackslash, found]
    rfl
  | some plain =>
    have itself : earlyEscapes.lookup '\\' = none := by decide
    have other : plain ≠ '\\' := by
      obtain ⟨_, _, split, _⟩ := List.lookup_eq_some_iff.1 found
      exact (independent_earlyEscapes.bare (c, plain) (by simp [split])).2
    have head : (plain :: undo earlyEscapes text).head? ≠ some '\\' := by simpa using other
    rw [reduced, undo_backslash itself, undo_escape found, unescape_backslash head,
      unescape_cons_of_ne other, afterBackslash, found]
    rfl

theorem reduced_spelled (pieces : List Piece) : reduced (spelled pieces) = blur (denoted pieces) := by
  induction pieces with
  | nil => rfl
  | cons piece pieces ih =>
    cases piece with
    | plain c bare visible =>
      rw [spelled_plain, reduced_cons_of_ne bare, ih, denoted_cons]
      exact (blur_cons_of_ne bare _).symm
    | escaped c known =>
      rw [spelled_escaped, denoted_cons]
      rcases List.mem_cons.1 known with rfl | quote
      · cases pieces with
        | nil => rfl
        | cons next pieces =>
          rw [denoted_cons] at ih ⊢
          cases next with
          | plain d bare visible =>
            rw [spelled_plain] at ih ⊢
            rw [reduced_cons_of_ne bare] at ih
            rw [reduced_backslashes_cons bare, (List.cons.inj ih).2]
            rfl
          | escaped d known =>
            have each : ∀ d ∈ '\\' :: Convention.quotes, afterBackslash d = d := by
              simp [Convention.quotes, afterBackslash, earlyEscapes, templateEscapes, List.lookup_cons]
            rw [spelled_escaped] at ih ⊢
            rw [reduced_backslashes (by decide), ih]
            exact congrArg _ (blurFrom_backslash (each d known) _).symm
      · have each : ∀ q ∈ Convention.quotes, earlyEscapes.lookup q = some q ∧ q ≠ '\\' := by
          simp [Convention.quotes, earlyEscapes, templateEscapes, List.lookup_cons]
        rw [reduced_escape (each c quote).1 (each c quote).2, ih]
        exact (blur_cons_of_ne (each c quote).2 _).symm

theorem blurFrom_eq_iff (before : Option Char) (text : List Char) :
    blurFrom before text = text ↔
      (before = some '\\' → ∀ c ∈ text.head?, afterBackslash c = c) ∧
        ∀ c, ['\\', c] <:+: text → afterBackslash c = c := by
  induction text generalizing before with
  | nil => simp [blurFrom]
  | cons c text ih =>
    have head : (if before = some '\\' then afterBackslash c else c) = c ↔
        (before = some '\\' → afterBackslash c = c) := by
      split <;> simp_all
    have inside : ∀ d, ['\\', d] <:+: c :: text ↔
        (c = '\\' ∧ text.head? = some d) ∨ ['\\', d] <:+: text := by
      intro d
      rw [List.infix_cons_iff, List.cons_prefix_cons]
      cases text with
      | nil => simp
      | cons e text => simp [eq_comm]
    simp only [blurFrom, List.cons_eq_cons, head, ih, inside, Option.some.injEq, List.head?_cons,
      Option.mem_def, forall_eq']
    refine and_congr_right fun _ => ?_
    constructor
    · rintro ⟨first, rest⟩ d (⟨same, found⟩ | later)
      · exact first same d found
      · exact rest d later
    · intro all
      exact ⟨fun same d found => all d (.inl ⟨same, found⟩), fun d later => all d (.inr later)⟩

end Reading

section Trimming

def withoutBlanks (text : List Char) : List Char := text.filter (!Text.isBlank ·)

theorem withoutBlanks_append (front back : List Char) :
    withoutBlanks (front ++ back) = withoutBlanks front ++ withoutBlanks back :=
  List.filter_append ..

theorem withoutBlanks_reverse (text : List Char) :
    withoutBlanks text.reverse = (withoutBlanks text).reverse :=
  List.filter_reverse ..

theorem withoutBlanks_of_blank {text : List Char} (blank : ∀ c ∈ text, Text.isBlank c = true) :
    withoutBlanks text = [] := by
  simpa [withoutBlanks] using blank

theorem withoutBlanks_cons_of_visible {c : Char} (seen : Text.isBlank c = false) (text : List Char) :
    withoutBlanks (c :: text) = c :: withoutBlanks text :=
  List.filter_cons_of_pos (by simp [seen])

theorem withoutBlanks_dropWhile (text : List Char) :
    withoutBlanks (text.dropWhile Text.isBlank) = withoutBlanks text := by
  have front : withoutBlanks (text.takeWhile Text.isBlank) = [] :=
    withoutBlanks_of_blank fun _ member => List.mem_takeWhile_imp member
  have whole := congrArg withoutBlanks (List.takeWhile_append_dropWhile (p := Text.isBlank) (l := text))
  rwa [withoutBlanks_append, front, List.nil_append] at whole

theorem withoutBlanks_strip (text : List Char) :
    withoutBlanks (Text.strip text) = withoutBlanks text := by
  rw [Text.strip, withoutBlanks_reverse, withoutBlanks_dropWhile, withoutBlanks_reverse,
    withoutBlanks_dropWhile, List.reverse_reverse]

theorem withoutBlanks_flush {run : List Char} (blank : ∀ c ∈ run, Text.isBlank c = true) :
    withoutBlanks (joinLinesFrom.flush run) = [] := by
  refine withoutBlanks_of_blank fun c member => ?_
  unfold joinLinesFrom.flush at member
  split at member
  · rw [List.mem_singleton.1 member]
    decide
  · exact blank c (List.mem_reverse.1 member)

theorem withoutBlanks_joinLinesFrom {run : List Char} (blank : ∀ c ∈ run, Text.isBlank c = true)
    (text : List Char) : withoutBlanks (joinLinesFrom run text) = withoutBlanks text := by
  induction text generalizing run with
  | nil => exact withoutBlanks_flush blank
  | cons c text ih =>
    cases space : Text.isBlank c with
    | true =>
      have none' : withoutBlanks (c :: text) = withoutBlanks text :=
        List.filter_cons_of_neg (by simp [space])
      rw [joinLinesFrom, if_pos space, ih (List.forall_mem_cons.2 ⟨space, blank⟩), none']
    | false =>
      have rest := ih (List.forall_mem_nil _)
      rw [joinLinesFrom, if_neg (by simp [space]), withoutBlanks_append, withoutBlanks_flush blank,
        List.nil_append, withoutBlanks_cons_of_visible space, rest, withoutBlanks_cons_of_visible space]

theorem joinLinesFrom_of_visible {text : List Char} (seen : ∀ c ∈ text, Text.isBlank c = false) :
    joinLinesFrom [] text = text := by
  induction text with
  | nil => rfl
  | cons c text ih =>
    rw [List.forall_mem_cons] at seen
    rw [joinLinesFrom, if_neg (by simp [seen.1]), ih seen.2]
    rfl

theorem dropWhile_of_visible {text : List Char} (seen : ∀ c ∈ text, Text.isBlank c = false) :
    text.dropWhile Text.isBlank = text := by
  cases text with
  | nil => rfl
  | cons c text => rw [List.dropWhile_cons_of_neg (by simp [seen c List.mem_cons_self])]

theorem strip_of_visible {text : List Char} (seen : ∀ c ∈ text, Text.isBlank c = false) :
    Text.strip text = text := by
  rw [Text.strip, dropWhile_of_visible seen,
    dropWhile_of_visible fun c member => seen c (List.mem_reverse.1 member), List.reverse_reverse]

end Trimming

theorem normalize_spelled (pieces : List Piece) :
    normalize (spelled pieces) = Text.strip (joinLines (blur (denoted pieces))) := by
  rw [normalize, foldl_templateEscapes, reduced_spelled]

theorem normalize_spelled_eq_iff (pieces : List Piece) :
    normalize (spelled pieces) = denoted pieces ↔ blur (denoted pieces) = denoted pieces := by
  have seen := isBlank_denoted pieces
  rw [normalize_spelled]
  constructor
  · intro same
    have kept := congrArg withoutBlanks same
    rw [withoutBlanks_strip, joinLines, withoutBlanks_joinLinesFrom (List.forall_mem_nil _)] at kept
    have all : withoutBlanks (denoted pieces) = denoted pieces :=
      List.filter_eq_self.2 fun c member => by simp [seen c member]
    rw [all] at kept
    -- White space in the blurred text would leave fewer visible characters than the text has.
    have length : (withoutBlanks (blur (denoted pieces))).length = (blur (denoted pieces)).length := by
      rw [kept, blur, length_blurFrom]
    exact (List.filter_sublist.eq_of_length length).symm.trans kept
  · intro same
    rw [same, joinLines, joinLinesFrom_of_visible seen, strip_of_visible seen]

/-- Cooking a body yields the text that its pieces denote, and normalizing it yields the same text
    exactly if that has no backslash right before an `n`, a `t` or an `r`. -/
theorem normalize_eq_cook_iff (pieces : List Piece) :
    cook (spelled pieces) = .ok (.ofChars (denoted pieces)) ∧
      (cook (spelled pieces) = .ok (.ofChars (normalize (spelled pieces))) ↔
        ∀ c ∈ ['n', 't', 'r'], ¬ ['\\', c] <:+: denoted pieces) := by
  refine ⟨cook_spelled pieces, ?_⟩
  rw [cook_spelled, Except.ok.injEq, Wording.ofChars_injective.eq_iff, eq_comm,
    normalize_spelled_eq_iff, blur, blurFrom_eq_iff]
  constructor
  · rintro ⟨-, all⟩ c control found
    exact (afterBackslash_eq_iff c).1 (all c found) control
  · intro apart
    refine ⟨(nomatch ·), fun c found => ?_⟩
    exact (afterBackslash_eq_iff c).2 fun control => apart c control found

/-- A path with an escaped backslash and a folder that begins with an `n`. -/
def path : List Piece :=
  [.plain 'C' (by decide) (by decide), .plain ':' (by decide) (by decide),
    .escaped '\\' (by decide), .plain 'n' (by decide) (by decide),
    .plain 'e' (by decide) (by decide), .plain 'w' (by decide) (by decide)]

theorem normalize_path :
    spelled path = "C:\\\\new".toList ∧ cook (spelled path) = .ok (.ofString "C:\\new") ∧
      normalize (spelled path) = "C:\\ ew".toList := by
  decide

end Phrasebook.Literal
