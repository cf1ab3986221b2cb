import Mathlib.Data.List.Induction
import Phrasebook.Proofs.Text.Encoding
import Phrasebook.Text.Position

namespace Phrasebook.Text

section

variable {α : Type} [BEq α] [LawfulBEq α] {mark : α}

theorem afterLast_concat_mark (items : List α) : afterLast mark (items ++ [mark]) = [] := by
  simp [afterLast]

theorem afterLast_cons_mark (items : List α) : afterLast mark (mark :: items) = afterLast mark items := by
  simp only [afterLast, List.reverse_cons, List.takeWhile_append, List.takeWhile_cons, bne_self_eq_false,
    List.takeWhile_nil, Bool.false_eq_true, if_false, List.append_nil]
  split
  · rename_i whole
    rw [(List.takeWhile_prefix _).eq_of_length whole]
  · rfl

theorem afterLast_append_of_not_mem (before : List α) {items : List α} (h : mark ∉ items) :
    afterLast mark (before ++ items) = afterLast mark before ++ items := by
  have unmarked : ∀ a ∈ items.reverse, (a != mark) = true := by
    intro a member
    rw [bne_iff_ne]
    rintro rfl
    exact h (List.mem_reverse.1 member)
  rw [afterLast, List.reverse_append, List.takeWhile_append_of_pos unmarked, List.reverse_append,
    List.reverse_reverse, afterLast]

end

theorem encode_append (front back : List Char) :
    encode (front ++ back) = encode front ++ encode back := List.flatMap_append

theorem encode_singleton (c : Char) : encode [c] = String.utf8EncodeChar c := by simp [encode]

theorem encode_feed : encode ['\n'] = [10] := by decide

theorem ten_not_mem_encode {c : Char} (h : c ≠ '\n') : 10 ∉ encode [c] := by
  rw [encode_singleton]
  by_cases small : c.toNat < 0x80
  · rw [utf8EncodeChar_of_lt small, List.mem_singleton]
    exact fun same => h (eq_of_byte_eq small (by decide) same.symm)
  · exact not_mem_utf8EncodeChar (d := '\n') small (by decide)

namespace Position

def next (position : Position) (c : Char) : Position :=
  if c = '\n' then ⟨position.line + 1, 1⟩ else ⟨position.line, position.column + 1⟩

/-- The position at the end of a text. -/
def after (text : List Char) : Position := text.foldl next ⟨1, 1⟩

theorem after_concat (text : List Char) (c : Char) : after (text ++ [c]) = (after text).next c := by
  simp [after]

theorem after_append (front back : List Char) : after (front ++ back) = back.foldl next (after front) :=
  List.foldl_append

theorem after_eq (text : List Char) :
    after text = ⟨text.count '\n' + 1, (afterLast '\n' text).length + 1⟩ := by
  induction text using List.reverseRecOn with
  | nil => rfl
  | append_singleton text c ih =>
    rw [after_concat, ih, next]
    by_cases feed : c = '\n'
    · subst feed
      simp [afterLast_concat_mark]
    · have other : '\n' ∉ [c] := by simpa using fun same => feed same.symm
      rw [if_neg feed, afterLast_append_of_not_mem text other, List.count_append,
        List.count_eq_zero_of_not_mem other]
      simp

theorem ofIndex_append (before rest : List Char) :
    ofIndex (before ++ rest) before.length = after before := by
  have inside : (afterLast '\n' before).length ≤ before.length := by
    rw [afterLast, List.length_reverse]
    exact Nat.le_trans (List.takeWhile_prefix _).length_le (Nat.le_of_eq before.length_reverse)
  rw [after_eq, ofIndex, List.take_left']
  · congr 1
    omega
  · rfl

theorem afterLast_encode (text : List Char) :
    afterLast 10 (encode text) = encode (afterLast '\n' text) := by
  induction text using List.reverseRecOn with
  | nil => rfl
  | append_singleton text c ih =>
    rw [encode_append]
    by_cases feed : c = '\n'
    · subst feed
      rw [encode_feed, afterLast_concat_mark, afterLast_concat_mark]
      rfl
    · have other : '\n' ∉ [c] := by simpa using fun same => feed same.symm
      rw [afterLast_append_of_not_mem _ (ten_not_mem_encode feed), ih,
        afterLast_append_of_not_mem text other, encode_append]

theorem count_encode (text : List Char) : (encode text).count 10 = text.count '\n' := by
  induction text using List.reverseRecOn with
  | nil => rfl
  | append_singleton text c ih =>
    rw [encode_append, List.count_append, List.count_append, ih]
    congr 1
    by_cases feed : c = '\n'
    · subst feed
      decide
    · have other : '\n' ∉ [c] := by simpa using fun same => feed same.symm
      rw [List.count_eq_zero_of_not_mem other, List.count_eq_zero_of_not_mem (ten_not_mem_encode feed)]

theorem ofOffset_append (before rest : List Char) :
    ofOffset (encode (before ++ rest)) (encode before).length = after before := by
  rw [after_eq, ofOffset, encode_append, List.take_left', count_encode, afterLast_encode,
    decodeLossy_encode]
  rfl

theorem one_le_line_after (text : List Char) : 1 ≤ (after text).line := by
  rw [after_eq]
  exact Nat.le_add_left 1 _

theorem one_le_column_after (text : List Char) : 1 ≤ (after text).column := by
  rw [after_eq]
  exact Nat.le_add_left 1 _

theorem within_next {base inner : Position} (line : 1 ≤ inner.line) (c : Char) :
    base.within (inner.next c) = (base.within inner).next c := by
  unfold within next
  split
  · have below : ¬ inner.line + 1 = 1 := by omega
    simp only [if_neg below, mk.injEq, and_true]
    omega
  · simp only [mk.injEq, true_and]
    split
    · omega
    · rfl

theorem within_after (before part : List Char) :
    (after before).within (after part) = after (before ++ part) := by
  induction part using List.reverseRecOn with
  | nil =>
    have line := one_le_line_after before
    have column := one_le_column_after before
    rw [List.append_nil]
    cases here : after before with
    | mk line' column' =>
      rw [here] at line column
      simp only [within, after, List.foldl_nil, if_true, mk.injEq] at line column ⊢
      omega
  | append_singleton part c ih =>
    rw [after_concat, within_next (one_le_line_after part), ih, ← List.append_assoc,
      after_concat]

/-- One position is above another, or on the same line and further left. -/
def Before (a b : Position) : Prop := a.line < b.line ∨ a.line = b.line ∧ a.column < b.column

theorem Before.trans {a b c : Position} (first : a.Before b) (second : b.Before c) : a.Before c := by
  unfold Before at *
  omega

theorem Before.ne {a b : Position} (h : a.Before b) : a ≠ b := by
  rintro rfl
  unfold Before at h
  omega

theorem before_next (position : Position) (c : Char) : position.Before (position.next c) := by
  unfold Before next
  split
  · exact .inl (Nat.lt_succ_self _)
  · exact .inr ⟨rfl, Nat.lt_succ_self _⟩

theorem before_foldl_next (position : Position) {text : List Char} (h : text ≠ []) :
    position.Before (text.foldl next position) := by
  induction text generalizing position with
  | nil => exact absurd rfl h
  | cons c text ih =>
    by_cases last : text = []
    · subst last
      exact before_next position c
    · exact (before_next position c).trans (ih (position.next c) last)

theorem ofIndex_eq_after {text : List Char} {index : Nat} (inside : index ≤ text.length) :
    ofIndex text index = after (text.take index) := by
  have split := ofIndex_append (text.take index) (text.drop index)
  rwa [List.take_append_drop, List.length_take_of_le inside] at split

theorem ofIndex_before {text : List Char} {i j : Nat} (less : i < j) (inside : j ≤ text.length) :
    (ofIndex text i).Before (ofIndex text j) := by
  obtain ⟨n, rfl⟩ := Nat.exists_eq_add_of_lt less
  have between : (text.drop i).take (n + 1) ≠ [] := by
    simp only [ne_eq, List.take_eq_nil_iff, List.drop_eq_nil_iff, not_or]
    omega
  rw [ofIndex_eq_after (by omega), ofIndex_eq_after inside, Nat.add_assoc, List.take_add,
    after_append]
  exact before_foldl_next _ between

theorem ofIndex_cons_feed (text : List Char) (index : Nat) :
    ofIndex ('\n' :: text) (index + 1) = ⟨(ofIndex text index).line + 1, (ofIndex text index).column⟩ := by
  have inside : (afterLast '\n' (text.take index)).length ≤ (text.take index).length := by
    rw [afterLast, List.length_reverse]
    exact Nat.le_trans (List.takeWhile_prefix _).length_le (Nat.le_of_eq List.length_reverse)
  simp only [ofIndex, List.take_succ_cons, afterLast_cons_mark, List.count_cons_self, List.length_cons,
    mk.injEq, true_and]
  omega

theorem length_afterLast_feeds (text : List Char) :
    (afterLast true (text.map (· == '\n'))).length = (afterLast '\n' text).length := by
  have other : (fun feed => feed != true) ∘ (· == '\n') = fun c : Char => c != '\n' := by
    funext c
    cases feed : c == '\n' <;> simp [bne, feed]
  rw [afterLast, afterLast, List.length_reverse, List.length_reverse, ← List.map_reverse,
    List.takeWhile_map, List.length_map, other]

theorem count_feeds (text : List Char) : (text.map (· == '\n')).count true = text.count '\n' := by
  rw [List.count_eq_countP, List.countP_map, List.count_eq_countP]
  congr 1
  funext c
  simp

theorem ofIndex_congr {text other : List Char}
    (same : text.map (· == '\n') = other.map (· == '\n')) (index : Nat) :
    ofIndex text index = ofIndex other index := by
  have taken : (text.take index).map (· == '\n') = (other.take index).map (· == '\n') := by
    rw [List.map_take, same, List.map_take]
  have length := congrArg List.length taken
  rw [List.length_map, List.length_map] at length
  simp only [ofIndex, ← length_afterLast_feeds, ← count_feeds, taken, length]

/-- An index into a section of a document has one position, counted in three ways: by the bytes of
    the document, by the bytes of the section from where it begins, and by the characters of the
    document. Further on in the section, the position is later, so no two indexes share one. -/
theorem positions_agree (before part behind : List Char) {index : Nat}
    (inside : index ≤ part.length) :
    let document := before ++ part ++ behind
    let position := ofIndex document (before.length + index)
    ofOffset (encode document) (encode (before ++ part.take index)).length = position ∧
      (ofIndex document before.length).within
          (ofOffset (encode part) (encode (part.take index)).length) = position ∧
      1 ≤ position.line ∧ 1 ≤ position.column ∧
      (∀ other < index, (ofIndex document (before.length + other)).Before position) ∧
      ∀ other ≤ part.length, ofIndex document (before.length + other) = position → other = index := by
  intro document position
  have joined : document = before ++ (part ++ behind) := List.append_assoc ..
  have taken : ∀ i ≤ part.length, document.take (before.length + i) = before ++ part.take i := by
    intro i bound
    rw [joined, List.take_length_add_append, List.take_append_of_le_length bound]
  have length : ∀ i ≤ part.length, before.length + i ≤ document.length := by
    intro i bound
    simp only [document, List.length_append]
    omega
  have reached : position = after (before ++ part.take index) := by
    rw [← taken index inside]
    exact ofIndex_eq_after (length index inside)
  have earlier : ∀ i j, i < j → j ≤ part.length →
      (ofIndex document (before.length + i)).Before (ofIndex document (before.length + j)) :=
    fun i j less bound => ofIndex_before (by omega) (length j bound)
  refine ⟨?_, ?_, ?_, ?_, fun other less => earlier other index less inside, ?_⟩
  · have whole : document = (before ++ part.take index) ++ (part.drop index ++ behind) := by
      rw [joined, List.append_assoc, ← List.append_assoc (part.take index), List.take_append_drop]
    rw [whole, ofOffset_append, reached]
  · have base : ofIndex document before.length = after before := by
      rw [joined]
      exact ofIndex_append before (part ++ behind)
    have inner : ofOffset (encode part) (encode (part.take index)).length = after (part.take index) := by
      have split := ofOffset_append (part.take index) (part.drop index)
      rwa [List.take_append_drop] at split
    rw [base, inner, within_after, reached]
  · rw [reached]
    exact one_le_line_after _
  · rw [reached]
    exact one_le_column_after _
  · intro other bound same
    rcases Nat.lt_trichotomy other index with less | equal | more
    · exact absurd same (earlier other index less inside).ne
    · exact equal
    · exact absurd same.symm (earlier index other more bound).ne

/-- Characters of one, two and four bytes, and a section that begins inside a line. -/
theorem positions_agree_astral :
    let before := ['é', ' ']
    let part := ['a', '\n', '😀', 'b']
    let document := before ++ part ++ ['c']
    3 ≤ part.length ∧ ofIndex document 5 = ⟨2, 2⟩ ∧ ofOffset (encode document) 9 = ⟨2, 2⟩ ∧
      (ofIndex document 2).within (ofOffset (encode part) 6) = ⟨2, 2⟩ ∧
      ofIndex document 3 ≠ ⟨2, 2⟩ := by
  intro before part document
  have inside : 3 ≤ part.length := by decide
  obtain ⟨bytes, steps, _, _, _, apart⟩ := positions_agree before part ['c'] inside
  have counted : ofIndex document 5 = ⟨2, 2⟩ := by decide
  refine ⟨inside, counted, bytes.trans counted, steps.trans counted, fun same => ?_⟩
  exact absurd (apart 1 (by decide) (same.trans counted.symm)) (by decide)

end Position

end Phrasebook.Text
