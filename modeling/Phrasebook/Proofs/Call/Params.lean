import Phrasebook.Proofs.Call.Reading
import Phrasebook.Proofs.Firsts
import Phrasebook.Proofs.Placeholders
import Phrasebook.Proofs.Text.Letter

namespace Phrasebook

open Syntax

def Syntax.Node.declared? (source : List UInt8) (node : Node) : Option (List String) :=
  if node.unwrap.kind = "object" then declaredValues source node.unwrap else none

section

variable {source : List UInt8} {names : List String}

namespace Argument

def declared? (argument : Argument) : Option (List String) :=
  if argument.kind = .object then argument.params else none

theorem declared?_of_ofNode {node : Node} {argument : Argument}
    (h : ofNode source node = .ok argument) : argument.declared? = node.declared? source := by
  rw [ofNode_eq] at h
  unfold declared? Node.declared?
  by_cases object : node.unwrap.kind = "object"
  · rw [if_pos object]
    simp only [object] at h
    cases h
    rfl
  rw [if_neg object]
  rw [if_neg object] at h
  split at h
  · obtain ⟨text, -, rfl⟩ := map_eq_ok_iff.1 h
    rfl
  split at h
  · cases h
    split <;> rfl
  split at h
  · obtain ⟨outcomes, -, rfl⟩ := map_eq_ok_iff.1 h
    rfl
  · cases h
    rfl

end Argument

namespace Call

theorem declaredParams_eq (call : Call) :
    call.declaredParams = call.arguments.tail.head?.bind Argument.declared? := by
  unfold declaredParams Argument.declared?
  cases call.arguments with
  | nil => rfl
  | cons first rest =>
    cases rest with
    | nil => rfl
    | cons second rest => simp

theorem declared?_of_mapM {operands : List Node} {arguments : List Argument}
    (given : operands.mapM (Argument.ofNode source) = .ok arguments) :
    arguments.tail.head?.bind Argument.declared? = operands[1]?.bind (Node.declared? source) := by
  cases operands with
  | nil =>
    cases given
    rfl
  | cons first operands =>
    obtain ⟨argument, others, -, later, rfl⟩ := mapM_cons_eq_ok_iff.1 given
    cases operands with
    | nil =>
      cases later
      rfl
    | cons second operands =>
      obtain ⟨argument', rest, read, -, rfl⟩ := mapM_cons_eq_ok_iff.1 later
      exact Argument.declared?_of_ofNode read

theorem isCall_of_mem_callsAt {node : Node} {own : List Call} (here : callsAt source names node = .ok own)
    {call : Call} (member : call ∈ own) :
    ∃ operands, IsCall source node call.name operands ∧
      call.declaredParams = operands[1]?.bind (Node.declared? source) := by
  by_cases quiet : ∀ name operands, ¬IsCall source node name operands
  · rw [callsAt_eq_nil quiet] at here
    cases here
    cases member
  simp only [not_forall, not_not] at quiet
  obtain ⟨name, operands, isCall⟩ := quiet
  rw [callsAt_of_isCall source isCall] at here
  obtain ⟨arguments, given, here⟩ := bind_eq_ok_iff.1 here
  obtain ⟨keys, -, here⟩ := bind_eq_ok_iff.1 here
  cases here
  obtain ⟨key, -, rfl⟩ := List.mem_map.1 member
  exact ⟨operands, isCall, by rw [declaredParams_eq, List.tail_cons, declared?_of_mapM given]⟩

theorem exists_isCall {root : Node} {calls : List Call}
    (found : extractCalls source names root = .ok calls) {call : Call} (member : call ∈ calls) :
    ∃ node ∈ root.preorder, ∃ operands, IsCall source node call.name operands ∧
      call.declaredParams = operands[1]?.bind (Node.declared? source) := by
  rw [extractCalls_eq] at found
  obtain ⟨results, each, rfl⟩ := map_eq_ok_iff.1 found
  obtain ⟨own, inside, member⟩ := List.mem_flatten.1 member
  obtain ⟨node, visited, here⟩ := (mem_mapM_iff each).1 inside
  exact ⟨node, visited, isCall_of_mem_callsAt here member⟩

variable (file : String) (line column : Int)

theorem params_toItem (call : Call) :
    (call.toItem file line column).params =
      if call.declaredParams.getD [] = [] then paramsOfKey call.key
      else (call.declaredParams.getD []).map Wording.ofString := by
  unfold toItem Item.create
  cases call.declaredParams with
  | none => rfl
  | some declared => cases declared <;> rfl

/-- The item of a call has parameters exactly if it is marked so. They are the names that the call
    declares, or if there are none, the names in braces of its key, each where it is met first. Only
    names declared twice are listed twice. -/
theorem toItem_params {root : Node} {calls : List Call}
    (found : extractCalls source names root = .ok calls) {call : Call} (member : call ∈ calls) :
    let item := call.toItem file line column
    let declared := call.declaredParams.getD []
    (item.hasParams = true ↔ item.params ≠ []) ∧
    (∃ node ∈ root.preorder, ∃ operands, IsCall source node call.name operands ∧
      call.declaredParams = operands[1]?.bind (Node.declared? source)) ∧
    (declared ≠ [] → item.params = declared.map Wording.ofString) ∧
    (declared = [] → ∃ tokens, Tokens call.key tokens ∧
      (∀ name, name ∈ item.params ↔ name ∈ tokens) ∧
      item.params.Pairwise fun a b => tokens.idxOf a < tokens.idxOf b) ∧
    (item.params.Nodup ↔ declared.Nodup) := by
  intro item declared
  have listed : item.params =
      if declared = [] then paramsOfKey call.key else declared.map Wording.ofString :=
    call.params_toItem file line column
  have ordered := pairwise_firstOccurrences (placeholders call.key)
  refine ⟨?_, exists_isCall found member, ?_, ?_, ?_⟩
  · simp [item.hasParams_eq]
  · intro some'
    rw [listed, if_neg some']
  · intro none'
    rw [listed, if_pos none']
    exact ⟨placeholders call.key, tokens_placeholdersFrom call.key,
      fun name => mem_firstOccurrences_iff, ordered⟩
  · by_cases none' : declared = []
    · rw [listed, if_pos none', none']
      have apart : (paramsOfKey call.key).Nodup := ordered.imp fun less same => by
        rw [same] at less
        exact Nat.lt_irrefl _ less
      exact iff_of_true apart List.nodup_nil
    · rw [listed, if_neg none', List.nodup_map_iff Wording.ofString_injective]

end Call

end

def Syntax.Node.valuesCall (keyStop namesStop : Nat) (names : List Node) : Node :=
  let values := branch "object" 0
    (leaf "\x7b" false (keyStop + 11) (keyStop + 12) :: names ++
      [leaf "\x7d" false namesStop (namesStop + 1)])
  let pair := branch "pair" 0
    [{ leaf "property_identifier" true (keyStop + 3) (keyStop + 9) with field := "key" },
      leaf ":" false (keyStop + 9) (keyStop + 10), { values with field := "value" }]
  let object := branch "object" 0
    [leaf "\x7b" false (keyStop + 2) (keyStop + 3), pair,
      leaf "\x7d" false (namesStop + 1) (namesStop + 2)]
  let arguments := branch "arguments" 0
    [leaf "(" false 1 2, leaf "string" true 2 keyStop, leaf "," false keyStop (keyStop + 1), object,
      leaf ")" false (namesStop + 2) (namesStop + 3)]
  branch "program" 0 [branch "expression_statement" 0 [branch "call_expression" 0
    [{ leaf "identifier" true 0 1 with field := "function" }, { arguments with field := "arguments" }]]]

namespace Greeting

/-- A script whose one call has a key with a name in braces and declares others. -/
def source : List UInt8 :=
  Text.encode "t('Hi \x7bname\x7d', \x7bvalues: \x7bcount, name\x7d\x7d)".toList

def root : Node :=
  .valuesCall 13 36 [.leaf "shorthand_property_identifier" true 25 30, .leaf "," false 30 31,
    .leaf "shorthand_property_identifier" true 32 36]

end Greeting

theorem Call.toItem_params_greeting :
    ∃ calls, extractCalls Greeting.source ["t"] Greeting.root = .ok calls ∧ ∃ call ∈ calls,
      call.declaredParams = some ["count", "name"] ∧
        (call.toItem "a.js" 1 1).params = ["count", "name"].map Wording.ofString ∧
        (call.toItem "a.js" 1 1).params.Nodup := by
  have declared : ((extractCalls Greeting.source ["t"] Greeting.root).map
      (List.map declaredParams)).toOption = some [some ["count", "name"]] := by decide +kernel
  cases found : extractCalls Greeting.source ["t"] Greeting.root with
  | error fault =>
    rw [found] at declared
    cases declared
  | ok calls =>
    rw [found] at declared
    have single : calls.map declaredParams = [some ["count", "name"]] := Option.some.inj declared
    obtain ⟨call, rest, rfl, mine, -⟩ := List.map_eq_cons_iff.1 single
    have member : call ∈ call :: rest := List.mem_cons_self
    obtain ⟨-, -, kept, -, apart⟩ := toItem_params "a.js" 1 1 found member
    rw [mine] at kept apart
    exact ⟨_, rfl, call, member, mine, kept (by decide), apart.2 (by decide)⟩

/-- A name declared twice is listed twice. -/
theorem params_declared_twice :
    let source := Text.encode "t('k', \x7bvalues: \x7ba, a\x7d\x7d)".toList
    let root := Node.valuesCall 5 21 [.leaf "shorthand_property_identifier" true 17 18,
      .leaf "," false 18 19, .leaf "shorthand_property_identifier" true 20 21]
    ((extractCalls source ["t"] root).map
        (List.map fun call => (call.toItem "a.js" 1 1).params)).toOption =
        some [["a", "a"].map Wording.ofString] ∧
      ¬ ["a", "a"].Nodup := by
  decide +kernel

end Phrasebook
