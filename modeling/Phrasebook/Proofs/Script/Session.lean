import Mathlib.Data.Finset.Card
import Phrasebook.Proofs.Text.Encoding
import Phrasebook.Script.Session

namespace Phrasebook.Script

open Syntax

namespace Request

def key (request : Request) : Grammar × List Char := (request.grammar, request.text)

def alone (parsers : Parsers) (request : Request) : Answer :=
  request.answer (SyntaxTree.ofText parsers request.grammar request.text)

theorem alone_recovers (parsers : Parsers) (request : Request) :
    let tree := SyntaxTree.ofText parsers request.grammar request.text
    { request with recovers := true }.alone parsers = .recovered (tree.recover request.elements) := rfl

theorem alone_eq_refused_iff (parsers : Parsers) (request : Request) (error : SyntaxError) :
    { request with recovers := false }.alone parsers = .refused error ↔
      ∃ first, ({ request with recovers := true }.alone parsers).diagnostics.head? = some first ∧
        error = ⟨first, request.file⟩ := by
  rw [alone_recovers]
  simp only [alone, answer, Answer.diagnostics, SyntaxTree.recover, SyntaxTree.check, grammar,
    Bool.false_eq_true, if_false]
  cases (SyntaxTree.ofText parsers (Grammar.choose request.typed request.elements)
      request.text).diagnostics request.elements with
  | nil => simp
  | cons first rest => simp [eq_comm]

end Request

namespace Action

def isClear : Action → Bool
  | clear => true
  | parse _ => false

def cachedKey? : Action → Option (Grammar × List Char)
  | clear => none
  | parse request => if request.cached then some request.key else none

def alone (parsers : Parsers) : Action → Option Answer
  | clear => none
  | parse request => some (request.alone parsers)

end Action

def cachedSince (actions : List Action) : List (Grammar × List Char) :=
  (actions.reverse.takeWhile (!·.isClear)).filterMap Action.cachedKey?

theorem cachedSince_concat_clear (actions : List Action) : cachedSince (actions ++ [.clear]) = [] := by
  simp [cachedSince, Action.isClear]

theorem cachedSince_concat_parse (actions : List Action) (request : Request) :
    cachedSince (actions ++ [.parse request]) =
      (if request.cached then [request.key] else []) ++ cachedSince actions := by
  cases cached : request.cached <;> simp [cachedSince, Action.isClear, Action.cachedKey?, cached]

/-- The action of a number parses something with the cache, which is not cleared afterwards. -/
structure ParsedAt (actions : List Action) (n : Nat) (key : Grammar × List Char) : Prop where
  parsed : ∃ request, actions[n]? = some (.parse request) ∧ request.cached = true ∧ request.key = key
  kept : ∀ later, n < later → actions[later]? ≠ some .clear

theorem ParsedAt.lt_length {actions : List Action} {n : Nat} {key : Grammar × List Char}
    (h : ParsedAt actions n key) : n < actions.length := by
  obtain ⟨request, here, _⟩ := h.parsed
  exact (List.getElem?_eq_some_iff.1 here).1

theorem ParsedAt.concat {actions : List Action} {n : Nat} {key : Grammar × List Char}
    (h : ParsedAt actions n key) (request : Request) :
    ParsedAt (actions ++ [.parse request]) n key := by
  constructor
  · rw [List.getElem?_append_left h.lt_length]
    exact h.parsed
  · intro later after
    by_cases inside : later < actions.length
    · rw [List.getElem?_append_left inside]
      exact h.kept later after
    · rw [List.getElem?_append_right (Nat.le_of_not_lt inside)]
      intro clear
      have member := List.mem_of_getElem? clear
      simp at member

theorem parsedAt_length (actions : List Action) {request : Request} (cached : request.cached = true) :
    ParsedAt (actions ++ [.parse request]) actions.length request.key := by
  constructor
  · exact ⟨request, by simp, cached, rfl⟩
  · intro later after clear
    have short := (List.getElem?_eq_some_iff.1 clear).1
    rw [List.length_append, List.length_singleton] at short
    omega

namespace Cache

def keys (cache : Cache) : List (Grammar × List Char) := cache.entries.map (·.1)

theorem mem_of_find? {cache : Cache} {grammar : Grammar} {text : List Char}
    {found : SyntaxTree × Nat} (h : cache.find? grammar text = some found) :
    ((grammar, text), found) ∈ cache.entries := by
  obtain ⟨entry, first, rfl⟩ := Option.map_eq_some_iff.1 h
  have same := List.find?_some first
  rw [Bool.and_eq_true, beq_iff_eq, beq_iff_eq] at same
  rw [← same.1, ← same.2]
  exact List.mem_of_find?_eq_some first

theorem not_mem_keys_of_find? {cache : Cache} {grammar : Grammar} {text : List Char}
    (h : cache.find? grammar text = none) : (grammar, text) ∉ cache.keys := by
  intro member
  obtain ⟨entry, inside, same⟩ := List.mem_map.1 member
  have other := List.find?_eq_none.1 (Option.map_eq_none_iff.1 h) entry inside
  rw [same] at other
  simp at other

theorem tree_cases (cache : Cache) (useCache : Bool) (grammar : Grammar) (text : List Char)
    (step : Nat) (parsers : Parsers) :
    let parsed := (SyntaxTree.ofText parsers grammar text, step)
    (useCache = false ∧ cache.tree useCache grammar text step parsers = (parsed, cache)) ∨
      (useCache = true ∧ (grammar, text) ∉ cache.keys ∧
        cache.tree useCache grammar text step parsers =
          (parsed, ⟨cache.entries ++ [((grammar, text), parsed)]⟩)) ∨
      (useCache = true ∧ ∃ found, ((grammar, text), found) ∈ cache.entries ∧
        cache.tree useCache grammar text step parsers = (found, cache)) := by
  intro parsed
  cases useCache with
  | false => exact .inl ⟨rfl, rfl⟩
  | true =>
    cases known : cache.find? grammar text with
    | none =>
      refine .inr (.inl ⟨rfl, not_mem_keys_of_find? known, ?_⟩)
      simp only [tree, if_true, known]
      rfl
    | some found =>
      refine .inr (.inr ⟨rfl, found, mem_of_find? known, ?_⟩)
      simp only [tree, if_true, known]

end Cache

structure Reached (parsers : Parsers) (actions : List Action) (session : Session) : Prop where
  made : session.made = actions.length
  distinct : session.cache.keys.Nodup
  trees : ∀ entry ∈ session.cache.entries,
    entry.2.1 = SyntaxTree.ofText parsers entry.1.1 entry.1.2
  keys : ∀ key, key ∈ session.cache.keys ↔ key ∈ cachedSince actions
  origins : ∀ entry ∈ session.cache.entries, ParsedAt actions entry.2.2 entry.1

theorem reached_start (parsers : Parsers) : Reached parsers [] .start where
  made := rfl
  distinct := List.nodup_nil
  trees := nofun
  keys := fun _ => Iff.rfl
  origins := nofun

namespace Reached

variable {parsers : Parsers} {actions : List Action} {session : Session}

theorem eq_of_key (reached : Reached parsers actions session)
    {entry other : (Grammar × List Char) × (SyntaxTree × Nat)}
    (h : entry ∈ session.cache.entries) (h' : other ∈ session.cache.entries)
    (same : entry.1 = other.1) : entry = other :=
  List.inj_on_of_nodup_map reached.distinct h h' same

theorem clear (reached : Reached parsers actions session) :
    Reached parsers (actions ++ [.clear]) (session.step parsers .clear).2 where
  made := by
    rw [List.length_append, List.length_singleton, ← reached.made]
    rfl
  distinct := List.nodup_nil
  trees := nofun
  keys := fun key => by
    rw [cachedSince_concat_clear]
    exact Iff.rfl
  origins := nofun

theorem made_parse (reached : Reached parsers actions session) (request : Request) :
    session.made + 1 = (actions ++ [Action.parse request]).length := by
  rw [List.length_append, List.length_singleton, reached.made]

theorem unchanged (reached : Reached parsers actions session) {request : Request}
    (known : request.cached = true → request.key ∈ session.cache.keys) :
    Reached parsers (actions ++ [.parse request]) ⟨session.cache, session.made + 1⟩ where
  made := reached.made_parse request
  distinct := reached.distinct
  trees := reached.trees
  keys := fun key => by
    rw [cachedSince_concat_parse, List.mem_append, ← reached.keys]
    cases cached : request.cached with
    | false => simp
    | true =>
      rw [if_pos rfl, List.mem_singleton]
      exact ⟨.inr, fun either => either.elim (fun same => same ▸ known cached) id⟩
  origins := fun entry member => (reached.origins entry member).concat request

theorem grown (reached : Reached parsers actions session) {request : Request}
    (cached : request.cached = true) (unknown : request.key ∉ session.cache.keys) :
    let tree := SyntaxTree.ofText parsers request.grammar request.text
    Reached parsers (actions ++ [.parse request])
      ⟨⟨session.cache.entries ++ [(request.key, (tree, session.made))]⟩, session.made + 1⟩ := by
  intro tree
  have keys : Cache.keys ⟨session.cache.entries ++ [(request.key, (tree, session.made))]⟩ =
      session.cache.keys ++ [request.key] := by
    simp only [Cache.keys, List.map_append, List.map_singleton]
  refine ⟨reached.made_parse request, ?_, ?_, ?_, ?_⟩
  · rw [keys, ← List.concat_eq_append]
    exact reached.distinct.concat unknown
  · intro entry member
    rcases List.mem_append.1 member with member | member
    · exact reached.trees entry member
    · rw [List.mem_singleton.1 member]
      rfl
  · intro key
    rw [keys, cachedSince_concat_parse, if_pos cached, List.mem_append, List.mem_append, reached.keys]
    exact or_comm
  · intro entry member
    rcases List.mem_append.1 member with member | member
    · exact (reached.origins entry member).concat request
    · rw [List.mem_singleton.1 member, reached.made]
      exact parsedAt_length actions cached

/-- What comes of a request: the answer it would have alone, and a tree that the session has from then
    on if the request uses the cache, and that is a new one if it does not. -/
structure Parses (parsers : Parsers) (actions : List Action) (session : Session) (request : Request)
    (outcome : Outcome) (next : Session) : Prop where
  answer : outcome.answer = request.alone parsers
  reached : Reached parsers (actions ++ [.parse request]) next
  kept : ∀ entry ∈ session.cache.entries, entry ∈ next.cache.entries
  fresh : request.cached = false → outcome.origin = actions.length
  held : request.cached = true →
    ∃ tree, (request.key, (tree, outcome.origin)) ∈ next.cache.entries

theorem parse (reached : Reached parsers actions session) (request : Request) :
    ∃ outcome next, session.step parsers (.parse request) = (some outcome, next) ∧
      Parses parsers actions session request outcome next := by
  have sources := session.cache.tree_cases request.cached request.grammar request.text session.made parsers
  rcases sources with ⟨off, given⟩ | ⟨on, unknown, given⟩ | ⟨on, found, known, given⟩
  · refine ⟨⟨request.alone parsers, session.made⟩, ⟨session.cache, session.made + 1⟩, ?_, ?_⟩
    · simp only [Session.step, given, Request.alone]
    · have unused : request.cached ≠ true := by simp [off]
      exact ⟨rfl, reached.unchanged fun on => absurd on unused, fun _ => id, fun _ => reached.made,
        fun on => absurd on unused⟩
  · have used : request.cached ≠ false := by simp [on]
    refine ⟨⟨request.alone parsers, session.made⟩, _, ?_, rfl, reached.grown on unknown,
      fun entry => List.mem_append_left _, fun off => absurd off used,
      fun _ => ⟨_, List.mem_append_right _ List.mem_cons_self⟩⟩
    simp only [Session.step, given, Request.alone]
    rfl
  · have used : request.cached ≠ false := by simp [on]
    have same : found.1 = SyntaxTree.ofText parsers request.grammar request.text :=
      reached.trees _ known
    refine ⟨⟨request.alone parsers, found.2⟩, ⟨session.cache, session.made + 1⟩, ?_, rfl,
      reached.unchanged fun _ => List.mem_map_of_mem known, fun _ => id, fun off => absurd off used,
      fun _ => ⟨found.1, known⟩⟩
    simp only [Session.step, given, Request.alone, same]

end Reached

namespace Session

/-- The session after some actions. -/
def after (parsers : Parsers) (session : Session) (actions : List Action) : Session :=
  actions.foldl (fun session action => (session.step parsers action).2) session

theorem after_append (parsers : Parsers) (session : Session) (front back : List Action) :
    session.after parsers (front ++ back) = (session.after parsers front).after parsers back :=
  List.foldl_append

theorem run_snd (parsers : Parsers) (session : Session) (actions : List Action) :
    (session.run parsers actions).2 = session.after parsers actions := by
  induction actions generalizing session with
  | nil => rfl
  | cons action rest ih => exact ih (session.step parsers action).2

theorem getElem?_run (parsers : Parsers) (session : Session) (actions : List Action) (n : Nat) :
    (session.run parsers actions).1[n]? =
      actions[n]?.map fun action => ((session.after parsers (actions.take n)).step parsers action).1 := by
  induction actions generalizing session n with
  | nil => rfl
  | cons action rest ih =>
    cases n with
    | zero => rfl
    | succ n => exact ih (session.step parsers action).2 n

theorem reached_after (parsers : Parsers) (actions : List Action) :
    Reached parsers actions (start.after parsers actions) := by
  induction actions using List.reverseRecOn with
  | nil => exact reached_start parsers
  | append_singleton actions action ih =>
    rw [after_append]
    cases action with
    | clear => exact ih.clear
    | parse request =>
      obtain ⟨outcome, next, stepped, parses⟩ := ih.parse request
      have last : (start.after parsers actions).after parsers [.parse request] = next :=
        congrArg Prod.snd stepped
      rw [last]
      exact parses.reached

theorem kept_after {parsers : Parsers} {before between : List Action} {session : Session}
    (reached : Reached parsers before session) (uncleared : Action.clear ∉ between)
    {entry : (Grammar × List Char) × (SyntaxTree × Nat)} (h : entry ∈ session.cache.entries) :
    entry ∈ (session.after parsers between).cache.entries := by
  induction between generalizing before session with
  | nil => exact h
  | cons action rest ih =>
    rw [List.mem_cons, not_or] at uncleared
    cases action with
    | clear => exact absurd rfl uncleared.1
    | parse request =>
      obtain ⟨outcome, next, stepped, parses⟩ := reached.parse request
      have first : (session.step parsers (.parse request)).2 = next := congrArg Prod.snd stepped
      rw [after, List.foldl_cons, first]
      exact ih parses.reached uncleared.2 (parses.kept entry h)

theorem parses_of_getElem? (parsers : Parsers) {actions : List Action} {n : Nat} {request : Request}
    (here : actions[n]? = some (.parse request)) :
    ∃ outcome, (start.run parsers actions).1[n]? = some (some outcome) ∧
      Reached.Parses parsers (actions.take n) (start.after parsers (actions.take n)) request outcome
        (start.after parsers (actions.take (n + 1))) := by
  obtain ⟨outcome, next, stepped, parses⟩ :=
    (reached_after parsers (actions.take n)).parse request
  have last : start.after parsers (actions.take (n + 1)) = next := by
    rw [List.take_add_one, here, after_append]
    exact congrArg Prod.snd stepped
  refine ⟨outcome, ?_, last ▸ parses⟩
  rw [getElem?_run, here, Option.map_some, stepped]

section

variable {parsers : Parsers} {actions : List Action}

theorem answers_run :
    (start.run parsers actions).1.map (Option.map Outcome.answer) =
      actions.map (Action.alone parsers) := by
  apply List.ext_getElem?
  intro n
  rw [List.getElem?_map, List.getElem?_map]
  cases here : actions[n]? with
  | none =>
    rw [getElem?_run, here]
    rfl
  | some action =>
    cases action with
    | clear =>
      rw [getElem?_run, here]
      rfl
    | parse request =>
      obtain ⟨outcome, given, parses⟩ := parses_of_getElem? parsers here
      rw [given, Option.map_some, Option.map_some, parses.answer, Option.map_some, Action.alone]

/-- The tree was parsed by the step itself or by an earlier one that used the cache for the same. -/
theorem origin_of_getElem? {n : Nat} {request : Request} {outcome : Outcome}
    (here : actions[n]? = some (.parse request))
    (given : (start.run parsers actions).1[n]? = some (some outcome)) :
    (request.cached = false → outcome.origin = n) ∧
      (request.cached = true →
        ParsedAt (actions.take (n + 1)) outcome.origin request.key ∧
          ∃ tree, (request.key, (tree, outcome.origin)) ∈
            (start.after parsers (actions.take (n + 1))).cache.entries) := by
  obtain ⟨other, given', parses⟩ := parses_of_getElem? parsers here
  rw [given] at given'
  cases given'
  have inside := (List.getElem?_eq_some_iff.1 here).1
  constructor
  · intro off
    rw [parses.fresh off, List.length_take, Nat.min_eq_left (Nat.le_of_lt inside)]
  · intro on
    obtain ⟨tree, held⟩ := parses.held on
    exact ⟨(reached_after parsers _).origins _ held, tree, held⟩

theorem origin_le {n : Nat} {request : Request} {outcome : Outcome}
    (here : actions[n]? = some (.parse request))
    (given : (start.run parsers actions).1[n]? = some (some outcome)) : outcome.origin ≤ n := by
  obtain ⟨fresh, held⟩ := origin_of_getElem? here given
  cases cached : request.cached with
  | false => exact Nat.le_of_eq (fresh cached)
  | true =>
    have early := (held cached).1.lt_length
    rw [List.length_take] at early
    omega

section

variable {m n : Nat} {first second : Request} {one other : Outcome} (before : m < n)
  (here : actions[m]? = some (.parse first)) (there : actions[n]? = some (.parse second))
  (given : (start.run parsers actions).1[m]? = some (some one))
  (given' : (start.run parsers actions).1[n]? = some (some other))

include before here there given given'

theorem same_origin (on : first.cached = true) (on' : second.cached = true)
    (same : first.key = second.key)
    (uncleared : ∀ k, m < k → k < n → actions[k]? ≠ some .clear) : one.origin = other.origin := by
  obtain ⟨-, tree, held⟩ := (origin_of_getElem? here given).2 on
  obtain ⟨-, tree', held'⟩ := (origin_of_getElem? there given').2 on'
  let rest := (actions.drop (m + 1)).take (n - m)
  have whole : actions.take (n + 1) = actions.take (m + 1) ++ rest := by
    rw [← List.take_add, show m + 1 + (n - m) = n + 1 by omega]
  have none' : Action.clear ∉ rest := by
    intro member
    obtain ⟨k, clear⟩ := List.mem_iff_getElem?.1 member
    rw [List.getElem?_take, List.getElem?_drop] at clear
    split at clear
    · by_cases last : m + 1 + k = n
      · rw [last, there] at clear
        cases clear
      · exact uncleared (m + 1 + k) (by omega) (by omega) clear
    · cases clear
  have kept := kept_after (reached_after parsers (actions.take (m + 1))) none' held
  rw [← after_append, ← whole] at kept
  have one' := (reached_after parsers (actions.take (n + 1))).eq_of_key kept held' same
  exact congrArg (fun entry => entry.2.2) one'

theorem cached_of_same_origin (same : one.origin = other.origin) :
    first.cached = true ∧ second.cached = true ∧ first.key = second.key ∧
      ∀ k, m < k → k < n → actions[k]? ≠ some .clear := by
  obtain ⟨fresh, held⟩ := origin_of_getElem? here given
  obtain ⟨fresh', held'⟩ := origin_of_getElem? there given'
  have early : one.origin ≤ m := origin_le here given
  have on' : second.cached = true := by
    by_contra off
    have late := fresh' (Bool.not_eq_true _ ▸ off)
    omega
  obtain ⟨⟨⟨request, parsed, cached, key⟩, kept⟩, -⟩ := held' on'
  rw [← same, List.getElem?_take, if_pos (by omega)] at parsed
  have on : first.cached = true := by
    by_contra off
    rw [fresh (Bool.not_eq_true _ ▸ off), here] at parsed
    cases parsed
    exact off cached
  obtain ⟨⟨⟨request', parsed', -, key'⟩, -⟩, -⟩ := held on
  rw [List.getElem?_take, if_pos (by omega), parsed] at parsed'
  cases parsed'
  refine ⟨on, on', key'.symm.trans key, fun k after last => ?_⟩
  have clear := kept k (by omega)
  rw [List.getElem?_take, if_pos (by omega)] at clear
  exact clear

/-- Two steps work on the same tree if both use the cache, for the same text under the same grammar, and
    it is not cleared between them. -/
theorem same_origin_iff :
    one.origin = other.origin ↔
      first.cached = true ∧ second.cached = true ∧ first.key = second.key ∧
        ∀ k, m < k → k < n → actions[k]? ≠ some .clear := by
  constructor
  · exact cached_of_same_origin before here there given given'
  · intro ⟨on, on', same, uncleared⟩
    exact same_origin before here there given given' on on' same uncleared

end

theorem size_after :
    (start.after parsers actions).cache.size = (cachedSince actions).toFinset.card := by
  have reached := reached_after parsers actions
  have same : (start.after parsers actions).cache.keys.toFinset = (cachedSince actions).toFinset := by
    ext key
    rw [List.mem_toFinset, List.mem_toFinset]
    exact reached.keys key
  rw [← same, List.toFinset_card_of_nodup reached.distinct, Cache.keys, List.length_map, Cache.size]

end

structure HandsOut (parsers : Parsers) (actions : List Action) (n : Nat) (request : Request)
    (tree : Nat) : Prop where
  asked : actions[n]? = some (.parse request)
  answered : ∃ outcome,
    (start.run parsers actions).1[n]? = some (some outcome) ∧ outcome.handed? = some tree

/-- A run with a cache answers every request as it would be answered alone. Two requests that are
    handed a tree are handed the same one exactly if both use the cache for the same text and grammar
    and it is not cleared in between. The cache then holds the trees of what was parsed with it since
    it was cleared, with or without mistakes; and a strict request is refused exactly for the first of
    the mistakes that a tolerant one reports. -/
theorem run_with_cache (parsers : Parsers) (actions : List Action) :
    let outcomes := (start.run parsers actions).1
    let cache := (start.run parsers actions).2.cache
    outcomes.map (Option.map Outcome.answer) = actions.map (Action.alone parsers) ∧
      (∀ m n first second tree tree', m < n →
        HandsOut parsers actions m first tree → HandsOut parsers actions n second tree' →
          (tree = tree' ↔
            first.cached = true ∧ second.cached = true ∧ first.grammar = second.grammar ∧
              first.text = second.text ∧ ∀ k, m < k → k < n → actions[k]? ≠ some .clear)) ∧
      (∀ grammar text tree origin, ((grammar, text), (tree, origin)) ∈ cache.entries →
        tree.grammar = grammar ∧ tree.source = Text.encode text ∧
          tree.root = parsers grammar (Text.encode text)) ∧
      cache.size = (cachedSince actions).toFinset.card ∧
      ∀ (request : Request) (error : SyntaxError),
        { request with recovers := false }.alone parsers = .refused error ↔
          ∃ first, ({ request with recovers := true }.alone parsers).diagnostics.head? = some first ∧
            error = ⟨first, request.file⟩ := by
  intro outcomes cache
  have last : cache = (start.after parsers actions).cache := by
    simp only [cache, run_snd]
  refine ⟨answers_run, ?_, ?_, last ▸ size_after, Request.alone_eq_refused_iff parsers⟩
  · intro m n first second tree tree' before ⟨here, one, given, handed⟩ ⟨there, other, given', handed'⟩
    obtain ⟨_, -, origin⟩ := Option.map_eq_some_iff.1 handed
    obtain ⟨_, -, origin'⟩ := Option.map_eq_some_iff.1 handed'
    have keys : first.key = second.key ↔ first.grammar = second.grammar ∧ first.text = second.text :=
      Prod.mk_inj
    rw [← origin, ← origin', same_origin_iff before here there given given', keys, and_assoc]
  · intro grammar text tree origin member
    have whole := (reached_after parsers actions).trees _ (last ▸ member)
    dsimp only at whole
    rw [whole]
    exact ⟨rfl, rfl, rfl⟩

def sampleTree (source : List UInt8) : Node :=
  if source = [116] then
    Node.branch "program" 0 [Node.branch "expression_statement" 0 [Node.leaf "identifier" true 0 1]]
  else Node.branch "program" 0 [Node.branch Node.errorKind 0 [Node.leaf ")" false 0 1]]

/-- A strict and a tolerant request of one text, with and without elements, share a tree until the cache
    is cleared. The tree of a text that is refused is kept with theirs. -/
theorem run_with_cache_shared :
    let strict : Request := ⟨['t'], false, false, false, true, none⟩
    let tolerant : Request := { strict with elements := true, recovers := true }
    let broken : Request := { strict with text := [')'] }
    let actions : List Action := [.parse strict, .parse tolerant, .clear, .parse strict, .parse broken]
    let cache := (start.run (fun _ => sampleTree) actions).2.cache
    HandsOut (fun _ => sampleTree) actions 0 strict 0 ∧ HandsOut (fun _ => sampleTree) actions 1 tolerant 0 ∧
      HandsOut (fun _ => sampleTree) actions 3 strict 3 ∧ strict.grammar = tolerant.grammar ∧
      (∃ k, 0 < k ∧ k < 3 ∧ actions[k]? = some .clear) ∧
      (∃ tree origin, ((.javascript, [')']), (tree, origin)) ∈ cache.entries ∧ tree.source = [41]) ∧
      cache.size = 2 ∧ ∃ error, broken.alone (fun _ => sampleTree) = .refused error := by
  intro strict tolerant broken actions cache
  have first : HandsOut (fun _ => sampleTree) actions 0 strict 0 := ⟨rfl, _, rfl, by decide +kernel⟩
  have second : HandsOut (fun _ => sampleTree) actions 1 tolerant 0 := ⟨rfl, _, rfl, by decide +kernel⟩
  have last : HandsOut (fun _ => sampleTree) actions 3 strict 3 := ⟨rfl, _, rfl, by decide +kernel⟩
  obtain ⟨-, same, held, size, refused⟩ := run_with_cache (fun _ => sampleTree) actions
  refine ⟨first, second, last, ?_, ?_, ?_, ?_, ?_⟩
  · exact ((same 0 1 _ _ _ _ (by decide) first second).1 rfl).2.2.1
  · have apart := mt (same 0 3 _ _ _ _ (by decide) first last).2 (by decide)
    by_contra unclear
    push Not at unclear
    exact apart ⟨rfl, rfl, rfl, rfl, unclear⟩
  · have inside : ((.javascript, [')']), (SyntaxTree.ofText (fun _ => sampleTree) .javascript [')'], 4)) ∈
        cache.entries := List.mem_cons_of_mem _ List.mem_cons_self
    exact ⟨_, 4, inside, (held _ _ _ _ inside).2.1⟩
  · rw [size]
    decide +kernel
  · have reported :
        ({ broken with recovers := true }.alone fun _ => sampleTree).diagnostics.head?.isSome = true := by
      decide +kernel
    obtain ⟨mistake, head⟩ := Option.isSome_iff_exists.1 reported
    exact ⟨_, (refused broken _).2 ⟨mistake, head, rfl⟩⟩

end Session

end Phrasebook.Script
