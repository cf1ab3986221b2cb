import Mathlib.Data.List.Induction
import Mathlib.Tactic.Push
import Phrasebook.Proofs.Extraction.Plugin

namespace Phrasebook.Plugin

/-- What changes a plugin: its availability is set, or it is asked for keys. Asking finds out whether there
    is a grammar, and may change a plugin that is added in any way. -/
inductive Shift where
  | set (available : Bool)
  | extract (parsers : Script.Parsers) (file : String) (code : List Char)
  | search (file : String) (code : List Char)

def Shift.Asks : Shift → Prop
  | set _ => False
  | extract _ _ _ | search _ _ => True

theorem Shift.asks_extract (parsers : Script.Parsers) (file : String) (code : List Char) :
    (extract parsers file code).Asks := trivial

theorem Shift.asks_search (file : String) (code : List Char) : (search file code).Asks := trivial

def setAvailable (plugin : Plugin) (available : Bool) : Plugin :=
  match plugin with
  | script _ _ => plugin
  | component inner => component { inner with available }
  | custom inner => custom { inner with available }

def shift (plugin : Plugin) : Shift → Plugin
  | .set available => plugin.setAvailable available
  | .extract parsers file code => (plugin.extract parsers file code).plugin
  | .search file code => (plugin.extractSync file code).plugin

def shiftAll (plugin : Plugin) (shifts : List Shift) : Plugin := shifts.foldl shift plugin

theorem name_extract (plugin : Plugin) (parsers : Script.Parsers) (file : String) (code : List Char) :
    (plugin.extract parsers file code).plugin.name = plugin.name := by
  cases plugin with
  | script typed options => cases typed <;> rfl
  | component inner => exact congrArg Language.name inner.load_language
  | custom inner => rfl

theorem name_extractSync (plugin : Plugin) (file : String) (code : List Char) :
    (plugin.extractSync file code).plugin.name = plugin.name := by
  cases plugin <;> rfl

theorem name_shift (plugin : Plugin) (one : Shift) : (plugin.shift one).name = plugin.name := by
  cases one with
  | set available => cases plugin <;> rfl
  | extract parsers file code => exact plugin.name_extract parsers file code
  | search file code => exact plugin.name_extractSync file code

theorem name_shiftAll (plugin : Plugin) (shifts : List Shift) :
    (plugin.shiftAll shifts).name = plugin.name := by
  induction shifts generalizing plugin with
  | nil => rfl
  | cons one rest ih => exact (ih (plugin.shift one)).trans (plugin.name_shift one)

theorem shiftAll_append (plugin : Plugin) (shifts more : List Shift) :
    plugin.shiftAll (shifts ++ more) = (plugin.shiftAll shifts).shiftAll more := List.foldl_append

end Phrasebook.Plugin

namespace Phrasebook.Registry

inductive Change where
  | register (plugin : Plugin)
  | unregister (name : String)
  /-- The plugin held under a name changes. Any other plugin can change too, but that shows only when it is
      registered, as it is then. -/
  | shift (name : String) (one : Plugin.Shift)

namespace Change

def Registers (change : Change) (name : String) : Prop :=
  ∃ plugin, change = .register plugin ∧ plugin.name = name

def shift? (name : String) : Change → Option Plugin.Shift
  | shift other one => if other = name then some one else none
  | _ => none

end Change

def shift (registry : Registry) (name : String) (one : Plugin.Shift) : Registry :=
  ⟨registry.plugins.map fun plugin => if plugin.name = name then plugin.shift one else plugin⟩

def change (registry : Registry) : Change → Registry
  | .register plugin => registry.register plugin
  | .unregister name => registry.unregister name
  | .shift name one => registry.shift name one

def changeAll (registry : Registry) (changes : List Change) : Registry := changes.foldl change registry

def history (initial : List Plugin) (changes : List Change) : List Change :=
  initial.map .register ++ changes

theorem changeAll_append (registry : Registry) (changes more : List Change) :
    registry.changeAll (changes ++ more) = (registry.changeAll changes).changeAll more :=
  List.foldl_append

theorem changeAll_history (initial : List Plugin) (changes : List Change) :
    empty.changeAll (history initial changes) = (ofList initial).changeAll changes := by
  unfold changeAll history ofList
  rw [List.foldl_append, List.foldl_map]
  rfl

def RegisteredAt (history : List Change) (name : String) (place : Nat) : Prop :=
  ∃ plugin, history[place]? = some (.register plugin) ∧ plugin.name = name

def RemovedAt (history : List Change) (name : String) (place : Nat) : Prop :=
  history[place]? = some (.unregister name)

/-- The place in a history of the first registration under a name since it was last removed. -/
structure EnteredAt (history : List Change) (name : String) (place : Nat) : Prop where
  registered : RegisteredAt history name place
  kept : ∀ later, place < later → ¬ RemovedAt history name later
  first : ∀ earlier, earlier < place → RegisteredAt history name earlier →
    ∃ between, earlier < between ∧ between < place ∧ RemovedAt history name between

structure LastAt (history : List Change) (name : String) (place : Nat) (plugin : Plugin) : Prop where
  registered : history[place]? = some (.register plugin)
  named : plugin.name = name
  last : ∀ later, place < later → ¬ RegisteredAt history name later

def shiftsAfter (history : List Change) (name : String) (place : Nat) : List Plugin.Shift :=
  (history.drop (place + 1)).filterMap (Change.shift? name)

def Latest (history : List Change) (name : String) (plugin : Plugin) : Prop :=
  ∃ place registered, LastAt history name place registered ∧
    plugin = registered.shiftAll (shiftsAfter history name place)

structure Held (history : List Change) (place : Nat) (plugin : Plugin) : Prop where
  entered : EnteredAt history plugin.name place
  latest : Latest history plugin.name plugin

section

variable {history : List Change} {last : Change} {name : String} {place : Nat}

theorem getElem?_concat_eq_some_iff {here : Change} :
    (history ++ [last])[place]? = some here ↔
      history[place]? = some here ∨ place = history.length ∧ last = here := by
  grind

theorem lt_length_of_getElem? {here : Change} (h : history[place]? = some here) :
    place < history.length := (List.getElem?_eq_some_iff.1 h).1

theorem registeredAt_concat_iff :
    RegisteredAt (history ++ [last]) name place ↔
      RegisteredAt history name place ∨ place = history.length ∧ last.Registers name := by
  unfold RegisteredAt Change.Registers
  simp only [getElem?_concat_eq_some_iff, or_and_right, exists_or, and_assoc, exists_and_left]

theorem removedAt_concat_iff :
    RemovedAt (history ++ [last]) name place ↔
      RemovedAt history name place ∨ place = history.length ∧ last = .unregister name :=
  getElem?_concat_eq_some_iff

theorem RegisteredAt.lt_length (h : RegisteredAt history name place) : place < history.length := by
  obtain ⟨plugin, here, _⟩ := h
  exact lt_length_of_getElem? here

theorem RegisteredAt.le_length_of_concat (h : RegisteredAt (history ++ [last]) name place) :
    place ≤ history.length := by
  have short := h.lt_length
  rw [List.length_append, List.length_singleton] at short
  omega

theorem RegisteredAt.not_removedAt (h : RegisteredAt history name place) :
    ¬ RemovedAt history name place := by
  obtain ⟨plugin, here, _⟩ := h
  intro removed
  unfold RemovedAt at removed
  rw [here] at removed
  cases removed

theorem EnteredAt.le {other : Nat} (h : EnteredAt history name place)
    (h' : EnteredAt history name other) : place ≤ other := by
  by_contra later
  obtain ⟨between, after, _, removed⟩ := h.first other (Nat.lt_of_not_le later) h'.registered
  exact h'.kept between after removed

theorem EnteredAt.unique {other : Nat} (h : EnteredAt history name place)
    (h' : EnteredAt history name other) : place = other := Nat.le_antisymm (h.le h') (h'.le h)

theorem exists_enteredAt (here : RegisteredAt history name place)
    (kept : ∀ later, place < later → ¬ RemovedAt history name later) :
    ∃ first, EnteredAt history name first := by
  induction place using Nat.strongRecOn with
  | ind place ih =>
    by_cases first : ∀ earlier, earlier < place → RegisteredAt history name earlier →
        ∃ between, earlier < between ∧ between < place ∧ RemovedAt history name between
    · exact ⟨place, here, kept, first⟩
    · push Not at first
      -- No removal parts this registration from an earlier one, so none follows that one either.
      obtain ⟨earlier, before, registered, unremoved⟩ := first
      apply ih earlier before registered
      intro later after removed
      rcases Nat.lt_trichotomy later place with inside | rfl | behind
      · exact unremoved later after inside removed
      · exact here.not_removedAt removed
      · exact kept later behind removed

theorem EnteredAt.concat (h : EnteredAt history name place) (keeps : last ≠ .unregister name) :
    EnteredAt (history ++ [last]) name place := by
  refine ⟨registeredAt_concat_iff.2 (.inl h.registered), fun later after removed => ?_,
    fun earlier before registered => ?_⟩
  · rcases removedAt_concat_iff.1 removed with removed | ⟨_, removes⟩
    · exact h.kept later after removed
    · exact keeps removes
  · rcases registeredAt_concat_iff.1 registered with registered | ⟨atEnd, _⟩
    · obtain ⟨between, after, inside, removed⟩ := h.first earlier before registered
      exact ⟨between, after, inside, removedAt_concat_iff.2 (.inl removed)⟩
    · have inside := h.registered.lt_length
      omega

theorem enteredAt_length (registers : last.Registers name)
    (absent : ∀ place, ¬ EnteredAt history name place) :
    EnteredAt (history ++ [last]) name history.length := by
  have here : RegisteredAt (history ++ [last]) name history.length :=
    registeredAt_concat_iff.2 (.inr ⟨rfl, registers⟩)
  refine ⟨here, fun later after removed => ?_, fun earlier before registered => ?_⟩
  · have short := lt_length_of_getElem? removed
    rw [List.length_append, List.length_singleton] at short
    omega
  · by_contra unremoved
    push Not at unremoved
    rcases registeredAt_concat_iff.1 registered with registered | ⟨atEnd, _⟩
    · have kept : ∀ later, earlier < later → ¬ RemovedAt history name later :=
        fun later after removed => unremoved later after (lt_length_of_getElem? removed)
          (removedAt_concat_iff.2 (.inl removed))
      obtain ⟨first, entered⟩ := exists_enteredAt registered kept
      exact absent first entered
    · omega

theorem EnteredAt.of_concat (h : EnteredAt (history ++ [last]) name place) :
    last ≠ .unregister name ∧ (EnteredAt history name place ∨
      place = history.length ∧ last.Registers name ∧ ∀ other, ¬ EnteredAt history name other) := by
  have first : ∀ earlier, earlier < place → RegisteredAt history name earlier →
      ∃ between, earlier < between ∧ between < place ∧ RemovedAt history name between := by
    intro earlier before registered
    obtain ⟨between, after, inside, removed⟩ :=
      h.first earlier before (registeredAt_concat_iff.2 (.inl registered))
    have short := h.registered.le_length_of_concat
    rcases removedAt_concat_iff.1 removed with removed | ⟨atEnd, _⟩
    · exact ⟨between, after, inside, removed⟩
    · omega
  rcases registeredAt_concat_iff.1 h.registered with registered | ⟨rfl, registers⟩
  · refine ⟨fun removes => ?_, .inl ⟨registered, fun later after removed => ?_, first⟩⟩
    · exact h.kept _ registered.lt_length (removedAt_concat_iff.2 (.inr ⟨rfl, removes⟩))
    · exact h.kept later after (removedAt_concat_iff.2 (.inl removed))
  · refine ⟨fun removes => ?_, .inr ⟨rfl, registers, fun other entered => ?_⟩⟩
    · obtain ⟨plugin, same, _⟩ := registers
      rw [same] at removes
      cases removes
    · obtain ⟨between, after, _, removed⟩ :=
        first other entered.registered.lt_length entered.registered
      exact entered.kept between after removed

theorem shiftsAfter_concat (inside : place < history.length) :
    shiftsAfter (history ++ [last]) name place =
      shiftsAfter history name place ++ (last.shift? name).toList := by
  unfold shiftsAfter
  rw [List.drop_append_of_le_length inside, List.filterMap_append]
  cases shifts : last.shift? name <;> simp [shifts]

theorem Latest.named {plugin : Plugin} (h : Latest history name plugin) : plugin.name = name := by
  obtain ⟨place, registered, lastAt, rfl⟩ := h
  rw [Plugin.name_shiftAll, lastAt.named]

theorem latest_concat_register {plugin other : Plugin} (named : other.name = name) :
    Latest (history ++ [.register other]) name plugin ↔ plugin = other := by
  have atEnd : RegisteredAt (history ++ [.register other]) name history.length :=
    registeredAt_concat_iff.2 (.inr ⟨rfl, other, rfl, named⟩)
  constructor
  · rintro ⟨place, registered, ⟨here, -, last⟩, rfl⟩
    rcases getElem?_concat_eq_some_iff.1 here with inside | ⟨rfl, same⟩
    · exact absurd atEnd (last _ (lt_length_of_getElem? inside))
    · cases same
      simp [shiftsAfter, Plugin.shiftAll]
  · rintro rfl
    refine ⟨history.length, plugin, ⟨by simp, named, fun later after registered => ?_⟩, ?_⟩
    · have short := registered.le_length_of_concat
      omega
    · simp [shiftsAfter, Plugin.shiftAll]

section

variable (other : ¬ last.Registers name)

include other

theorem lastAt_concat_iff {plugin : Plugin} :
    LastAt (history ++ [last]) name place plugin ↔ LastAt history name place plugin := by
  have same : ∀ place, RegisteredAt (history ++ [last]) name place ↔
      RegisteredAt history name place := fun place => by
    rw [registeredAt_concat_iff]
    exact or_iff_left fun ⟨_, registers⟩ => other registers
  constructor
  · intro ⟨here, named, latest⟩
    refine ⟨?_, named, fun later after registered => latest later after ((same later).2 registered)⟩
    rcases getElem?_concat_eq_some_iff.1 here with here | ⟨-, registers⟩
    · exact here
    · exact absurd ⟨plugin, registers, named⟩ other
  · intro ⟨here, named, latest⟩
    exact ⟨getElem?_concat_eq_some_iff.2 (.inl here), named,
      fun later after registered => latest later after ((same later).1 registered)⟩

theorem latest_concat_iff {plugin : Plugin} :
    Latest (history ++ [last]) name plugin ↔
      ∃ before, Latest history name before ∧ plugin = before.shiftAll (last.shift? name).toList := by
  unfold Latest
  simp only [lastAt_concat_iff other]
  constructor
  · rintro ⟨place, registered, lastAt, rfl⟩
    refine ⟨_, ⟨place, registered, lastAt, rfl⟩, ?_⟩
    rw [shiftsAfter_concat (lt_length_of_getElem? lastAt.registered), Plugin.shiftAll_append]
  · rintro ⟨_, ⟨place, registered, lastAt, rfl⟩, rfl⟩
    refine ⟨place, registered, lastAt, ?_⟩
    rw [shiftsAfter_concat (lt_length_of_getElem? lastAt.registered), Plugin.shiftAll_append]

end

theorem exists_latest (h : RegisteredAt history name place) : ∃ plugin, Latest history name plugin := by
  induction history using List.reverseRecOn generalizing place with
  | nil => exact absurd h.lt_length (Nat.not_lt_zero _)
  | append_singleton history last ih =>
    by_cases registers : last.Registers name
    · obtain ⟨plugin, rfl, named⟩ := registers
      exact ⟨plugin, (latest_concat_register named).2 rfl⟩
    · rcases registeredAt_concat_iff.1 h with earlier | ⟨-, now⟩
      · obtain ⟨before, latest⟩ := ih earlier
        exact ⟨_, (latest_concat_iff registers).2 ⟨before, latest, rfl⟩⟩
      · exact absurd now registers

theorem EnteredAt.exists_held (h : EnteredAt history name place) :
    ∃ plugin, plugin.name = name ∧ Held history place plugin := by
  obtain ⟨plugin, latest⟩ := exists_latest h.registered
  obtain rfl := latest.named
  exact ⟨plugin, rfl, h, latest⟩

/-- A change that registers nothing under the name of a plugin removes it, or leaves it in its place. -/
theorem held_concat_iff {plugin : Plugin} (other : ¬ last.Registers plugin.name) :
    Held (history ++ [last]) place plugin ↔
      last ≠ .unregister plugin.name ∧
        ∃ before, Held history place before ∧
          plugin = before.shiftAll (last.shift? before.name).toList := by
  constructor
  · intro ⟨entered, latest⟩
    obtain ⟨keeps, entered | ⟨-, registers, -⟩⟩ := entered.of_concat
    · obtain ⟨before, latest, shifted⟩ := (latest_concat_iff other).1 latest
      have named := latest.named
      rw [← named] at entered latest
      exact ⟨keeps, before, ⟨entered, latest⟩, named ▸ shifted⟩
    · exact absurd registers other
  · intro ⟨keeps, before, ⟨entered, latest⟩, shifted⟩
    have named : before.name = plugin.name := by rw [shifted, Plugin.name_shiftAll]
    rw [named] at entered latest shifted
    exact ⟨entered.concat keeps, (latest_concat_iff other).2 ⟨before, latest, shifted⟩⟩

theorem held_concat_unregister {plugin : Plugin} :
    Held (history ++ [.unregister name]) place plugin ↔
      Held history place plugin ∧ plugin.name ≠ name := by
  rw [held_concat_iff (by simp [Change.Registers])]
  simp [Change.shift?, Plugin.shiftAll, eq_comm, and_comm]

theorem held_concat_shift {plugin : Plugin} {one : Plugin.Shift} :
    Held (history ++ [.shift name one]) place plugin ↔
      ∃ before, Held history place before ∧
        plugin = if before.name = name then before.shift one else before := by
  rw [held_concat_iff (by simp [Change.Registers]), and_iff_right nofun]
  refine exists_congr fun before => and_congr_right fun _ => ?_
  by_cases named : before.name = name
  · simp [Change.shift?, Plugin.shiftAll, named]
  · have apart : name ≠ before.name := fun e => named e.symm
    simp [Change.shift?, Plugin.shiftAll, named, apart]

theorem held_concat_register_of_ne {plugin other : Plugin} (apart : plugin.name ≠ other.name) :
    Held (history ++ [.register other]) place plugin ↔ Held history place plugin := by
  have unregistered : ¬ (Change.register other).Registers plugin.name := by
    rintro ⟨_, ⟨rfl⟩, named⟩
    exact apart named.symm
  rw [held_concat_iff unregistered, and_iff_right nofun]
  simp [Change.shift?, Plugin.shiftAll]

/-- A registration under a name that is there puts its plugin in the place of the one of that name. -/
theorem held_concat_register_known {plugin other : Plugin}
    (known : ∃ place, EnteredAt history other.name place) :
    Held (history ++ [.register other]) place plugin ↔
      ∃ before, Held history place before ∧
        plugin = if before.name = other.name then other else before := by
  constructor
  · intro held
    by_cases same : plugin.name = other.name
    · obtain rfl := (latest_concat_register same.symm).1 held.latest
      obtain ⟨-, entered | ⟨-, -, absent⟩⟩ := held.entered.of_concat
      · obtain ⟨before, named, held⟩ := entered.exists_held
        exact ⟨before, held, by rw [if_pos named]⟩
      · obtain ⟨first, entered⟩ := known
        exact absurd entered (absent first)
    · exact ⟨plugin, (held_concat_register_of_ne same).1 held, by rw [if_neg same]⟩
  · rintro ⟨before, held, rfl⟩
    split
    · rename_i same
      exact ⟨(same ▸ held.entered).concat nofun, (latest_concat_register rfl).2 rfl⟩
    · rename_i apart
      exact (held_concat_register_of_ne apart).2 held

theorem held_concat_register_new {plugin other : Plugin}
    (new : ∀ place, ¬ EnteredAt history other.name place) :
    Held (history ++ [.register other]) place plugin ↔
      Held history place plugin ∨ place = history.length ∧ plugin = other := by
  by_cases same : plugin.name = other.name
  · have absent : ¬ Held history place plugin := fun held => new place (same ▸ held.entered)
    rw [or_iff_right absent]
    constructor
    · intro held
      obtain ⟨-, entered | ⟨atEnd, -⟩⟩ := held.entered.of_concat
      · exact absurd entered (same ▸ new place)
      · exact ⟨atEnd, (latest_concat_register same.symm).1 held.latest⟩
    · rintro ⟨rfl, rfl⟩
      exact ⟨enteredAt_length ⟨plugin, rfl, rfl⟩ new, (latest_concat_register rfl).2 rfl⟩
  · have other' : ¬ (place = history.length ∧ plugin = other) := by
      rintro ⟨-, rfl⟩
      exact same rfl
    rw [held_concat_register_of_ne same, or_iff_left other']

end

end Phrasebook.Registry
