import Phrasebook.CommandLine.Run

namespace Phrasebook.CommandLine

def Stop.status : Stop → Nat
  | quit status => status
  | failed _ => 1

end Phrasebook.CommandLine

namespace Phrasebook.CommandLine.Act

section

variable {α β : Type}

def runFrom (act : Act α) (session : Session) : Except Stop α × Session := (act.run).run session

theorem runFrom_bind (act : Act α) (next : α → Act β) (session : Session) :
    runFrom (act >>= next) session =
      match runFrom act session with
      | (.ok a, session) => runFrom (next a) session
      | (.error stop, session) => (.error stop, session) := by
  unfold runFrom ExceptT.run StateT.run
  simp only [bind, ExceptT.bind, ExceptT.mk, StateT.bind, ExceptT.bindCont]
  cases act session with
  | mk result session => cases result <;> rfl

def Yields (act : Act α) (before : Session) (a : α) (after : Session) : Prop :=
  runFrom act before = (.ok a, after)

theorem yields_bind {act : Act α} {next : α → Act β} {before after : Session} {b : β} :
    Yields (act >>= next) before b after ↔
      ∃ a between, Yields act before a between ∧ Yields (next a) between b after := by
  unfold Yields
  rw [runFrom_bind]
  cases runFrom act before with
  | mk result session =>
    cases result with
    | error stop => simp
    | ok a =>
      constructor
      · exact fun ends => ⟨a, session, rfl, ends⟩
      · rintro ⟨_, _, first, ends⟩
        cases first
        exact ends

theorem yields_iff {act : Act α} {before after : Session} {a b : α} {session : Session}
    (run : runFrom act before = (.ok b, session)) :
    Yields act before a after ↔ a = b ∧ after = session := by
  rw [Yields, run, Prod.mk.injEq, Except.ok.injEq, eq_comm, @eq_comm _ after]

def Stops (act : Act α) (before : Session) (stop : Stop) (after : Session) : Prop :=
  runFrom act before = (.error stop, after)

theorem stops_bind {act : Act α} {next : α → Act β} {before after : Session} {stop : Stop} :
    Stops (act >>= next) before stop after ↔
      Stops act before stop after ∨
        ∃ a between, Yields act before a between ∧ Stops (next a) between stop after := by
  unfold Stops Yields
  rw [runFrom_bind]
  cases runFrom act before with
  | mk result session =>
    cases result with
    | error other => simp
    | ok a =>
      constructor
      · exact fun stops => .inr ⟨a, session, rfl, stops⟩
      · rintro (first | ⟨_, _, first, stops⟩)
        · cases first
        · cases first
          exact stops

theorem yields_require {value : Except Failure α} {before after : Session} {a : α} :
    Yields (require value) before a after ↔ value = .ok a ∧ after = before := by
  cases value with
  | ok b =>
    have run : runFrom (require (.ok b)) before = (.ok b, before) := rfl
    rw [yields_iff run, Except.ok.injEq, @eq_comm _ a]
  | error failure =>
    have run : runFrom (require (.error failure) : Act α) before =
        (.error (.failed failure), before) := rfl
    simp [Yields, run]

theorem not_yields_fail {failure : Failure} {before after : Session} {a : α} :
    ¬ Yields (fail failure) before a after := nofun

def Always (allowed : Tree → Option Stop → Tree → Prop) (act : Act α) : Prop :=
  ∀ before, allowed before.tree (stop? (runFrom act before).1) (runFrom act before).2.tree
where
  stop? : Except Stop α → Option Stop
    | .ok _ => none
    | .error stop => some stop

/-- Leaving the files alone is allowed, unless it reports success by itself, and so is one allowed
    step after another. -/
structure Closed (allowed : Tree → Option Stop → Tree → Prop) : Prop where
  still : ∀ tree, allowed tree none tree
  stops : ∀ tree stop, stop ≠ .quit 0 → allowed tree (some stop) tree
  next : ∀ {before between after stop?}, allowed before none between →
    allowed between stop? after → allowed before stop? after

def filesKept (before : Tree) (_ : Option Stop) (after : Tree) : Prop := after = before

def quitsFailing (_ : Tree) (stop? : Option Stop) (_ : Tree) : Prop := stop? ≠ some (.quit 0)

theorem closed_filesKept : Closed filesKept :=
  ⟨fun _ => rfl, fun _ _ _ => rfl, fun first others => others.trans first⟩

theorem closed_quitsFailing : Closed quitsFailing :=
  ⟨fun _ => nofun, fun _ _ other same => other (Option.some.inj same), fun _ others => others⟩

namespace Closed

variable {allowed : Tree → Option Stop → Tree → Prop} (closed : Closed allowed)

include closed

theorem bind {act : Act α} {next : α → Act β} (first : Always allowed act)
    (others : ∀ a, Always allowed (next a)) : Always allowed (act >>= next) := by
  intro before
  have front := first before
  rw [runFrom_bind]
  cases run : runFrom act before with
  | mk result session =>
    rw [run] at front
    cases result with
    | error stop => exact front
    | ok a => exact closed.next front (others a session)

theorem require (value : Except Failure α) : Always allowed (require value) := by
  intro before
  cases value with
  | ok a => exact closed.still _
  | error failure => exact closed.stops _ _ nofun

theorem fail (failure : Failure) : Always allowed (fail failure : Act α) :=
  fun _ => closed.stops _ _ nofun

theorem printAll (lines : List Line) : Always allowed (printAll lines) := fun _ => closed.still _

theorem print (line : Line) : Always allowed (print line) := fun _ => closed.still _

theorem logAll (records : List Record) : Always allowed (logAll records) := fun _ => closed.still _

theorem forM {items : List α} {act : α → Act Unit} (each : ∀ a ∈ items, Always allowed (act a)) :
    Always allowed (items.forM act) := by
  induction items with
  | nil => exact fun _ => closed.still _
  | cons a items ih =>
    change Always allowed (act a >>= fun _ => items.forM act)
    exact closed.bind (each a List.mem_cons_self) fun _ =>
      ih fun b member => each b (List.mem_cons_of_mem _ member)

theorem log (level : Level) (message : String) : Always allowed (log level message) :=
  fun _ => closed.still _

end Closed

end

theorem stops_forM {α : Type} {act : α → Act Unit} {front : List α} {a : α}
    {before between after : Session} {stop : Stop} (done : Yields (front.forM act) before () between)
    (stops : Stops (act a) between stop after) (back : List α) :
    Stops ((front ++ a :: back).forM act) before stop after := by
  induction front generalizing before with
  | nil =>
    change Stops (act a >>= fun _ => back.forM act) before stop after
    cases done
    exact stops_bind.2 (.inl stops)
  | cons b front ih =>
    change Yields (act b >>= fun _ => front.forM act) before () between at done
    change Stops (act b >>= fun _ => (front ++ a :: back).forM act) before stop after
    obtain ⟨_, session, first, done⟩ := yields_bind.1 done
    exact stops_bind.2 (.inr ⟨(), session, first, ih done⟩)

section

variable {before after session : Session} {u : Unit}

theorem yields_unit_iff {act : Act Unit} (run : runFrom act before = (.ok (), session)) :
    Yields act before u after ↔ after = session := by
  rw [yields_iff run]
  exact and_iff_right rfl

theorem yields_printAll {lines : List Line} :
    Yields (printAll lines) before u after ↔
      after = { before with output := before.output ++ lines } := yields_unit_iff rfl

theorem yields_print {line : Line} :
    Yields (print line) before u after ↔
      after = { before with output := before.output ++ [line] } := yields_unit_iff rfl

theorem yields_logAll {records : List Record} :
    Yields (logAll records) before u after ↔
      after = { before with log := before.log ++ records } := yields_unit_iff rfl

theorem yields_log {level : Level} {message : String} :
    Yields (log level message) before u after ↔
      after = { before with log := before.log ++ [⟨level, origin, message⟩] } := yields_unit_iff rfl

theorem runFrom_readCatalog (path : String) (before : Session) :
    runFrom (readCatalog path) before =
      runFrom
        (match Catalog.read before.tree path with
        | .ok catalog => return catalog
        | .error ⟨_, .file fault⟩ => fail (.file fault)
        | .error fault => do
          log .error ("Cannot read " ++ path ++ ": " ++ fault.message)
          throw (.quit 1))
        { before with log := before.log ++ absenceRecords before.tree path } := by
  unfold readCatalog
  rfl

theorem yields_readCatalog {path : String} {catalog : Catalog} :
    Yields (readCatalog path) before catalog after ↔
      Catalog.read before.tree path = .ok catalog ∧
        after = { before with log := before.log ++ absenceRecords before.tree path } := by
  have run := runFrom_readCatalog path before
  split at run
  · rename_i other found
    rw [yields_iff run, found, Except.ok.injEq, @eq_comm _ catalog]
  · rename_i failed
    rw [Yields, run, failed]
    exact ⟨nofun, nofun⟩
  · rename_i failed
    rw [Yields, run, failed]
    exact ⟨nofun, nofun⟩

theorem stops_readCatalog {path : String} {fault : Catalog.FaultAt}
    (failed : Catalog.read before.tree path = .error fault) :
    ∃ stop after, Stops (readCatalog path) before stop after ∧ stop.status = 1 ∧
      after.tree = before.tree ∧ after.output = before.output := by
  have run := runFrom_readCatalog path before
  rw [failed] at run
  unfold Stops
  split at run
  · next found => cases found
  · exact ⟨_, _, run, rfl, rfl, rfl⟩
  · exact ⟨_, _, run, rfl, rfl, rfl⟩

theorem Closed.readCatalog {allowed : Tree → Option Stop → Tree → Prop} (closed : Closed allowed)
    (path : String) : Always allowed (readCatalog path) := by
  intro before
  rw [runFrom_readCatalog]
  split
  · exact closed.still _
  · exact closed.stops _ _ nofun
  · exact closed.stops _ _ nofun

theorem runFrom_writeCatalog (settings : CatalogSettings) (path : String) (catalog : Catalog)
    (before : Session) :
    runFrom (writeCatalog settings path catalog) before =
      runFrom
        (match Catalog.write before.tree path settings.sorted.isGiven settings.pretty.isGiven catalog with
        | .ok tree => modify fun session => { session with tree }
        | .error ⟨_, .file fault⟩ => do
          modify fun session => { session with tree := before.tree.makeWay (Path.ofText path) }
          fail (.file fault)
        | .error _ => pure ()) before := by
  unfold writeCatalog
  rfl

theorem yields_writeCatalog {settings : CatalogSettings} {path : String} {catalog : Catalog} :
    Yields (writeCatalog settings path catalog) before u after ↔
      ∃ tree, Catalog.write before.tree path settings.sorted.isGiven settings.pretty.isGiven catalog =
        .ok tree ∧ after = { before with tree } := by
  have run := runFrom_writeCatalog settings path catalog before
  split at run
  · rename_i tree written
    rw [yields_unit_iff run, written]
    simp
  · rename_i failed
    rw [Yields, run, failed]
    exact ⟨nofun, nofun⟩
  · rename_i fault other failed
    -- Nothing but the file system makes a write fail.
    unfold Catalog.write at failed
    cases written : before.tree.write (Path.ofText path)
        (Text.encode (catalog.fileText settings.sorted.isGiven settings.pretty.isGiven)) with
    | ok tree =>
      rw [written] at failed
      cases failed
    | error inner =>
      rw [written] at failed
      cases failed
      exact absurd rfl (other path inner)

theorem always_writeCatalog {allowed : Tree → Option Stop → Tree → Prop} {path : String}
    (written : ∀ {tree sorted pretty catalog after},
      Catalog.write tree path sorted pretty catalog = .ok after → allowed tree none after)
    (failed : ∀ tree fault,
      allowed tree (some (.failed (.file fault))) (tree.makeWay (Path.ofText path)))
    (still : ∀ tree, allowed tree none tree) (settings : CatalogSettings) (catalog : Catalog) :
    Always allowed (writeCatalog settings path catalog) := by
  intro before
  rw [runFrom_writeCatalog]
  split
  · next done => exact written done
  · next fault _ => exact failed before.tree fault
  · exact still before.tree

theorem quitsFailing_writeCatalog (settings : CatalogSettings) (path : String) (catalog : Catalog) :
    Always quitsFailing (writeCatalog settings path catalog) :=
  always_writeCatalog (fun _ => nofun) (fun _ _ => nofun) (fun _ => nofun) settings catalog

theorem runFrom_writeNothing (path : String) (before : Session) :
    runFrom (writeNothing path) before =
      runFrom
        (match before.tree.write (Path.ofText path) [] with
        | .ok tree => modify fun session => { session with tree }
        | .error fault => do
          modify fun session => { session with tree := before.tree.makeWay (Path.ofText path) }
          fail (.file fault)) before := by
  unfold writeNothing
  rfl

theorem quitsFailing_writeNothing (path : String) : Always quitsFailing (writeNothing path) := by
  intro before
  rw [runFrom_writeNothing]
  split <;> exact nofun

theorem runFrom_extractFrom (parsers : Script.Parsers) (place root : String)
    (options : ExtractOptions) (registry : Registry) (before : Session) :
    runFrom (extractFrom parsers place root options registry) before =
      runFrom
        (match Extraction.fromFolder parsers before.tree options registry (place ++ "/") root with
        | .ok run => do
          logAll (run.events.map eventRecord)
          return run.items
        | .error fault => fail (.glob fault)) before := by
  unfold extractFrom
  rfl

theorem yields_extractFrom {parsers : Script.Parsers} {place root : String}
    {options : ExtractOptions} {registry : Registry} {items : List Item} :
    Yields (extractFrom parsers place root options registry) before items after ↔
      ∃ run, Extraction.fromFolder parsers before.tree options registry (place ++ "/") root = .ok run ∧
        items = run.items ∧
        after = { before with log := before.log ++ run.events.map eventRecord } := by
  have run := runFrom_extractFrom parsers place root options registry before
  split at run
  · rename_i found
    rw [yields_iff run, found]
    simp
  · rename_i failed
    rw [Yields, run, failed]
    exact ⟨nofun, nofun⟩

theorem Closed.extractFrom {allowed : Tree → Option Stop → Tree → Prop} (closed : Closed allowed)
    (parsers : Script.Parsers) (place root : String) (options : ExtractOptions) (registry : Registry) :
    Always allowed (extractFrom parsers place root options registry) := by
  intro before
  rw [runFrom_extractFrom]
  split
  · exact closed.still _
  · exact closed.stops _ _ nofun

end

end Phrasebook.CommandLine.Act

namespace Phrasebook.CommandLine.Outcome

open Act

variable {tree : Tree} {format : LogFormat} {act : Act Unit}

theorem ofAct_of_yields {u : Unit} {after : Session} (h : Yields act ⟨tree, [], []⟩ u after) :
    ofAct tree format act = ⟨0, none, after.tree, after.output, after.log, format⟩ := by
  unfold Yields runFrom at h
  unfold ofAct
  rw [h]

theorem ofAct_of_stops {stop : Stop} {after : Session} (h : Stops act ⟨tree, [], []⟩ stop after) :
    (ofAct tree format act).status = stop.status ∧ (ofAct tree format act).tree = after.tree := by
  unfold Stops runFrom at h
  unfold ofAct
  rw [h]
  cases stop <;> exact ⟨rfl, rfl⟩

theorem yields_of_status (failing : Always quitsFailing act) (h : (ofAct tree format act).status = 0) :
    ∃ after, Yields act ⟨tree, [], []⟩ () after := by
  unfold ofAct at h
  cases run : (act.run).run ⟨tree, [], []⟩ with
  | mk result after =>
    rw [run] at h
    cases result with
    | ok u => exact ⟨after, run⟩
    | error stop =>
      cases stop with
      | quit status =>
        cases (show status = 0 from h)
        have quit := failing ⟨tree, [], []⟩
        rw [runFrom, run] at quit
        exact absurd rfl quit
      | failed failure => cases h

theorem tree_ofAct (keeps : Always filesKept act) : (ofAct tree format act).tree = tree :=
  keeps ⟨tree, [], []⟩

end Phrasebook.CommandLine.Outcome
