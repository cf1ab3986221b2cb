namespace Phrasebook

abbrev Entry := String × String

namespace Entry

def put (key text : String) : List Entry → List Entry
  | [] => [(key, text)]
  | entry :: rest =>
    if entry.1 == key then (key, text) :: rest else entry :: put key text rest

def keys (entries : List Entry) : List String := entries.map (·.1)

theorem keys_put (key text : String) (entries : List Entry) :
    keys (put key text entries) =
      if key ∈ keys entries then keys entries else keys entries ++ [key] := by
  induction entries with
  | nil => simp [put, keys]
  | cons entry rest ih =>
    simp only [keys] at ih
    by_cases h : entry.1 = key
    · simp [put, keys, h]
    · have h' : key ≠ entry.1 := fun e => h e.symm
      by_cases hm : key ∈ rest.map (·.1)
      · simp_all [put, keys]
      · simp_all [put, keys]

theorem nodup_keys_put {entries : List Entry} (h : (keys entries).Nodup) (key text : String) :
    (keys (put key text entries)).Nodup := by
  rw [keys_put]
  split
  · exact h
  · rename_i hm
    rw [List.nodup_append]
    refine ⟨h, by simp, ?_⟩
    intro a ha b hb
    simp only [List.mem_singleton] at hb
    subst hb
    intro e
    exact hm (e ▸ ha)

end Entry

structure Catalog where
  entries : List Entry
  nodup : (Entry.keys entries).Nodup
  deriving Repr

namespace Catalog

theorem ext {a b : Catalog} (h : a.entries = b.entries) : a = b := by
  cases a
  cases b
  simp_all

instance : DecidableEq Catalog := fun a b =>
  if h : a.entries = b.entries then .isTrue (ext h) else .isFalse fun e => h (e ▸ rfl)

def empty : Catalog := ⟨[], List.nodup_nil⟩

instance : Inhabited Catalog := ⟨empty⟩

def keys (catalog : Catalog) : List String := Entry.keys catalog.entries

def size (catalog : Catalog) : Nat := catalog.entries.length

def get? (catalog : Catalog) (key : String) : Option String := catalog.entries.lookup key

def contains (catalog : Catalog) (key : String) : Bool := catalog.keys.contains key

def insert (catalog : Catalog) (key text : String) : Catalog :=
  ⟨Entry.put key text catalog.entries, Entry.nodup_keys_put catalog.nodup key text⟩

def filter (p : Entry → Bool) (catalog : Catalog) : Catalog :=
  ⟨catalog.entries.filter p,
    List.Sublist.nodup (List.Sublist.map _ List.filter_sublist) catalog.nodup⟩

def insertAll (catalog other : Catalog) : Catalog :=
  other.entries.foldl (fun c entry => c.insert entry.1 entry.2) catalog

/-- A catalog of entries among which keys may repeat: the first gives the place, the last the text. -/
def ofList (entries : List Entry) : Catalog :=
  entries.foldl (fun c entry => c.insert entry.1 entry.2) empty

def ofKeys (keys : List String) : Catalog := ofList (keys.map fun key => (key, key))

def merge (catalogs : List Catalog) : Catalog := catalogs.foldl insertAll empty

end Catalog

end Phrasebook
