/-! # Catalogues

A catalogue keeps entries in the order in which their keys first came, and no
two entries under one key. Rows of a table, tables of a workbook, constants and
functions are all kept this way. Every operation says what it does to the list
of entries; that keys stay distinct is part of the type.
-/

namespace Wordsheet

/-- Entries in the order in which their keys first came, at most one for each key. -/
structure Catalog (α : Type) (key : α → String) where
  entries : List α
  distinct : (entries.map key).Nodup
  deriving DecidableEq

namespace Catalog

variable {α β : Type} {key : α → String}

/-! ## Looking up -/

def empty : Catalog α key :=
  ⟨[], List.nodup_nil⟩

def keys (c : Catalog α key) : List String :=
  c.entries.map key

def size (c : Catalog α key) : Nat :=
  c.entries.length

def contains (c : Catalog α key) (k : String) : Bool :=
  c.keys.contains k

def get? (c : Catalog α key) (k : String) : Option α :=
  c.entries.find? fun a => key a == k

@[ext] theorem ext {c d : Catalog α key} (h : c.entries = d.entries) : c = d := by
  cases c
  cases d
  simp_all

theorem contains_iff (c : Catalog α key) (k : String) : c.contains k = true ↔ k ∈ c.keys := by
  simp [contains]

theorem get?_isSome (c : Catalog α key) (k : String) : (c.get? k).isSome = c.contains k := by
  rw [Bool.eq_iff_iff, contains_iff]
  simp [get?, keys, List.find?_isSome]

theorem key_of_get? {c : Catalog α key} {k : String} {a : α} (h : c.get? k = some a) :
    key a = k := by
  simpa using List.find?_some h

/-! ## Putting an entry -/

def putEntry (key : α → String) (a : α) : List α → List α
  | [] => [a]
  | b :: rest => if key b = key a then a :: rest else b :: putEntry key a rest

theorem map_putEntry (a : α) (entries : List α) :
    (putEntry key a entries).map key =
      if key a ∈ entries.map key then entries.map key else entries.map key ++ [key a] := by
  induction entries with
  | nil => simp [putEntry]
  | cons b rest ih =>
      by_cases h : key b = key a
      · simp [putEntry, h]
      · simp only [putEntry, h, ↓reduceIte, List.map_cons, ih, List.mem_cons,
          show ¬ key a = key b from fun e => h e.symm, false_or]
        split <;> simp

theorem nodup_putEntry (a : α) {entries : List α} (h : (entries.map key).Nodup) :
    ((putEntry key a entries).map key).Nodup := by
  rw [map_putEntry]
  split
  · exact h
  · next hn => simpa [List.nodup_append, h] using fun x hx e => hn (List.mem_map.2 ⟨x, hx, e⟩)

/-- Puts an entry: in the place of the entry with its key if there is one, else at the end. -/
def put (c : Catalog α key) (a : α) : Catalog α key :=
  ⟨putEntry key a c.entries, nodup_putEntry a c.distinct⟩

/-- The catalogue of some entries, a later one taking the place of an earlier one with its key. -/
def ofList (key : α → String) (entries : List α) : Catalog α key :=
  entries.foldl put empty

theorem keys_put (c : Catalog α key) (a : α) :
    (c.put a).keys = if key a ∈ c.keys then c.keys else c.keys ++ [key a] :=
  map_putEntry a c.entries

/-! ## Removing an entry -/

def erase (c : Catalog α key) (k : String) : Catalog α key :=
  ⟨c.entries.filter fun a => key a != k,
    c.distinct.sublist ((List.filter_sublist (l := c.entries)).map key)⟩

@[simp] theorem entries_erase (c : Catalog α key) (k : String) :
    (c.erase k).entries = c.entries.filter fun a => key a != k := rfl

/-! ## Changing entries under their keys -/

def map (c : Catalog α key) (f : α → α) (keeps : ∀ a, key (f a) = key a) : Catalog α key :=
  ⟨c.entries.map f, by simpa [Function.comp_def, keeps] using c.distinct⟩

def modify (c : Catalog α key) (k : String) (f : α → α) (keeps : ∀ a, key (f a) = key a) :
    Catalog α key :=
  c.map (fun a => if key a = k then f a else a) fun a => by split <;> simp [keeps]

@[simp] theorem entries_map (c : Catalog α key) (f : α → α) (keeps : ∀ a, key (f a) = key a) :
    (c.map f keeps).entries = c.entries.map f := rfl

@[simp] theorem keys_map (c : Catalog α key) (f : α → α) (keeps : ∀ a, key (f a) = key a) :
    (c.map f keeps).keys = c.keys := by
  simp [keys, map, Function.comp_def, keeps]

@[simp] theorem keys_modify (c : Catalog α key) (k : String) (f : α → α)
    (keeps : ∀ a, key (f a) = key a) : (c.modify k f keeps).keys = c.keys :=
  keys_map ..

/-- Changes the first entries by the values given for them in turn; the others stay. -/
def overlayEntries (f : α → β → α) : List α → List β → List α
  | [], _ => []
  | entries, [] => entries
  | a :: rest, value :: values => f a value :: overlayEntries f rest values

theorem map_overlayEntries {f : α → β → α} (keeps : ∀ a b, key (f a b) = key a)
    (entries : List α) (values : List β) :
    (overlayEntries f entries values).map key = entries.map key := by
  induction entries generalizing values with
  | nil => simp [overlayEntries]
  | cons a rest ih => cases values <;> simp [overlayEntries, keeps, ih]

def overlay (c : Catalog α key) (f : α → β → α) (values : List β)
    (keeps : ∀ a b, key (f a b) = key a) : Catalog α key :=
  ⟨overlayEntries f c.entries values, by rw [map_overlayEntries keeps]; exact c.distinct⟩

@[simp] theorem keys_overlay (c : Catalog α key) (f : α → β → α) (values : List β)
    (keeps : ∀ a b, key (f a b) = key a) : (c.overlay f values keeps).keys = c.keys :=
  map_overlayEntries keeps ..

/-! ## Exchanging a key -/

def exchangeEntry (key : α → String) (old : String) (a : α) (entries : List α) : List α :=
  entries.map fun b => if key b = old then a else b

theorem map_exchangeEntry (old : String) (a : α) (entries : List α) :
    (exchangeEntry key old a entries).map key =
      (entries.map key).map fun k => if k = old then key a else k := by
  induction entries with
  | nil => rfl
  | cons b rest ih =>
      by_cases h : key b = old <;> simp_all [exchangeEntry]

theorem nodup_exchange {old new : String} {ks : List String} (h : ks.Nodup) (hn : new ∉ ks) :
    (ks.map fun k => if k = old then new else k).Nodup := by
  induction ks with
  | nil => simp
  | cons k rest ih =>
      simp only [List.nodup_cons, List.mem_cons, not_or] at h hn
      have hr := ih h.2 hn.2
      rw [List.map_cons, List.nodup_cons]
      refine ⟨?_, hr⟩
      intro hm
      obtain ⟨x, hx, he⟩ := List.mem_map.1 hm
      by_cases hk : k = old
      · subst hk
        rw [if_pos rfl] at he
        by_cases hx' : x = k
        · exact h.1 (hx' ▸ hx)
        · rw [if_neg hx'] at he
          exact hn.2 (he ▸ hx)
      · rw [if_neg hk] at he
        by_cases hx' : x = old
        · rw [if_pos hx'] at he
          exact hn.1 he
        · rw [if_neg hx'] at he
          exact h.1 (he ▸ hx)

/-- Puts an entry whose key is new in the place of the one with key `old`. -/
def exchange (c : Catalog α key) (old : String) (a : α) (fresh : key a ∉ c.keys) :
    Catalog α key :=
  ⟨exchangeEntry key old a c.entries, by
    rw [map_exchangeEntry]
    exact nodup_exchange c.distinct fresh⟩

theorem keys_exchange (c : Catalog α key) (old : String) (a : α) (fresh : key a ∉ c.keys) :
    (c.exchange old a fresh).keys = c.keys.map fun k => if k = old then key a else k :=
  map_exchangeEntry ..

end Catalog

end Wordsheet
