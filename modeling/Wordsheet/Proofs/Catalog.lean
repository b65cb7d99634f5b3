import Wordsheet.Catalog

/-! # Entries of catalogues

Which keys there are after an operation, and that a property of all entries stays when entries that
have it are put and when entries are removed or changed in a way that keeps it. Then what entries
under distinct keys become, and what is found under a key after each operation.
-/

namespace Wordsheet.Catalog

variable {α β : Type} {key : α → String} {P : α → Prop} {c : Catalog α key}

theorem mem_of_get? {k : String} {a : α} (h : c.get? k = some a) : a ∈ c.entries :=
  List.mem_of_find?_eq_some h

theorem contains_put (c : Catalog α key) (a : α) (k : String) :
    (c.put a).contains k = true ↔ c.contains k = true ∨ k = key a := by
  rw [contains_iff, contains_iff, keys_put]
  split
  · next known =>
      refine ⟨.inl, fun h => ?_⟩
      rcases h with h | rfl
      · exact h
      · exact known
  · rw [List.mem_append, List.mem_singleton]

theorem contains_erase (c : Catalog α key) {k other : String} (h : c.contains other = true)
    (hne : other ≠ k) : (c.erase k).contains other = true := by
  rw [contains_iff] at h ⊢
  obtain ⟨a, ha, rfl⟩ := List.mem_map.1 h
  exact List.mem_map.2 ⟨a, List.mem_filter.2 ⟨ha, bne_iff_ne.2 hne⟩, rfl⟩

theorem eq_or_mem_of_mem_putEntry {a b : α} {entries : List α}
    (h : b ∈ putEntry key a entries) : b = a ∨ b ∈ entries := by
  induction entries with
  | nil => exact .inl (List.mem_singleton.1 h)
  | cons first rest ih =>
      rw [putEntry] at h
      split at h
      · rcases List.mem_cons.1 h with hb | hb
        · exact .inl hb
        · exact .inr (List.mem_cons_of_mem first hb)
      · rcases List.mem_cons.1 h with hb | hb
        · exact .inr (hb ▸ List.mem_cons_self)
        · exact (ih hb).imp_right (List.mem_cons_of_mem first)

theorem forall_put {a : α} (all : ∀ b ∈ c.entries, P b) (h : P a) :
    ∀ b ∈ (c.put a).entries, P b := by
  intro b hb
  rcases eq_or_mem_of_mem_putEntry hb with rfl | hb
  · exact h
  · exact all b hb

theorem forall_erase (k : String) (all : ∀ b ∈ c.entries, P b) :
    ∀ b ∈ (c.erase k).entries, P b :=
  fun b hb => all b (List.mem_filter.1 hb).1

theorem forall_modify {k : String} {f : α → α} {entries : List α} (all : ∀ b ∈ entries, P b)
    (h : ∀ b, P b → P (f b)) : ∀ b ∈ entries.map (fun a => if key a = k then f a else a), P b := by
  rw [List.forall_mem_map]
  intro b hb
  split
  · exact h b (all b hb)
  · exact all b hb

theorem forall_overlayEntries {f : α → β → α} {entries : List α} (values : List β)
    (all : ∀ b ∈ entries, P b) (h : ∀ b value, P b → P (f b value)) :
    ∀ b ∈ overlayEntries f entries values, P b := by
  induction entries generalizing values with
  | nil => simp [overlayEntries]
  | cons a rest ih =>
      cases values with
      | nil => exact all
      | cons value values =>
          rw [List.forall_mem_cons] at all
          exact List.forall_mem_cons.2 ⟨h a value all.1, ih values all.2⟩

theorem forall_exchangeEntry {old : String} {a : α} {entries : List α}
    (all : ∀ b ∈ entries, P b) (h : P a) : ∀ b ∈ exchangeEntry key old a entries, P b := by
  rw [exchangeEntry, List.forall_mem_map]
  intro b hb
  split
  · exact h
  · exact all b hb

/-! ## Entries under distinct keys -/

theorem putEntry_of_fresh {a : α} {entries : List α} (fresh : key a ∉ entries.map key) :
    putEntry key a entries = entries ++ [a] := by
  induction entries with
  | nil => rfl
  | cons b rest ih =>
      simp only [List.map_cons, List.mem_cons, not_or] at fresh
      rw [putEntry, if_neg (Ne.symm fresh.1), ih fresh.2, List.cons_append]

theorem entries_foldl_put {entries : List α} (c : Catalog α key)
    (h : (c.keys ++ entries.map key).Nodup) :
    (entries.foldl put c).entries = c.entries ++ entries := by
  induction entries generalizing c with
  | nil => rw [List.foldl_nil, List.append_nil]
  | cons a rest ih =>
      have fresh : key a ∉ c.keys := fun hm =>
        (List.nodup_append.1 h).2.2 _ hm _ List.mem_cons_self rfl
      have hput : (c.put a).entries = c.entries ++ [a] := putEntry_of_fresh fresh
      have hrest : ((c.put a).keys ++ rest.map key).Nodup := by
        rwa [keys_put, if_neg fresh, List.append_assoc, List.singleton_append]
      rw [List.foldl_cons, ih _ hrest, hput, List.append_assoc, List.singleton_append]

/-- Entries under distinct keys are catalogued as they are. -/
theorem entries_ofList {entries : List α} (h : (entries.map key).Nodup) :
    (ofList key entries).entries = entries :=
  entries_foldl_put empty h

/-! ## Looking up after a change -/

theorem mem_keys_of_get? {k : String} {a : α} (h : c.get? k = some a) : k ∈ c.keys :=
  key_of_get? h ▸ List.mem_map_of_mem (mem_of_get? h)

theorem get?_eq_none_iff (c : Catalog α key) (k : String) : c.get? k = none ↔ k ∉ c.keys := by
  rw [← Option.isNone_iff_eq_none, ← Option.isSome_eq_false_iff, get?_isSome,
    ← Bool.not_eq_true, contains_iff]

theorem find?_key_of_mem {a : α} {entries : List α} (distinct : (entries.map key).Nodup)
    (h : a ∈ entries) : entries.find? (key · == key a) = some a := by
  induction entries with
  | nil => cases h
  | cons b rest ih =>
      obtain ⟨fresh, distinct⟩ := List.nodup_cons.1 distinct
      rcases List.mem_cons.1 h with rfl | h
      · simp
      · have apart : (key b == key a) = false :=
          beq_false_of_ne fun same => fresh (same ▸ List.mem_map_of_mem h)
        rw [List.find?_cons, apart]
        exact ih distinct h

/-- Every entry is found under its key. -/
theorem get?_key_eq_some_iff (c : Catalog α key) (a : α) :
    c.get? (key a) = some a ↔ a ∈ c.entries :=
  ⟨mem_of_get?, find?_key_of_mem c.distinct⟩

theorem get?_put (c : Catalog α key) (a : α) (k : String) :
    (c.put a).get? k = if k = key a then some a else c.get? k := by
  simp only [get?, put]
  induction c.entries with
  | nil =>
      by_cases hk : k = key a
      · simp [putEntry, hk]
      · simp [putEntry, hk, Ne.symm hk]
  | cons b rest ih =>
      by_cases hb : key b = key a
      · by_cases hk : k = key a
        · simp [putEntry, hb, hk]
        · simp [putEntry, hb, hk, Ne.symm hk]
      · by_cases hk : k = key a
        · simpa [putEntry, hb, hk] using ih
        · simp [putEntry, hb, List.find?_cons, ih, hk]

theorem get?_erase (c : Catalog α key) (erased k : String) :
    (c.erase erased).get? k = if k = erased then none else c.get? k := by
  simp only [get?, entries_erase, List.find?_filter]
  induction c.entries with
  | nil => simp
  | cons b rest ih => by_cases hb : key b = k <;> by_cases hk : k = erased <;> simp_all

theorem get?_map (c : Catalog α key) (f : α → α) (keeps : ∀ a, key (f a) = key a) (k : String) :
    (c.map f keeps).get? k = (c.get? k).map f := by
  simp only [get?, entries_map, List.find?_map, Function.comp_def, keeps]

theorem get?_modify (c : Catalog α key) (changed : String) (f : α → α)
    (keeps : ∀ a, key (f a) = key a) (k : String) :
    (c.modify changed f keeps).get? k =
      if k = changed then (c.get? k).map f else c.get? k := by
  rw [modify, get?_map]
  cases found : c.get? k with
  | none => simp
  | some a =>
      rw [Option.map_some, key_of_get? found]
      split <;> rfl

theorem find?_overlayEntries {f : α → β → α} (keeps : ∀ a b, key (f a b) = key a) (k : String)
    (entries : List α) (values : List β) :
    (overlayEntries f entries values).find? (key · == k) =
      (entries.find? (key · == k)).map fun a =>
        (((entries.map key).idxOf? k).bind (values[·]?)).elim a (f a) := by
  induction entries generalizing values with
  | nil => simp [overlayEntries]
  | cons a rest ih =>
      cases values with
      | nil => cases hf : (a :: rest).find? (key · == k) <;> simp [overlayEntries, hf]
      | cons value values =>
          by_cases hk : key a = k
          · simp [overlayEntries, keeps, hk, List.idxOf?_cons]
          · -- behind the first entry every entry has its value one place further on
            have shifted (place : Option Nat) :
                (place.map (· + 1)).bind ((value :: values)[·]?) = place.bind (values[·]?) := by
              cases place <;> rfl
            simp [overlayEntries, keeps, hk, List.idxOf?_cons, ih, shifted]

/-- Where an overlay has a value for an entry, the entry is the one made of it. -/
theorem get?_overlay (c : Catalog α key) (f : α → β → α) (values : List β)
    (keeps : ∀ a b, key (f a b) = key a) (k : String) :
    (c.overlay f values keeps).get? k =
      (c.get? k).map fun a => ((c.keys.idxOf? k).bind (values[·]?)).elim a (f a) :=
  find?_overlayEntries keeps k c.entries values

theorem find?_exchangeEntry {old : String} {a : α} {entries : List α}
    (fresh : key a ∉ entries.map key) (k : String) :
    (exchangeEntry key old a entries).find? (key · == k) =
      if k = key a then (entries.find? (key · == old)).map fun _ => a
      else if k = old then none else entries.find? (key · == k) := by
  induction entries with
  | nil => simp [exchangeEntry]
  | cons b rest ih =>
      simp only [List.map_cons, List.mem_cons, not_or] at fresh
      have hrest := ih fresh.2
      simp only [exchangeEntry] at hrest
      rw [exchangeEntry, List.map_cons, List.find?_cons, hrest]
      by_cases hb : key b = old
      · rw [if_pos hb]
        by_cases hk : k = key a
        · simp [hk, hb]
        · have hne : (key a == k) = false := beq_false_of_ne fun h => hk h.symm
          by_cases ho : k = old
          · subst ho
            simp [hne, hk]
          · have hbk : (key b == k) = false := beq_false_of_ne fun h => ho (h ▸ hb)
            simp [hne, hk, ho, hbk]
      · rw [if_neg hb]
        by_cases hk : k = key a
        · have hbk : (key b == k) = false := beq_false_of_ne fun h => fresh.1 (hk ▸ h.symm)
          simp [hk ▸ hbk, hk, hb]
        · by_cases ho : k = old
          · subst ho
            simp [hk, beq_false_of_ne hb]
          · simp [hk, ho, List.find?_cons]

theorem get?_exchange (c : Catalog α key) (old : String) {a : α} (fresh : key a ∉ c.keys)
    (k : String) :
    (c.exchange old a fresh).get? k =
      if k = key a then (c.get? old).map fun _ => a
      else if k = old then none else c.get? k :=
  find?_exchangeEntry fresh k

/-! ## The order of keys -/

/-- Whether the keys that two catalogues share come in the same order in both. -/
def SameOrder (c d : Catalog α key) : Prop :=
  c.keys.filter d.contains = d.keys.filter c.contains

theorem SameOrder.refl (c : Catalog α key) : c.SameOrder c := rfl

theorem filter_contains_of_sublist {some all : List String} (h : some.Sublist all)
    (distinct : all.Nodup) : all.filter some.contains = some := by
  induction h with
  | slnil => rfl
  | @cons some all k h ih =>
      obtain ⟨fresh, distinct⟩ := List.nodup_cons.1 distinct
      have absent : k ∉ some := fun hk => fresh (h.subset hk)
      rw [List.filter_cons_of_neg (by simpa using absent), ih distinct]
  | @cons_cons some all k h ih =>
      obtain ⟨fresh, distinct⟩ := List.nodup_cons.1 distinct
      have further : all.filter (k :: some).contains = all.filter some.contains :=
        List.filter_congr fun other ho => by
          have hne : (other == k) = false := beq_false_of_ne fun same => fresh (same ▸ ho)
          rw [List.contains_cons, hne, Bool.false_or]
      rw [List.filter_cons_of_pos (by simp), further, ih distinct]

theorem sameOrder_of_sublist {d : Catalog α key} (h : c.keys.Sublist d.keys) : c.SameOrder d := by
  have first : c.keys.filter d.contains = c.keys :=
    List.filter_eq_self.2 fun k hk => (contains_iff d k).2 (h.subset hk)
  exact first.trans (filter_contains_of_sublist h d.distinct).symm

theorem sameOrder_put (c : Catalog α key) (a : α) : c.SameOrder (c.put a) := by
  refine sameOrder_of_sublist ?_
  rw [keys_put]
  split
  · exact List.Sublist.refl _
  · exact List.sublist_append_left _ _

theorem sameOrder_erase (c : Catalog α key) (k : String) : c.SameOrder (c.erase k) := by
  have fewer : (c.erase k).keys.Sublist c.keys := (List.filter_sublist (l := c.entries)).map key
  exact (sameOrder_of_sublist fewer).symm

end Wordsheet.Catalog
