/-!
# Tables

A table holds values under keys, each key once, in the order in which the keys first came.
Main exports: `Table`, `Table.get?`, `Table.put`, `Table.erase`, `Table.modify`, `Table.keys`,
`Table.get?_of_mem`, `Table.mem_keys_of_get?`.
-/

namespace TemplateLint

/-- Values under keys, in order. -/
structure Table (κ α : Type) where
  pairs : List (κ × α)
  /-- No key stands twice. -/
  distinct : (pairs.map Prod.fst).Nodup
deriving Repr

namespace Table

variable {κ α : Type}

/-- The table that holds nothing. -/
def empty : Table κ α := ⟨[], List.nodup_nil⟩

/-- The keys, in order. -/
def keys (table : Table κ α) : List κ :=
  table.pairs.map Prod.fst

variable [DecidableEq κ]

/-- The value under a key in a list of pairs. -/
def find? (key : κ) : List (κ × α) → Option α
  | [] => none
  | (name, value) :: rest => if name = key then some value else find? key rest

/-- Put a value under a key in a list of pairs, in the place of the old one if there is one. -/
def place (key : κ) (value : α) : List (κ × α) → List (κ × α)
  | [] => [(key, value)]
  | (name, old) :: rest =>
      if name = key then (name, value) :: rest else (name, old) :: place key value rest

theorem mem_keys_place {key name : κ} {value : α} {pairs : List (κ × α)} :
    name ∈ (place key value pairs).map Prod.fst ↔ name = key ∨ name ∈ pairs.map Prod.fst := by
  induction pairs with
  | nil => simp [place]
  | cons head rest inductionHypothesis =>
      obtain ⟨first, old⟩ := head
      by_cases here : first = key
      · simp [place, here]
      · simp only [place, if_neg here, List.map_cons, List.mem_cons, inductionHypothesis]
        exact or_left_comm

theorem distinct_place {key : κ} {value : α} {pairs : List (κ × α)}
    (distinct : (pairs.map Prod.fst).Nodup) :
    ((place key value pairs).map Prod.fst).Nodup := by
  induction pairs with
  | nil => simp [place]
  | cons head rest inductionHypothesis =>
      obtain ⟨first, old⟩ := head
      rw [List.map_cons, List.nodup_cons] at distinct
      by_cases here : first = key
      · simp only [place, here, if_true, List.map_cons]
        exact List.nodup_cons.mpr (here ▸ distinct)
      · simp only [place, if_neg here, List.map_cons, List.nodup_cons, mem_keys_place]
        exact ⟨fun found => found.elim here distinct.1, inductionHypothesis distinct.2⟩

def get? (table : Table κ α) (key : κ) : Option α :=
  find? key table.pairs

def put (table : Table κ α) (key : κ) (value : α) : Table κ α :=
  ⟨place key value table.pairs, distinct_place table.distinct⟩

def erase (table : Table κ α) (key : κ) : Table κ α :=
  ⟨table.pairs.filter fun pair => pair.1 ≠ key,
    table.distinct.sublist (List.filter_sublist.map Prod.fst)⟩

/-- Change the value under a key, if there is one. -/
def modify (table : Table κ α) (key : κ) (change : α → α) : Table κ α :=
  match table.get? key with
  | some value => table.put key (change value)
  | none => table

/-! ## What a key holds after a change -/

@[simp] theorem get?_empty (key : κ) : (empty : Table κ α).get? key = none := rfl

theorem find?_place (key name : κ) (value : α) (pairs : List (κ × α)) :
    find? name (place key value pairs) =
      if name = key then some value else find? name pairs := by
  induction pairs with
  | nil => by_cases same : key = name <;> simp [place, find?, same, eq_comm]
  | cons head rest inductionHypothesis =>
      obtain ⟨first, old⟩ := head
      by_cases here : first = key
      · by_cases same : name = key <;> simp_all [place, find?, eq_comm]
      · by_cases same : name = key
        · simp_all [place, find?]
        · by_cases other : first = name <;> simp_all [place, find?]

theorem find?_filter_ne (key name : κ) (pairs : List (κ × α)) :
    find? name (pairs.filter fun pair => pair.1 ≠ key) =
      if name = key then none else find? name pairs := by
  induction pairs with
  | nil => simp [find?]
  | cons head rest inductionHypothesis =>
      obtain ⟨first, old⟩ := head
      by_cases here : first = key
      · by_cases same : name = key
        · simp_all
        · have other : ¬ first = name := fun equality => same (equality ▸ here)
          simp_all [find?]
      · by_cases same : name = key
        · subst same
          simp_all [find?]
        · by_cases other : first = name <;> simp_all [find?]

theorem get?_put (table : Table κ α) (key name : κ) (value : α) :
    (table.put key value).get? name = if name = key then some value else table.get? name :=
  find?_place key name value table.pairs

theorem get?_erase (table : Table κ α) (key name : κ) :
    (table.erase key).get? name = if name = key then none else table.get? name :=
  find?_filter_ne key name table.pairs

theorem get?_modify (table : Table κ α) (key name : κ) (change : α → α) :
    (table.modify key change).get? name =
      if name = key then (table.get? key).map change else table.get? name := by
  unfold modify
  cases held : table.get? key with
  | none => by_cases same : name = key <;> simp [same, held]
  | some value => simp [get?_put]

/-! ## What a table lists -/

theorem find?_of_mem {key : κ} {value : α} {pairs : List (κ × α)}
    (distinct : (pairs.map Prod.fst).Nodup) (member : (key, value) ∈ pairs) :
    find? key pairs = some value := by
  induction pairs with
  | nil => cases member
  | cons head rest inductionHypothesis =>
      rw [List.map_cons, List.nodup_cons] at distinct
      rcases List.mem_cons.mp member with rfl | later
      · simp [find?]
      · have other : head.1 ≠ key := fun same =>
          distinct.1 (same ▸ List.mem_map_of_mem later)
        simpa [find?, other] using inductionHypothesis distinct.2 later

/-- A table holds what it lists. -/
theorem get?_of_mem {table : Table κ α} {key : κ} {value : α}
    (member : (key, value) ∈ table.pairs) : table.get? key = some value :=
  find?_of_mem table.distinct member

theorem mem_of_find? {key : κ} {value : α} {pairs : List (κ × α)}
    (found : find? key pairs = some value) : (key, value) ∈ pairs := by
  induction pairs with
  | nil => cases found
  | cons head rest inductionHypothesis =>
      obtain ⟨first, old⟩ := head
      unfold find? at found
      split at found
      · next here =>
          cases found
          exact here ▸ List.mem_cons_self
      · exact List.mem_cons_of_mem _ (inductionHypothesis found)

/-- A table lists the keys under which it holds values. -/
theorem mem_keys_of_get? {table : Table κ α} {key : κ} {value : α}
    (held : table.get? key = some value) : key ∈ table.keys :=
  List.mem_map_of_mem (mem_of_find? held)

end Table

end TemplateLint
