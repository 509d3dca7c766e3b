import WikiSite.Text.Basic

/-!
# Tables keyed by text

A table is a list of entries in increasing order of their keys, one entry per key, so two tables with the same
entries are equal. The order is that of code points.
-/

namespace WikiSite

/-- Entries by key, in increasing order of the keys. -/
abbrev Table (α : Type) := List (Text × α)

namespace Table

variable {α : Type}

/-- The entry under a key. -/
def get? (t : Table α) (k : Text) : Option α := List.lookup k t

/-- Whether there is an entry under the key. -/
def has (t : Table α) (k : Text) : Bool := (get? t k).isSome

/-- Puts an entry in its place, in place of one with the same key. -/
def insert (k : Text) (v : α) : Table α → Table α
  | [] => [(k, v)]
  | (l, w) :: rest =>
    if k = l then (k, v) :: rest
    else if textBefore k l then (k, v) :: (l, w) :: rest
    else (l, w) :: insert k v rest

/-- Drops the entry under a key. -/
def erase (t : Table α) (k : Text) : Table α := t.filter fun e => e.1 != k

/-- The keys, in increasing order. -/
def keys (t : Table α) : List Text := t.map (·.1)

/-- The table of the entries in which a later entry stands for an earlier one with its key. -/
def ofEntries (entries : List (Text × α)) : Table α := entries.foldl (fun t e => insert e.1 e.2 t) []

end Table

end WikiSite
