import MarkerSweep.Rule.Compiled
import MarkerSweep.Rule.Digest
/-!
# Sharing compiled tables

A table is compiled once. A later table with the same key is served by the same compiled table. Tables
that do not compile leave no trace. The program keeps digests for keys (`DigestCache`). A cache that
keeps everything that bears on compiling and applying (`RuleCache`) can never take one table for
another. Descriptions bear on neither.
-/

set_option autoImplicit false

namespace MarkerSweep

open Pattern (Builder)

/-- What two tables must have in common to share a compiled table. -/
def RuleTable.key (t : RuleTable) : List Rule := t.rules.map fun r => { r with description := none }

/-- A compiled table and the number under which it is shared. -/
structure SharedTable where
  number : Nat
  table : CompiledTable
deriving DecidableEq

namespace SharedTable

/-- The entry of a key in a list whose first entry has the given number. -/
def findFrom {κ : Type} [DecidableEq κ] (key : κ) (number : Nat) :
    List (κ × CompiledTable) → Option SharedTable
  | [] => none
  | (k, table) :: rest =>
    if k = key then some ⟨number, table⟩ else findFrom key (number + 1) rest

def target : String := "mfclean_core::rules::compiler"

def servedRecord (digest : UInt64) : Record :=
  ⟨.debug, target, "Serving compiled rules from cache for key: " ++ toString digest.toNat⟩

def missRecord : Record :=
  ⟨.debug, target, "Compiled rules not found in cache. Compiling now."⟩

def storedRecord (digest : UInt64) : Record :=
  ⟨.debug, target, "Successfully compiled and cached rules for key: " ++ toString digest.toNat⟩

end SharedTable

/-- How a cache tells tables apart: by the keys that it keeps. Remarks give the digest of a key. -/
structure Keying (κ : Type) where
  key : RuleTable → κ
  digest : κ → UInt64

namespace Keying

/-- By everything that bears on compiling and applying. -/
def byRules : Keying (List Rule) where
  key := RuleTable.key
  digest rules := SipHash.hash (RuleTable.imprint ⟨rules⟩)

/-- By a digest of it. -/
def byDigest (hash : List UInt8 → UInt64) : Keying UInt64 where
  key t := hash t.imprint
  digest := id

end Keying

/-- Compiled tables under their keys. The number of a table is the number of those before it. -/
structure TableCache {κ : Type} (k : Keying κ) where
  entries : List (κ × CompiledTable)

namespace TableCache

open SharedTable

variable {κ : Type} {k : Keying κ}

def empty : TableCache k := ⟨[]⟩

variable [DecidableEq κ] [Builder]

def find? (c : TableCache k) (key : κ) : Option SharedTable := findFrom key 0 c.entries

/-- Serves a table, compiling it if no table before it has the same key. -/
def fetch (c : TableCache k) (t : RuleTable) : TableCache k × Logged (Except Failure SharedTable) :=
  let key := k.key t
  match c.find? key with
  | some s => (c, ⟨.ok s, [servedRecord (k.digest key)]⟩)
  | none =>
    match t.compile with
    | ⟨.ok table, records⟩ =>
      (⟨c.entries ++ [(key, table)]⟩,
        ⟨.ok ⟨c.entries.length, table⟩, missRecord :: records ++ [storedRecord (k.digest key)]⟩)
    | ⟨.error e, records⟩ => (c, ⟨.error e, missRecord :: records⟩)

/-- Serves tables one after another. -/
def fetchAll (c : TableCache k) :
    List RuleTable → TableCache k × List (Except Failure SharedTable)
  | [] => (c, [])
  | t :: rest =>
    let (c, l) := c.fetch t
    let (c, results) := c.fetchAll rest
    (c, l.value :: results)

end TableCache

/-- The cache that keeps the rules of its tables. -/
abbrev RuleCache : Type := TableCache Keying.byRules

/-- The cache that keeps a digest of each table, for a hash. -/
abbrev DigestCache (hash : List UInt8 → UInt64) : Type := TableCache (Keying.byDigest hash)

abbrev RuleCache.empty : RuleCache := TableCache.empty

end MarkerSweep
