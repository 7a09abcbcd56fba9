import MarkerSweep.Proofs.Rule.Imprint
import MarkerSweep.Proofs.Rule.Table
/-!
# Sharing compiled tables

A cache only grows, and a table that does not compile leaves it as it is. So whatever was served once
stays where it is, and it is served again exactly to the tables with the same key
(`TableCache.number_eq_iff`). The cache that keeps digests gives the very same answers as the one that
keeps rules, provided no two different imprints of the tables in question have one digest
(`DigestCache.transparent`).
-/

set_option autoImplicit false

namespace MarkerSweep

/-! ## Finding an entry -/

namespace SharedTable

variable {κ : Type} [DecidableEq κ] {key : κ} {s : SharedTable}

/-- What is found stands under the key, at the place that its number names. -/
theorem entry_of_findFrom : ∀ {entries : List (κ × CompiledTable)} {number : Nat},
    findFrom key number entries = some s →
      ∃ i, s.number = number + i ∧ entries[i]? = some (key, s.table)
  | [], _, h => by cases h
  | (k, table) :: rest, number, h => by
    rw [findFrom] at h
    split at h
    · rename_i hkey
      obtain rfl := Option.some.inj h
      exact ⟨0, rfl, by rw [hkey]; rfl⟩
    · obtain ⟨i, hnumber, hentry⟩ := entry_of_findFrom h
      exact ⟨i + 1, by rw [hnumber]; omega, hentry⟩

theorem findFrom_append : ∀ (entries more : List (κ × CompiledTable)) (number : Nat),
    findFrom key number (entries ++ more) =
      (findFrom key number entries).or (findFrom key (number + entries.length) more)
  | [], more, number => rfl
  | (k, table) :: rest, more, number => by
    rw [List.cons_append, findFrom, findFrom, findFrom_append rest more (number + 1)]
    split
    · rfl
    · rw [List.length_cons, Nat.add_right_comm, Nat.add_assoc]

/-- Other names for the keys make no difference as long as no other key takes the name of the one that
is looked for. -/
theorem findFrom_map {κ' : Type} [DecidableEq κ'] (f : κ → κ') :
    ∀ {entries : List (κ × CompiledTable)} {number : Nat},
      (∀ entry ∈ entries, f entry.1 = f key → entry.1 = key) →
      findFrom (f key) number (entries.map fun entry => (f entry.1, entry.2)) =
        findFrom key number entries
  | [], _, _ => rfl
  | (k, table) :: rest, number, h => by
    obtain ⟨hfirst, hrest⟩ := List.forall_mem_cons.mp h
    rw [List.map_cons, findFrom, findFrom, findFrom_map f hrest]
    by_cases hkey : k = key
    · rw [if_pos hkey, if_pos (congrArg f hkey)]
    · rw [if_neg hkey, if_neg (mt hfirst hkey)]

end SharedTable

open SharedTable
open Pattern (Builder)

/-! ## Caches -/

namespace TableCache

variable {κ : Type} [DecidableEq κ] {k : Keying κ} {c : TableCache k} {t : RuleTable} {s : SharedTable}

theorem find?_of_grown {c' : TableCache k} {key : κ} (hgrown : c.entries <+: c'.entries)
    (h : c.find? key = some s) : c'.find? key = some s := by
  obtain ⟨more, hmore⟩ := hgrown
  rw [find?] at h
  rw [find?, ← hmore, findFrom_append, h, Option.some_or]

variable [Builder]

/-- What is served is in the cache from then on. -/
theorem find?_of_fetch (h : (c.fetch t).2.value = .ok s) :
    (c.fetch t).1.find? (k.key t) = some s := by
  obtain ⟨s', hfind, hcache, hvalue⟩ | ⟨table, hfind, -, hcache, hvalue⟩ | ⟨e, -, -, -, hvalue⟩ :=
    c.fetch_cases t
  · obtain rfl := Except.ok.inj (h.symm.trans hvalue)
    rw [hcache, hfind]
  · obtain rfl := Except.ok.inj (h.symm.trans hvalue)
    rw [find?] at hfind
    rw [hcache, find?, findFrom_append, hfind, Option.none_or, findFrom, if_pos rfl, Nat.zero_add]
  · rw [h] at hvalue
    cases hvalue

/-- Entries stay as they are. -/
theorem fetch_grows (c : TableCache k) (t : RuleTable) : c.entries <+: (c.fetch t).1.entries := by
  obtain ⟨s, -, hcache, -⟩ | ⟨table, -, -, hcache, -⟩ | ⟨e, -, -, hcache, -⟩ := c.fetch_cases t
  · exact ⟨[], by rw [hcache, List.append_nil]⟩
  · exact ⟨[(k.key t, table)], by rw [hcache]⟩
  · exact ⟨[], by rw [hcache, List.append_nil]⟩

/-- No entry is made for a table that does not compile. -/
theorem fetch_of_error (c : TableCache k) {e : Failure} (h : t.compile.value = .error e) :
    (c.fetch t).1 = c := by
  obtain ⟨s, -, hcache, -⟩ | ⟨table, -, hcompile, -⟩ | ⟨e, -, -, hcache, -⟩ := c.fetch_cases t
  · exact hcache
  · rw [h] at hcompile
    cases hcompile
  · exact hcache

theorem fetchAll_append (c : TableCache k) (l m : List RuleTable) :
    (c.fetchAll (l ++ m)).1 = ((c.fetchAll l).1.fetchAll m).1 := by
  induction l generalizing c with
  | nil => rfl
  | cons t rest ih => exact ih _

theorem fetchAll_grows (c : TableCache k) (tables : List RuleTable) :
    c.entries <+: (c.fetchAll tables).1.entries := by
  induction tables generalizing c with
  | nil => exact List.prefix_rfl
  | cons t rest ih => exact (c.fetch_grows t).trans (ih _)

/-- Whatever was served is in the cache at the end. -/
theorem find?_of_fetchAll {tables : List RuleTable}
    (h : (t, .ok s) ∈ tables.zip (c.fetchAll tables).2) :
    (c.fetchAll tables).1.find? (k.key t) = some s := by
  induction tables generalizing c with
  | nil => cases h
  | cons t' rest ih =>
    rw [fetchAll] at h ⊢
    obtain h | h := List.mem_cons.mp h
    · obtain ⟨rfl, hvalue⟩ := Prod.mk.inj h
      exact find?_of_grown (fetchAll_grows _ rest) (find?_of_fetch hvalue.symm)
    · exact ih h

/-- Two tables are served the same entry exactly if they have the same key. -/
theorem number_eq_iff {tables : List RuleTable} {u : RuleTable} {s' : SharedTable}
    (h : (t, .ok s) ∈ tables.zip (c.fetchAll tables).2)
    (h' : (u, .ok s') ∈ tables.zip (c.fetchAll tables).2) :
    s.number = s'.number ↔ k.key t = k.key u := by
  have hfind := find?_of_fetchAll h
  have hfind' := find?_of_fetchAll h'
  constructor
  · intro hnumber
    obtain ⟨i, hi, hentry⟩ := entry_of_findFrom hfind
    obtain ⟨j, hj, hentry'⟩ := entry_of_findFrom hfind'
    obtain rfl : i = j := by omega
    rw [hentry] at hentry'
    exact (Prod.mk.inj (Option.some.inj hentry')).1
  · intro hkey
    rw [hkey, hfind'] at hfind
    rw [Option.some.inj hfind]

end TableCache

/-! ## The cache that keeps rules -/

namespace RuleCache

variable [Builder] {c : RuleCache}

/-- The answer is what compiling the table would have answered. -/
theorem compile_of_fetch (hc : c.Sound) (t : RuleTable) :
    (c.fetch t).2.value.map SharedTable.table = t.compile.value := by
  obtain ⟨s, hfind, -, hvalue⟩ | ⟨table, -, hcompile, -, hvalue⟩ | ⟨e, -, hcompile, -, hvalue⟩ :=
    c.fetch_cases t
  · rw [hvalue, RuleTable.compile_eq_ok_iff.mpr (compileRules_of_find? hc hfind)]
    rfl
  · rw [hvalue, hcompile]
    rfl
  · rw [hvalue, hcompile]
    rfl

/-- The answers to some tables are what compiling them would have answered, one by one. -/
theorem compile_of_fetchAll (hc : c.Sound) (tables : List RuleTable) :
    (c.fetchAll tables).2.map (Except.map SharedTable.table) = tables.map (·.compile.value) := by
  induction tables generalizing c with
  | nil => rfl
  | cons t rest ih =>
    rw [TableCache.fetchAll, List.map_cons, List.map_cons, compile_of_fetch hc,
      ih (fetch_sound hc t).1]

end RuleCache

/-! ## The cache that keeps digests -/

namespace DigestCache

variable {hash : List UInt8 → UInt64}

/-- The digest of the tables with a key. -/
def ofKey (hash : List UInt8 → UInt64) (key : List Rule) : UInt64 := hash (RuleTable.imprint ⟨key⟩)

/-- The same entries, under digests in the place of keys. -/
def Mirrors (hash : List UInt8 → UInt64) (d : DigestCache hash) (c : RuleCache) : Prop :=
  d.entries = c.entries.map fun entry => (ofKey hash entry.1, entry.2)

variable [Builder] {d : DigestCache hash} {c : RuleCache}

/-- As long as no key in the cache shares its digest with the key of the table without being the same
key, serving by digest is serving by key. -/
theorem fetch_mirrors (h : Mirrors hash d c) {t : RuleTable}
    (hdigest : ∀ entry ∈ c.entries, ofKey hash entry.1 = hash t.imprint → entry.1 = t.key) :
    Mirrors hash (d.fetch t).1 (c.fetch t).1 ∧ (d.fetch t).2.value = (c.fetch t).2.value := by
  have hkey : ofKey hash (Keying.byRules.key t) = (Keying.byDigest hash).key t :=
    congrArg hash t.imprint_key
  have hfind : d.find? ((Keying.byDigest hash).key t) = c.find? (Keying.byRules.key t) := by
    rw [Mirrors] at h
    rw [TableCache.find?, h, ← hkey]
    exact findFrom_map (ofKey hash) fun entry hentry heq => hdigest entry hentry (heq.trans hkey)
  simp only [TableCache.fetch, hfind]
  cases c.find? (Keying.byRules.key t) with
  | some s => exact ⟨h, rfl⟩
  | none =>
    obtain ⟨value, records⟩ := t.compile
    cases value with
    | error e => exact ⟨h, rfl⟩
    | ok table =>
      rw [Mirrors] at h
      refine ⟨?_, ?_⟩
      · simp only [Mirrors, h, List.map_append, List.map_cons, List.map_nil, hkey]
      · simp only [h, List.length_map]

/-- A run that starts from the same entries and meets no collision gives the same answers. -/
theorem fetchAll_mirrors {pool : List RuleTable}
    (hpool : ∀ t ∈ pool, ∀ u ∈ pool, hash t.imprint = hash u.imprint → t.imprint = u.imprint) :
    ∀ {tables : List RuleTable} {d : DigestCache hash} {c : RuleCache}, Mirrors hash d c →
      (∀ entry ∈ c.entries, ∃ u ∈ pool, entry.1 = u.key) → (∀ t ∈ tables, t ∈ pool) →
      (d.fetchAll tables).2 = (c.fetchAll tables).2
  | [], _, _, _, _, _ => rfl
  | t :: rest, d, c, h, hkeys, htables => by
    obtain ⟨ht, hrest⟩ := List.forall_mem_cons.mp htables
    have hdigest : ∀ entry ∈ c.entries, ofKey hash entry.1 = hash t.imprint → entry.1 = t.key := by
      intro entry hentry heq
      obtain ⟨u, hu, hkey⟩ := hkeys entry hentry
      rw [hkey, ofKey, RuleTable.imprint_key] at heq
      rw [hkey]
      exact RuleTable.imprint_eq_iff.mp (hpool u hu t ht heq)
    have hkeys' : ∀ entry ∈ (c.fetch t).1.entries, ∃ u ∈ pool, entry.1 = u.key := by
      obtain ⟨s, -, hcache, -⟩ | ⟨table, -, -, hcache, -⟩ | ⟨e, -, -, hcache, -⟩ := c.fetch_cases t
      · rwa [hcache]
      · rw [hcache]
        exact List.forall_mem_append.mpr
          ⟨hkeys, List.forall_mem_singleton.mpr ⟨t, ht, rfl⟩⟩
      · rwa [hcache]
    obtain ⟨hnext, hvalue⟩ := fetch_mirrors h hdigest
    rw [TableCache.fetchAll, TableCache.fetchAll]
    exact congrArg₂ List.cons hvalue (fetchAll_mirrors hpool hnext hkeys' hrest)

/-- The cache after some tables have been served, one after another. -/
def served (hash : List UInt8 → UInt64) (tables : List RuleTable) : DigestCache hash :=
  (TableCache.empty.fetchAll tables).1

/-- The answers to some tables that are served one after another. -/
def answers (hash : List UInt8 → UInt64) (tables : List RuleTable) :
    List (Except Failure SharedTable) :=
  ((TableCache.empty : DigestCache hash).fetchAll tables).2

/-- Serving some tables from a cache is as good as compiling each of them afresh. -/
structure Transparent (hash : List UInt8 → UInt64) (tables : List RuleTable) : Prop where
  /-- The answers are those of the cache that keeps rules. -/
  byKey : answers hash tables = (RuleCache.empty.fetchAll tables).2
  /-- Each answer is what compiling the table gives: the same rules in the same order, or the same
  failure. -/
  compiles : (answers hash tables).map (Except.map SharedTable.table) =
    tables.map (·.compile.value)
  /-- What is in the cache at some time is in it at the end, under the same numbers. -/
  keeps : ∀ before rest, tables = before ++ rest →
    (served hash before).entries <+: (served hash tables).entries
  /-- A table that does not compile leaves the cache as it is. -/
  fails : ∀ before t rest e, tables = before ++ t :: rest → t.compile.value = .error e →
    served hash (before ++ [t]) = served hash before
  /-- Two answers are the same shared table exactly if the rules of the tables agree. -/
  shares : ∀ t u s s', (t, .ok s) ∈ tables.zip (answers hash tables) →
    (u, .ok s') ∈ tables.zip (answers hash tables) →
      (s.number = s'.number ↔ List.Forall₂ Rule.Agree t.rules u.rules)

theorem transparent {tables : List RuleTable}
    (h : ∀ t ∈ tables, ∀ u ∈ tables, hash t.imprint = hash u.imprint → t.imprint = u.imprint) :
    Transparent hash tables := by
  have hbyKey : answers hash tables = (RuleCache.empty.fetchAll tables).2 :=
    fetchAll_mirrors h (by rfl) (fun _ hentry => nomatch hentry) fun _ ht => ht
  refine ⟨hbyKey, ?_, ?_, ?_, ?_⟩
  · rw [hbyKey]
    exact RuleCache.compile_of_fetchAll RuleCache.sound_empty tables
  · rintro before rest rfl
    rw [served, served, TableCache.fetchAll_append]
    exact TableCache.fetchAll_grows _ rest
  · rintro before t rest e rfl he
    rw [served, TableCache.fetchAll_append]
    exact TableCache.fetch_of_error _ he
  · rw [hbyKey]
    intro t u s s' hs hs'
    exact (TableCache.number_eq_iff hs hs').trans RuleTable.key_eq_iff

end DigestCache

namespace DigestCache

/-- One rule, under two descriptions. -/
def described (description : String) : RuleTable :=
  ⟨[{ name := "letter", description, pattern := "a" }]⟩

/-- A table that does not compile. -/
def unfinished : RuleTable := ⟨[{ name := "letter", pattern := "a(" }]⟩

/-- A rule that is described anew is served again, with nothing left of the failure between. -/
theorem transparent_described :
    Transparent SipHash.hash [described "old", unfinished, described "new"] ∧
      (answers SipHash.hash [described "old", unfinished, described "new"]).map
        (fun answer => answer.toOption.map SharedTable.number) = [some 0, none, some 0] :=
  ⟨transparent (by decide +kernel), by decide +kernel⟩

end DigestCache

end MarkerSweep
