import Mathlib.Data.List.Basic
import Mathlib.Data.List.Forall2
import MarkerSweep.Rule.Cache
/-!
# What an imprint tells

The bytes that a table feeds to the hash tell everything about it that its key holds, and nothing
else (`RuleTable.imprint_eq_iff`): neither the order of the rules nor where one field ends and the
next begins can be mistaken. It is enough that each piece shows by itself where it ends, whatever
follows (`Tells`): text by its last byte, what may be missing by the word before it.
-/

set_option autoImplicit false

namespace MarkerSweep

/-- Two rules do the same, whatever their descriptions say. -/
structure Rule.Agree (r r' : Rule) : Prop where
  name : r.name = r'.name
  pattern : r.pattern = r'.pattern
  replaceWith : r.replaceWith = r'.replaceWith
  multiline : r.multiline = r'.multiline
  enabled : r.enabled = r'.enabled

theorem Rule.agree_iff {r r' : Rule} :
    r.Agree r' ↔ { r with description := none } = { r' with description := none } := by
  constructor
  · rintro ⟨hname, hpattern, hreplace, hlines, henabled⟩
    rw [hname, hpattern, hreplace, hlines, henabled]
  · intro h
    obtain ⟨hname, -, hpattern, hreplace, hlines, henabled⟩ := Rule.mk.inj h
    exact ⟨hname, hpattern, hreplace, hlines, henabled⟩

/-- Tables have the same key if their rules agree, in order. -/
theorem RuleTable.key_eq_iff {t u : RuleTable} :
    t.key = u.key ↔ List.Forall₂ Rule.Agree t.rules u.rules := by
  rw [← List.forall₂_eq_eq_eq, key, key, List.forall₂_map_left_iff, List.forall₂_map_right_iff]
  constructor <;> refine List.Forall₂.imp fun r r' h => ?_
  · exact Rule.agree_iff.mpr h
  · exact Rule.agree_iff.mp h

namespace Imprint

variable {α β : Type}

/-- The bytes show where they end, and with it everything about a value that the view shows. -/
def Tells (bytes : α → List UInt8) (view : α → β) : Prop :=
  ∀ a b s t, bytes a ++ s = bytes b ++ t → view a = view b ∧ s = t

theorem length_word (n : Nat) : (word n).length = 8 := by simp [word]

/-- A byte above all those that UTF-8 uses. -/
theorem notMem_utf8EncodeChar (c : Char) : 0xFF ∉ String.utf8EncodeChar c := by
  have hbyte : ∀ n : Nat, n < 0xFF → (0xFF : UInt8) ≠ UInt8.ofNat n := by
    intro n hn h
    have h' := congrArg UInt8.toNat h
    rw [UInt8.toNat_ofNat', Nat.mod_eq_of_lt (by omega)] at h'
    change 0xFF = n at h'
    omega
  intro hmem
  rw [String.utf8EncodeChar] at hmem
  split at hmem
  · exact hbyte _ (by omega) (List.mem_singleton.mp hmem)
  · split at hmem
    · obtain h | h : _ ∨ _ := by simpa only [List.mem_cons, List.not_mem_nil, or_false] using hmem
      all_goals exact hbyte _ (by omega) h
    · split at hmem
      · obtain h | h | h : _ ∨ _ ∨ _ := by
          simpa only [List.mem_cons, List.not_mem_nil, or_false] using hmem
        all_goals exact hbyte _ (by omega) h
      · obtain h | h | h | h : _ ∨ _ ∨ _ ∨ _ := by
          simpa only [List.mem_cons, List.not_mem_nil, or_false] using hmem
        all_goals exact hbyte _ (by omega) h

/-- The first byte of a kind parts what lies before it from what lies after it, even if that byte comes
again later. -/
theorem append_cons_inj_of_first {e : UInt8} : ∀ {l m s t : List UInt8}, e ∉ l → e ∉ m →
    l ++ e :: s = m ++ e :: t → l = m ∧ s = t
  | [], [], _, _, _, _, h => ⟨rfl, (List.cons.inj h).2⟩
  | [], b :: m, _, _, _, hm, h => absurd ((List.cons.inj h).1 ▸ List.mem_cons_self) hm
  | a :: l, [], _, _, hl, _, h => absurd ((List.cons.inj h).1 ▸ List.mem_cons_self) hl
  | a :: l, b :: m, s, t, hl, hm, h => by
    obtain ⟨hab, h⟩ := List.cons.inj h
    obtain ⟨hlm, hst⟩ := append_cons_inj_of_first (List.not_mem_of_not_mem_cons hl)
      (List.not_mem_of_not_mem_cons hm) h
    exact ⟨by rw [hab, hlm], hst⟩

theorem tells_text : Tells text id := by
  intro a b s t h
  have hfree : ∀ s : String, 0xFF ∉ s.toList.flatMap String.utf8EncodeChar := by
    intro s hmem
    obtain ⟨c, -, hc⟩ := List.mem_flatMap.mp hmem
    exact notMem_utf8EncodeChar c hc
  simp only [text, List.append_assoc, List.singleton_append] at h
  obtain ⟨hchars, hrest⟩ := append_cons_inj_of_first (hfree a) (hfree b) h
  refine ⟨String.toByteArray_inj.mp ?_, hrest⟩
  rw [id_eq, id_eq, ← String.utf8Encode_toList, ← String.utf8Encode_toList, List.utf8Encode,
    List.utf8Encode, hchars]

theorem tells_bool : Tells bool id := by
  intro a b s t h
  obtain ⟨hbit, hrest⟩ := List.cons.inj h
  refine ⟨?_, hrest⟩
  cases a <;> cases b <;> first | rfl | exact absurd hbit (by decide)

theorem Tells.option {bytes : α → List UInt8} (h : Tells bytes id) : Tells (option bytes) id := by
  have hword : ∀ m n s t, word m ++ s = word n ++ t → word m = word n ∧ s = t :=
    fun m n s t h => List.append_inj h (by rw [length_word, length_word])
  have hne : word 0 ≠ word 1 := by decide
  rintro (_ | a) (_ | b) s t hst
  · exact ⟨rfl, (hword _ _ _ _ hst).2⟩
  · rw [Imprint.option, Imprint.option, List.append_assoc] at hst
    exact absurd (hword _ _ _ _ hst).1 hne
  · rw [Imprint.option, Imprint.option, List.append_assoc] at hst
    exact absurd (hword _ _ _ _ hst).1 hne.symm
  · rw [Imprint.option, Imprint.option, List.append_assoc, List.append_assoc] at hst
    obtain ⟨hab, hrest⟩ := h a b s t (hword _ _ _ _ hst).2
    exact ⟨congrArg some hab, hrest⟩

/-- Nothing needs to tell how many values there are if each shows where it ends. -/
theorem Tells.map_eq_of_flatMap_eq {bytes : α → List UInt8} {view : α → β} (h : Tells bytes view)
    (hne : ∀ a, bytes a ≠ []) : ∀ {l m : List α}, l.flatMap bytes = m.flatMap bytes →
      l.map view = m.map view
  | [], [], _ => rfl
  | [], b :: m, hlm => by
    rw [List.flatMap_nil, List.flatMap_cons, eq_comm, List.append_eq_nil_iff] at hlm
    exact absurd hlm.1 (hne b)
  | a :: l, [], hlm => by
    rw [List.flatMap_nil, List.flatMap_cons, List.append_eq_nil_iff] at hlm
    exact absurd hlm.1 (hne a)
  | a :: l, b :: m, hlm => by
    rw [List.flatMap_cons, List.flatMap_cons] at hlm
    obtain ⟨hab, hrest⟩ := h a b _ _ hlm
    rw [List.map_cons, List.map_cons, hab, h.map_eq_of_flatMap_eq hne hrest]

end Imprint

open Imprint

theorem Rule.tells_imprint : Tells Rule.imprint fun r => { r with description := none } := by
  intro r r' s t h
  simp only [Rule.imprint, List.append_assoc] at h
  obtain ⟨hname, h⟩ := tells_text _ _ _ _ h
  obtain ⟨hpattern, h⟩ := tells_text.option _ _ _ _ h
  obtain ⟨hreplace, h⟩ := tells_text _ _ _ _ h
  obtain ⟨hlines, h⟩ := tells_bool _ _ _ _ h
  obtain ⟨henabled, h⟩ := tells_bool.option _ _ _ _ h
  exact ⟨agree_iff.mp ⟨hname, hpattern, hreplace, hlines, henabled⟩, h⟩

theorem Rule.imprint_ne_nil (r : Rule) : r.imprint ≠ [] := by simp [Rule.imprint, text]

namespace RuleTable

/-- Neither rules nor tables feed their descriptions to the hash. -/
theorem imprint_key (t : RuleTable) : imprint ⟨t.key⟩ = t.imprint := by
  simp only [imprint, key, List.length_map, List.flatMap_map]
  rfl

theorem imprint_eq_iff {t u : RuleTable} : t.imprint = u.imprint ↔ t.key = u.key := by
  constructor
  · intro h
    have hrules := (List.append_inj h (by rw [length_word, length_word])).2
    exact Rule.tells_imprint.map_eq_of_flatMap_eq Rule.imprint_ne_nil hrules
  · intro h
    rw [← imprint_key t, ← imprint_key u, h]

end RuleTable

end MarkerSweep
