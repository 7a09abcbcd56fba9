import MarkerSweep.Proofs.Clean.MarkerLines
import MarkerSweep.Proofs.Marker.Matches
import MarkerSweep.Proofs.Marker.Whole
/-!
# No two marker rules match the same code

Matches of two marker rules may overlap in blanks, since the blanks around a marker belong to it,
but in nothing else. The later of two matches that overlap starts with a line of the earlier one, so
what they share begins with some piece of the one marker and with the first piece of the other.
Without its blanks it would begin with two words that do not begin alike (`Opening`,
`pairwise_apart_openings`).

The first piece is not enough to tell the markers apart: three of them begin with `//`, and what
follows may be on a later line. So the word of a marker runs into its second piece, and blanks are
left out before the words are compared.
-/

set_option autoImplicit false

namespace MarkerSweep

open Unicode Pattern Text

/-! ## Texts without their blanks -/

/-- The characters of a text that are not blanks. -/
def squeezed (s : List Char) : List Char := s.filter fun c => !isBlank c

theorem squeezed_append (s t : List Char) : squeezed (s ++ t) = squeezed s ++ squeezed t :=
  List.filter_append ..

theorem Blank.squeezed_append {w : List Char} (hw : Blank w) (s : List Char) :
    squeezed (w ++ s) = squeezed s := by
  have hnil : squeezed w = [] := List.filter_eq_nil_iff.mpr fun c hc => by simp [hw c hc]
  rw [MarkerSweep.squeezed_append, hnil, List.nil_append]

theorem squeezed_mono {s t : List Char} (h : s <+: t) : squeezed s <+: squeezed t := h.filter _

namespace Spaced

variable {P Q : Piece} {Ps : List Piece} {m : List Char} {u v w : String}

/-- Without blanks, a text of pieces begins with a word that its first piece begins with. -/
theorem exists_prefix_squeezed {ws : List String} (h : Spaced (P :: Ps) m)
    (hP : ∀ s, P.Fits s → ∃ w ∈ ws, w.toList <+: s)
    (hws : ∀ w ∈ ws, squeezed w.toList = w.toList) : ∃ w ∈ ws, w.toList <+: squeezed m := by
  obtain ⟨x, s, y, rfl, hs, -, hx⟩ := h.exists_of_cons
  obtain ⟨w, hw, hpre⟩ := hP s hs
  refine ⟨w, hw, ?_⟩
  rw [hx.squeezed_append, ← hws w hw]
  exact squeezed_mono (hpre.trans (List.prefix_append s y))

theorem prefix_squeezed (h : Spaced (P :: Ps) m) (hP : P.Opens w)
    (hw : squeezed w.toList = w.toList) : w.toList <+: squeezed m := by
  obtain ⟨w', hw', hpre⟩ := h.exists_prefix_squeezed (hP.exists_word (List.mem_singleton_self w))
    (by simpa using hw)
  exact List.mem_singleton.mp hw' ▸ hpre

/-- A first piece that is a given word and the beginning of the second piece are next to each other
once the blanks are gone. -/
theorem prefix_squeezed_of_two (h : Spaced (P :: Q :: Ps) m) (hP : P.Is v) (hQ : Q.Opens w)
    (hu : u.toList = v.toList ++ w.toList) (hv : squeezed v.toList = v.toList)
    (hw : squeezed w.toList = w.toList) : u.toList <+: squeezed m := by
  obtain ⟨x, s, y, rfl, hs, hy, hx⟩ := h.exists_of_cons
  rw [hP s hs, hx.squeezed_append, squeezed_append, hv, hu, List.prefix_append_right_inj]
  exact hy.prefix_squeezed hQ hw

end Spaced

namespace MarkerRule

/-! ## The words that markers begin with -/

/-- The words that the pieces of the built-in markers behind the first ones begin with. -/
def laterHeads : List String :=
  ["MF_REPORT_", "/*", "\x7d", "__MF_REPORT_", "\"MF_REPORT_", "'MF_REPORT_",
    "eslint-disable-next-line", "no-console"]

/-- A word that the marker of the rule begins with, once the blanks are gone. -/
structure Opening (k : MarkerRule) (w : String) : Prop where
  whole : ∀ m, Spaced k.marker.pieces m → w.toList <+: squeezed m
  later : ∀ P ∈ k.marker.pieces.tail, ∀ s, P.Fits s → ∃ v ∈ laterHeads, v.toList <+: s

/-- The built-in marker rules and the words that tell them apart. -/
def openings : List (MarkerRule × String) :=
  [(lineComment, "//MF_REPORT_"), (blockComment, "\x7b"), (dunder, "//__MF_REPORT_"),
    (debugWarn, "console.warn("), (noConsole, "//eslint-disable-next-line")]

theorem pairwise_apart_openings : openings.Pairwise fun x y => Apart x.2 y.2 := by decide

theorem apart_laterHeads : ∀ x ∈ openings, ∀ v ∈ laterHeads, Apart v x.2 := by decide

theorem squeezed_laterHeads : ∀ v ∈ laterHeads, squeezed v.toList = v.toList := by decide

theorem opening_of_mem : ∀ x ∈ openings, x.1.Opening x.2 := by
  have hopens : ∀ {P : Piece} {v : String}, P.Opens v → v ∈ laterHeads →
      ∀ s, P.Fits s → ∃ v ∈ laterHeads, v.toList <+: s := fun h hv => h.exists_word hv
  simp only [openings, List.forall_mem_cons, List.not_mem_nil, false_imp_iff, implies_true,
    and_true]
  refine ⟨⟨fun m h => ?_, fun P hP => ?_⟩, ⟨fun m h => ?_, fun P hP => ?_⟩,
    ⟨fun m h => ?_, fun P hP => ?_⟩, ⟨fun m h => ?_, fun P hP => ?_⟩,
    ⟨fun m h => ?_, fun P hP => ?_⟩⟩
  · exact h.prefix_squeezed_of_two Piece.slashes_is Piece.report_opens (by decide) (by decide)
      (by decide)
  · obtain rfl : P = .report := by simpa [lineComment] using hP
    exact hopens Piece.report_opens (by decide)
  · exact h.prefix_squeezed Piece.openBrace_is.opens (by decide)
  · obtain rfl | rfl | rfl : P = .openComment ∨ P = .reportComment ∨ P = .closeBrace := by
      simpa [blockComment] using hP
    · exact hopens Piece.openComment_is.opens (by decide)
    · exact hopens Piece.reportComment_opens (by decide)
    · exact hopens Piece.closeBrace_is.opens (by decide)
  · exact h.prefix_squeezed_of_two Piece.slashes_is Piece.dunderReport_opens (by decide)
      (by decide) (by decide)
  · obtain rfl : P = .dunderReport := by simpa [dunder] using hP
    exact hopens Piece.dunderReport_opens (by decide)
  · exact h.prefix_squeezed Piece.warnCall_is.opens (by decide)
  · obtain rfl : P = .debugText := by simpa [debugWarn] using hP
    have hheads : ["\"MF_REPORT_", "'MF_REPORT_"] ⊆ laterHeads := by decide
    intro s hs
    obtain ⟨v, hv, hpre⟩ := Piece.debugText_opens hs
    exact ⟨v, hheads hv, hpre⟩
  · exact h.prefix_squeezed_of_two Piece.slashes_is Piece.disableNextLine_is.opens (by decide)
      (by decide) (by decide)
  · obtain rfl | rfl : P = .disableNextLine ∨ P = .noConsole := by simpa [noConsole] using hP
    · exact hopens Piece.disableNextLine_is.opens (by decide)
    · exact hopens Piece.noConsole_is.opens (by decide)

/-! ## Matches that overlap -/

variable {k k' : MarkerRule} {w w' : String}

/-- What a match shares with a later match of another rule is blank. -/
theorem Opening.blank_of_overlap (hk : k.Opening w) (hk' : k'.Opening w') (hw : Apart w w')
    (hlater : ∀ v ∈ laterHeads, Apart v w') {b : Option Char} {u n r m r' : List Char}
    (h : k.marker.expr.Takes b (u ++ n) r) (h' : k'.marker.expr.Takes (lastOr b u) m r')
    (hsplit : n ++ r = m ++ r') : Blank n := by
  obtain ⟨-, hun, -⟩ := Marker.spaced_of_takes h
  obtain ⟨hu, hm, -⟩ := Marker.spaced_of_takes h'
  obtain ⟨Qs, Rs, hpieces, -, hn⟩ := hun.of_lineStart hu
  have hm : w'.toList <+: squeezed (n ++ r) := by
    rw [hsplit]
    exact (hk'.whole m hm).trans (squeezed_mono (List.prefix_append m r'))
  have hnr : squeezed n <+: squeezed (n ++ r) := squeezed_mono (List.prefix_append n r)
  cases Rs with
  | nil => exact spaced_nil_iff.mp hn
  | cons P Rs =>
    -- `n` begins with the whole marker or with a piece behind the first one
    exfalso
    cases Qs with
    | nil =>
      rw [List.nil_append] at hpieces
      exact hw.not_begins ((hk.whole n (hpieces ▸ hn)).trans hnr) hm
    | cons Q Qs =>
      obtain ⟨v, hv, hpre⟩ := hn.exists_prefix_squeezed (hk.later P (by simp [hpieces]))
        squeezed_laterHeads
      exact (hlater v hv).not_begins (hpre.trans hnr) hm

/-- A character that lies in a match and in a later match of another rule is a blank. -/
theorem Opening.isBlank_of_later (hk : k.Opening w) (hk' : k'.Opening w') (hw : Apart w w')
    (hlater : ∀ v ∈ laterHeads, Apart v w') {x m y x' m' y' : List Char} {i : Nat} {a : Char}
    (hsplit : x ++ (m ++ y) = x' ++ (m' ++ y')) (hle : x.length ≤ x'.length)
    (h : k.marker.expr.Takes (lastOr none x) m y)
    (h' : k'.marker.expr.Takes (lastOr none x') m' y')
    (ha : (x ++ (m ++ y))[i]? = some a) (hi : i < x.length + m.length) (hi' : x'.length ≤ i) :
    isBlank a = true := by
  obtain ⟨u, rfl⟩ : x <+: x' :=
    List.prefix_of_prefix_length_le (List.prefix_append x _) ⟨_, hsplit.symm⟩ hle
  rw [List.append_assoc, List.append_cancel_left_eq] at hsplit
  rw [List.length_append] at hi'
  obtain ⟨n, rfl⟩ : u <+: m :=
    List.prefix_of_prefix_length_le ⟨_, hsplit.symm⟩ (List.prefix_append m y) (by omega)
  rw [List.append_assoc, List.append_cancel_left_eq] at hsplit
  rw [lastOr_append] at h'
  have hn : Blank n := hk.blank_of_overlap hk' hw hlater h h' hsplit
  -- the character stands behind `x` and `u`, and before the end of `n`
  rw [List.length_append] at hi
  rw [List.append_assoc, List.getElem?_append_right (by omega),
    List.getElem?_append_right (by omega), List.getElem?_append_left (by omega)] at ha
  exact hn a (List.mem_of_getElem? ha)

/-- A character that lies in matches of both of two rules is a blank. -/
theorem Opening.isBlank_of_covers (hk : k.Opening w) (hk' : k'.Opening w') (hw : Apart w w')
    (hlater : ∀ v ∈ laterHeads, Apart v w ∧ Apart v w') {text : List Char} {m m' : Match} {i : Nat}
    {a : Char} (h : m ∈ k.compiled.regex.findAll text) (h' : m' ∈ k'.compiled.regex.findAll text)
    (ha : text[i]? = some a) (hi : m.Covers i) (hi' : m'.Covers i) : isBlank a = true := by
  obtain ⟨x, t, y, rfl, rfl, ht⟩ := k.takes_of_mem_findAll h
  obtain ⟨x', t', y', hsplit, rfl, ht'⟩ := k'.takes_of_mem_findAll h'
  rcases Nat.le_total x.length x'.length with hle | hle
  · exact hk.isBlank_of_later hk' hw (fun v hv => (hlater v hv).2) hsplit hle ht ht' ha hi.2 hi'.1
  · rw [hsplit] at ha
    exact hk'.isBlank_of_later hk ⟨hw.2, hw.1⟩ (fun v hv => (hlater v hv).1) hsplit.symm hle ht' ht
      ha hi'.2 hi.1

end MarkerRule

/-- No character of a text lies in matches of two of the marker rules, unless it is a blank. -/
theorem RuleTable.matches_disjoint (text : String) :
    RuleTable.markerRules.Pairwise fun r r' => ∃ c c', r.compile = .ok c ∧ r'.compile = .ok c' ∧
      ∀ m ∈ c.regex.findAll text.toList, ∀ m' ∈ c'.regex.findAll text.toList,
        ∀ i a, text.toList[i]? = some a → isBlank a = false → ¬ (m.Covers i ∧ m'.Covers i) := by
  have hrules : RuleTable.markerRules = MarkerRule.openings.map fun x => x.1.rule := rfl
  rw [hrules, List.pairwise_map]
  refine MarkerRule.pairwise_apart_openings.imp_of_mem fun {x y} hx hy hapart => ?_
  refine ⟨_, _, x.1.compiles, y.1.compiles, fun m hm m' hm' i a ha hblank hi => ?_⟩
  have := (MarkerRule.opening_of_mem x hx).isBlank_of_covers (MarkerRule.opening_of_mem y hy) hapart
    (fun v hv => ⟨MarkerRule.apart_laterHeads x hx v hv, MarkerRule.apart_laterHeads y hy v hv⟩)
    hm hm' ha hi.1 hi.2
  rw [this] at hblank
  cases hblank

end MarkerSweep
