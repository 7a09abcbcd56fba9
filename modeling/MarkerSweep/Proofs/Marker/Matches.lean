import MarkerSweep.Proofs.Marker.CodeLines
/-!
# Where the matches of a marker rule stand

A match is a pair of places, and what is said of matches is said of the characters between them. A
match of a marker rule fills its lines, so where another line of the text begins inside of a match it
begins between two pieces of the marker (`Spaced.of_lineStart`), and a line that is a marker by itself
lies in one match as a whole (`Sweep.exists_covering`).
-/

set_option autoImplicit false

namespace MarkerSweep

open Pattern Text

/-- From the start of a line on, a text of some pieces is a text of the last of them. -/
theorem Spaced.of_lineStart {Ps : List Piece} {b : Option Char} {u n : List Char}
    (h : Spaced Ps (u ++ n)) (hu : AtLineStart (lastOr b u)) :
    ∃ Qs Rs, Ps = Qs ++ Rs ∧ Spaced Qs u ∧ Spaced Rs n := by
  by_cases hnil : u = []
  · subst hnil
    exact ⟨[], Ps, rfl, .blank blank_nil, h⟩
  · obtain ⟨v, rfl⟩ := exists_concat_of_atLineStart hnil hu
    rw [List.append_assoc, List.singleton_append] at h
    obtain ⟨Qs, Rs, hsplit, hQs, hRs⟩ := spaced_append_lineFeed_iff.mp h
    exact ⟨Qs, Rs, hsplit, spaced_concat_lineFeed_iff.mpr hQs, hRs⟩

/-- A line that is a whole marker lies in a match. -/
theorem Pattern.Sweep.exists_covering {k : Marker} {b : Option Char} {s last l v : List Char}
    {cuts : List Cut} (h : Sweep k.expr b s cuts last) (hl : '\n' ∉ l)
    (hspaced : Spaced k.pieces l) (hv : AtLineEnd v) :
    ∀ {x : List Char}, s = x ++ (l ++ v) → AtLineStart (lastOr b x) → ∀ start,
      ∃ m ∈ spans start cuts,
        m.first ≤ start + x.length ∧ start + x.length + l.length ≤ m.last := by
  induction h with
  | stop hq _ =>
    intro x hs hx
    exact absurd hspaced (hq.not_spaced hs hx (by simpa using hv))
  | @hit b g m r last cuts hq hh _ ih =>
    intro x hs hx start
    obtain ⟨hstart, -, hend⟩ := Marker.spaced_of_takes (takes_of_hit hh)
    rcases cut_outside_line hl hs.symm (.inl hstart) with ⟨u, rfl, hmr⟩ | ⟨w, rfl, rfl⟩
    · rw [lastOr_append] at hx
      rcases cut_outside_line hl hmr.symm hend with ⟨u, rfl, hr⟩ | ⟨w, rfl, rfl⟩
      · -- the match lies before the line, so the line is in the rest of the text
        rw [← lastOr_append, ← List.append_assoc, lastOr_append] at hx
        obtain ⟨m', hm', hfirst, hlast⟩ := ih hr hx (start + g.length + m.length)
        refine ⟨m', List.mem_cons_of_mem _ hm', ?_, ?_⟩ <;>
          simp only [List.length_append] <;> omega
      · refine ⟨_, List.mem_cons_self, ?_, ?_⟩ <;> simp only [List.length_append] <;> omega
    · -- the line would be in a stretch without a match
      exact absurd hspaced (hq.not_spaced rfl hx hv)

/-- A match that is found stands somewhere in the text, and its marker takes what it covers. -/
theorem MarkerRule.takes_of_mem_findAll (k : MarkerRule) {text : List Char} {m : Match}
    (h : m ∈ k.compiled.regex.findAll text) : ∃ before taken after,
      text = before ++ (taken ++ after) ∧ m = ⟨before.length, before.length + taken.length⟩ ∧
        k.marker.expr.Takes (lastOr none before) taken after := by
  obtain ⟨cuts, last, hsweep, hfind⟩ :=
    CompiledRule.findAll_sweep (r := k.compiled) rfl k.loopsConsume k.consumes text
  rw [hfind] at h
  obtain ⟨before, taken, after, htext, hplace, hends⟩ := hsweep.exists_of_mem_spans h
  exact ⟨before, taken, after, htext, by simpa using hplace, takes_of_hit hends⟩

/-- Applying a marker rule leaves the characters that lie in none of its matches. -/
theorem MarkerRule.apply_eq_uncovered (k : MarkerRule) (text : List Char) :
    k.compiled.apply (String.ofList text) =
      String.ofList (uncovered (k.compiled.regex.findAll text) text) := by
  obtain ⟨cuts, last, hsweep, hfind⟩ :=
    CompiledRule.findAll_sweep (r := k.compiled) rfl k.loopsConsume k.consumes text
  obtain ⟨cuts', last', hsweep', happly⟩ := k.applyCounted_sweep (String.ofList text)
  rw [String.toList_ofList] at hsweep'
  obtain ⟨rfl, rfl⟩ := hsweep.unique hsweep'
  rw [CompiledRule.apply, happly, hfind, uncovered, ← uncoveredFrom_spans last 0 cuts,
    ← hsweep.eq_joined]

section

variable {k : MarkerRule} {x l v : List Char}

/-- Some match of the rule covers the whole of a line that is a marker. -/
theorem MarkerRule.exists_covering (hl : '\n' ∉ l) (hspaced : Spaced k.marker.pieces l)
    (hx : AtLineStart (lastOr none x)) (hv : AtLineEnd v) :
    ∃ m ∈ k.compiled.regex.findAll (x ++ (l ++ v)), ∀ i < l.length, m.Covers (x.length + i) := by
  obtain ⟨cuts, last, hsweep, hfind⟩ := CompiledRule.findAll_sweep (r := k.compiled) rfl
    k.loopsConsume k.consumes (x ++ (l ++ v))
  obtain ⟨m, hm, hfirst, hlast⟩ := hsweep.exists_covering hl hspaced hv rfl hx 0
  rw [hfind]
  exact ⟨m, hm, fun i hi => ⟨by omega, by omega⟩⟩

/-- No match of the rule covers anything of a foreign line or the line feed behind it. -/
theorem Marker.Foreign.not_covers (hf : k.marker.Foreign l) (hx : AtLineStart (lastOr none x))
    (hv : AtLineEnd v) :
    ∀ m ∈ k.compiled.regex.findAll (x ++ (l ++ v)), ∀ i ≤ l.length, ¬ m.Covers (x.length + i) := by
  rintro m hm i hi ⟨hfirst, hlast⟩
  obtain ⟨before, taken, after, htext, rfl, ht⟩ := k.takes_of_mem_findAll hm
  rcases hf.one_side hx hv htext ht with ⟨x', rfl, -⟩ | ⟨v', hne, rfl, -⟩
  · simp only [List.length_append] at hlast
    omega
  · have := List.length_pos_iff.mpr hne
    simp only [List.length_append] at hfirst
    omega

end

end MarkerSweep
