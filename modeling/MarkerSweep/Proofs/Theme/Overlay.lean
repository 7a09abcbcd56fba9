import MarkerSweep.Proofs.Yaml.Reading
import MarkerSweep.Theme.Load
/-!
# Loaded themes

A theme file is read as a mapping of parts to styles. What it gives a part can be seen in its document
(`Theme.Given`): the style under the last key that picks the part, with the colour that the value of `fg`
names. What is read of the file is just that (`style?_ofStyles_iff`), and the theme that is loaded has it
for the parts that are given and the style of the built-in theme for all others (`Theme.Overlays`). The
names of colours that are recognised are those of the sixteen colours of a terminal, so no colour of a
loaded theme comes out as another one (`Color.NamedBy`).
-/

set_option autoImplicit false

namespace MarkerSweep

/-! ## Names of colours -/

namespace Color

/-- The text is a name of the colour, and the colour comes out as it is named. -/
structure NamedBy (c : Color) (text : String) : Prop where
  parsed : parse? text = some c
  lowered : c.name = Unicode.lowercase text
  again : parse? c.name = some c
  found : Tint.named? (Unicode.lowercase c.name) = some c.tint
  shown : c.tint.name = c.name
  white : c.tint = .white → c.name = "white"

variable {c : Color} {text : String}

theorem lowercase_of_mem_names : ∀ name ∈ names, Unicode.lowercase name = name := by
  decide

theorem named?_of_mem_names : ∀ name ∈ names, (Tint.named? name).map Tint.name = some name := by
  decide

theorem mem_names : ∀ t : Tint, t.name ∈ names
  | ⟨hue, bright⟩ => by cases hue <;> cases bright <;> decide

theorem parse?_eq_some_iff :
    parse? text = some c ↔ c.name = Unicode.lowercase text ∧ c.name ∈ names := by
  obtain ⟨name⟩ := c
  unfold parse?
  grind

theorem namedBy_of_parse? (h : parse? text = some c) : c.NamedBy text := by
  obtain ⟨hlower, hmem⟩ := parse?_eq_some_iff.mp h
  have hfixed := lowercase_of_mem_names _ hmem
  obtain ⟨t, ht, hname⟩ := Option.map_eq_some_iff.mp (named?_of_mem_names _ hmem)
  have htint : c.tint = t := by rw [tint, hfixed, ht, Option.getD_some]
  have hshown : c.tint.name = c.name := by rw [htint, hname]
  refine ⟨h, hlower, parse?_eq_some_iff.mpr ⟨hfixed.symm, hmem⟩, ?_, hshown, fun hwhite => ?_⟩
  · rw [hfixed, ht, htint]
  · rw [← hshown, hwhite]
    rfl

/-- A text names a colour if its lower-case form is the name of a colour of a terminal. -/
theorem exists_parse?_iff :
    (∃ c, parse? text = some c) ↔ ∃ t : Tint, t.name = Unicode.lowercase text := by
  constructor
  · rintro ⟨c, h⟩
    have hnamed := namedBy_of_parse? h
    exact ⟨c.tint, hnamed.shown.trans hnamed.lowered⟩
  · rintro ⟨t, ht⟩
    exact ⟨⟨t.name⟩, parse?_eq_some_iff.mpr ⟨ht, mem_names t⟩⟩

/-- What counts as absent names no colour. -/
theorem parse?_of_isNothing {mark : Yaml.Mark} {s : Yaml.Scalar}
    (h : (Yaml.Node.scalar mark s).isNothing = true) : parse? s.text = none := by
  have htext : s.text = "" ∨ s.text = "null" ∨ s.text = "Null" ∨ s.text = "NULL" ∨ s.text = "~" := by
    unfold Yaml.Node.isNothing at h
    grind [Yaml.isNull, String.isEmpty_iff]
  rcases htext with h | h | h | h | h <;> rw [h] <;> decide

end Color

theorem Entry.named?_name (e : Entry) : named? e.name = some e := by
  cases e <;> decide

theorem Entry.name_injective : Function.Injective Entry.name := fun a b h => by
  have hnamed := a.named?_name
  rw [h, b.named?_name] at hnamed
  exact (Option.some.inj hnamed).symm

namespace Theme

open Yaml (Node Document Decode)
open Yaml.Document (LastUnder)
open Yaml.Decode (reads_pure)

variable {d : Document} {n value key : Node} {entries : List (Node × Node)} {o : Option Color}
  {e : Entry} {s : Style}

/-! ## What a document gives -/

/-- The text under the last `fg` of some entries. -/
def ColorName (d : Document) (entries : List (Node × Node)) (text : String) : Prop :=
  ∃ value, LastUnder (d.Spells · "fg") entries value ∧ d.Spells value text

/-- The colour that the entries of a style give, if any. -/
inductive ColorGiven (d : Document) (entries : List (Node × Node)) : Option Color → Prop
  | omitted : (∀ p ∈ entries, ¬ d.Spells p.1 "fg") → ColorGiven d entries none
  | nothing {value n : Node} : LastUnder (d.Spells · "fg") entries value → d.Denotes value n →
      n.isNothing = true → ColorGiven d entries none
  | named {text : String} {c : Color} : ColorName d entries text → Color.parse? text = some c →
      ColorGiven d entries (some c)

/-- The style that a value gives. -/
def StyleGiven (d : Document) (n : Node) (s : Style) : Prop :=
  ∃ entries, d.HasEntries n entries ∧ ColorGiven d entries s.color

/-- The style that the entries of a theme give a part: the last one. -/
def GivenAmong (d : Document) (entries : List (Node × Node)) (e : Entry) (s : Style) : Prop :=
  ∃ value, LastUnder (d.Picks · e.name) entries value ∧ StyleGiven d value s

/-- The style that a document gives a part. -/
def Given (d : Document) (e : Entry) (s : Style) : Prop :=
  ∃ entries, d.HasEntries d.root entries ∧ GivenAmong d entries e s

/-- The text that a document gives as the colour of a part. -/
def ColorText (d : Document) (e : Entry) (text : String) : Prop :=
  ∃ entries value inner, d.HasEntries d.root entries ∧ LastUnder (d.Picks · e.name) entries value ∧
    d.HasEntries value inner ∧ ColorName d inner text

theorem ColorName.unique {a b : String} (ha : ColorName d entries a) (hb : ColorName d entries b) :
    a = b := by
  obtain ⟨v, hv, ha⟩ := ha
  obtain ⟨w, hw, hb⟩ := hb
  obtain rfl := hv.unique hw
  exact ha.unique hb

theorem ColorName.not_omitted {text : String} (h : ColorName d entries text) :
    ¬ ∀ p ∈ entries, ¬ d.Spells p.1 "fg" := by
  obtain ⟨_, hlast, -⟩ := h
  obtain ⟨p, hp, hspells⟩ := hlast.exists_mem
  exact fun hnone => hnone p hp hspells

/-- A name of a colour is not nothing. -/
theorem ColorName.not_nothing {text : String} {c : Color} (h : ColorName d entries text)
    (hc : Color.parse? text = some c) (hlast : LastUnder (d.Spells · "fg") entries value)
    (hn : d.Denotes value n) : n.isNothing = false := by
  obtain ⟨v, hv, mark, scalar, hscalar, rfl⟩ := h
  obtain rfl := hlast.unique hv
  rw [Bool.eq_false_iff]
  intro hnothing
  obtain rfl := hn.unique hscalar (Node.direct_of_isNothing hnothing) nofun
  rw [Color.parse?_of_isNothing hnothing] at hc
  cases hc

theorem ColorGiven.unique {o' : Option Color} (h : ColorGiven d entries o)
    (h' : ColorGiven d entries o') : o = o' := by
  cases h with
  | omitted hnone =>
    cases h' with
    | omitted | nothing => rfl
    | named hname => exact absurd hnone hname.not_omitted
  | nothing hlast hn hnothing =>
    cases h' with
    | omitted | nothing => rfl
    | named hname hc => simp [hname.not_nothing hc hlast hn] at hnothing
  | named hname hc =>
    cases h' with
    | omitted hnone => exact absurd hnone hname.not_omitted
    | nothing hlast hn hnothing => simp [hname.not_nothing hc hlast hn] at hnothing
    | named hname' hc' =>
      obtain rfl := hname.unique hname'
      exact hc.symm.trans hc'

theorem StyleGiven.unique {s' : Style} (h : StyleGiven d n s) (h' : StyleGiven d n s') : s = s' := by
  obtain ⟨entries, hentries, hs⟩ := h
  obtain ⟨entries', hentries', hs'⟩ := h'
  obtain rfl := hentries.unique hentries'
  obtain ⟨color⟩ := s
  obtain ⟨color'⟩ := s'
  exact congrArg Style.mk (hs.unique hs')

theorem ColorGiven.skip (h : ColorGiven d entries o) (hkey : ¬ d.Spells key "fg") :
    ColorGiven d (entries ++ [(key, value)]) o := by
  have hlater : ∀ {v}, LastUnder (d.Spells · "fg") entries v →
      LastUnder (d.Spells · "fg") (entries ++ [(key, value)]) v :=
    fun hlast => Yaml.Document.lastUnder_concat.mpr (.inr ⟨hkey, hlast⟩)
  cases h with
  | omitted hnone => exact .omitted (List.forall_mem_append.mpr ⟨hnone, by simpa using hkey⟩)
  | nothing hlast hn hnothing => exact .nothing (hlater hlast) hn hnothing
  | named hname hc =>
    obtain ⟨v, hlast, hspells⟩ := hname
    exact .named ⟨v, hlater hlast, hspells⟩ hc

/-! ## What is read -/

theorem spells_of_reads_decodeColor {route : Yaml.Route} {c : Color}
    (h : (decodeColor route n).Reads d c) : ∃ text, d.Spells n text ∧ Color.parse? text = some c := by
  obtain ⟨text, htext, h⟩ := Decode.Reads.of_bind h
  refine ⟨text, htext.of_text, ?_⟩
  split at h
  · obtain rfl := reads_pure.mp h
    assumption
  · exact absurd h Decode.not_reads_throw

/-- What the value of `fg` is read as is the colour that it gives. -/
theorem colorGiven_of_reads {route : Yaml.Route}
    (h : (Decode.optional (decodeColor route) value).Reads d o) (hkey : d.Spells key "fg") :
    ColorGiven d (entries ++ [(key, value)]) o := by
  have hlast : LastUnder (d.Spells · "fg") (entries ++ [(key, value)]) value :=
    Yaml.Document.lastUnder_concat.mpr (.inl ⟨hkey, rfl⟩)
  obtain ⟨m, hm, hcase⟩ := h.of_optional
  rcases hcase with ⟨hnothing, rfl⟩ | ⟨c, hc, rfl⟩
  · exact .nothing hlast hm hnothing
  · obtain ⟨text, ⟨mark, scalar, hscalar, htext⟩, hparse⟩ := spells_of_reads_decodeColor hc
    exact .named ⟨value, hlast, mark, scalar, hm.trans hscalar, htext⟩ hparse

/-- The entries of a style that have been read, and which fields have been met among them. -/
def StyleSoFar (d : Document) (entries : List (Node × Node)) (read : List String × Style) : Prop :=
  ColorGiven d entries read.2.color ∧ ("fg" ∉ read.1 → ∀ p ∈ entries, ¬ d.Spells p.1 "fg")

theorem styleSoFar_concat {route inner : Yaml.Route} {read next : List String × Style}
    (h : StyleSoFar d entries read)
    (hentry : (Decode.recordEntry styleFields route key inner value read).Reads d next) :
    StyleSoFar d (entries ++ [(key, value)]) next := by
  obtain ⟨hcolor, hfresh⟩ := h
  obtain ⟨name, hname, hcase⟩ := hentry.of_recordEntry
  rcases hcase with ⟨hunknown, rfl⟩ | ⟨f, style, hfield, hnew, hread, rfl⟩
  · have hkey : ¬ d.Spells key "fg" := by
      intro hspells
      rw [hname.unique hspells] at hunknown
      cases hunknown
    refine ⟨hcolor.skip hkey, fun hmet => List.forall_mem_append.mpr ⟨hfresh hmet, ?_⟩⟩
    simpa using hkey
  · obtain rfl : f.name = name := by simpa using List.find?_some hfield
    obtain rfl := List.mem_singleton.mp (List.mem_of_find?_eq_some hfield)
    obtain ⟨o, ho, hread⟩ := Decode.Reads.of_bind hread
    obtain rfl := reads_pure.mp hread
    exact ⟨colorGiven_of_reads ho hname, fun hmet => absurd List.mem_cons_self hmet⟩

theorem styleGiven_of_reads {route : Yaml.Route} (h : (decodeStyle route n).Reads d s) :
    StyleGiven d n s := by
  obtain ⟨entries, read, hentries, hread, hdone⟩ := Decode.Reads.of_mapping (StyleSoFar d)
    ⟨.omitted (by simp), by simp⟩ styleSoFar_concat h
  obtain rfl := hdone.of_checkFields
  exact ⟨entries, hentries, hread.1⟩

theorem picks_of_reads_decodeEntry {route : Yaml.Route} (h : (decodeEntry route n).Reads d e) :
    d.Picks n e.name := by
  obtain ⟨name, hname, hlookup⟩ := h.of_variant
  obtain ⟨before, after, hall, -⟩ := List.lookup_eq_some_iff.mp hlookup
  have hmem : (name, e) ∈ Entry.all.map fun e => (e.name, e) := by simp [hall]
  obtain ⟨e', -, heq⟩ := List.mem_map.mp hmem
  obtain ⟨rfl, rfl⟩ := Prod.mk.inj heq
  exact hname

theorem ofStyles_concat (styles : List (Entry × Style)) (e : Entry) (s : Style) :
    ofStyles (styles ++ [(e, s)]) = (ofStyles styles).set e s := by
  simp [ofStyles]

/-- What has been read is what the entries read give. -/
def StylesSoFar (d : Document) (entries : List (Node × Node)) (styles : List (Entry × Style)) : Prop :=
  ∀ e s, (ofStyles styles).style? e = some s ↔ GivenAmong d entries e s

theorem stylesSoFar_concat {styles : List (Entry × Style)} (h : StylesSoFar d entries styles)
    (hkey : d.Picks key e.name) (hvalue : StyleGiven d value s) :
    StylesSoFar d (entries ++ [(key, value)]) (styles ++ [(e, s)]) := by
  intro e' s'
  rw [ofStyles_concat, set]
  dsimp only
  simp only [GivenAmong, Yaml.Document.lastUnder_concat]
  by_cases heq : e' = e
  · subst heq
    rw [if_pos rfl, Option.some.injEq]
    constructor
    · rintro rfl
      exact ⟨value, .inl ⟨hkey, rfl⟩, hvalue⟩
    · rintro ⟨v, ⟨-, rfl⟩ | ⟨hother, -⟩, hs⟩
      · exact hvalue.unique hs
      · exact absurd hkey hother
  · have hother : ¬ d.Picks key e'.name :=
      fun hpicks => heq (Entry.name_injective (hpicks.unique hkey))
    rw [if_neg heq, h e' s']
    simp [GivenAmong, hother]

/-- The styles that are read of a text are those that its document gives. -/
theorem style?_ofStyles_iff {text : String} {styles : List (Entry × Style)}
    (h : parse text = .ok styles) :
    (ofStyles styles).style? e = some s ↔ Given (Document.ofText text) e s := by
  obtain ⟨entries, _, hentries, hread, hdone⟩ := Decode.Reads.of_mapping
    (StylesSoFar (Document.ofText text))
    (fun e s => by simp [ofStyles, empty, GivenAmong, Yaml.Document.not_lastUnder_nil])
    (fun hsofar hentry => by
      obtain ⟨e, he, hentry⟩ := Decode.Reads.of_bind hentry
      obtain ⟨s, hs, hentry⟩ := Decode.Reads.of_bind hentry
      obtain rfl := reads_pure.mp hentry
      exact stylesSoFar_concat hsofar (picks_of_reads_decodeEntry he) (styleGiven_of_reads hs))
    (Decode.reads_of_ofText h)
  obtain rfl := reads_pure.mp hdone
  rw [hread e s]
  constructor
  · exact fun hgiven => ⟨entries, hentries, hgiven⟩
  · rintro ⟨entries', hentries', hgiven⟩
    rwa [hentries.unique hentries']

/-! ## Loaded themes -/

/-- The theme has what the document gives, and the style of the built-in theme for all else. -/
structure Overlays (t : Theme) (d : Document) : Prop where
  total : ∀ e, (t.style? e).isSome
  given : ∀ e s, Given d e s → t.style? e = some s
  omitted : ∀ e, (∀ s, ¬ Given d e s) → t.style? e = builtin.style? e
  /-- A part whose style has no `fg` has no colour, not even that of the built-in theme. -/
  colorless : ∀ e entries value inner, d.HasEntries d.root entries →
    LastUnder (d.Picks · e.name) entries value → d.HasEntries value inner →
    (∀ p ∈ inner, ¬ d.Spells p.1 "fg") → t.color? e = none
  /-- A colour is named by the document or, for a part without a style there, by the built-in theme. -/
  colored : ∀ e c, t.color? e = some c → ∃ text, c.NamedBy text ∧
    (ColorText d e text ∨ (∀ s, ¬ Given d e s) ∧ builtin.color? e = some ⟨text⟩)

theorem style?_builtin (e : Entry) : builtin.style? e = builtinStyles.lookup e := by
  cases e <;> rfl

theorem isSome_builtin (e : Entry) : (builtin.style? e).isSome := by
  cases e <;> rfl

theorem style?_fill (t : Theme) (e e' : Entry) (s : Style) :
    (t.fill e s).style? e' = (t.style? e').or (if e' = e then some s else none) := by
  unfold fill
  split
  · by_cases heq : e' = e <;> simp_all
  · by_cases heq : e' = e <;> simp_all [set]

/-- Styles that are filled in never replace one. -/
theorem style?_filled (t : Theme) (styles : List (Entry × Style)) (e : Entry) :
    (t.filled styles).style? e = (t.style? e).or (styles.lookup e) := by
  induction styles generalizing t with
  | nil => simp [filled]
  | cons p styles ih =>
    obtain ⟨e', s⟩ := p
    have hfilled : t.filled ((e', s) :: styles) = (t.fill e' s).filled styles := rfl
    rw [hfilled, ih, style?_fill, Option.or_assoc, List.lookup_cons]
    by_cases heq : e = e'
    · simp [heq]
    · simp [heq, beq_eq_false_iff_ne.mpr heq]

theorem style?_filled_builtin (t : Theme) (e : Entry) :
    (t.filled builtinStyles).style? e = (t.style? e).or (builtin.style? e) := by
  rw [style?_filled, style?_builtin]

theorem namedBy_of_builtin {c : Color} (h : builtin.color? e = some c) : c.NamedBy c.name := by
  apply Color.namedBy_of_parse?
  cases e <;> obtain rfl := Option.some.inj h <;> decide

theorem colorText_of_given {c : Color} (h : Given d e ⟨some c⟩) :
    ∃ text, ColorText d e text ∧ Color.parse? text = some c := by
  obtain ⟨entries, hentries, value, hlast, inner, hinner, hcolor⟩ := h
  cases hcolor with
  | named hname hc => exact ⟨_, ⟨entries, value, inner, hentries, hlast, hinner, hname⟩, hc⟩

section

variable {m : Theme}

theorem style?_filled_of_given (hm : ∀ e s, m.style? e = some s ↔ Given d e s) (hs : Given d e s) :
    (m.filled builtinStyles).style? e = some s := by
  rw [style?_filled_builtin, (hm e s).mpr hs, Option.some_or]

theorem style?_filled_of_not_given (hm : ∀ e s, m.style? e = some s ↔ Given d e s)
    (hnone : ∀ s, ¬ Given d e s) : (m.filled builtinStyles).style? e = builtin.style? e := by
  have hmissing : m.style? e = none :=
    Option.eq_none_iff_forall_ne_some.mpr fun s hs => hnone s ((hm e s).mp hs)
  rw [style?_filled_builtin, hmissing, Option.none_or]

/-- Whatever gives a part its colour gives it by a name. -/
theorem namedBy_of_filled (hm : ∀ e s, m.style? e = some s ↔ Given d e s) {c : Color}
    (hc : (m.filled builtinStyles).color? e = some c) : ∃ text, c.NamedBy text ∧
      (ColorText d e text ∨ (∀ s, ¬ Given d e s) ∧ builtin.color? e = some ⟨text⟩) := by
  by_cases hmet : ∃ s, Given d e s
  · obtain ⟨⟨color⟩, hs⟩ := hmet
    rw [color?, style?_filled_of_given hm hs] at hc
    obtain rfl : color = some c := hc
    obtain ⟨text, htext, hparse⟩ := colorText_of_given hs
    exact ⟨text, Color.namedBy_of_parse? hparse, .inl htext⟩
  · have hnone : ∀ s, ¬ Given d e s := not_exists.mp hmet
    rw [color?, style?_filled_of_not_given hm hnone] at hc
    exact ⟨c.name, namedBy_of_builtin hc, .inr ⟨hnone, hc⟩⟩

theorem overlays_filled (hm : ∀ e s, m.style? e = some s ↔ Given d e s) :
    (m.filled builtinStyles).Overlays d where
  total e := by rw [style?_filled_builtin, Option.isSome_or, isSome_builtin, Bool.or_true]
  given _ _ hs := style?_filled_of_given hm hs
  omitted _ hnone := style?_filled_of_not_given hm hnone
  colorless e entries value inner hentries hlast hinner hnone := by
    have hs : Given d e ⟨none⟩ := ⟨entries, hentries, value, hlast, inner, hinner, .omitted hnone⟩
    rw [color?, style?_filled_of_given hm hs]
    rfl
  colored _ _ hc := namedBy_of_filled hm hc

end

/-- A theme file that loads is a mapping of parts to styles. The theme has the style of every part that is
given, and that of the built-in theme for the others. Its colours are named by texts, and exactly the
texts whose lower-case form is the name of a colour of a terminal name one. -/
theorem load_overlays {path : Path} {content : Except IoError String} {t : Theme}
    (h : load path content = .ok t) :
    ∃ text styles, content = .ok text ∧ parse text = .ok styles ∧
      (∀ e s, (ofStyles styles).style? e = some s ↔ Given (Document.ofText text) e s) ∧
      t.Overlays (Document.ofText text) ∧
      ∀ name, (∃ c, Color.parse? name = some c) ↔ ∃ tint : Tint, tint.name = Unicode.lowercase name := by
  unfold load at h
  split at h
  · cases h
  · rename_i text
    split at h
    · cases h
    · rename_i styles hparse
      obtain rfl := Except.ok.inj h
      have hgiven : ∀ e s, (ofStyles styles).style? e = some s ↔ Given (Document.ofText text) e s :=
        fun e s => style?_ofStyles_iff hparse
      exact ⟨text, styles, rfl, hparse, hgiven, overlays_filled hgiven,
        fun name => Color.exists_parse?_iff⟩

/-- A part that shares the style of another one, a part with an empty style, and one with two styles, of
which the last has no colour. -/
def sampleText : String :=
  "success: &own\n  fg: BrightRED\nwarn: *own\ninfo:\nerror:\n  fg: red\nerror:\n  fg: ~\n"

def sampleStyles : List (Entry × Style) :=
  [(.success, ⟨some ⟨"brightred"⟩⟩), (.warn, ⟨some ⟨"brightred"⟩⟩), (.info, {}),
    (.error, ⟨some ⟨"red"⟩⟩), (.error, {})]

theorem load_overlays_sample :
    parse sampleText = .ok sampleStyles ∧
      ∃ t, load (Path.ofString "theme.yaml") (.ok sampleText) = .ok t ∧
        t.color? .success = some ⟨"brightred"⟩ ∧ t.color? .warn = some ⟨"brightred"⟩ ∧
        t.color? .info = none ∧ t.color? .error = none ∧ t.color? .diffAdded = some ⟨"green"⟩ ∧
        ∃ text, (⟨"brightred"⟩ : Color).NamedBy text ∧
          ColorText (Document.ofText sampleText) .success text := by
  have hparse : parse sampleText = .ok sampleStyles := by decide +kernel
  obtain ⟨t, ht⟩ : ∃ t, load (Path.ofString "theme.yaml") (.ok sampleText) = .ok t := by
    simp only [load, hparse]
    exact ⟨_, rfl⟩
  obtain ⟨text, styles, htext, hstyles, hread, hover, -⟩ := load_overlays ht
  obtain rfl := Except.ok.inj htext
  obtain rfl := Except.ok.inj (hparse.symm.trans hstyles)
  have hcolor : ∀ e s, (ofStyles sampleStyles).style? e = some s → t.color? e = s.color := by
    intro e s hs
    rw [color?, hover.given e s ((hread e s).mp hs)]
    rfl
  have hadded : t.color? .diffAdded = builtin.color? .diffAdded := by
    rw [color?, hover.omitted .diffAdded fun s hs => nomatch (hread _ s).mpr hs]
    rfl
  refine ⟨hparse, t, ht, hcolor _ _ rfl, hcolor _ _ rfl, hcolor _ _ rfl, hcolor _ _ rfl, hadded, ?_⟩
  obtain ⟨text, hnamed, htext | ⟨hnone, -⟩⟩ := hover.colored .success _ (hcolor _ _ rfl)
  · exact ⟨text, hnamed, htext⟩
  · exact absurd ((hread .success _).mp rfl) (hnone _)

end Theme

end MarkerSweep
