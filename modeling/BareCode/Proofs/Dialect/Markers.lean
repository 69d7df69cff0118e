import BareCode.Comment.Block
import BareCode.Comment.Guard
import BareCode.Dialect.Catalog
import BareCode.Text.Blank
/-! # Markers of the catalog — plain, and apart from each other

    Nothing in the type of a dialect keeps its markers from being empty, blank or parts
    of each other.  The theory of stripping needs a few properties of them, each decided
    once for the whole catalog and handed down to every selection:

    * every marker is *plain*: it holds a character and no blank;
    * line markers are *apart*: none begins within another (both in `WellMarked`);
    * a closer on its own holds no span (`firstSpan?_closer`), and there is a letter in
      no marker (`x_not_mem_lineMarker`, `x_not_mem_blockMarkers`). -/

namespace BareCode

variable {ds : List Dialect} {ids : List String} {m : Text} {p : BlockPair}

/-- A marker is plain when it holds a character, and no blank. -/
def Text.IsPlain (m : Text) : Prop := m ≠ [] ∧ ∀ c ∈ m, isBlank c = false

/-- Plainness is decided along the characters of the marker. -/
instance (m : Text) : Decidable m.IsPlain :=
  decidable_of_iff (m ≠ [] ∧ m.all (fun c => !isBlank c) = true) (by simp [Text.IsPlain])

/-- A plain marker holds no newline. -/
theorem Text.IsPlain.newline_not_mem (h : m.IsPlain) : '\n' ∉ m := fun hm => by
  have := h.2 '\n' hm
  exact absurd this (by decide)

/-- Nor does it hold any other blank. -/
theorem Text.IsPlain.not_mem_of_isBlank {c : Char} (h : m.IsPlain) (hc : isBlank c = true) :
    c ∉ m := fun hm => by
  rw [h.2 c hm] at hc
  exact Bool.noConfusion hc

/-- The line markers of some dialects are those of the single dialects. -/
theorem mem_lineMarkers : m ∈ lineMarkers ds ↔ ∃ d ∈ ds, m ∈ d.lineMarkers := by
  rw [lineMarkers, List.mem_eraseDups, List.mem_flatMap]

/-- The block pairs of some dialects are those of the single dialects. -/
theorem mem_blockMarkers : p ∈ blockMarkers ds ↔ ∃ d ∈ ds, p ∈ d.blockMarkers := by
  rw [blockMarkers, List.mem_eraseDups, List.mem_flatMap]

theorem mem_lineMarkers_catalog (h : m ∈ lineMarkers (Dialect.choose ids)) :
    m ∈ lineMarkers catalog := by
  obtain ⟨d, hd, hm⟩ := mem_lineMarkers.mp h
  exact mem_lineMarkers.mpr ⟨d, (Dialect.mem_choose.mp hd).1, hm⟩

theorem mem_blockMarkers_catalog (h : p ∈ blockMarkers (Dialect.choose ids)) :
    p ∈ blockMarkers catalog := by
  obtain ⟨d, hd, hp⟩ := mem_blockMarkers.mp h
  exact mem_blockMarkers.mpr ⟨d, (Dialect.mem_choose.mp hd).1, hp⟩

/-! ## What stripping relies on -/

/-- Markers as the passes need them: the line markers are plain and apart from each
    other, and the block markers are plain. -/
structure WellMarked (ds : List Dialect) : Prop where
  line_plain : ∀ m ∈ lineMarkers ds, m.IsPlain
  line_apart : ∀ m ∈ lineMarkers ds, ∀ m' ∈ lineMarkers ds, (∃ c ∈ m'.head?, c ∈ m) → m' = m
  block_plain : ∀ p ∈ blockMarkers ds, p.opener.IsPlain ∧ p.closer.IsPlain

/-- No opener holds a newline. -/
theorem WellMarked.newline_not_mem_opener (h : WellMarked ds) :
    ∀ p ∈ blockMarkers ds, '\n' ∉ p.opener := by
  intro p hp
  exact (h.block_plain p hp).1.newline_not_mem

/-- Every selection from the catalog is well marked. -/
theorem wellMarked_choose (ids : List String) : WellMarked (Dialect.choose ids) where
  line_plain := by
    have hall : ∀ m ∈ lineMarkers catalog, m.IsPlain := by decide
    intro m hm
    exact hall m (mem_lineMarkers_catalog hm)
  line_apart := by
    have hall : ∀ m ∈ lineMarkers catalog, ∀ m' ∈ lineMarkers catalog,
        m'.head?.any (m.contains ·) = true → m' = m := by decide
    intro m hm m' hm' hc
    obtain ⟨c, hc, hcm⟩ := hc
    refine hall m (mem_lineMarkers_catalog hm) m' (mem_lineMarkers_catalog hm') ?_
    exact (Option.any_eq_true _ _).mpr ⟨c, hc, List.contains_iff_mem.mpr hcm⟩
  block_plain := by
    have hall : ∀ p ∈ blockMarkers catalog, p.opener.IsPlain ∧ p.closer.IsPlain := by decide
    intro p hp
    exact hall p (mem_blockMarkers_catalog hp)

/-! ## What the catalog holds besides -/

/-- No block pair of a selection finds a span in a closer. -/
theorem firstSpan?_closer {q : BlockPair} (hp : p ∈ blockMarkers (Dialect.choose ids))
    (hq : q ∈ blockMarkers (Dialect.choose ids)) : q.firstSpan? p.closer = none := by
  have hall : ∀ p ∈ blockMarkers catalog, ∀ q ∈ blockMarkers catalog,
      q.firstSpan? p.closer = none := by decide
  exact hall p (mem_blockMarkers_catalog hp) q (mem_blockMarkers_catalog hq)

/-- The letter `x` is in no line marker. -/
theorem x_not_mem_lineMarker (h : m ∈ lineMarkers (Dialect.choose ids)) : 'x' ∉ m := by
  have hall : ∀ m ∈ lineMarkers catalog, 'x' ∉ m := by decide
  exact hall m (mem_lineMarkers_catalog h)

/-- The letter `x` is in no block marker. -/
theorem x_not_mem_blockMarkers (h : p ∈ blockMarkers (Dialect.choose ids)) :
    'x' ∉ p.opener ∧ 'x' ∉ p.closer := by
  have hall : ∀ p ∈ blockMarkers catalog, 'x' ∉ p.opener ∧ 'x' ∉ p.closer := by decide
  exact hall p (mem_blockMarkers_catalog h)

end BareCode
