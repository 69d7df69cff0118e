import BareCode.Comment.Strip
import BareCode.Proofs.Dialect.Markers
/-! # Selection — what a list of ids, or of dialects, is good for

    The passes run through the markers in order, so two selections that differ in their
    order could strip a text differently.  They do not, for two reasons:

    * a choice is a filter of the catalog, so that a list of ids counts only for the
      catalog ids on it (`choose_congr`);
    * a marker counts where it first comes up, so that a dialect which brings nothing new
      may stand anywhere (`stripComments_insert`). -/

namespace BareCode

/-! ## Ids -/

/-- Two lists of ids name the same dialects of the catalog; order, repeats and ids that
    are not known make no difference. -/
def SameKnown (ids ids' : List String) : Prop := ∀ id ∈ knownIds, id ∈ ids ↔ id ∈ ids'

instance (ids ids' : List String) : Decidable (SameKnown ids ids') :=
  inferInstanceAs (Decidable (∀ id ∈ knownIds, id ∈ ids ↔ id ∈ ids'))

namespace Dialect

variable {ids ids' : List String}

theorem choose_congr (h : SameKnown ids ids') : choose ids = choose ids' := by
  refine List.filter_congr fun d hd => ?_
  rw [Bool.eq_iff_iff, List.contains_iff_mem, List.contains_iff_mem]
  exact h d.id (List.mem_map_of_mem hd)

/-- The ids of a choice are the known ones, in the order of the catalog. -/
theorem map_id_choose (ids : List String) :
    (choose ids).map (·.id) = knownIds.filter (· ∈ ids) := by
  rw [choose, knownIds, List.filter_map]
  congr 1
  refine List.filter_congr fun d _ => ?_
  exact List.contains_eq_mem d.id ids

end Dialect

/-- No two dialects of the catalog share an id. -/
theorem knownIds_nodup : knownIds.Nodup := by decide

theorem SameKnown.filter_eq {ids ids' : List String} (h : SameKnown ids ids') :
    knownIds.filter (· ∈ ids) = knownIds.filter (· ∈ ids') := by
  rw [← Dialect.map_id_choose, ← Dialect.map_id_choose, Dialect.choose_congr h]

theorem stripLanguages_congr {ids ids' : List String} (h : SameKnown ids ids') (o : StripOptions)
    (t : Text) : stripLanguages ids o t = stripLanguages ids' o t := by
  rw [stripLanguages, stripLanguages, Dialect.choose_congr h]

/-! ## Dialects -/

/-- Entries that came up before may be left out before repeats are dropped. -/
theorem eraseDups_append_known {α : Type} [BEq α] [LawfulBEq α] {xs ys : List α}
    (h : ∀ y ∈ ys, y ∈ xs) (zs : List α) :
    (xs ++ (ys ++ zs)).eraseDups = (xs ++ zs).eraseDups := by
  have hys : ys.removeAll xs = [] := by
    refine List.filter_eq_nil_iff.mpr fun y hy => ?_
    rw [List.elem_eq_true_of_mem (h y hy)]
    exact Bool.false_ne_true
  have hsplit : (ys ++ zs).removeAll xs = ys.removeAll xs ++ zs.removeAll xs :=
    List.filter_append ys zs
  rw [List.eraseDups_append, List.eraseDups_append, hsplit, hys, List.nil_append]

section Insert

variable {pre : List Dialect} {d : Dialect}

theorem lineMarkers_insert (h : ∀ m ∈ d.lineMarkers, ∃ e ∈ pre, m ∈ e.lineMarkers)
    (post : List Dialect) : lineMarkers (pre ++ d :: post) = lineMarkers (pre ++ post) := by
  rw [lineMarkers, lineMarkers, List.flatMap_append, List.flatMap_append, List.flatMap_cons]
  exact eraseDups_append_known (fun m hm => List.mem_flatMap.mpr (h m hm)) _

theorem blockMarkers_insert (h : ∀ p ∈ d.blockMarkers, ∃ e ∈ pre, p ∈ e.blockMarkers)
    (post : List Dialect) : blockMarkers (pre ++ d :: post) = blockMarkers (pre ++ post) := by
  rw [blockMarkers, blockMarkers, List.flatMap_append, List.flatMap_append, List.flatMap_cons]
  exact eraseDups_append_known (fun p hp => List.mem_flatMap.mpr (h p hp)) _

/-- Stripping reads nothing of the dialects but their markers. -/
theorem stripComments_congr {ds es : List Dialect} (hl : lineMarkers ds = lineMarkers es)
    (hb : blockMarkers ds = blockMarkers es) (o : StripOptions) (t : Text) :
    stripComments ds o t = stripComments es o t := by
  rw [stripComments, stripComments, stripToBlocks, stripToBlocks, hl, hb]

/-- A dialect whose markers all came up before changes nothing. -/
theorem stripComments_insert (hl : ∀ m ∈ d.lineMarkers, ∃ e ∈ pre, m ∈ e.lineMarkers)
    (hb : ∀ p ∈ d.blockMarkers, ∃ e ∈ pre, p ∈ e.blockMarkers)
    (post : List Dialect) (o : StripOptions) (t : Text) :
    stripComments (pre ++ d :: post) o t = stripComments (pre ++ post) o t :=
  stripComments_congr (lineMarkers_insert hl post) (blockMarkers_insert hb post) o t

end Insert

end BareCode
