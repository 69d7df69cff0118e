import BareCode.Proofs.Comment.FullLine
import BareCode.Proofs.Strip.Deletion
/-! # One pass over line comments — a second one finds nothing, nor does the next pass

    What the markers leave of a line is settled for all of them, whatever markers they
    are: they may be empty, hold blanks or be parts of each other.  A settled line keeps
    its text when it is cut again, and it does not begin with a marker either, since
    nothing guards a marker at the front of a line (`isFullComment_of_settled`).  Only a
    text that loses all its lines is a case of its own: joined, no lines give the empty
    text, which has one line, and that one need not be settled (an empty marker drops
    it).  But the passes only delete, and there is nothing to delete.

    * `cutLineComments_eq_nil_or_settled` — what one pass leaves;
    * `cutLineComments_projection` — a second pass and the pass over full-line comments
      change nothing of it, and so neither do they between the pairs of a dialect that
      encloses nothing and the layout. -/

namespace BareCode

open Text

variable {order : GuardOrder} {ms : List Text} {l : Line} {t : Text}

/-- A line on which all markers are settled begins with none of them. -/
theorem isFullComment_of_settled (h : ∀ m ∈ ms, Settled order m l) :
    isFullComment ms l = false := by
  refine isFullComment_eq_false_iff.mpr fun m hm hp => ?_
  have hdropped : verdict order m l = .dropped := verdict_of_prefix_trimStart hp
  rcases verdict_of_settled (h m hm) with hv | ⟨g, hv⟩
  · rw [hdropped] at hv
    exact nomatch hv
  · rw [hdropped] at hv
    exact nomatch hv

/-- One pass leaves lines on which every marker is settled, or nothing at all. -/
theorem cutLineComments_eq_nil_or_settled (order : GuardOrder) (ms : List Text) (t : Text) :
    cutLineComments order ms t = [] ∨
      ∀ l ∈ (cutLineComments order ms t).lines, ∀ m ∈ ms, Settled order m l := by
  by_cases hls : t.lines.filterMap (cutLine order ms) = []
  · refine Or.inl ?_
    rw [cutLineComments, hls, unlines_nil]
  · refine Or.inr fun l hl => ?_
    rw [lines_cutLineComments hls] at hl
    obtain ⟨l₀, -, hc⟩ := List.mem_filterMap.mp hl
    exact settled_of_cutLine hc

/-! ## The empty text -/

theorem cutLineComments_nil (order : GuardOrder) (ms : List Text) :
    cutLineComments order ms [] = [] :=
  List.sublist_nil.mp (aligned_cutLineComments order ms []).sublist

theorem dropFullComments_nil (ms : List Text) : dropFullComments ms [] = [] :=
  List.sublist_nil.mp (aligned_dropFullComments ms []).sublist

/-! ## The passes behind the first -/

theorem cutLineComments_cutLineComments (order : GuardOrder) (ms : List Text) (t : Text) :
    cutLineComments order ms (cutLineComments order ms t) = cutLineComments order ms t := by
  rcases cutLineComments_eq_nil_or_settled order ms t with h | h
  · rw [h]
    exact cutLineComments_nil order ms
  · exact cutLineComments_of_settled h

theorem dropFullComments_cutLineComments (order : GuardOrder) (ms : List Text) (t : Text) :
    dropFullComments ms (cutLineComments order ms t) = cutLineComments order ms t := by
  rcases cutLineComments_eq_nil_or_settled order ms t with h | h
  · rw [h]
    exact dropFullComments_nil ms
  · exact dropFullComments_of_none fun l hl => isFullComment_of_settled (h l hl)

/-- **The pass over line comments is a projection, and it does the work of the pass over
    full-line comments.**  This holds for all markers whatsoever.  So for dialects that
    enclose no comments the two passes behind the first one change nothing. -/
theorem cutLineComments_projection (order : GuardOrder) (ms : List Text) (t : Text) :
    cutLineComments order ms (cutLineComments order ms t) = cutLineComments order ms t ∧
      dropFullComments ms (cutLineComments order ms t) = cutLineComments order ms t ∧
      ∀ (ds : List Dialect) (o : StripOptions), blockMarkers ds = [] → o.inline = true →
        o.cutInline (lineMarkers ds) (stripToBlocks ds o t) = stripToBlocks ds o t ∧
          dropFullComments (lineMarkers ds) (stripToBlocks ds o t) = stripToBlocks ds o t := by
  refine ⟨cutLineComments_cutLineComments order ms t, dropFullComments_cutLineComments order ms t,
    fun ds o hds ho => ?_⟩
  have hblocks : stripToBlocks ds o t
      = cutLineComments o.guardOrder (lineMarkers ds) (o.dropDiffMarks t) := by
    rw [stripToBlocks, hds, StripOptions.cutInline_of_inline ho]
    rfl
  rw [hblocks, StripOptions.cutInline_of_inline ho]
  exact ⟨cutLineComments_cutLineComments _ _ _, dropFullComments_cutLineComments _ _ _⟩

/-- The dialect of the shell encloses nothing.  A comment behind code is cut, one in a line
    of its own takes the line along, and the two passes behind have nothing left to do. -/
theorem cutLineComments_projection_shell :
    blockMarkers (Dialect.choose ["shell"]) = [] ∧
    stripToBlocks (Dialect.choose ["shell"]) { inline := true } "a # b\n # c\nd".toList
      = "a\nd".toList ∧
    StripOptions.cutInline { inline := true } (lineMarkers (Dialect.choose ["shell"]))
        "a\nd".toList = "a\nd".toList ∧
    dropFullComments (lineMarkers (Dialect.choose ["shell"])) "a\nd".toList
      = "a\nd".toList := by
  have hds : blockMarkers (Dialect.choose ["shell"]) = [] := by decide
  have hcut : stripToBlocks (Dialect.choose ["shell"]) { inline := true }
      "a # b\n # c\nd".toList = "a\nd".toList := by decide
  have hrest := (cutLineComments_projection .quotesFirst [] "a # b\n # c\nd".toList).2.2
    (Dialect.choose ["shell"]) { inline := true } hds rfl
  rw [hcut] at hrest
  exact ⟨hds, hcut, hrest⟩

end BareCode
