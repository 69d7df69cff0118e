import BareCode.Proofs.Comment.Settled
import BareCode.Proofs.Dialect.Markers
import BareCode.Proofs.Text.FirstPlace
/-! # The earliest cut — markers tried in turn cut where the first comment begins

    The markers cut a line one after another, each on what the ones before it left.  The
    same comes out of one look at the whole line: of all places at which a marker opens
    a comment, the earliest one counts (`cutAtEarliest`).

    The heart is what a cut does to the other markers.  It leaves them exactly the
    comments that begin in front of it (`commentPlace?_trimEnd_iff`): what follows the cut
    is gone, but a marker in front of it neither reaches over the cut nor ends in the
    blanks that go with it, and its guards look at the same text as before.  So each step
    can be forgotten once its place is noted (`cutLine_eq_cutAtEarliest`), and the order
    of the markers does not show. -/

namespace BareCode

open Text

variable {order : GuardOrder} {m m' : Text} {ms ms' : List Text} {l : Line}
  {before rest : Text} {k : Nat}

/-- The place at which a marker opens a comment: its first place in the line, unless it is
    `//` and a guard keeps it there. -/
def commentPlace? (order : GuardOrder) (l : Line) (m : Text) : Option Nat :=
  (l.firstPlace? m).filter fun k => m != doubleSlash || (guard? order (l.take k)).isNone

/-- The places at which the markers open comments. -/
def commentPlaces (order : GuardOrder) (ms : List Text) (l : Line) : List Nat :=
  ms.filterMap (commentPlace? order l)

/-- A line up to the earliest comment and without the blanks in front of that; `none` when
    nothing but blanks stands there. -/
def cutAtEarliest (order : GuardOrder) (ms : List Text) (l : Line) : Option Line :=
  match (commentPlaces order ms l).min? with
  | none => some l
  | some k => if allBlank (l.take k) then none else some (trimEnd (l.take k))

/-! ## One marker -/

/-- A marker opens a comment behind the text that the scan leaves in front of it, if no
    guard keeps it there. -/
theorem commentPlace?_eq_some_iff :
    commentPlace? order l m = some k ↔ ∃ before rest,
      l.splitAtFirst? m = some (before, rest) ∧ markerGuard? order m before = none ∧
        before.length = k := by
  have hguard : ∀ before, (m != doubleSlash || (guard? order before).isNone) = true ↔
      markerGuard? order m before = none := by
    intro before
    rw [markerGuard?, Bool.or_eq_true, bne_iff_ne, Option.isNone_iff_eq_none]
    by_cases hm : m = doubleSlash
    · simp [hm]
    · simp [hm]
  rw [commentPlace?, Option.filter_eq_some_iff, firstPlace?_eq, Option.map_eq_some_iff]
  constructor
  · rintro ⟨⟨⟨before, rest⟩, hs, rfl⟩, hg⟩
    refine ⟨before, rest, hs, (hguard before).mp ?_, rfl⟩
    rwa [take_of_splitAtFirst? hs] at hg
  · rintro ⟨before, rest, hs, hg, rfl⟩
    refine ⟨⟨(before, rest), hs, rfl⟩, ?_⟩
    rw [take_of_splitAtFirst? hs]
    exact (hguard before).mpr hg

/-- A marker is settled on a line exactly when it opens no comment there. -/
theorem commentPlace?_eq_none_iff : commentPlace? order l m = none ↔ Settled order m l := by
  rw [Option.eq_none_iff_forall_ne_some]
  constructor
  · intro h before rest hs
    by_contra hg
    refine h before.length (commentPlace?_eq_some_iff.mpr ⟨before, rest, hs, ?_, rfl⟩)
    exact Option.not_isSome_iff_eq_none.mp hg
  · intro h k hk
    obtain ⟨before, rest, hs, hg, -⟩ := commentPlace?_eq_some_iff.mp hk
    have := h before rest hs
    rw [hg] at this
    exact Bool.noConfusion this

/-! ## What a cut leaves to the other markers -/

/-- A piece that ends with a character that is not blank keeps its place when blanks behind
    it are trimmed. -/
theorem prefix_trimEnd {s t : Text} (hs : ∀ c ∈ s.getLast?, isBlank c = false) (h : s <+: t) :
    s <+: t.trimEnd := by
  obtain ⟨tail, htail, ht⟩ := exists_blanks_trimEnd t
  rw [ht] at h
  rcases prefix_append_cases h with hp | ⟨c, more, heq, hmore⟩
  · exact hp
  · -- the piece would end within the blanks
    have hne : c :: more ≠ [] := List.cons_ne_nil c more
    have hlast : (c :: more).getLast hne ∈ s.getLast? := by
      rw [heq, List.getLast?_append_of_ne_nil _ hne]
      exact List.getLast?_eq_some_getLast hne
    have hblank := List.all_eq_true.mp htail _ (hmore.subset (List.getLast_mem hne))
    rw [hs _ hlast] at hblank
    exact Bool.noConfusion hblank

/-- A marker in front of a cut does not reach over it: the marker of the cut does not begin
    within another one. -/
theorem prefix_before_of_cut (hm : m ≠ []) (hap : (∃ c ∈ m.head?, c ∈ m') → m = m')
    (hs : l.splitAtFirst? m = some (before, rest)) {b r : Text}
    (hs' : l.splitAtFirst? m' = some (b, r)) (hlt : b.length < before.length) :
    b ++ m' <+: before := by
  by_cases hc : ∃ c ∈ m.head?, c ∈ m'
  · -- then both are the same marker, which has its first place at the cut
    obtain rfl := hap hc
    rw [hs] at hs'
    obtain ⟨rfl, -⟩ : before = b ∧ rest = r := by simpa using hs'
    exact absurd hlt (Nat.lt_irrefl _)
  · obtain ⟨d, m₁, rfl⟩ := List.exists_cons_of_ne_nil hm
    have hd : d ∉ m' := fun hd => hc ⟨d, rfl, hd⟩
    have hline : b ++ (m' ++ r) = before ++ (d :: m₁ ++ rest) := by
      rw [← List.append_assoc, ← List.append_assoc, ← splitAtFirst?_eq_some hs]
      exact (splitAtFirst?_eq_some hs').symm
    obtain ⟨x, rfl⟩ : b <+: before :=
      List.prefix_of_prefix_length_le ⟨_, hline⟩ (List.prefix_append _ _) hlt.le
    rw [List.append_assoc, List.append_cancel_left_eq] at hline
    have hx : m' <+: x := prefix_of_prefix_wall hd ⟨r, hline⟩
    exact (List.prefix_append_right_inj b).mpr hx

/-- A cut leaves to every marker the comments that begin in front of it, and no others. -/
theorem commentPlace?_trimEnd_iff (hm : m ≠ []) (hm' : m'.IsPlain)
    (hap : (∃ c ∈ m.head?, c ∈ m') → m = m')
    (hs : l.splitAtFirst? m = some (before, rest)) :
    commentPlace? order before.trimEnd m' = some k ↔
      commentPlace? order l m' = some k ∧ k < before.length := by
  have hbefore : before.trimEnd <+: l :=
    (trimEnd_isPrefix before).trans (prefix_of_splitAtFirst? hs)
  rw [commentPlace?_eq_some_iff, commentPlace?_eq_some_iff]
  constructor
  · rintro ⟨b, r, hsb, hg, rfl⟩
    obtain ⟨more, hmore⟩ := hbefore
    refine ⟨⟨b, r ++ more, ?_, hg, rfl⟩, ?_⟩
    · rw [← hmore]
      exact splitAtFirst?_append hsb more
    · have hlen := congrArg List.length (splitAtFirst?_eq_some hsb)
      have hpos := List.length_pos_iff.mpr hm'.1
      have hle := (trimEnd_isPrefix before).length_le
      simp only [List.length_append] at hlen
      omega
  · rintro ⟨⟨b, r, hsb, hg, rfl⟩, hlt⟩
    have hlast : ∀ c ∈ (b ++ m').getLast?, isBlank c = false := by
      intro c hc
      rw [List.getLast?_append_of_ne_nil _ hm'.1] at hc
      exact hm'.2 c (List.mem_of_getLast? hc)
    obtain ⟨r', hr'⟩ := prefix_trimEnd hlast (prefix_before_of_cut hm hap hs hsb hlt)
    -- the marker is still there, and its first place is the one it had in the line
    obtain ⟨b', r'', hsb'⟩ := exists_splitAtFirst? (t := before.trimEnd) ⟨b, r', hr'⟩
    obtain ⟨more, hmore⟩ := hbefore
    have hsl := splitAtFirst?_append hsb' more
    rw [hmore, hsb] at hsl
    obtain ⟨rfl, -⟩ : b = b' ∧ r = r'' ++ more := by simpa using hsl
    exact ⟨b, r'', hsb', hg, rfl⟩

/-! ## All markers -/

theorem mem_commentPlaces :
    k ∈ commentPlaces order ms l ↔ ∃ m ∈ ms, commentPlace? order l m = some k :=
  List.mem_filterMap

theorem cutAtEarliest_of_no_comment (h : ∀ k, k ∉ commentPlaces order ms l) :
    cutAtEarliest order ms l = some l := by
  rw [cutAtEarliest, List.eq_nil_iff_forall_not_mem.mpr h]
  rfl

theorem cutAtEarliest_of_least (h : k ∈ commentPlaces order ms l)
    (hle : ∀ j ∈ commentPlaces order ms l, k ≤ j) :
    cutAtEarliest order ms l
      = if allBlank (l.take k) then none else some (trimEnd (l.take k)) := by
  rw [cutAtEarliest, List.min?_eq_some_iff.mpr ⟨h, hle⟩]

/-- Of some places there is an earliest one. -/
theorem exists_least_commentPlace (h : k ∈ commentPlaces order ms l) :
    ∃ e ∈ commentPlaces order ms l, ∀ j ∈ commentPlaces order ms l, e ≤ j := by
  obtain ⟨e, he⟩ := Option.isSome_iff_exists.mp (List.isSome_min?_of_mem h)
  exact ⟨e, List.min?_eq_some_iff.mp he⟩

/-- Only which markers there are matters for the earliest comment. -/
theorem cutAtEarliest_congr (h : ∀ m, m ∈ ms' ↔ m ∈ ms) :
    cutAtEarliest order ms' l = cutAtEarliest order ms l := by
  have hmem : ∀ k, k ∈ commentPlaces order ms' l ↔ k ∈ commentPlaces order ms l := by
    intro k
    simp only [mem_commentPlaces, h]
  have hmin : (commentPlaces order ms' l).min? = (commentPlaces order ms l).min? := by
    ext k
    simp only [List.min?_eq_some_iff, hmem]
  rw [cutAtEarliest, cutAtEarliest, hmin]

/-- A marker that has nothing but blanks in front of it leaves nothing of the line to the
    earliest comment either. -/
theorem cutAtEarliest_of_blank (hs : l.splitAtFirst? m = some (before, rest)) (hm : m ∈ ms)
    (hg : markerGuard? order m before = none) (hb : before.allBlank = true) :
    cutAtEarliest order ms l = none := by
  have hplace : before.length ∈ commentPlaces order ms l :=
    mem_commentPlaces.mpr ⟨m, hm, commentPlace?_eq_some_iff.mpr ⟨before, rest, hs, hg, rfl⟩⟩
  obtain ⟨e, he, hle⟩ := exists_least_commentPlace hplace
  have htake : l.take e = before.take e := by
    rw [← take_of_splitAtFirst? hs, List.take_take, Nat.min_eq_left (hle _ hplace)]
  rw [cutAtEarliest_of_least he hle, if_pos]
  rw [htake]
  exact List.all_eq_true.mpr fun c hc => List.all_eq_true.mp hb c (List.mem_of_mem_take hc)

/-- A front part of a line that still holds a comment has the same text in front of it. -/
theorem take_of_mem_commentPlaces {l' : Line} (h : l' <+: l) (hk : k ∈ commentPlaces order ms l') :
    l.take k = l'.take k := by
  obtain ⟨m, -, hplace⟩ := mem_commentPlaces.mp hk
  obtain ⟨b, r, hs, -, rfl⟩ := commentPlace?_eq_some_iff.mp hplace
  obtain ⟨more, rfl⟩ := h
  rw [take_of_splitAtFirst? hs, take_of_splitAtFirst? (splitAtFirst?_append hs more)]

/-- A cut leaves the comments in front of it, its own marker having none there. -/
theorem mem_commentPlaces_trimEnd (hms : ∀ m' ∈ ms, m'.IsPlain) (hm : m ≠ [])
    (hap : ∀ m' ∈ ms, (∃ c ∈ m.head?, c ∈ m') → m = m')
    (hs : l.splitAtFirst? m = some (before, rest)) (hg : markerGuard? order m before = none) :
    k ∈ commentPlaces order ms before.trimEnd ↔
      k ∈ commentPlaces order (m :: ms) l ∧ k < before.length := by
  rw [mem_commentPlaces, mem_commentPlaces]
  constructor
  · rintro ⟨m', hm', hk⟩
    obtain ⟨hk, hlt⟩ := (commentPlace?_trimEnd_iff hm (hms m' hm') (hap m' hm') hs).mp hk
    exact ⟨⟨m', List.mem_cons_of_mem m hm', hk⟩, hlt⟩
  · rintro ⟨⟨m', hm', hk⟩, hlt⟩
    rcases List.mem_cons.mp hm' with rfl | hm'
    · -- the marker itself begins at the cut and not in front of it
      rw [commentPlace?_eq_some_iff.mpr ⟨before, rest, hs, hg, rfl⟩] at hk
      exact absurd (Option.some.inj hk) (by omega)
    · exact ⟨m', hm', (commentPlace?_trimEnd_iff hm (hms m' hm') (hap m' hm') hs).mpr ⟨hk, hlt⟩⟩

/-- A marker that cuts a line leaves the earliest comment to the markers behind it. -/
theorem cutAtEarliest_of_cut (hms : ∀ m' ∈ ms, m'.IsPlain) (hm : m ≠ [])
    (hap : ∀ m' ∈ ms, (∃ c ∈ m.head?, c ∈ m') → m = m')
    (hs : l.splitAtFirst? m = some (before, rest)) (hg : markerGuard? order m before = none)
    (hb : before.allBlank = false) :
    cutAtEarliest order (m :: ms) l = cutAtEarliest order ms before.trimEnd := by
  have hcut : before.length ∈ commentPlaces order (m :: ms) l :=
    mem_commentPlaces.mpr ⟨m, List.mem_cons_self,
      commentPlace?_eq_some_iff.mpr ⟨before, rest, hs, hg, rfl⟩⟩
  have hmem : ∀ {j}, j ∈ commentPlaces order ms before.trimEnd ↔
      j ∈ commentPlaces order (m :: ms) l ∧ j < before.length :=
    mem_commentPlaces_trimEnd hms hm hap hs hg
  by_cases hnone : ∀ j, j ∉ commentPlaces order ms before.trimEnd
  · have hle : ∀ j ∈ commentPlaces order (m :: ms) l, before.length ≤ j := by
      intro j hj
      by_contra hlt
      exact hnone j (hmem.mpr ⟨hj, Nat.lt_of_not_le hlt⟩)
    rw [cutAtEarliest_of_least hcut hle, cutAtEarliest_of_no_comment hnone,
      take_of_splitAtFirst? hs, hb]
    rfl
  · push Not at hnone
    obtain ⟨j, hj⟩ := hnone
    obtain ⟨e, he, hle⟩ := exists_least_commentPlace hj
    obtain ⟨he', hlt⟩ := hmem.mp he
    have hle' : ∀ j ∈ commentPlaces order (m :: ms) l, e ≤ j := by
      intro j hj
      by_cases hjlt : j < before.length
      · exact hle j (hmem.mpr ⟨hj, hjlt⟩)
      · omega
    have hfront : before.trimEnd <+: l :=
      (trimEnd_isPrefix before).trans (prefix_of_splitAtFirst? hs)
    rw [cutAtEarliest_of_least he hle, cutAtEarliest_of_least he' hle',
      take_of_mem_commentPlaces hfront he]

/-- Plain markers that lie apart cut a line at the earliest comment, in whatever order they
    are tried. -/
theorem cutLine_eq_cutAtEarliest (hms : ∀ m ∈ ms, m.IsPlain)
    (hap : ∀ m ∈ ms, ∀ m' ∈ ms, (∃ c ∈ m'.head?, c ∈ m) → m' = m) (l : Line) :
    cutLine order ms l = cutAtEarliest order ms l := by
  induction ms generalizing l with
  | nil => rfl
  | cons m ms ih =>
      have hm := hms m List.mem_cons_self
      have hms' : ∀ m' ∈ ms, m'.IsPlain := fun m' h => hms m' (List.mem_cons_of_mem m h)
      have ih' := ih hms' fun x hx y hy =>
        hap x (List.mem_cons_of_mem m hx) y (List.mem_cons_of_mem m hy)
      by_cases hset : Settled order m l
      · have hplaces : commentPlaces order (m :: ms) l = commentPlaces order ms l :=
          List.filterMap_cons_none (commentPlace?_eq_none_iff.mpr hset)
        rw [cutLine_cons_of_settled hset, ih', cutAtEarliest, cutAtEarliest, hplaces]
      · obtain ⟨k, hk⟩ := Option.ne_none_iff_exists'.mp (mt commentPlace?_eq_none_iff.mp hset)
        obtain ⟨before, rest, hs, hg, -⟩ := commentPlace?_eq_some_iff.mp hk
        cases hb : before.allBlank with
        | true =>
            rw [cutAtEarliest_of_blank hs List.mem_cons_self hg hb, cutLine]
            simp only [verdict, hs, hg, hb, if_true]
        | false =>
            have hap' : ∀ m' ∈ ms, (∃ c ∈ m.head?, c ∈ m') → m = m' := fun m' hm' =>
              hap m' (List.mem_cons_of_mem m hm') m List.mem_cons_self
            rw [cutAtEarliest_of_cut hms' hm.1 hap' hs hg hb, ← ih', cutLine]
            simp only [verdict, hs, hg, hb, Bool.false_eq_true, if_false]

/-- Markers of the catalog are plain and lie apart, so they cut every text so. -/
theorem cutLineComments_eq_cutAtEarliest (h : ∀ m ∈ ms, m ∈ lineMarkers catalog) (t : Text) :
    cutLineComments order ms t = unlines (t.lines.filterMap (cutAtEarliest order ms)) := by
  have hcatalog : lineMarkers (Dialect.choose knownIds) = lineMarkers catalog := by decide
  have hds := wellMarked_choose knownIds
  have hms : ∀ m ∈ ms, m ∈ lineMarkers (Dialect.choose knownIds) := by
    rw [hcatalog]
    exact h
  refine congrArg unlines (List.filterMap_congr fun l _ => ?_)
  exact cutLine_eq_cutAtEarliest (fun m hm => hds.line_plain m (hms m hm))
    (fun m hm m' hm' => hds.line_apart m (hms m hm) m' (hms m' hm')) l

/-- **Cutting at markers in turn is one cut at the earliest comment.**  Each line goes its
    own way: a line in which no marker opens a comment stays as it is, and of any other
    only what stands in front of its earliest comment is left, without the blanks at its
    end, unless it is blank; then the line goes.  Neither the order of the markers nor
    their repeats matter. -/
theorem cutLineComments_earliest (order : GuardOrder) {ms : List Text}
    (hms : ∀ m ∈ ms, m = "//".toList ∨ m = "#".toList ∨ m = "--".toList) (t : Text) :
    cutLineComments order ms t = unlines (t.lines.filterMap (cutAtEarliest order ms)) ∧
      ∀ ms', (∀ m, m ∈ ms' ↔ m ∈ ms) →
        cutLineComments order ms' t = cutLineComments order ms t := by
  have hcatalog : ∀ m ∈ ms, m ∈ lineMarkers catalog := by
    intro m hm
    rcases hms m hm with rfl | rfl | rfl
    · decide
    · decide
    · decide
  refine ⟨cutLineComments_eq_cutAtEarliest hcatalog t, fun ms' hmem => ?_⟩
  rw [cutLineComments_eq_cutAtEarliest hcatalog,
    cutLineComments_eq_cutAtEarliest fun m hm => hcatalog m ((hmem m).mp hm)]
  exact congrArg unlines (List.filterMap_congr fun l _ => cutAtEarliest_congr hmem)

/-- The quotation guards the first `//`, so the earliest comment of the first line is the
    one at `#`, although `--` is tried first and also cuts; the second line goes. -/
theorem cutLineComments_earliest_guarded :
    (∀ m ∈ ["--".toList, "//".toList, "#".toList],
      m = "//".toList ∨ m = "#".toList ∨ m = "--".toList) ∧
    cutLineComments .quotesFirst ["--".toList, "//".toList, "#".toList]
        "u = 'x//y'; // a # b -- c\n  -- d\n".toList
      = "u = 'x//y'; // a\n".toList ∧
    cutLineComments .quotesFirst ["#".toList, "--".toList, "//".toList, "#".toList]
        "u = 'x//y'; // a # b -- c\n  -- d\n".toList
      = "u = 'x//y'; // a\n".toList := by
  have hms : ∀ m ∈ ["--".toList, "//".toList, "#".toList],
      m = "//".toList ∨ m = "#".toList ∨ m = "--".toList := by decide
  obtain ⟨hcut, hsame⟩ := cutLineComments_earliest .quotesFirst hms
    "u = 'x//y'; // a # b -- c\n  -- d\n".toList
  have hearliest : unlines ((lines "u = 'x//y'; // a # b -- c\n  -- d\n".toList).filterMap
      (cutAtEarliest .quotesFirst ["--".toList, "//".toList, "#".toList]))
      = "u = 'x//y'; // a\n".toList := by decide
  refine ⟨hms, hcut.trans hearliest, ?_⟩
  rw [hsame ["#".toList, "--".toList, "//".toList, "#".toList] fun m => by
    simp only [List.mem_cons, List.not_mem_nil, or_false]
    tauto]
  exact hcut.trans hearliest

end BareCode
