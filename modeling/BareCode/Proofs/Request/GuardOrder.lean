import BareCode.Request
import Mathlib.Data.List.Forall2
/-! # Guard order — it decides which guard is named and nothing else

    Which of the two specific guards is looked at first shows only where both of them keep
    a marker, and there the marker is kept either way (`guard?_urlFirst`).  So a marker
    does the same to a line under both orders, up to the guard that is named
    (`verdict_guardOrder`), and since a kept marker leaves the line as it is, the markers
    after it meet the same line.  By induction on the markers each line is cut alike
    (`cutLine_guardOrder`), and the kept markers are met in pairs (`keptInLine_guardOrder`).
    Every pass therefore gives the next one the same text. -/

namespace BareCode

open Text

variable {m : Text} {l : Line}

/-! ## One marker -/

/-- Whether both specific guards keep the first `//` of a line. -/
def Line.doublyGuarded (l : Line) : Bool :=
  match l.splitAtFirst? doubleSlash with
  | none => false
  | some (before, _) => Guard.quoted.keeps before && Guard.url.keeps before

/-- Two reports of a kept marker that show the same line.  They name the same guard, unless
    both specific guards keep the marker: then each names the one that was looked at
    first. -/
def KeptMarker.Matches (k k' : KeptMarker) : Prop :=
  k'.line = k.line ∧
    if k.line.doublyGuarded then k.guard = .quoted ∧ k'.guard = .url else k'.guard = k.guard

theorem guard?_quotesFirst_of_quoted {before : Text} (h : Guard.quoted.keeps before = true) :
    guard? .quotesFirst before = some .quoted := by
  rw [guard?, GuardOrder.guards]
  exact List.find?_cons_of_pos h

/-- The order shows only where both specific guards hold. -/
theorem guard?_urlFirst (before : Text) :
    guard? .urlFirst before
      = if Guard.quoted.keeps before && Guard.url.keeps before then some .url
        else guard? .quotesFirst before := by
  rw [guard?, guard?, GuardOrder.guards, GuardOrder.guards]
  cases hq : Guard.quoted.keeps before with
  | true =>
      cases hu : Guard.url.keeps before with
      | true => simp [hu]
      | false => simp [hq, hu]
  | false =>
      cases hu : Guard.url.keeps before with
      | true => simp [hq, hu]
      | false => simp [hq, hu]

/-- A marker does the same to a line under both orders, unless it is kept by both specific
    guards: then the orders name different ones. -/
theorem verdict_guardOrder (m : Text) (l : Line) :
    (verdict .quotesFirst m l = .guarded .quoted ∧ verdict .urlFirst m l = .guarded .url ∧
        l.doublyGuarded = true) ∨
      verdict .urlFirst m l = verdict .quotesFirst m l ∧
        ∀ g, verdict .quotesFirst m l = .guarded g → l.doublyGuarded = false := by
  rw [verdict, verdict]
  cases hs : l.splitAtFirst? m with
  | none => exact Or.inr ⟨rfl, fun g hg => nomatch hg⟩
  | some s =>
      obtain ⟨before, rest⟩ := s
      dsimp only
      rw [markerGuard?, markerGuard?]
      by_cases hm : m = doubleSlash
      · have hdouble : l.doublyGuarded
            = (Guard.quoted.keeps before && Guard.url.keeps before) := by
          rw [Line.doublyGuarded, ← hm, hs]
        rw [if_pos hm, if_pos hm, guard?_urlFirst, hdouble]
        cases hboth : Guard.quoted.keeps before && Guard.url.keeps before with
        | true =>
            have hq := (Bool.and_eq_true _ _ ▸ hboth).1
            rw [guard?_quotesFirst_of_quoted hq]
            exact Or.inl ⟨rfl, rfl, rfl⟩
        | false => exact Or.inr ⟨rfl, fun _ _ => rfl⟩
      · -- any other marker is kept by no guard
        rw [if_neg hm, if_neg hm]
        refine Or.inr ⟨rfl, fun g hg => ?_⟩
        dsimp only at hg
        split at hg
        · exact nomatch hg
        · exact nomatch hg

/-! ## All markers of a line -/

/-- The order does not show in what the markers leave of a line. -/
theorem cutLine_guardOrder (ms : List Text) (l : Line) :
    cutLine .urlFirst ms l = cutLine .quotesFirst ms l := by
  induction ms generalizing l with
  | nil => rfl
  | cons m ms ih =>
      rw [cutLine, cutLine]
      rcases verdict_guardOrder m l with ⟨hq, hu, -⟩ | ⟨hsame, -⟩
      · rw [hq, hu]
        exact ih l
      · rw [hsame]
        cases verdict .quotesFirst m l with
        | absent => exact ih l
        | guarded g => exact ih l
        | cut before => exact ih before.trimEnd
        | dropped => rfl

/-- The kept markers of a line match, one by one. -/
theorem keptInLine_guardOrder (ms : List Text) (l : Line) :
    List.Forall₂ KeptMarker.Matches (keptInLine .quotesFirst ms l)
      (keptInLine .urlFirst ms l) := by
  induction ms generalizing l with
  | nil => exact List.Forall₂.nil
  | cons m ms ih =>
      rw [keptInLine, keptInLine]
      rcases verdict_guardOrder m l with ⟨hq, hu, hdouble⟩ | ⟨hsame, hsingle⟩
      · rw [hq, hu]
        refine List.Forall₂.cons ⟨rfl, ?_⟩ (ih l)
        rw [if_pos hdouble]
        exact ⟨rfl, rfl⟩
      · rw [hsame]
        cases hv : verdict .quotesFirst m l with
        | absent => exact ih l
        | guarded g =>
            refine List.Forall₂.cons ⟨rfl, ?_⟩ (ih l)
            rw [if_neg (Bool.eq_false_iff.mp (hsingle g hv))]
        | cut before => exact ih before.trimEnd
        | dropped => exact List.Forall₂.nil

/-! ## All passes -/

theorem cutLineComments_guardOrder (ms : List Text) (t : Text) :
    cutLineComments .urlFirst ms t = cutLineComments .quotesFirst ms t :=
  congrArg unlines (List.filterMap_congr fun l _ => cutLine_guardOrder ms l)

theorem keptMarkers_guardOrder (ms : List Text) (t : Text) :
    List.Forall₂ KeptMarker.Matches (keptMarkers .quotesFirst ms t)
      (keptMarkers .urlFirst ms t) := by
  have hlines : List.Forall₂ (fun l l' : Line => l = l') t.lines t.lines :=
    List.forall₂_same.mpr fun _ _ => rfl
  refine List.rel_flatMap hlines ?_
  rintro l l' rfl
  exact keptInLine_guardOrder ms l

section Options

variable (ds : List Dialect) (o : StripOptions) (ms : List Text) (t : Text)

theorem cutInline_guardOrder :
    StripOptions.cutInline { o with guardOrder := .urlFirst } ms t
      = StripOptions.cutInline { o with guardOrder := .quotesFirst } ms t := by
  rw [StripOptions.cutInline, StripOptions.cutInline]
  split
  · exact cutLineComments_guardOrder ms t
  · rfl

theorem keptInline_guardOrder :
    List.Forall₂ KeptMarker.Matches
      (StripOptions.keptInline { o with guardOrder := .quotesFirst } ms t)
      (StripOptions.keptInline { o with guardOrder := .urlFirst } ms t) := by
  rw [StripOptions.keptInline, StripOptions.keptInline]
  split
  · exact keptMarkers_guardOrder ms t
  · exact List.Forall₂.nil

theorem stripToBlocks_guardOrder :
    stripToBlocks ds { o with guardOrder := .urlFirst } t
      = stripToBlocks ds { o with guardOrder := .quotesFirst } t :=
  congrArg (removeBlocks (blockMarkers ds)) (cutInline_guardOrder o (lineMarkers ds) _)

theorem stripComments_urlFirst :
    stripComments ds { o with guardOrder := .urlFirst } t
      = stripComments ds { o with guardOrder := .quotesFirst } t := by
  rw [stripComments, stripComments, cutInline_guardOrder, stripToBlocks_guardOrder]
  rfl

theorem stripKept_guardOrder :
    List.Forall₂ KeptMarker.Matches (stripKept ds { o with guardOrder := .quotesFirst } t)
      (stripKept ds { o with guardOrder := .urlFirst } t) := by
  rw [stripKept, stripKept, stripToBlocks_guardOrder]
  exact List.rel_append (keptInline_guardOrder o _ _) (keptInline_guardOrder o _ _)

end Options

/-! ## Requests -/

/-- Two events that tell the same, up to the guard that is named for a kept marker. -/
def Event.Matches : Event → Event → Prop
  | .keptMarker k, .keptMarker k' => k.Matches k'
  | e, e' => e = e'

namespace Request

variable (r : Request) (ids : List String) (t : Text)

theorem stripLanguages_urlGuardFirst :
    stripLanguages ids (stripOptions { r with urlGuardFirst := true }) t
      = stripLanguages ids (stripOptions { r with urlGuardFirst := false }) t :=
  stripComments_urlFirst (Dialect.choose ids) r.stripOptions t

theorem content_urlGuardFirst :
    content { r with urlGuardFirst := true } ids t
      = content { r with urlGuardFirst := false } ids t := by
  rw [content, content, stripLanguages_urlGuardFirst]

theorem answer_urlGuardFirst :
    answer { r with urlGuardFirst := true } t = answer { r with urlGuardFirst := false } t := by
  have hids : languageIds { r with urlGuardFirst := true }
      = languageIds { r with urlGuardFirst := false } := rfl
  rw [answer, answer, hids]
  exact congrArg (Except.map · _) (funext fun ids =>
    congrArg (Answer.mk · _) (content_urlGuardFirst r ids t))

/-- No kept marker is among what comes up while the languages are chosen, so these events
    match themselves. -/
theorem languageEvents_matches :
    List.Forall₂ Event.Matches r.languageEvents r.languageEvents := by
  refine List.forall₂_same.mpr fun e he => ?_
  cases e with
  | keptMarker k =>
      rw [languageEvents] at he
      split at he
      · split at he
        · exact nomatch he
        · split at he <;> simp at he
      · split at he
        · exact nomatch he
        · simp at he
  | excerpt e => rfl
  | unknownLanguage id => rfl
  | unknownExtension ext => rfl
  | detected ext id => rfl

theorem contentEvents_urlGuardFirst :
    List.Forall₂ Event.Matches (contentEvents { r with urlGuardFirst := false } ids t)
      (contentEvents { r with urlGuardFirst := true } ids t) := by
  rw [contentEvents, contentEvents, stripLanguages_urlGuardFirst]
  refine List.rel_append ?_ ?_
  · rw [List.forall₂_map_left_iff, List.forall₂_map_right_iff]
    exact stripKept_guardOrder (Dialect.choose ids) r.stripOptions t
  · cases r.phrase with
    | none => exact List.Forall₂.nil
    | some phrase =>
        rw [List.forall₂_map_left_iff, List.forall₂_map_right_iff]
        exact List.forall₂_same.mpr fun _ _ => rfl

theorem events_urlGuardFirst :
    List.Forall₂ Event.Matches (events { r with urlGuardFirst := false } t)
      (events { r with urlGuardFirst := true } t) := by
  have hids : languageIds { r with urlGuardFirst := true }
      = languageIds { r with urlGuardFirst := false } := rfl
  rw [events, events, hids]
  refine List.rel_append (languageEvents_matches r) ?_
  cases languageIds { r with urlGuardFirst := false } with
  | error e => exact List.Forall₂.nil
  | ok ids => exact contentEvents_urlGuardFirst r ids t

end Request

/-- Which guard is looked at first never changes a text.  Every text is stripped to the
    same text under both orders, and the kept markers that are met on the way match, one
    by one.  So every request is answered alike, or refused alike, and all that comes up
    on the way is the same but for the guards that are named. -/
theorem stripComments_guardOrder (ds : List Dialect) (o : StripOptions) (t : Text) :
    stripComments ds { o with guardOrder := .urlFirst } t
        = stripComments ds { o with guardOrder := .quotesFirst } t ∧
      List.Forall₂ KeptMarker.Matches
        (stripKept ds { o with guardOrder := .quotesFirst } t)
        (stripKept ds { o with guardOrder := .urlFirst } t) ∧
      ∀ r : Request,
        Request.answer { r with urlGuardFirst := true } t
            = Request.answer { r with urlGuardFirst := false } t ∧
          List.Forall₂ Event.Matches (Request.events { r with urlGuardFirst := false } t)
            (Request.events { r with urlGuardFirst := true } t) :=
  ⟨stripComments_urlFirst ds o t, stripKept_guardOrder ds o t, fun r =>
    ⟨r.answer_urlGuardFirst t, r.events_urlGuardFirst t⟩⟩

-- Both specific guards keep this marker, in each of the two passes over line comments.
example :
    ((stripKept (Dialect.choose ["js"]) { inline := true, guardOrder := .urlFirst }
        "f('http://a')".toList).map (·.guard),
      (stripKept (Dialect.choose ["js"]) { inline := true, guardOrder := .quotesFirst }
        "f('http://a')".toList).map (·.guard)) = ([.url, .url], [.quoted, .quoted]) := by
  rfl

end BareCode
