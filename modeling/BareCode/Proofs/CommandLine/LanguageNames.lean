import BareCode.Proofs.CommandLine.Output
import BareCode.Proofs.Comment.Guarding
import BareCode.Proofs.Dialect.Selection
/-! # Language names — order, repeats, case and blanks

    Languages are named by hand, on the command line or in the environment, and the names
    are taken for a set.  Two lists of names are `Alike` when one becomes the other by
    changes of order, repeats, the case of ASCII letters, blanks around a name and empty
    names; each of these changes keeps the ids that are meant (`Alike.mem_languageIds`).
    An answer in turn counts only the known ids (`Request.answer_languages`), so a run of
    the program writes the same for names that are alike. -/

namespace BareCode

/-! ## Blanks and case -/

/-- Lower case makes a blank of none, and of a blank nothing else. -/
theorem isBlank_toLower (c : Char) : isBlank c.toLower = isBlank c := by
  have hletter : ∀ d : Char, 65 ≤ d.toNat → d.toNat ≤ 122 → isBlank d = false := by
    intro d h1 h2
    refine Bool.eq_false_iff.mpr fun hb => ?_
    have := isBlank_code hb
    omega
  rcases toLower_cases c with hself | ⟨hlo, hhi, hlow⟩
  · rw [hself]
  · rw [hletter c hlo (by omega), hletter c.toLower (by omega) (by omega)]

namespace Text

theorem trimStart_map_toLower (t : Text) :
    trimStart (t.map Char.toLower) = (trimStart t).map Char.toLower := by
  have hp : isBlank ∘ Char.toLower = isBlank := by
    funext c
    exact isBlank_toLower c
  rw [trimStart, List.dropWhile_map, hp]
  rfl

theorem trim_map_toLower (t : Text) : trim (t.map Char.toLower) = (trim t).map Char.toLower := by
  rw [trim, trim, trimEnd_eq, trimEnd_eq, trimStart_map_toLower, ← List.map_reverse,
    trimStart_map_toLower, List.map_reverse]

end Text

/-! ## What an answer depends on -/

namespace Request

variable {r : Request} {ids ids' : List String}

/-- A request that names languages and takes unknown ones too is answered with the known
    ones, in the order of the catalog. -/
theorem answer_languages (hs : r.strict = false) (hne : ids ≠ []) (t : Text) :
    answer { r with languages := ids } t
      = .ok ⟨r.content ids t, knownIds.filter (· ∈ ids)⟩ := by
  have hids : languageIds { r with languages := ids } = .ok ids := by
    show (if ids.isEmpty then _ else if r.strict then _ else Except.ok ids) = Except.ok ids
    rw [if_neg (by rw [List.isEmpty_iff]; exact hne), hs]
    rfl
  rw [answer, hids, ← Dialect.map_id_choose]
  rfl

theorem content_congr (h : SameKnown ids ids') (t : Text) : r.content ids t = r.content ids' t := by
  rw [content, content, stripLanguages_congr h]

/-- Requests for the same known languages are answered alike. -/
theorem answer_congr (hs : r.strict = false) (hne : ids ≠ []) (hne' : ids' ≠ [])
    (h : SameKnown ids ids') (t : Text) :
    answer { r with languages := ids } t = answer { r with languages := ids' } t := by
  rw [answer_languages hs hne, answer_languages hs hne', content_congr h, h.filter_eq]

end Request

namespace CommandLine

open Text

variable {n n' : Text} {names names' : List Text} {b b' : Text}

/-! ## Names that mean the same ids -/

theorem plainId_of_lower_eq (h : n.map Char.toLower = n'.map Char.toLower) :
    plainId n = plainId n' := by
  rw [plainId, plainId, ← trim_map_toLower, ← trim_map_toLower, h]

theorem plainId_blanks (hb : allBlank b = true) (hb' : allBlank b' = true) (n : Text) :
    plainId (b ++ (n ++ b')) = plainId n := by
  rw [plainId, plainId, trim_blanks hb hb']

theorem plainId_eq_nil_iff : plainId n = [] ↔ allBlank n = true := by
  rw [plainId, List.map_eq_nil_iff, trim_eq_nil_iff]

theorem mem_languageIds {id : String} :
    id ∈ languageIds names ↔ id.toList ≠ [] ∧ id.toList ∈ names.map plainId := by
  rw [languageIds, List.mem_map]
  constructor
  · rintro ⟨p, hp, rfl⟩
    obtain ⟨hmem, hne⟩ := List.mem_filter.mp hp
    rw [String.toList_ofList]
    refine ⟨?_, hmem⟩
    rintro rfl
    exact Bool.noConfusion hne
  · rintro ⟨hne, hmem⟩
    refine ⟨id.toList, List.mem_filter.mpr ⟨hmem, ?_⟩, String.ofList_toList⟩
    rw [List.isEmpty_eq_false_iff.mpr hne]
    rfl

/-- Some id is meant unless all names are blank. -/
theorem languageIds_ne_nil (h : ∃ n ∈ names, allBlank n = false) : languageIds names ≠ [] := by
  obtain ⟨n, hn, hb⟩ := h
  have hne : plainId n ≠ [] := by
    rw [Ne, plainId_eq_nil_iff, hb]
    exact Bool.false_ne_true
  refine List.ne_nil_of_mem (a := String.ofList (plainId n)) (mem_languageIds.mpr ?_)
  rw [String.toList_ofList]
  exact ⟨hne, List.mem_map_of_mem hn⟩

/-- Lists of names that differ in nothing but order, repeats, the case of ASCII letters,
    blanks around names and empty names. -/
inductive Alike : List Text → List Text → Prop
  | order {names names' : List Text} (h : names.Perm names') : Alike names names'
  | again {n : Text} {names : List Text} (h : n ∈ names) : Alike names (n :: names)
  | case {n n' : Text} (names : List Text) (h : n.map Char.toLower = n'.map Char.toLower) :
      Alike (n :: names) (n' :: names)
  | blanks {b b' : Text} (n : Text) (names : List Text) (hb : allBlank b = true)
      (hb' : allBlank b' = true) : Alike (n :: names) ((b ++ (n ++ b')) :: names)
  | empty (names : List Text) : Alike names ([] :: names)
  | symm {names names' : List Text} (h : Alike names names') : Alike names' names
  | trans {names names' names'' : List Text} (h : Alike names names') (h' : Alike names' names'') :
      Alike names names''

/-- Names that are alike mean the same ids. -/
theorem Alike.mem_languageIds (h : Alike names names') (id : String) :
    id ∈ languageIds names ↔ id ∈ languageIds names' := by
  rw [CommandLine.mem_languageIds, CommandLine.mem_languageIds]
  refine and_congr_right fun hne => ?_
  induction h with
  | order hp => exact (hp.map plainId).mem_iff
  | again hn =>
      rw [List.map_cons, List.mem_cons]
      constructor
      · exact Or.inr
      · rintro (heq | hmem)
        · rw [heq]
          exact List.mem_map_of_mem hn
        · exact hmem
  | case names hlow => rw [List.map_cons, List.map_cons, plainId_of_lower_eq hlow]
  | blanks n names hb hb' => rw [List.map_cons, List.map_cons, plainId_blanks hb hb']
  | empty names =>
      rw [List.map_cons, List.mem_cons]
      constructor
      · exact Or.inr
      · rintro (heq | hmem)
        · exact absurd heq hne
        · exact hmem
  | symm _ ih => exact ih.symm
  | trans _ _ ih ih' => exact ih.trans ih'

/-! ## What the program writes -/

namespace Invocation

variable {i : Invocation} {ids ids' : List String}

/-- The same invocation for the languages with the given ids. -/
def withLanguages (i : Invocation) (ids : List String) : Invocation :=
  { i with request := { i.request with languages := ids } }

theorem respondTo_output_congr (hs : i.request.strict = false) (hne : ids ≠ []) (hne' : ids' ≠ [])
    (h : SameKnown ids ids') (x : Except ReadFault (List UInt8)) :
    ((i.withLanguages ids).respondTo x).output = ((i.withLanguages ids').respondTo x).output := by
  cases x with
  | error fault => rfl
  | ok bytes =>
      have hans : (i.withLanguages ids).request.answer (Utf8.decode bytes) = .ok _ :=
        Request.answer_languages hs hne (Utf8.decode bytes)
      have hsame : (i.withLanguages ids).request.answer (Utf8.decode bytes)
          = (i.withLanguages ids').request.answer (Utf8.decode bytes) :=
        Request.answer_congr hs hne hne' h (Utf8.decode bytes)
      rw [respondTo, respondTo, respond_output hans, respond_output (hsame.symm.trans hans)]
      rfl

end Invocation

/-- The names of languages, from the arguments or else from the environment. -/
def languageNames (given : Option (List Text)) (environment : Option Text) : List Text :=
  (given <|> environment.map (·.splitOn ',')).getD []

section Execute

variable {g : Given} {given given' : Option (List Text)} {environment environment' : Option Text}
  {args args' : List Text}

/-- The names of languages choose the languages of the request, and nothing else. -/
theorem Invocation.ofArguments_names
    (hg : Given.ofArguments args = .ok { g with languages := given }) :
    Invocation.ofArguments environment args
      = (g.invocation none).map
          (·.withLanguages (languageIds (languageNames given environment))) := by
  have hc : Given.conflict? { g with languages := given } = g.conflict? := rfl
  rw [Invocation.ofArguments, hg]
  show Given.invocation { g with languages := given } environment = _
  rw [Given.invocation, Given.invocation, hc]
  cases g.conflict? with
  | none => rfl
  | some flags => rfl

theorem Given.strict_of_invocation {i : Invocation} (h : g.invocation environment = .ok i) :
    i.request.strict = decide (Flag.strict ∈ g.flags) := by
  rw [Given.invocation] at h
  cases hc : g.conflict? with
  | none =>
      rw [hc] at h
      obtain rfl := Except.ok.inj h
      rfl
  | some flags =>
      rw [hc] at h
      exact nomatch h

/-- A run without strictness writes the same for names that are alike, if not all of them
    are blank. -/
theorem execute_alike {m : Type → Type} [Monad m] [LawfulMonad m]
    (hg : Given.ofArguments args = .ok { g with languages := given })
    (hg' : Given.ofArguments args' = .ok { g with languages := given' })
    (hs : Flag.strict ∉ g.flags)
    (h : Alike (languageNames given environment) (languageNames given' environment'))
    (hsome : ∃ n ∈ languageNames given environment, allBlank n = false)
    (read : Source → m (Except ReadFault (List UInt8))) :
    Response.output <$> execute environment args read
      = Response.output <$> execute environment' args' read := by
  have hne : languageIds (languageNames given environment) ≠ [] := languageIds_ne_nil hsome
  have hne' : languageIds (languageNames given' environment') ≠ [] := by
    obtain ⟨id, hid⟩ := List.exists_mem_of_ne_nil _ hne
    exact List.ne_nil_of_mem ((h.mem_languageIds id).mp hid)
  have hknown : SameKnown (languageIds (languageNames given environment))
      (languageIds (languageNames given' environment')) := by
    intro id _
    exact h.mem_languageIds id
  rw [execute, execute, Invocation.ofArguments_names hg, Invocation.ofArguments_names hg']
  cases hinv : g.invocation none with
  | error halt => rfl
  | ok i =>
      have hstrict : i.request.strict = false := by
        rw [Given.strict_of_invocation hinv]
        exact decide_eq_false hs
      show Response.output <$> (if i.listLanguages then _ else (_ : m Response))
        = Response.output <$> (if i.listLanguages then _ else (_ : m Response))
      cases i.listLanguages with
      | true => rfl
      | false =>
          rw [if_neg Bool.false_ne_true, if_neg Bool.false_ne_true, map_bind, map_bind]
          refine congrArg (read i.source >>= ·) (funext fun x => ?_)
          rw [map_pure, map_pure]
          exact congrArg pure (Invocation.respondTo_output_congr hstrict hne hne' hknown x)

end Execute

/-- **Only the set of known languages counts.**  Lists of ids that hold the same known ids
    strip every text alike, and a request that takes unknown ids is answered alike for any
    two of them that are not empty, with the known ids once each in the order of the
    catalog.  So a run that takes unknown ids writes the same whatever the order, the
    repeats, the case and the blanks of the names it is given, as long as one of them is
    not blank.  What counts of the dialects themselves are the markers: one that brings
    none which did not come up before may stand anywhere among any dialects. -/
theorem languages_matter_as_set :
    (∀ ids ids' : List String, SameKnown ids ids' →
      (∀ (o : StripOptions) (t : Text), stripLanguages ids o t = stripLanguages ids' o t) ∧
      (∀ (r : Request) (t : Text), r.strict = false → ids ≠ [] → ids' ≠ [] →
        (∃ content,
          Request.answer { r with languages := ids } t
            = .ok ⟨content, knownIds.filter (· ∈ ids)⟩ ∧
          Request.answer { r with languages := ids' } t
            = .ok ⟨content, knownIds.filter (· ∈ ids)⟩) ∧
        (knownIds.filter (· ∈ ids)).Nodup)) ∧
    (∀ (g : Given) (given given' : Option (List Text)) (environment environment' : Option Text)
        (args args' : List Text),
      Given.ofArguments args = .ok { g with languages := given } →
      Given.ofArguments args' = .ok { g with languages := given' } →
      Flag.strict ∉ g.flags →
      Alike (languageNames given environment) (languageNames given' environment') →
      (∃ n ∈ languageNames given environment, allBlank n = false) →
      ∀ (m : Type → Type) [Monad m] [LawfulMonad m]
        (read : Source → m (Except ReadFault (List UInt8))),
        Response.output <$> execute environment args read
          = Response.output <$> execute environment' args' read) ∧
    (∀ (pre post : List Dialect) (d : Dialect) (o : StripOptions) (t : Text),
      (∀ m ∈ d.lineMarkers, ∃ e ∈ pre, m ∈ e.lineMarkers) →
      (∀ p ∈ d.blockMarkers, ∃ e ∈ pre, p ∈ e.blockMarkers) →
      stripComments (pre ++ d :: post) o t = stripComments (pre ++ post) o t) := by
  refine ⟨?_, ?_, ?_⟩
  · intro ids ids' h
    constructor
    · intro o t
      exact stripLanguages_congr h o t
    · intro r t hs hne hne'
      refine ⟨⟨r.content ids t, Request.answer_languages hs hne t, ?_⟩, knownIds_nodup.filter _⟩
      rw [← Request.answer_congr hs hne hne' h]
      exact Request.answer_languages hs hne t
  · intro g given given' environment environment' args args' hg hg' hs h hsome m _ _ read
    exact execute_alike hg hg' hs h hsome read
  · intro pre post d o t hl hb
    exact stripComments_insert hl hb post o t

/-- The same two known languages, listed and named in two ways, and a dialect of the catalog
    that brings nothing new. -/
theorem languages_matter_as_set_twice :
    let t : Text := "a -- b\n/* c */ d // e\n".toList
    let args : List Text := ["--inline".toList, "-l".toList, "js, SQL".toList]
    let read : Source → Id (Except ReadFault (List UInt8)) := fun _ =>
      .ok [97, 32, 45, 45, 10, 98, 47, 47]
    (SameKnown ["sql", "x", "js", "sql"] ["js", "sql"] ∧
      stripLanguages ["sql", "x", "js", "sql"] { inline := true } t
        = stripLanguages ["js", "sql"] { inline := true } t ∧
      ∃ content,
        Request.answer { languages := ["sql", "x", "js", "sql"], inline := true } t
          = .ok ⟨content, ["js", "sql"]⟩ ∧
        Request.answer { languages := ["js", "sql"], inline := true } t
          = .ok ⟨content, ["js", "sql"]⟩) ∧
    (Given.ofArguments args
        = .ok { flags := [.inline], languages := some ["js".toList, " SQL".toList] } ∧
      Given.ofArguments ["--inline".toList] = .ok { flags := [.inline] } ∧
      Alike (languageNames (some ["js".toList, " SQL".toList]) none)
        (languageNames none (some "sql,,js,js".toList)) ∧
      (execute none args read).run.output
        = (execute (some "sql,,js,js".toList) ["--inline".toList] read).run.output) ∧
    stripComments (catalog.take 2 ++ [⟨"css", "CSS", [], [cBlock]⟩]) { inline := true } t
      = stripComments (catalog.take 2) { inline := true } t := by
  intro t args read
  obtain ⟨hids, hrun, hinsert⟩ := languages_matter_as_set
  have hknown : SameKnown ["sql", "x", "js", "sql"] ["js", "sql"] := by decide
  obtain ⟨hstrip, hanswer⟩ := hids _ _ hknown
  have hargs : Given.ofArguments args
      = .ok { flags := [.inline], languages := some ["js".toList, " SQL".toList] } := rfl
  have hargs' : Given.ofArguments ["--inline".toList] = .ok { flags := [.inline] } := rfl
  have hblanks : Alike ["SQL".toList, "js".toList] [" SQL".toList, "js".toList] :=
    .blanks "SQL".toList ["js".toList] (rfl : allBlank [' '] = true) (rfl : allBlank [] = true)
  have hcase : Alike ["SQL".toList, "js".toList] ["sql".toList, "js".toList] := .case _ rfl
  have hagain : Alike ["sql".toList, "js".toList] ["js".toList, "sql".toList, "js".toList] :=
    .again (by decide)
  have halike : Alike ["js".toList, " SQL".toList] ["sql".toList, [], "js".toList, "js".toList] := by
    refine .trans (.order (.swap _ _ _)) (.trans hblanks.symm (.trans hcase (.trans hagain ?_)))
    exact .trans (.empty _) (.order (by decide))
  refine ⟨⟨hknown, hstrip _ t, (hanswer { inline := true } t rfl (by decide) (by decide)).1⟩,
    ⟨hargs, hargs', halike, ?_⟩, ?_⟩
  · exact hrun { flags := [.inline] } _ none none (some "sql,,js,js".toList) _ _ hargs hargs'
      (by decide) halike ⟨"js".toList, by decide, rfl⟩ Id read
  · exact hinsert (catalog.take 2) [] ⟨"css", "CSS", [], [cBlock]⟩ _ t (by decide) (by decide)

end CommandLine

end BareCode
