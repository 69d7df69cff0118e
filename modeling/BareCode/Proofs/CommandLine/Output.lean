import BareCode.CommandLine.Response
import BareCode.Proofs.Json.RoundTrip
/-! # Output — an answer as text and as JSON

    An answer is written in one of two ways.  As JSON it is one line, and reading that line
    as JSON gives the whole answer back, the text with every quotation mark, newline and
    control character and the list of dialects (`Answer.ofJson?_toJson`).  As text its
    content is written as it is, with the last line closed.  So neither way loses anything
    of the content, and both tell the same (`Invocation.respond_tells_answer`). -/

namespace BareCode

/-- The text of a JSON string. -/
def JsonValue.text? : JsonValue → Option Text
  | .string t => some t
  | _ => none

namespace Answer

/-- The answer that a JSON value tells by its fields. -/
def ofJson? : JsonValue → Option Answer
  | .object fields =>
    match fields.lookup "content".toList, fields.lookup "dialects".toList with
    | some (.string content), some (.list ids) =>
      (ids.mapM JsonValue.text?).map fun ids => ⟨content, ids.map String.ofList⟩
    | _, _ => none
  | _ => none

/-- An answer is told by its JSON. -/
theorem ofJson?_toJson (a : Answer) : ofJson? a.toJson = some a := by
  have hids : ∀ ids : List String,
      (ids.map fun id => JsonValue.string id.toList).mapM JsonValue.text?
        = some (ids.map String.toList) := by
    intro ids
    induction ids with
    | nil => rfl
    | cons id ids ih =>
        rw [List.map_cons, List.mapM_cons, ih]
        rfl
  have hback : (a.dialects.map String.toList).map String.ofList = a.dialects := by
    simp
  rw [toJson, ofJson?]
  show ((a.dialects.map fun id => JsonValue.string id.toList).mapM JsonValue.text?).map
    (fun ids => (⟨a.content, ids.map String.ofList⟩ : Answer)) = some a
  rw [hids, Option.map_some, hback]

end Answer

namespace CommandLine

namespace Invocation

variable {i : Invocation} {t : Text} {a : Answer}

theorem respond_output (h : i.request.answer t = .ok a) :
    (i.respond t).output = Response.written i.json a := by
  rw [respond, h]

/-- **Text and JSON tell the same answer, and all of it.**  The JSON that is written for a
    request which is not refused is a single line.  Read as JSON it is an object of two
    fields, the content and the list of dialects, and these make up the answer again.  The
    text that is written for the same request is the content, closed by a newline unless
    it is empty or ends with one. -/
theorem respond_tells_answer (i : Invocation) (t : Text) (a : Answer)
    (h : i.request.answer t = .ok a) :
    (∃ line, (respond { i with json := true } t).output = line ++ ['\n'] ∧ '\n' ∉ line) ∧
    JsonValue.read? (respond { i with json := true } t).output
      = some (.object [("content".toList, .string a.content),
          ("dialects".toList, .list (a.dialects.map fun id => .string id.toList))]) ∧
    (JsonValue.read? (respond { i with json := true } t).output).bind Answer.ofJson? = some a ∧
    (respond { i with json := false } t).output
      = if a.content = [] ∨ a.content.getLast? = some '\n' then a.content
        else a.content ++ ['\n'] := by
  have hjson : (respond { i with json := true } t).output = a.toJson.render ++ ['\n'] :=
    respond_output (i := { i with json := true }) h
  have htext : (respond { i with json := false } t).output = Response.closeLine a.content :=
    respond_output (i := { i with json := false }) h
  have hread : JsonValue.read? (a.toJson.render ++ ['\n']) = some a.toJson :=
    JsonValue.read?_render_append a.toJson rfl
  rw [hjson, htext, hread]
  refine ⟨⟨a.toJson.render, rfl, a.toJson.newline_not_mem_render⟩, rfl, a.ofJson?_toJson, ?_⟩
  simp only [Response.closeLine, List.isEmpty_iff]

/-- A content with quotation marks, a backslash, a tab, a newline within it, a control
    character and letters beyond ASCII, and no newline at its end. -/
theorem respond_tells_answer_escapes :
    let i : Invocation :=
      { request := { languages := ["sql", "x"], keepSpaces := true }, source := .standardInput
        json := true, listLanguages := false, threshold := .warn }
    let t : Text := "a\t\"\\\"\x01\u007f\n-- b\né/* c */".toList
    let a : Answer := ⟨"a\t\"\\\"\x01\u007f\né".toList, ["sql"]⟩
    i.request.answer t = .ok a ∧
    (∃ line, (i.respond t).output = line ++ ['\n'] ∧ '\n' ∉ line) ∧
    JsonValue.read? (i.respond t).output
      = some (.object [("content".toList, .string a.content),
          ("dialects".toList, .list [.string "sql".toList])]) ∧
    (JsonValue.read? (i.respond t).output).bind Answer.ofJson? = some a ∧
    (respond { i with json := false } t).output = a.content ++ ['\n'] := by
  intro i t a
  have h : i.request.answer t = .ok a := rfl
  exact ⟨h, respond_tells_answer i t a h⟩

end Invocation

end CommandLine

end BareCode
