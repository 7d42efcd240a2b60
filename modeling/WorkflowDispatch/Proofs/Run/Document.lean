import WorkflowDispatch.Proofs.Json.OneLine
import WorkflowDispatch.Proofs.Run.Preview
import WorkflowDispatch.Proofs.Text.Lines
/-!
The JSON that is printed about a request.  It is ASCII whatever the settings hold, every member of
the request stands on a line of its own, and it is read as the address, the path and the ref of the
settings.
-/

namespace WorkflowDispatch

/-- No printable character of ASCII ends a line. -/
theorem Json.isUnbroken_of_isShown {cs : List Char} (h : Json.IsShown .ascii cs) :
    Text.IsUnbroken cs := by
  intro c hc
  have hrange := Json.shows_ascii_iff.1 (h c hc)
  simp only [Text.isLineBreak, Bool.or_eq_false_iff, Bool.and_eq_false_iff, decide_eq_false_iff_not,
    beq_eq_false_iff_ne]
  omega

namespace Run

open Json (IsShown isShown_literal isShown_writeText)

/-! ## Lines -/

/-- The lines of the request, with its address, path and ref as they are written. -/
def requestLines (url path ref : String) : List String :=
  ["\x7b",
    "  \"method\": \"POST\",",
    "  \"url\": " ++ url ++ ",",
    "  \"path\": " ++ path ++ ",",
    "  \"body\": \x7b",
    "    \"ref\": " ++ ref,
    "  \x7d",
    "\x7d"]

theorem isShown_requestLines {url path ref : String} (hurl : IsShown .ascii url.toList)
    (hpath : IsShown .ascii path.toList) (href : IsShown .ascii ref.toList) :
    ∀ line ∈ requestLines url path ref, IsShown .ascii line.toList := by
  have hmember : ∀ {name value closing : String}, IsShown .ascii name.toList →
      IsShown .ascii value.toList → IsShown .ascii closing.toList →
        IsShown .ascii (name ++ value ++ closing).toList := by
    intro name value closing hname hvalue hclosing
    rw [String.toList_append, String.toList_append]
    exact (hname.append hvalue).append hclosing
  simp only [requestLines, List.forall_mem_cons]
  refine ⟨isShown_literal (by decide), isShown_literal (by decide),
    hmember (isShown_literal (by decide)) hurl (isShown_literal (by decide)),
    hmember (isShown_literal (by decide)) hpath (isShown_literal (by decide)),
    isShown_literal (by decide), ?_, isShown_literal (by decide), isShown_literal (by decide),
    nofun⟩
  rw [String.toList_append]
  exact (isShown_literal (by decide)).append href

/-- The lines of the document for settings. -/
def shownLines (x : Settings) : List String :=
  requestLines (Json.writeText .ascii x.dispatchUrl) (Json.writeText .ascii x.target.path)
    (Json.writeText .ascii x.target.ref.text)

theorem isShown_shownLines (x : Settings) : ∀ line ∈ shownLines x, IsShown .ascii line.toList :=
  isShown_requestLines (isShown_writeText _ _) (isShown_writeText _ _) (isShown_writeText _ _)

theorem toList_showTargetText (x : Settings) :
    (showTargetText x).toList = ((shownLines x).map String.toList).flatMap (· ++ ['\n']) := by
  have hwords : ∀ word ∈ ["method", "POST", "url", "path", "body", "ref"],
      Json.writeText .ascii word = "\"" ++ word ++ "\"" := by
    decide
  simp only [List.forall_mem_cons] at hwords
  obtain ⟨hmethod, hpost, hurl, hpath, hbody, href, -⟩ := hwords
  simp [showTargetText, requestDocument, bodyDocument, Target.payload, Json.writeIndented,
    Json.writeMembersIndented, Json.writeBlock, String.intercalate_cons_cons, shownLines,
    requestLines, hmethod, hpost, hurl, hpath, hbody, href]

theorem splitLines_showTargetText (x : Settings) :
    Text.splitLines (showTargetText x).toList = (shownLines x).map String.toList := by
  rw [toList_showTargetText]
  refine Text.splitLines_flatMap (List.forall_mem_map.2 fun line hline => ?_)
  exact Json.isUnbroken_of_isShown (isShown_shownLines x line hline)

theorem ascii_of_mem_showTargetText {x : Settings} {c : Char}
    (hc : c ∈ (showTargetText x).toList) : c = '\n' ∨ 0x20 ≤ c.toNat ∧ c.toNat < 0x7F := by
  rw [toList_showTargetText, List.flatMap_map] at hc
  obtain ⟨line, hline, hc⟩ := List.mem_flatMap.1 hc
  rcases List.mem_append.1 hc with hc | hc
  · exact .inr (Json.shows_ascii_iff.1 (isShown_shownLines x line hline c hc))
  · exact .inl (List.mem_singleton.1 hc)

/-! ## Documents -/

/-- Showing the target prints one document over several lines, and a dry run prints one on a line of
its own behind the address.  Both are ASCII and are read as the request, with the very texts of the
settings, and at no level of the log is anything else printed. -/
theorem documents_of_loads {s : Surroundings} {x : Settings} (h : s.Loads x)
    {shown dry : List String} {flag : Bool}
    (hshown : CommandLine.read shown = .run .showTarget flag)
    (hdry : CommandLine.read dry = .run .dispatch true) (entry : Entry) (n : Network) :
    (∃ document url path ref,
      ((command entry shown s n).output s.now).out = document ++ "\n" ∧
      (∀ c ∈ document.toList, c = '\n' ∨ 0x20 ≤ c.toNat ∧ c.toNat < 0x7F) ∧
      Text.splitLines (document ++ "\n").toList = (requestLines url path ref).map String.toList ∧
      Json.read url = some (.text x.dispatchUrl) ∧ Json.read path = some (.text x.target.path) ∧
      Json.read ref = some (.text x.target.ref.text) ∧
      Json.read document =
        some (.object
          [("method", .text "POST"), ("url", .text x.dispatchUrl), ("path", .text x.target.path),
            ("body", .object [("ref", .text x.target.ref.text)])])) ∧
    ∃ body,
      ((command entry dry s n).output s.now).out =
        "POST " ++ x.dispatchUrl ++ "\n" ++ body ++ "\n" ∧
      (∀ c ∈ body.toList, 0x20 ≤ c.toNat ∧ c.toNat < 0x7F) ∧
      Json.read body = some (.object [("ref", .text x.target.ref.text)]) := by
  constructor
  · refine ⟨(requestDocument x).writeIndented 0, Json.writeText .ascii x.dispatchUrl,
      Json.writeText .ascii x.target.path, Json.writeText .ascii x.target.ref.text,
      out_of_perform_print h hshown rfl, fun c hc => ?_, splitLines_showTargetText x,
      Json.read_write .ascii (.text _), Json.read_write .ascii (.text _),
      Json.read_write .ascii (.text _), Json.read_writeIndented 0 _⟩
    refine ascii_of_mem_showTargetText (x := x) ?_
    rw [showTargetText, String.toList_append]
    exact List.mem_append_left _ hc
  · refine ⟨(bodyDocument x.target).write .ascii, out_of_perform_print h hdry rfl, fun c hc => ?_,
      Json.read_write .ascii _⟩
    exact Json.shows_ascii_iff.1 (Json.isShown_write .ascii _ c hc)

/-- Settings with characters of every kind that is escaped, and a log that lets everything
through. -/
def escapedSurroundings : Surroundings :=
  { environment :=
      [("GH_TOKEN", "ambient"), ("TARGET_REPO_PAT", "scoped"), ("LOG_LEVEL", "notset"),
        ("GITHUB_BASE_URL", "https://h\x7f\"\\//"), ("DISPATCH_TARGET_OWNER", "\uFFFFé\n\uE000"),
        ("DISPATCH_REF", "a/\r😀\u2028b")]
    file := none
    now := ⟨0⟩ }

def escapedSettings : Settings :=
  { bareSettings with
    baseUrl := "https://h\x7f\"\\"
    target :=
      { bareSettings.target with
        owner := ⟨"\uFFFFé\n\uE000", by decide, by decide⟩
        ref := ⟨"a/\r😀\u2028b", by decide⟩ }
    logLevel := .unset }

theorem loads_escaped : escapedSurroundings.Loads escapedSettings :=
  ⟨.empty, rfl, by decide +kernel⟩

theorem documents_of_escaped :
    (∃ document url path ref,
      ((command .installed ["show-target"] escapedSurroundings usualNetwork).output ⟨0⟩).out =
        document ++ "\n" ∧
      (∀ c ∈ document.toList, c = '\n' ∨ 0x20 ≤ c.toNat ∧ c.toNat < 0x7F) ∧
      Text.splitLines (document ++ "\n").toList = (requestLines url path ref).map String.toList ∧
      Json.read url = some (.text escapedSettings.dispatchUrl) ∧
      Json.read path = some (.text escapedSettings.target.path) ∧
      Json.read ref = some (.text "a/\r😀\u2028b") ∧
      Json.read document =
        some (.object
          [("method", .text "POST"), ("url", .text escapedSettings.dispatchUrl),
            ("path", .text escapedSettings.target.path),
            ("body", .object [("ref", .text "a/\r😀\u2028b")])])) ∧
    ∃ body,
      ((command .installed ["dispatch", "--dry-run"] escapedSurroundings usualNetwork).output
        ⟨0⟩).out = "POST " ++ escapedSettings.dispatchUrl ++ "\n" ++ body ++ "\n" ∧
      (∀ c ∈ body.toList, 0x20 ≤ c.toNat ∧ c.toNat < 0x7F) ∧
      Json.read body = some (.object [("ref", .text "a/\r😀\u2028b")]) :=
  documents_of_loads loads_escaped
    (show CommandLine.read ["show-target"] = .run .showTarget false by decide) (by decide)
    .installed usualNetwork

end Run
end WorkflowDispatch
