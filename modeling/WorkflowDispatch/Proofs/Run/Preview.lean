import WorkflowDispatch.Proofs.Json.RoundTrip
import WorkflowDispatch.Proofs.Run.Calls
/-!
A preview tells the truth.  The address that is shown is put together from the settings, the one that
is sent to is put together by the client, and they are the same because the base address of loaded
settings has no slash at its end.
-/

namespace WorkflowDispatch
namespace Run

/-! ## What is printed -/

theorem out_warningEvents (now : Timestamp) (loggers : Log.Loggers) (c : EnvFile.Content) :
    (render now loggers (warningEvents c)).out = "" := by
  unfold warningEvents
  split <;> rfl

theorem out_append (now : Timestamp) (loggers : Log.Loggers) (es es' : List Event) :
    (render now loggers (es ++ es')).out =
      (render now loggers es).out ++ (render now loggers es').out := by
  simp [render]

/-- Warnings go to the other stream, so a command that prints one text prints nothing else. -/
theorem out_of_perform_print {s : Surroundings} {x : Settings} (h : s.Loads x)
    {arguments : List String} {c : CommandLine.Command} {dryRun : Bool}
    (hr : CommandLine.read arguments = .run c dryRun) {entry : Entry} {text : String} {n : Network}
    (hp : (perform entry c dryRun s.now x n).events = [.print .out text]) :
    ((command entry arguments s n).output s.now).out = text := by
  obtain ⟨content, hcommand⟩ := command_of_loads h hr entry n
  rw [hcommand, hp, Report.output, out_append, out_warningEvents, String.empty_append]
  simp [render, outputOf]

/-! ## What is sent -/

/-- The address of the client is the address in the settings. -/
theorem apiUrl_of_build {x : Settings} (hx : x.WellFormed) {n : Network} {c : Client}
    (h : (Client.build (parameters x) n).result = .ok c) :
    c.apiUrl x.target.path = x.dispatchUrl := by
  cases hs : Client.wholeTimeout x.timeout with
  | error f =>
    rw [build_parameters_of_error hx hs] at h
    cases h
  | ok seconds =>
    rw [build_parameters_of_ok hx hs] at h
    cases h
    exact Client.apiUrl_path (clientFor x) x.target

theorem eq_of_post_mem_exchange {x : Settings} {seconds : Int} {n : Network} {url : String}
    {body : List (String × String)} {timeout : Binary64}
    (h : Call.post url body timeout ∈ exchange x seconds n) :
    url = x.dispatchUrl ∧ body = [("ref", x.target.ref.text)] := by
  simp only [exchange, List.mem_cons, List.mem_append, reduceCtorEq, false_or] at h
  rcases h with h | h
  · unfold postCalls at h
    split at h
    · cases List.mem_singleton.1 h
      exact ⟨rfl, rfl⟩
    · cases h
  · unfold Client.closeCalls at h
    split at h
    · cases List.mem_singleton.1 h
    · simp at h

theorem eq_of_post_mem_calls {s : Surroundings} {x : Settings} (h : s.Loads x)
    {arguments : List String} {c : CommandLine.Command} {dryRun : Bool}
    (hr : CommandLine.read arguments = .run c dryRun) {entry : Entry} {n : Network} {url : String}
    {body : List (String × String)} {timeout : Binary64}
    (hp : Call.post url body timeout ∈ (command entry arguments s n).calls) :
    url = x.dispatchUrl ∧ body = [("ref", x.target.ref.text)] := by
  obtain ⟨content, hcommand⟩ := command_of_loads h hr entry n
  unfold Report.calls at hp
  rw [hcommand] at hp
  dsimp only at hp
  rw [callsOf_append, callsOf_warningEvents, List.nil_append] at hp
  rcases callsOf_perform h.wellFormed entry c dryRun s.now n with hnone | ⟨seconds, hcalls⟩
  · rw [hnone] at hp
    cases hp
  · rw [hcalls] at hp
    exact eq_of_post_mem_exchange hp

/-! ## The preview -/

/-- A dry run and the document of the target show the address and the body of every dispatch that is
sent from the same surroundings, whatever the network answers. -/
theorem preview_eq_request {s : Surroundings} {x : Settings} (h : s.Loads x)
    {dry shown sent : List String} (hdry : CommandLine.read dry = .run .dispatch true)
    (hshown : CommandLine.read shown = .run .showTarget false)
    (hsent : CommandLine.read sent = .run .dispatch false) :
    ∃ url path ref body document,
      (∀ entry n,
        ((command entry dry s n).output s.now).out = "POST " ++ url ++ "\n" ++ body ++ "\n") ∧
      (∀ entry n, ((command entry shown s n).output s.now).out = document ++ "\n") ∧
      Json.read body = some (.object [("ref", .text ref)]) ∧
      Json.read document =
        some (.object
          [("method", .text "POST"), ("url", .text url), ("path", .text path),
            ("body", .object [("ref", .text ref)])]) ∧
      (∀ entry n postUrl payload timeout,
        Call.post postUrl payload timeout ∈ (command entry sent s n).calls →
          postUrl = url ∧ payload = [("ref", ref)]) ∧
      url = x.baseUrl ++ path ∧ path = x.target.path ∧
      ∀ n c, (Client.build (parameters x) n).result = .ok c → c.apiUrl path = url := by
  refine ⟨x.dispatchUrl, x.target.path, x.target.ref.text, (bodyDocument x.target).write .ascii,
    (requestDocument x).writeIndented 0, ?_, ?_, ?_, ?_, ?_, rfl, rfl, ?_⟩
  · intro entry n
    exact out_of_perform_print h hdry rfl
  · intro entry n
    exact out_of_perform_print h hshown rfl
  · exact Json.read_write .ascii _
  · exact Json.read_writeIndented 0 _
  · intro entry n postUrl payload timeout hpost
    exact eq_of_post_mem_calls h hsent hpost
  · intro n c hc
    exact apiUrl_of_build h.wellFormed hc

/-- The preview of the defaults, for the plain command lines. -/
theorem preview_bareSurroundings :
    ∃ url path ref body document,
      (∀ entry n,
        ((command entry ["dispatch", "--dry-run"] bareSurroundings n).output
          bareSurroundings.now).out = "POST " ++ url ++ "\n" ++ body ++ "\n") ∧
      (∀ entry n,
        ((command entry ["show-target"] bareSurroundings n).output bareSurroundings.now).out =
          document ++ "\n") ∧
      Json.read body = some (.object [("ref", .text ref)]) ∧
      Json.read document =
        some (.object
          [("method", .text "POST"), ("url", .text url), ("path", .text path),
            ("body", .object [("ref", .text ref)])]) ∧
      (∀ entry n postUrl payload timeout,
        Call.post postUrl payload timeout ∈ (command entry ["dispatch"] bareSurroundings n).calls →
          postUrl = url ∧ payload = [("ref", ref)]) ∧
      url = bareSettings.baseUrl ++ path ∧ path = bareSettings.target.path ∧
      ∀ n c, (Client.build (parameters bareSettings) n).result = .ok c → c.apiUrl path = url :=
  preview_eq_request loads_bareSurroundings (by decide) (by decide) read_dispatch

end Run
end WorkflowDispatch
