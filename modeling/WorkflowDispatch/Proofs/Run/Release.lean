import WorkflowDispatch.Proofs.Run.Example
/-!
What becomes of the two connections.  In every run that opens them the first one is closed once,
whatever else fails, and the second one once if the first could be closed, and never otherwise.
-/

namespace WorkflowDispatch
namespace Run

/-- The connections have been opened. -/
def Connects (calls : List Call) : Prop :=
  ∃ token baseUrl seconds, Call.connect token baseUrl seconds ∈ calls

/-- Each connection is closed once, but the second one only behind a first one that could be
closed.  Nothing is called afterwards. -/
structure Released (n : Network) (calls : List Call) : Prop where
  session : calls.count .closeSession = 1
  service : calls.count .closeService = if n.sessionClose.isNone then 1 else 0
  last : calls.getLast? = some (if n.sessionClose.isNone then .closeService else .closeSession)

theorem released_exchange (x : Settings) (seconds : Int) (n : Network) :
    Released n (exchange x seconds n) := by
  unfold exchange postCalls Client.closeCalls
  cases hs : n.sessionClose with
  | some f => cases n.rateLimit.1 <;> exact ⟨rfl, by rw [hs]; rfl, by rw [hs]; rfl⟩
  | none => cases n.rateLimit.1 <;> exact ⟨rfl, by rw [hs]; rfl, by rw [hs]; rfl⟩

theorem released_of_connects {n : Network} {calls : List Call} {s : Surroundings}
    (h : calls = [] ∨ ∃ x seconds, s.Loads x ∧ calls = exchange x seconds n)
    (hc : Connects calls) : Released n calls := by
  rcases h with rfl | ⟨x, seconds, -, rfl⟩
  · obtain ⟨_, _, _, hmem⟩ := hc
    cases hmem
  · exact released_exchange x seconds n

theorem exchange_of_command (entry : Entry) (arguments : List String) (s : Surroundings)
    (n : Network) :
    (command entry arguments s n).calls = [] ∨
      ∃ x seconds, s.Loads x ∧ (command entry arguments s n).calls = exchange x seconds n := by
  unfold command
  cases CommandLine.read arguments with
  | help scope => exact .inl rfl
  | version => exact .inl rfl
  | misuse scope m => exact .inl rfl
  | run c dryRun =>
    exact calls_withSettings (fun _ => rfl) fun _ hx => callsOf_perform hx entry c dryRun s.now n

/-- Both programs leave the connections in the same way, on every path and whatever the network does
to the requests and to the closing. -/
theorem released_of_run (entry : Entry) (arguments : List String) (s : Surroundings)
    (n : Network) :
    (Connects (command entry arguments s n).calls →
      Released n (command entry arguments s n).calls) ∧
    (Connects (Example.program s n).calls → Released n (Example.program s n).calls) :=
  ⟨released_of_connects (exchange_of_command entry arguments s n),
    released_of_connects (Example.calls_program s n)⟩

/-! ## A session that cannot be closed -/

/-- The usual answers, and a session that fails to close. -/
def stuckSession : Network :=
  { usualNetwork with sessionClose := some (.alone (.fault .runtime "boom")) }

theorem connects_stuckSession :
    Connects (command .installed ["dispatch"] bareSurroundings stuckSession).calls ∧
      Connects (Example.program bareSurroundings stuckSession).calls :=
  ⟨⟨"ambient", "https://api.github.com", 30, by decide +kernel⟩,
    ⟨"ambient", "https://api.github.com", 30, by decide +kernel⟩⟩

theorem released_of_stuckSession :
    Connects (command .installed ["dispatch"] bareSurroundings stuckSession).calls ∧
      Released stuckSession
        (command .installed ["dispatch"] bareSurroundings stuckSession).calls ∧
      Connects (Example.program bareSurroundings stuckSession).calls ∧
      Released stuckSession (Example.program bareSurroundings stuckSession).calls := by
  obtain ⟨hcommand, hexample⟩ := connects_stuckSession
  have hreleased := released_of_run .installed ["dispatch"] bareSurroundings stuckSession
  exact ⟨hcommand, hreleased.1 hcommand, hexample, hreleased.2 hexample⟩

/-- A session that fails to close keeps the connection to the service open. -/
theorem not_closeService_of_connects :
    ¬ ∀ (entry : Entry) (s : Surroundings) (n : Network),
      ∀ calls ∈ [(command entry ["dispatch"] s n).calls, (Example.program s n).calls],
        Connects calls → calls.count .closeSession = 1 ∧ calls.count .closeService = 1 := by
  intro hall
  have hservice := (hall .installed bareSurroundings stuckSession _ (.head _)
    connects_stuckSession.1).2
  revert hservice
  decide +kernel

end Run
end WorkflowDispatch
