import WorkflowDispatch.Proofs.Binary64.Value
import WorkflowDispatch.Proofs.Run.Dispatch
import WorkflowDispatch.Proofs.Settings.Invariant
/-!
The connection of a dispatch.  Its time limit is the one of the settings in whole seconds, so it can
be opened under every limit that loads but one: there is no whole number of seconds for a limit
without an end.
-/

namespace WorkflowDispatch

namespace Client

theorem wholeTimeout_of_toRat? {timeout : Binary64} {q : ℚ} (h : timeout.toRat? = some q) :
    wholeTimeout timeout = .ok (max 1 ⌈q⌉) := by
  cases timeout with
  | nan => cases h
  | infinite negative => cases h
  | finite negative mantissa exponent hc =>
    unfold wholeTimeout
    dsimp only
    rw [Binary64.ceil?_eq_map, h]
    rfl

theorem isLeast_max_ceil (q : ℚ) : IsLeast {k : ℤ | 1 ≤ k ∧ q ≤ k} (max 1 ⌈q⌉) := by
  refine ⟨⟨le_max_left _ _, ?_⟩, ?_⟩
  · exact Int.ceil_le.1 (le_max_right _ _)
  · rintro k ⟨hone, hq⟩
    exact max_le hone (Int.ceil_le.2 hq)

end Client

namespace Run

/-- The settings describe a client whenever their time limit is finite.  The connection then gets
the least whole number of seconds that is neither below the limit nor below one. -/
theorem build_of_loads {s : Surroundings} {x : Settings} (h : s.Loads x) (n : Network) :
    (x.timeout ≠ .infinite false → ∃ q seconds, x.timeout.toRat? = some q ∧
      IsLeast {k : ℤ | 1 ≤ k ∧ q ≤ k} seconds ∧
      Client.build (parameters x) n =
        ⟨.ok (clientFor x), [.call (.connect x.githubToken x.baseUrl seconds)], n⟩) ∧
    (x.timeout = .infinite false →
      Client.build (parameters x) n = ⟨.error (.alone .timeoutInfinite), [], n⟩) := by
  obtain ⟨_, _, hload⟩ := id h
  refine ⟨fun hfinite => ?_, fun hinfinite => ?_⟩
  · obtain ⟨q, hq, _⟩ := (Settings.invariant_of_load hload).timeout.2.resolve_left hfinite
    refine ⟨q, max 1 ⌈q⌉, hq, Client.isLeast_max_ceil q, ?_⟩
    exact build_parameters_of_ok h.wellFormed (Client.wholeTimeout_of_toRat? hq) n
  · refine build_parameters_of_error h.wellFormed ?_ n
    rw [hinfinite]
    rfl

/-! ## Limits at the two ends -/

/-- Bare surroundings with a time limit. -/
def limitedSurroundings (limit : String) : Surroundings :=
  { bareSurroundings with
    environment := bareSurroundings.environment ++ [("DISPATCH_TIMEOUT_SECONDS", limit)] }

/-- The least positive number is a limit, and it is rounded up to a second. -/
def briefSettings : Settings := { bareSettings with timeout := .finite false 1 (-1074) (by decide) }

def endlessSettings : Settings := { bareSettings with timeout := .infinite false }

theorem loads_brief : (limitedSurroundings "5e-324").Loads briefSettings :=
  ⟨.empty, rfl, by decide +kernel⟩

theorem loads_endless : (limitedSurroundings "inf").Loads endlessSettings :=
  ⟨.empty, rfl, by decide +kernel⟩

theorem build_of_limits :
    (∃ q seconds, briefSettings.timeout.toRat? = some q ∧
      IsLeast {k : ℤ | 1 ≤ k ∧ q ≤ k} seconds ∧
      Client.build (parameters briefSettings) usualNetwork =
        ⟨.ok (clientFor briefSettings),
          [.call (.connect "ambient" Settings.defaultBaseUrl seconds)], usualNetwork⟩) ∧
      Client.build (parameters endlessSettings) usualNetwork =
        ⟨.error (.alone .timeoutInfinite), [], usualNetwork⟩ :=
  ⟨(build_of_loads loads_brief usualNetwork).1 (by decide),
    (build_of_loads loads_endless usualNetwork).2 rfl⟩

/-- Not all settings that load describe a client. -/
theorem not_build_of_endless :
    ¬ ∀ s x, Surroundings.Loads s x → ∀ n, ∃ c, (Client.build (parameters x) n).result = .ok c := by
  intro hall
  obtain ⟨c, hc⟩ := hall _ _ loads_endless usualNetwork
  rw [build_parameters_of_error loads_endless.wellFormed (f := .alone .timeoutInfinite) rfl] at hc
  cases hc

end Run
end WorkflowDispatch
