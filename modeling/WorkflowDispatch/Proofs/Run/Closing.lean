import WorkflowDispatch.Proofs.Run.ExitCode
/-!
What closing the connections does to the exit code of a dispatch.  When both connections close, the
code is that of the dispatch.  When one of them does not, the code says failure, and what became of
the dispatch itself can no longer be seen from it.
-/

namespace WorkflowDispatch

namespace Network

/-- The network that gives the same answers and lets both connections be closed. -/
def closable (n : Network) : Network := { n with sessionClose := none, serviceClose := none }

def Closes (n : Network) : Prop := n.sessionClose = none ∧ n.serviceClose = none

variable {n : Network}

theorem Closes.closable (h : n.Closes) : n.closable = n := by
  obtain ⟨rateLimits, posts, sessionClose, serviceClose⟩ := n
  obtain ⟨rfl, rfl⟩ := h
  rfl

theorem closed_of_not_closes (h : ¬ n.Closes) : ∃ f, Client.closed n = .error f := by
  unfold Client.closed
  cases hs : n.sessionClose with
  | some f => exact ⟨f, rfl⟩
  | none =>
    cases hv : n.serviceClose with
    | some f => exact ⟨f, rfl⟩
    | none => exact absurd ⟨hs, hv⟩ h

end Network

namespace Run

variable {s : Surroundings} {x : Settings} {n m : Network}

/-- A connection that does not close makes every dispatch a failure, an accepted one too. -/
theorem ending_of_not_closes (hx : s.Loads x) (hn : n.Genuine) (hc : ¬ n.Closes) (entry : Entry) :
    (command entry ["dispatch"] s n).ending = .exit exitFailure := by
  obtain ⟨f, hf⟩ := Network.closed_of_not_closes hc
  rw [ending_of_loads hx, codeOf_dispatched_of_not_closed hn hx.wellFormed hf]

/-- The code of a dispatch whose connections close tells how the dispatch went. -/
theorem ending_of_closes (hx : s.Loads x) {client : Client}
    (hb : (Client.build (parameters x) n).result = .ok client) (hc : n.Closes) (entry : Entry) :
    (command entry ["dispatch"] s n).ending =
      .exit (codeOf (Trigger.ended (clientFor x) x.target s.now n)) := by
  rw [ending_of_loads hx, codeOf_dispatched_of_built hx.wellFormed hb hc.1 hc.2]

theorem exit_iff_closes (hx : s.Loads x) (hn : n.Genuine) {client : Client}
    (hb : (Client.build (parameters x) n).result = .ok client) {code : Nat}
    (hcode : codeOf (Trigger.ended (clientFor x) x.target s.now n) = code)
    (hfailure : code ≠ exitFailure) (entry : Entry) :
    (command entry ["dispatch"] s n).ending = .exit code ↔ n.Closes := by
  constructor
  · intro hexit
    by_contra hc
    rw [ending_of_not_closes hx hn hc] at hexit
    exact hfailure (Ending.exit.inj hexit).symm
  · intro hc
    rw [ending_of_closes hx hb hc, hcode]

/-- Of two networks that give the same answers, both lead to the same exit code when both let the
connections be closed or neither does, or when the dispatch is a failure anyway, and else they do
not. -/
theorem ending_eq_iff (hx : s.Loads x) (hn : n.Genuine) (hm : m.Genuine)
    (hnm : n.closable = m.closable) (entry : Entry) :
    (command entry ["dispatch"] s n).ending = (command entry ["dispatch"] s m).ending ↔
      ((n.Closes ↔ m.Closes) ∨
        (command entry ["dispatch"] s n.closable).ending = .exit exitFailure) := by
  by_cases hcn : n.Closes
  · by_cases hcm : m.Closes
    · rw [← hcn.closable, hnm, hcm.closable]
      simp
    · rw [ending_of_not_closes hx hm hcm, hcn.closable]
      simp [hcn, hcm]
  · by_cases hcm : m.Closes
    · rw [ending_of_not_closes hx hn hcn, hnm, hcm.closable, eq_comm]
      simp [hcn, hcm]
    · rw [ending_of_not_closes hx hn hcn, ending_of_not_closes hx hm hcm]
      simp [hcn, hcm]

/-- How far the exit code tells of a dispatch and not of its cleanup.  The code is settled by the
answers of the network exactly as long as the connections close: a failure to close one of them
takes the place of every other outcome. -/
theorem exit_code_of_closing (hx : s.Loads x) (hn : n.Genuine) (hm : m.Genuine)
    (hnm : n.closable = m.closable) (entry : Entry) :
    ((command entry ["dispatch"] s n).ending = (command entry ["dispatch"] s m).ending ↔
      ((n.Closes ↔ m.Closes) ∨
        (command entry ["dispatch"] s n.closable).ending = .exit 1)) ∧
    (¬ n.Closes → (command entry ["dispatch"] s n).ending = .exit 1) ∧
    ∀ client, (Client.build (parameters x) n).result = .ok client →
      (n.Accepts → ((command entry ["dispatch"] s n).ending = .exit 0 ↔ n.Closes)) ∧
      (n.RefusesSession ∨ n.RejectsCredential →
        ((command entry ["dispatch"] s n).ending = .exit 3 ↔ n.Closes)) ∧
      (n.RejectsDispatch → ((command entry ["dispatch"] s n).ending = .exit 4 ↔ n.Closes)) := by
  refine ⟨ending_eq_iff hx hn hm hnm entry, fun hc => ending_of_not_closes hx hn hc entry,
    fun client hb => ⟨fun h => ?_, fun h => ?_, fun h => ?_⟩⟩
  · exact exit_iff_closes hx hn hb (codeOf_ended_of_accepts h _ _ _) (by decide) entry
  · rcases h with h | h
    · exact exit_iff_closes hx hn hb (codeOf_ended_of_refusesSession h _ _ _) (by decide) entry
    · exact exit_iff_closes hx hn hb (codeOf_ended_of_rejectsCredential h _ _ _) (by decide) entry
  · exact exit_iff_closes hx hn hb (codeOf_ended_of_rejectsDispatch h _ _ _) (by decide) entry

/-! ## An accepted dispatch that cannot be closed -/

/-- The usual answers, and a connection to the service that fails to close. -/
def unclosable : Network :=
  { usualNetwork with serviceClose := some (.alone (.fault .runtime "boom")) }

theorem genuine_usualNetwork : usualNetwork.Genuine where
  rateLimits := nofun
  posts := nofun
  sessionClose := nofun
  serviceClose := nofun

theorem genuine_unclosable : unclosable.Genuine where
  rateLimits := nofun
  posts := nofun
  sessionClose := nofun
  serviceClose := by
    intro f hf
    rw [← Option.some.inj hf]
    rfl

theorem not_closes_unclosable : ¬ unclosable.Closes := fun h => nomatch h.2

theorem accepts_usualNetwork : usualNetwork.Accepts :=
  ⟨Network.usualRateLimit, Network.usualResponse, rfl, rfl, by decide, by decide⟩

theorem accepts_unclosable : unclosable.Accepts :=
  ⟨Network.usualRateLimit, Network.usualResponse, rfl, rfl, by decide, by decide⟩

/-- The dispatch is accepted, and the code of the run is not that of an acceptance. -/
theorem exit_code_of_unclosable :
    unclosable.Genuine ∧ unclosable.Accepts ∧ unclosable.closable = usualNetwork.closable ∧
      (command .installed ["dispatch"] bareSurroundings unclosable).ending = .exit 1 ∧
      (command .installed ["dispatch"] bareSurroundings unclosable).ending ≠ .exit 0 := by
  obtain ⟨_, hfailure, hbuilt⟩ := exit_code_of_closing loads_bareSurroundings genuine_unclosable
    genuine_usualNetwork rfl .installed
  refine ⟨genuine_unclosable, accepts_unclosable, rfl, hfailure not_closes_unclosable, ?_⟩
  rw [ne_eq, (hbuilt _ (build_bareSettings unclosable)).1 accepts_unclosable]
  exact not_closes_unclosable

/-- The exit code is not a function of the answers to the dispatch alone. -/
theorem not_ending_of_answers :
    ¬ ∀ s x, Surroundings.Loads s x → ∀ n m : Network, n.Genuine → m.Genuine →
      n.closable = m.closable → ∀ entry,
        (command entry ["dispatch"] s n).ending = (command entry ["dispatch"] s m).ending := by
  intro hall
  have hsame := hall _ _ loads_bareSurroundings unclosable usualNetwork genuine_unclosable
    genuine_usualNetwork rfl .installed
  rw [ending_of_not_closes loads_bareSurroundings genuine_unclosable not_closes_unclosable,
    ending_of_closes loads_bareSurroundings (build_bareSettings usualNetwork) ⟨rfl, rfl⟩,
    codeOf_ended_of_accepts accepts_usualNetwork] at hsame
  exact absurd (Ending.exit.inj hsame) (by decide)

end Run
end WorkflowDispatch
