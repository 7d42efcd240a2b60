import WorkflowDispatch.Proofs.Exchange
import WorkflowDispatch.Proofs.Text.Trim
/-!
Where a client sends its requests.  An address is put together with one slash, and it does not
matter how many slashes end the base that the client was built from or begin the path.
-/

namespace WorkflowDispatch

/-- The path of a target begins with one slash, which is taken away and put back. -/
theorem Target.slash_stripLeft_path (t : Target) : "/" ++ Text.stripLeft '/' t.path = t.path := by
  apply String.toList_inj.1
  simp [path, Text.stripLeft, Text.trimLeft]

namespace Client

theorem apiUrl_path (c : Client) (t : Target) : c.apiUrl t.path = c.baseUrl ++ t.path := by
  unfold apiUrl
  rw [String.append_assoc, t.slash_stripLeft_path]

/-! ## Slashes -/

def slashes (n : Nat) : String := Text.repeated '/' n

variable {p : Parameters} {n : Network} {c : Client}

theorem apiUrl_slashes_append (c : Client) (k : Nat) (path : String) :
    c.apiUrl (slashes k ++ path) = c.apiUrl path :=
  congrArg (c.baseUrl ++ "/" ++ ·) (Text.stripLeft_repeated_append '/' path k)

/-- A client keeps nothing else of its base. -/
theorem baseUrl_of_build (h : (build p n).result = .ok c) :
    c.baseUrl = Text.stripRight '/' p.baseUrl := by
  by_cases ht : p.token = ""
  · unfold build at h
    simp only [ht] at h
    cases h
  by_cases hd : p.dispatchToken = ""
  · unfold build at h
    simp only [hd, String.isEmpty_iff, ht, if_false] at h
    cases h
  cases hi : p.injected with
  | true =>
    rw [build_of_injected ht hd hi] at h
    cases h
    rfl
  | false =>
    cases hs : wholeTimeout p.timeout with
    | ok seconds =>
      rw [build_of_ok ht hd hi hs] at h
      cases h
      rfl
    | error f =>
      rw [build_of_error ht hd hi hs] at h
      cases h

/-- Building is the same for all bases with the same text in front of their last slashes. -/
theorem build_of_stripRight {b : String}
    (h : Text.stripRight '/' b = Text.stripRight '/' p.baseUrl) :
    build { p with baseUrl := b } = build p := by
  unfold build openSession
  simp only [h]

/-- Clients with one base have one address for every path. -/
theorem apiUrl_of_build {p' : Parameters} {n' : Network} {c' : Client}
    (h : (build p n).result = .ok c) (h' : (build p' n').result = .ok c')
    (hbase : Text.stripRight '/' p'.baseUrl = Text.stripRight '/' p.baseUrl) (path : String) :
    c'.apiUrl path = c.apiUrl path := by
  unfold apiUrl
  rw [baseUrl_of_build h', baseUrl_of_build h, hbase]

/-- The addresses of a client that was built from parameters. -/
structure Parameters.Addresses (p : Parameters) (c : Client) : Prop where
  base : ∃ m, p.baseUrl = c.baseUrl ++ slashes m
  last : c.baseUrl.toList.getLast? ≠ some '/'
  joined : ∀ path, ∃ k rest, path = slashes k ++ rest ∧ rest.toList.head? ≠ some '/' ∧
    c.apiUrl path = c.baseUrl ++ "/" ++ rest
  slashed : ∀ m, build { p with baseUrl := p.baseUrl ++ slashes m } = build p
  apiUrl_slashed : ∀ (m k : Nat) (path : String) (p' : Parameters) (n' : Network) (c' : Client),
    p'.baseUrl = p.baseUrl ++ slashes m → (build p' n').result = .ok c' →
    c'.apiUrl (slashes k ++ path) = c.apiUrl path
  rebuilt : build { p with baseUrl := c.baseUrl } = build p
  apiUrl_rebuilt : ∀ (path : String) (p' : Parameters) (n' : Network) (c' : Client),
    p'.baseUrl = c.baseUrl → (build p' n').result = .ok c' → c'.apiUrl path = c.apiUrl path

/-- The address for a path is the base without slashes at its end, one slash and the path without
slashes at its beginning.  Slashes that are added to the two change nothing, and neither does
building from the base of a client that has been built. -/
theorem addresses_of_build (h : (build p n).result = .ok c) : p.Addresses c := by
  have hbase := baseUrl_of_build h
  have hslashed : ∀ m, Text.stripRight '/' (p.baseUrl ++ slashes m) = Text.stripRight '/' p.baseUrl :=
    Text.stripRight_append_repeated '/' p.baseUrl
  have hrebuilt : Text.stripRight '/' c.baseUrl = Text.stripRight '/' p.baseUrl := by
    rw [hbase, Text.stripRight_stripRight]
  exact
    { base := hbase ▸ Text.exists_stripRight '/' p.baseUrl
      last := hbase ▸ Text.last_of_stripRight '/' p.baseUrl
      joined := by
        intro path
        obtain ⟨k, hk⟩ := Text.exists_stripLeft '/' path
        exact ⟨k, Text.stripLeft '/' path, hk, Text.head_of_stripLeft '/' path, rfl⟩
      slashed := fun m => build_of_stripRight (hslashed m)
      apiUrl_slashed := by
        intro m k path p' n' c' hp' h'
        rw [apiUrl_slashes_append]
        exact apiUrl_of_build h h' (hp' ▸ hslashed m) path
      rebuilt := build_of_stripRight hrebuilt
      apiUrl_rebuilt := fun path p' n' c' hp' h' => apiUrl_of_build h h' (hp' ▸ hrebuilt) path }

/-- A base of nothing but slashes. -/
def bareParameters : Parameters :=
  { token := "ambient"
    dispatchToken := "scoped"
    baseUrl := "///"
    timeout := .ofRatio false 15 1 Nat.one_pos
    injected := false }

theorem addresses_of_bareParameters :
    bareParameters.Addresses ⟨"scoped", "", .ofRatio false 15 1 Nat.one_pos⟩ ∧
      apiUrl ⟨"scoped", "", .ofRatio false 15 1 Nat.one_pos⟩ "//repos" = "/repos" := by
  have hbuild : (build bareParameters ⟨[], [], none, none⟩).result =
      .ok ⟨"scoped", "", .ofRatio false 15 1 Nat.one_pos⟩ := by rfl
  exact ⟨addresses_of_build hbuild, by decide⟩

end Client
end WorkflowDispatch
