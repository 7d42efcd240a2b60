import WorkflowDispatch.Action
/-!
Following an action step by step.  A trace that is continued keeps its events in front, so the trace
of a sequence is the trace of its last step behind the events of the steps before it.
-/

namespace WorkflowDispatch

variable {α β : Type}

namespace Trace

/-- The trace as it looks behind events that came before it. -/
def after (es : List Event) (t : Trace α) : Trace α := ⟨t.result, es ++ t.events, t.network⟩

@[simp] theorem result_after (es : List Event) (t : Trace α) : (t.after es).result = t.result := rfl

@[simp] theorem events_after (es : List Event) (t : Trace α) :
    (t.after es).events = es ++ t.events := rfl

@[simp] theorem network_after (es : List Event) (t : Trace α) :
    (t.after es).network = t.network := rfl

/-- The trace with a success put into another form. -/
def map (f : α → β) (t : Trace α) : Trace β := ⟨t.result.map f, t.events, t.network⟩

@[simp] theorem result_map (f : α → β) (t : Trace α) : (t.map f).result = t.result.map f := rfl

@[simp] theorem events_map (f : α → β) (t : Trace α) : (t.map f).events = t.events := rfl

@[simp] theorem network_map (f : α → β) (t : Trace α) : (t.map f).network = t.network := rfl

theorem after_after (ds es : List Event) (t : Trace α) :
    (t.after es).after ds = t.after (ds ++ es) := by
  simp [after]

end Trace

namespace Action

theorem pure_apply (x : α) (n : Network) : (Pure.pure x : Action α) n = ⟨.ok x, [], n⟩ := rfl

theorem bind_of_ok {a : Action α} {n m : Network} {x : α} {es : List Event}
    (h : a n = ⟨.ok x, es, m⟩) (k : α → Action β) : (a >>= k) n = (k x m).after es := by
  simp only [Bind.bind, Action.bind, h, Trace.after]

theorem bind_of_error {a : Action α} {n m : Network} {f : Failure} {es : List Event}
    (h : a n = ⟨.error f, es, m⟩) (k : α → Action β) : (a >>= k) n = ⟨.error f, es, m⟩ := by
  simp only [Bind.bind, Action.bind, h]

theorem bind_pure_apply (a : Action α) (f : α → β) (n : Network) :
    (a >>= fun x => Pure.pure (f x)) n = (a n).map f := by
  obtain ⟨result, es, m, ha⟩ : ∃ result es m, a n = ⟨result, es, m⟩ := ⟨_, _, _, rfl⟩
  cases result with
  | error g => rw [bind_of_error ha, ha]; rfl
  | ok x =>
    rw [bind_of_ok ha, ha, pure_apply, Trace.after, List.append_nil]
    rfl

/-- Trying an action never fails, so what follows always runs. -/
theorem attempt_bind (a : Action α) (k : Except Failure α → Action β) (n : Network) :
    (a.attempt >>= k) n = (k (a n).result (a n).network).after (a n).events := rfl

theorem log_bind (e : Log.Entry) (k : Unit → Action β) (n : Network) :
    (log e >>= k) n = (k () n).after [.log e] := rfl

/-- What cannot fail itself fails only where the action before it does. -/
theorem result_bind_of_ok {k : α → Action β} {g : α → β} (h : ∀ x n, (k x n).result = .ok (g x))
    (a : Action α) (n : Network) : ((a >>= k) n).result = (a n).result.map g := by
  obtain ⟨result, es, m, ha⟩ : ∃ result es m, a n = ⟨result, es, m⟩ := ⟨_, _, _, rfl⟩
  cases result with
  | error f => rw [bind_of_error ha, ha]; rfl
  | ok x => rw [bind_of_ok ha, ha, Trace.result_after, h]; rfl

theorem events_andFinally (a : Action α) (cleanup : Action Unit) (n : Network) :
    (a.andFinally cleanup n).events = (a n).events ++ (cleanup (a n).network).events := rfl

theorem result_andFinally_of_ok {a : Action α} {cleanup : Action Unit} {n : Network}
    (h : (cleanup (a n).network).result = .ok ()) :
    (a.andFinally cleanup n).result = (a n).result := by
  simp only [andFinally, h]

/-- The failure of a cleanup keeps its reason, whatever it interrupts. -/
theorem result_andFinally_of_error {a : Action α} {cleanup : Action Unit} {n : Network}
    {f : Failure} (h : (cleanup (a n).network).result = .error f) :
    ∃ g, (a.andFinally cleanup n).result = .error g ∧ g.reason = f.reason := by
  cases hr : (a n).result with
  | ok x => exact ⟨f, by simp only [andFinally, h, hr], rfl⟩
  | error e =>
    refine ⟨f.whileHandling e, by simp only [andFinally, h, hr], ?_⟩
    cases f <;> rfl

theorem askRateLimit_apply (n : Network) :
    askRateLimit n = ⟨n.rateLimit.1, [.call .rateLimit], n.rateLimit.2⟩ := rfl

theorem post_apply (url : String) (body : List (String × String)) (timeout : Binary64)
    (n : Network) :
    post url body timeout n = ⟨n.post.1, [.call (.post url body timeout)], n.post.2⟩ := rfl

end Action

/-! ## Calls -/

@[simp] theorem callsOf_nil : callsOf [] = [] := rfl

@[simp] theorem callsOf_call (c : Call) (es : List Event) :
    callsOf (.call c :: es) = c :: callsOf es := rfl

@[simp] theorem callsOf_log (e : Log.Entry) (es : List Event) :
    callsOf (.log e :: es) = callsOf es := rfl

@[simp] theorem callsOf_print (s : Stream) (text : String) (es : List Event) :
    callsOf (.print s text :: es) = callsOf es := rfl

@[simp] theorem callsOf_append (es ds : List Event) :
    callsOf (es ++ ds) = callsOf es ++ callsOf ds :=
  List.filterMap_append

/-- What makes no call itself adds none to the calls before it. -/
theorem callsOf_bind_of_silent {k : α → Action β} (h : ∀ x n, callsOf (k x n).events = [])
    (a : Action α) (n : Network) : callsOf ((a >>= k) n).events = callsOf (a n).events := by
  obtain ⟨result, es, m, ha⟩ : ∃ result es m, a n = ⟨result, es, m⟩ := ⟨_, _, _, rfl⟩
  cases result with
  | error f => rw [Action.bind_of_error ha, ha]
  | ok x =>
    rw [Action.bind_of_ok ha, ha, Trace.events_after, callsOf_append, h, List.append_nil]

end WorkflowDispatch
