import Mathlib.Data.List.Forall2
import Mathlib.Data.List.Infix
import WorkflowDispatch.CommandLine.Invocation
import WorkflowDispatch.Proofs.Result
/-!
Which command lines ask for a command.  Main statement: those that do are the two commands alone,
and the dispatch with nothing behind it but words for the dry run.  Everything else is answered with
help, with the version, or as a misuse.
-/

namespace WorkflowDispatch
namespace CommandLine

/-! ## Words for the dry run -/

def dryRunOption : String := "--dry-run"

/-- The option for the dry run, or a beginning of it that cannot be a beginning of the other
option. -/
def IsDryRun (word : String) : Prop :=
  "--d".toList <+: word.toList ∧ word.toList <+: dryRunOption.toList

/-- All spellings of the option. -/
def dryRunWords : List String :=
  ["--d", "--dr", "--dry", "--dry-", "--dry-r", "--dry-ru", "--dry-run"]

theorem mem_dryRunWords_of_isDryRun {word : String} (h : IsDryRun word) : word ∈ dryRunWords := by
  obtain ⟨hbegin, hend⟩ := h
  have hall : ∀ n ≤ dryRunOption.toList.length, "--d".toList.length ≤ n →
      String.ofList (dryRunOption.toList.take n) ∈ dryRunWords := by
    decide +kernel
  have htake := hall word.toList.length hend.length_le hbegin.length_le
  rwa [← List.prefix_iff_eq_take.1 hend, String.ofList_toList] at htake

/-! ## The class of one word -/

variable {options : Options} {word : String} {switch : Switch} {short : Bool}
  {value : Option String}

/-- The ways in which a word can be an option: as one that is written out, with or without a value
behind an equals sign, as a beginning of one, or as a letter with its value. -/
inductive OptionForm (options : Options) (word : String) : Switch → Bool → Option String → Prop
  | exact {switch : Switch} (h : options.lookup word = some switch) :
      OptionForm options word switch (isShort word) none
  | valued {name v : String} {switch : Switch} (hsplit : splitValue word = (name, some v))
      (h : options.lookup name = some switch) :
      OptionForm options word switch (isShort name) (some v)
  | beginning {name : String} {value : Option String} {o : String × Switch}
      (hdashes : ['-', '-'] <+: word.toList) (hsplit : splitValue word = (name, value))
      (h : expansions options name = [o]) : OptionForm options word o.2 false value
  | letter {switch : Switch}
      (h : options.lookup (String.ofList (word.toList.take 2)) = some switch) :
      OptionForm options word switch true (some (String.ofList (word.toList.drop 2)))

theorem otherWord_ne_option : otherWord word ≠ .option switch short value := by
  unfold otherWord
  split <;> exact Word.noConfusion

theorem optionForm_of_classify (h : classify options word = .ok (.option switch short value)) :
    OptionForm options word switch short value := by
  unfold classify at h
  split at h
  · next second rest hword =>
    split at h
    · next hlookup =>
      cases Except.ok.inj h
      exact .exact hlookup
    · dsimp only at h
      split at h
      · next v s hvalue hlookup =>
        cases Except.ok.inj h
        exact .valued (Prod.ext rfl hvalue) hlookup
      · split at h
        · next hsecond =>
          unfold classifyLong at h
          dsimp only at h
          split at h
          · exact absurd (Except.ok.inj h) otherWord_ne_option
          · next o hexpansions =>
            cases Except.ok.inj h
            refine .beginning ?_ rfl hexpansions
            rw [hword, hsecond]
            exact List.prefix_append ['-', '-'] rest
          · cases h
        · unfold classifyShort at h
          split at h
          · next s hlookup =>
            cases Except.ok.inj h
            exact .letter hlookup
          · exact absurd (Except.ok.inj h) otherWord_ne_option
  · cases h

/-- An option of a word is one that the scope knows. -/
theorem OptionForm.exists_mem (h : OptionForm options word switch short value) :
    ∃ name, (name, switch) ∈ options := by
  have hmem : ∀ {name : String} {switch : Switch}, options.lookup name = some switch →
      (name, switch) ∈ options := by
    intro name switch hlookup
    obtain ⟨front, back, rfl, _⟩ := List.lookup_eq_some_iff.1 hlookup
    exact List.mem_append_right _ List.mem_cons_self
  cases h with
  | exact h => exact ⟨_, hmem h⟩
  | valued hsplit h => exact ⟨_, hmem h⟩
  | @beginning name value o hdashes hsplit h =>
    have ho : o ∈ expansions options name := h ▸ List.mem_singleton_self o
    exact ⟨o.1, (List.mem_filter.1 ho).1⟩
  | letter h => exact ⟨_, hmem h⟩

theorem eq_of_splitValue {name : String} (h : splitValue word = (name, none)) : name = word := by
  unfold splitValue at h
  dsimp only at h
  split at h
  · cases h
  · exact (Prod.mk.inj h).1.symm

theorem eq_dryRunOption_of_lookup {name : String}
    (h : Command.dispatch.options.lookup name = some .dryRun) : name = dryRunOption := by
  have hall : ∀ o ∈ Command.dispatch.options, o.2 = .dryRun → o.1 = dryRunOption := by decide
  obtain ⟨front, back, heq, _⟩ := List.lookup_eq_some_iff.1 h
  exact hall _ (heq ▸ List.mem_append_right _ List.mem_cons_self) rfl

/-- A word that is taken for the dry run behind the dispatch is one that is meant for it. -/
theorem isDryRun_of_optionForm (h : OptionForm Command.dispatch.options word .dryRun short value)
    (hvalue : switchMisuse .dryRun short value = none) : IsDryRun word := by
  generalize hswitch : Switch.dryRun = switch at h hvalue
  cases h with
  | exact h =>
    subst hswitch
    rw [eq_dryRunOption_of_lookup h]
    exact ⟨by decide, List.prefix_refl _⟩
  | valued hsplit h =>
    subst hswitch
    rw [eq_dryRunOption_of_lookup h] at hvalue
    cases hvalue
  | @beginning name value o hdashes hsplit h =>
    cases value with
    | some v => cases hvalue
    | none =>
      rw [eq_of_splitValue hsplit] at h
      have ho : o ∈ expansions Command.dispatch.options word := h ▸ List.mem_singleton_self o
      obtain ⟨hmem, hstarts⟩ := List.mem_filter.1 ho
      have hname : ∀ o ∈ Command.dispatch.options, Switch.dryRun = o.2 → o.1 = dryRunOption := by
        decide
      rw [hname o hmem hswitch] at hstarts
      have hend : word.toList <+: dryRunOption.toList := List.isPrefixOf_iff_prefix.1 hstarts
      -- Two dashes alone would be a beginning of the other option as well.
      have hlength : 3 ≤ word.toList.length := by
        by_contra hlt
        have hdash : word.toList = ['-', '-'] :=
          (hdashes.eq_of_length_le (by simp only [List.length_cons, List.length_nil]; omega)).symm
        have hword : word = "--" := String.toList_inj.1 hdash
        have htwo : (expansions Command.dispatch.options "--").length = 2 := by decide +kernel
        rw [hword] at h
        rw [h] at htwo
        cases htwo
      exact ⟨List.prefix_of_prefix_length_le (by decide) hend hlength, hend⟩
  | letter h =>
    subst hswitch
    have hlength := congrArg String.length (eq_dryRunOption_of_lookup h)
    have hnine : dryRunOption.length = 9 := by decide
    rw [String.length_ofList, List.length_take, hnine] at hlength
    omega

/-! ## The words behind a command -/

/-- An option for the dry run that has no value it cannot take. -/
def Word.isDryRun : Word → Bool
  | .option .dryRun short value => (switchMisuse .dryRun short value).isNone
  | _ => false

theorem unknown_ne_nil_of_withUnknown {a : Except Invocation Tail} {s : String} {t : Tail}
    (h : a.map (·.withUnknown s) = .ok t) : t.unknown ≠ [] := by
  obtain ⟨t', _, rfl⟩ := exists_of_map_ok h
  exact List.cons_ne_nil _ _

/-- A word that is understood behind a command is one for the dry run, since help and the version
end the reading. -/
theorem readTail_cons {c : Command} {w : Word} {ws : List Word} {t : Tail}
    (h : readTail c (w :: ws) = .ok t) (hunknown : t.unknown = []) :
    w.isDryRun = true ∧ t.dryRun = true ∧ ∃ t', readTail c ws = .ok t' ∧ t'.unknown = [] := by
  cases w with
  | plain text => exact absurd hunknown (unknown_ne_nil_of_withUnknown h)
  | unknown text => exact absurd hunknown (unknown_ne_nil_of_withUnknown h)
  | separator => exact absurd hunknown (unknown_ne_nil_of_withUnknown (s := "--") h)
  | option switch short value =>
    unfold readTail at h
    split at h
    · cases h
    · next hmisuse =>
      cases switch with
      | help => cases h
      | version => cases h
      | dryRun =>
        obtain ⟨t', ht', rfl⟩ := exists_of_map_ok h
        exact ⟨Option.isNone_iff_eq_none.2 hmisuse, rfl, t', ht', hunknown⟩

theorem isDryRun_of_readTail {c : Command} {ws : List Word} {t : Tail}
    (h : readTail c ws = .ok t) (hunknown : t.unknown = []) :
    (∀ w ∈ ws, w.isDryRun = true) ∧ t.dryRun = !ws.isEmpty := by
  induction ws generalizing t with
  | nil =>
    cases h
    exact ⟨nofun, rfl⟩
  | cons w ws ih =>
    obtain ⟨hw, hdry, t', ht', hunknown'⟩ := readTail_cons h hunknown
    obtain ⟨hws, _⟩ := ih ht' hunknown'
    exact ⟨fun v hv => (List.mem_cons.1 hv).elim (fun h => h ▸ hw) (hws v), hdry⟩

theorem error_of_map_error {α β ε : Type} {a : Except ε α} {f : α → β} {e : ε}
    (h : a.map f = .error e) : a = .error e := by
  cases a with
  | error e' => exact congrArg Except.error (Except.error.inj h)
  | ok x => cases h

/-- What ends the reading behind a command is no run of it. -/
theorem ne_run_of_readTail {c : Command} {ws : List Word} {i : Invocation}
    (h : readTail c ws = .error i) (c' : Command) (dryRun : Bool) : i ≠ .run c' dryRun := by
  induction ws with
  | nil => cases h
  | cons w ws ih =>
    cases w with
    | plain text => exact ih (error_of_map_error h)
    | unknown text => exact ih (error_of_map_error h)
    | separator => exact ih (error_of_map_error h)
    | option switch short value =>
      unfold readTail at h
      split at h
      · cases h
        exact Invocation.noConfusion
      · cases switch with
        | help => cases h; exact Invocation.noConfusion
        | version => cases h; exact Invocation.noConfusion
        | dryRun => exact ih (error_of_map_error h)

/-- The dry run may be asked for several times. -/
theorem readTail_replicate (c : Command) (n : Nat) :
    readTail c (List.replicate n (.option .dryRun false none)) = .ok ⟨n != 0, []⟩ := by
  induction n with
  | zero => rfl
  | succ n ih =>
    have hcons : readTail c (.option .dryRun false none ::
        List.replicate n (.option .dryRun false none)) =
          (readTail c (List.replicate n (.option .dryRun false none))).map Tail.withDryRun := rfl
    rw [List.replicate_succ, hcons, ih]
    rfl

theorem forall₂_of_classifyAll {words : List String} {ws : List Word}
    (h : classifyAll options words = .ok ws) (hsep : .separator ∉ ws) :
    List.Forall₂ (fun word w => classify options word = .ok w) words ws := by
  induction words generalizing ws with
  | nil => cases h; exact .nil
  | cons word words ih =>
    rw [classifyAll] at h
    split at h
    · cases h
      exact absurd List.mem_cons_self hsep
    · obtain ⟨w, hw, h⟩ := exists_of_bind_ok h
      obtain ⟨others, hothers, h⟩ := exists_of_bind_ok h
      cases h
      exact .cons hw (ih hothers fun hmem => hsep (List.mem_cons_of_mem _ hmem))

theorem optionForm_of_classifyAll {words : List String} {ws : List Word}
    (h : classifyAll options words = .ok ws) (hmem : .option switch short value ∈ ws) :
    ∃ word ∈ words, OptionForm options word switch short value := by
  induction words generalizing ws with
  | nil =>
    cases h
    cases hmem
  | cons word words ih =>
    rw [classifyAll] at h
    split at h
    · -- Behind the separator there are no options.
      cases h
      simp at hmem
    · obtain ⟨w, hw, h⟩ := exists_of_bind_ok h
      obtain ⟨others, hothers, h⟩ := exists_of_bind_ok h
      cases h
      rcases List.mem_cons.1 hmem with rfl | hmem
      · exact ⟨word, List.mem_cons_self, optionForm_of_classify hw⟩
      · obtain ⟨v, hv, hform⟩ := ih hothers hmem
        exact ⟨v, List.mem_cons_of_mem _ hv, hform⟩

/-! ## Commands -/

/-- The words that may stand behind a command that is run. -/
def Command.Takes : Command → List String → Prop
  | .dispatch, words => ∀ word ∈ words, IsDryRun word
  | .showTarget, words => words = []

/-- A command line that is understood: a command, and behind it what it takes. -/
structure Understood (c : Command) (dryRun : Bool) (words behind : List String) : Prop where
  words_eq : words = c.name :: behind
  takes : c.Takes behind
  dryRun_eq : dryRun = !behind.isEmpty

variable {c : Command} {dryRun : Bool} {unknown words : List String} {name : String}

theorem exists_of_isDryRun {w : Word} (h : w.isDryRun = true) :
    ∃ short value, w = .option .dryRun short value ∧ switchMisuse .dryRun short value = none := by
  cases w with
  | option switch short value =>
    cases switch with
    | dryRun => exact ⟨short, value, rfl, Option.isNone_iff_eq_none.1 h⟩
    | _ => cases h
  | _ => cases h

theorem takes_of_forall₂ {ws : List Word}
    (hclass : List.Forall₂ (fun word w => classify c.options word = .ok w) words ws)
    (hws : ∀ w ∈ ws, w.isDryRun = true) : c.Takes words := by
  induction hclass with
  | nil =>
    cases c with
    | dispatch => exact nofun
    | showTarget => rfl
  | @cons word w words ws hword _ ih =>
    obtain ⟨short, value, rfl, hmisuse⟩ := exists_of_isDryRun (hws w List.mem_cons_self)
    have hform := optionForm_of_classify hword
    have htakes := ih fun v hv => hws v (List.mem_cons_of_mem _ hv)
    cases c with
    | dispatch =>
      intro v hv
      rcases List.mem_cons.1 hv with rfl | hv
      · exact isDryRun_of_optionForm hform hmisuse
      · exact htakes v hv
    | showTarget =>
      obtain ⟨spelling, hmem⟩ := hform.exists_mem
      simp [Command.options, helpOptions] at hmem

theorem understood_of_readCommand (h : readCommand unknown name words = .run c dryRun) :
    unknown = [] ∧ Understood c dryRun (name :: words) words := by
  unfold readCommand at h
  split at h
  · cases h
  · next command hfind =>
    have hname : command.name = name :=
      beq_iff_eq.1 (List.find?_some (p := fun c : Command => c.name == name) hfind)
    split at h
    · cases h
    · next classified hclass =>
      split at h
      · next hread =>
        cases h
        exact absurd rfl (ne_run_of_readTail hread c dryRun)
      · next tail htail =>
        split at h
        · next hnone =>
          cases h
          obtain ⟨hunknown, htailUnknown⟩ := List.append_eq_nil_iff.1 hnone
          obtain ⟨hall, hdry⟩ := isDryRun_of_readTail htail htailUnknown
          have hsep : .separator ∉ classified := fun hmem => by cases hall _ hmem
          have hwords := forall₂_of_classifyAll hclass hsep
          refine ⟨hunknown, by rw [hname], takes_of_forall₂ hwords hall, ?_⟩
          rw [hdry]
          cases hwords <;> rfl
        · cases h

/-- A command that is read has nothing in front of it that was not understood.  The scope of the
program has no option for the dry run. -/
theorem understood_of_readHead {ws : List Word}
    (hscope : ∀ short value, .option .dryRun short value ∉ ws)
    (h : readHead unknown ws words = .run c dryRun) :
    unknown = [] ∧ ∃ behind, Understood c dryRun words behind := by
  fun_induction readHead unknown ws words with
  | case1 =>
    obtain ⟨hunknown, hunderstood⟩ := understood_of_readCommand h
    exact ⟨hunknown, _, hunderstood⟩
  | case2 =>
    obtain ⟨hunknown, hunderstood⟩ := understood_of_readCommand h
    exact ⟨hunknown, _, hunderstood⟩
  | case3 unknown text rest _ words ih =>
    obtain ⟨hunknown, _⟩ := ih (fun short value hmem => hscope short value
      (List.mem_cons_of_mem _ hmem)) h
    simp at hunknown
  | case4 => cases h
  | case5 => cases h
  | case6 => cases h
  | case7 => exact absurd List.mem_cons_self (hscope _ _)
  | case8 => cases h

theorem classifyAll_cons {w : Word} {ws : List Word} (hne : word ≠ "--")
    (hword : classify options word = .ok w) (hwords : classifyAll options words = .ok ws) :
    classifyAll options (word :: words) = .ok (w :: ws) := by
  rw [classifyAll, if_neg hne, hword, hwords]
  rfl

theorem classifyAll_eq_map {f : String → Word} (h : ∀ word ∈ words, word ≠ "--" ∧
    classify options word = .ok (f word)) : classifyAll options words = .ok (words.map f) := by
  induction words with
  | nil => rfl
  | cons word words ih =>
    obtain ⟨hne, hword⟩ := h word List.mem_cons_self
    exact classifyAll_cons hne hword (ih fun v hv => h v (List.mem_cons_of_mem _ hv))

/-- Every spelling of the option is understood behind the dispatch, and is no option of the
program. -/
theorem classify_of_isDryRun (h : IsDryRun word) :
    word ≠ "--" ∧ classify Command.dispatch.options word = .ok (.option .dryRun false none) ∧
      classify topOptions word = .ok (.unknown word) := by
  have hall : ∀ word ∈ dryRunWords, word ≠ "--" ∧
      classify Command.dispatch.options word = .ok (.option .dryRun false none) ∧
        classify topOptions word = .ok (.unknown word) := by
    decide +kernel
  exact hall word (mem_dryRunWords_of_isDryRun h)

/-- The first word is the command, whatever stands behind it. -/
theorem read_command {ws : List Word} (h : classifyAll topOptions words = .ok ws) :
    read (c.name :: words) = readCommand [] c.name words := by
  have hname : c.name ≠ "--" ∧ classify topOptions c.name = .ok (.plain c.name) := by
    cases c <;> decide +kernel
  rw [read, classifyAll_cons hname.1 hname.2 h]
  rfl

/-- A command line asks for a command exactly when it is understood. -/
theorem read_eq_run_iff :
    read words = .run c dryRun ↔ ∃ behind, Understood c dryRun words behind := by
  constructor
  · intro h
    unfold read at h
    split at h
    · cases h
    · next ws hclass =>
      refine (understood_of_readHead (fun short value hmem => ?_) h).2
      obtain ⟨word, _, hform⟩ := optionForm_of_classifyAll hclass hmem
      obtain ⟨name, hname⟩ := hform.exists_mem
      simp [topOptions, helpOptions] at hname
  · rintro ⟨behind, rfl, htakes, rfl⟩
    cases c with
    | showTarget =>
      cases htakes
      decide +kernel
    | dispatch =>
      have htop : classifyAll topOptions behind = .ok (behind.map .unknown) :=
        classifyAll_eq_map fun word hword =>
          ⟨(classify_of_isDryRun (htakes word hword)).1,
            (classify_of_isDryRun (htakes word hword)).2.2⟩
      have hscope : classifyAll Command.dispatch.options behind =
          .ok (behind.map fun _ => .option .dryRun false none) :=
        classifyAll_eq_map fun word hword =>
          ⟨(classify_of_isDryRun (htakes word hword)).1,
            (classify_of_isDryRun (htakes word hword)).2.1⟩
      have hfind : [Command.dispatch, .showTarget].find? (·.name == Command.dispatch.name) =
          some .dispatch := rfl
      rw [List.map_const'] at hscope
      rw [read_command htop, readCommand, hfind]
      dsimp only
      rw [hscope]
      dsimp only
      rw [readTail_replicate]
      cases behind <;> rfl

end CommandLine
end WorkflowDispatch
