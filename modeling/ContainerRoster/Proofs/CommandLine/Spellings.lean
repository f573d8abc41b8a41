import ContainerRoster.CommandLine.Flags
import ContainerRoster.Proofs.Failing

/-!
# Ways to write options

An option may be written by its name or by its letter, with its value in the same argument or in the
next one, and letters may share a hyphen.  `Written` has all of these.  A scan that goes through
arguments written so has seen the options that they were written for, in that order:
`comesTo_words` is the step for the arguments of one option or one hyphen, `comesTo_written` the
whole way.

The last option may not have been checked yet, so what a scan has seen is told after settling it.
And an option whose value is the next argument leaves the scan waiting in between, so both are about
the arguments that belong together and not about single ones.
-/

namespace ContainerRoster

namespace Flag

/-- Letters behind a hyphen, arguments behind these that belong to the last letter, and the options
that both give. -/
inductive Letters : List Char → List String → List (Flag × String) → Prop
  | done : Letters [] [] []
  | alone {flag : Flag} {c : Char} {letters : List Char} {behind : List String}
      {options : List (Flag × String)} (hc : flag.short? = some c) (hv : flag.takesValue = false)
      (h : Letters letters behind options) :
      Letters (c :: letters) behind ((flag, "true") :: options)
  | equals {flag : Flag} {c : Char} (value : String) (hc : flag.short? = some c)
      (hv : flag.takesValue = true) : Letters (c :: '=' :: value.toList) [] [(flag, value)]
  | attached {flag : Flag} {c : Char} (value : String) (hc : flag.short? = some c)
      (hv : flag.takesValue = true) (hne : value ≠ "") (he : value.toList.head? ≠ some '=') :
      Letters (c :: value.toList) [] [(flag, value)]
  | next {flag : Flag} {c : Char} (value : String) (hc : flag.short? = some c)
      (hv : flag.takesValue = true) (hn : value.toList.head? ≠ some '-') :
      Letters [c] [value] [(flag, value)]

/-- Arguments that belong together, and the options that they give. -/
inductive Words : List String → List (Flag × String) → Prop
  | alone {flag : Flag} (hv : flag.takesValue = false) : Words ["--" ++ flag.long] [(flag, "true")]
  | equals {flag : Flag} (value : String) (hv : flag.takesValue = true) :
      Words ["--" ++ flag.long ++ "=" ++ value] [(flag, value)]
  | next {flag : Flag} (value : String) (hv : flag.takesValue = true)
      (hn : value.toList.head? ≠ some '-') : Words ["--" ++ flag.long, value] [(flag, value)]
  | letters {cs : List Char} {behind : List String} {options : List (Flag × String)}
      (hne : cs ≠ []) (h : Letters cs behind options) :
      Words (String.ofList ('-' :: cs) :: behind) options

/-- Arguments and the options for which they are written. -/
inductive Written : List String → List (Flag × String) → Prop
  | nil : Written [] []
  | append {args more : List String} {options others : List (Flag × String)}
      (h : Words args options) (hmore : Written more others) :
      Written (args ++ more) (options ++ others)

/-! ## Finding an option -/

variable {flag flag' : Flag} {known : List Flag} {c : Char}

/-- A listing knows every option. -/
theorem mem_flags_ps (flag : Flag) : flag ∈ CommandName.ps.flags := by
  cases flag <;> decide

theorem long_injective (h : flag.long = flag'.long) : flag = flag' := by
  have hall : ∀ a ∈ CommandName.ps.flags, ∀ b ∈ CommandName.ps.flags, a.long = b.long → a = b := by
    decide
  exact hall flag (mem_flags_ps flag) flag' (mem_flags_ps flag') h

theorem short?_injective (h : flag.short? = some c) (h' : flag'.short? = some c) :
    flag = flag' := by
  have hall : ∀ a ∈ CommandName.ps.flags, ∀ b ∈ CommandName.ps.flags,
      a.short?.isSome → a.short? = b.short? → a = b := by
    decide
  exact hall flag (mem_flags_ps flag) flag' (mem_flags_ps flag') (Option.isSome_of_eq_some h)
    (h.trans h'.symm)

theorem find?_eq_some {p : Flag → Bool} (hp : ∀ other, p other = true ↔ other = flag)
    (h : flag ∈ known) : known.find? p = some flag := by
  cases hf : known.find? p with
  | none => exact absurd ((hp flag).mpr rfl) (List.find?_eq_none.mp hf flag h)
  | some other => rw [(hp other).mp (List.find?_some hf)]

theorem find?_long (h : flag ∈ known) :
    (known.find? fun other => other.long.toList == flag.long.toList) = some flag := by
  refine find?_eq_some (fun other => ?_) h
  rw [beq_iff_eq, String.toList_inj]
  exact ⟨long_injective, fun he => he ▸ rfl⟩

theorem find?_short (hc : flag.short? = some c) (h : flag ∈ known) :
    (known.find? fun other => other.short? == some c) = some flag := by
  refine find?_eq_some (fun other => ?_) h
  rw [beq_iff_eq]
  exact ⟨fun ho => short?_injective ho hc, fun he => he ▸ hc⟩

theorem takeWhile_long (flag : Flag) :
    flag.long.toList.takeWhile (· != '=') = flag.long.toList := by
  cases flag <;> decide

theorem takeWhile_long_equals (flag : Flag) (value : List Char) :
    (flag.long.toList ++ '=' :: value).takeWhile (· != '=') = flag.long.toList := by
  rw [List.takeWhile_append, takeWhile_long, if_pos rfl]
  exact List.append_nil _

theorem long_ne_nil (flag : Flag) : flag.long.toList ≠ [] := by
  cases flag <;> decide

theorem short?_ne_hyphen (h : flag.short? = some c) : c ≠ '-' := by
  rintro rfl
  cases flag <;> exact absurd h (by decide)

theorem Letters.head_ne_hyphen {cs : List Char} {behind : List String}
    {options : List (Flag × String)} (h : Letters (c :: cs) behind options) : c ≠ '-' := by
  cases h with
  | alone hc => exact short?_ne_hyphen hc
  | equals _ hc => exact short?_ne_hyphen hc
  | attached _ hc => exact short?_ne_hyphen hc
  | next _ hc => exact short?_ne_hyphen hc

end Flag

namespace CommandName

/-- No word that could stand where a command does begins with a hyphen. -/
theorem isKnown_of_hyphen {arg : String} {cs : List Char} (h : arg.toList = '-' :: cs) :
    isKnown arg = false := by
  have hne : ∀ word : String, word.toList.head? ≠ some '-' → arg ≠ word := by
    rintro word hw rfl
    exact hw (by rw [h]; rfl)
  cases hk : isKnown arg with
  | false => rfl
  | true =>
    simp only [isKnown, ofName?, all, names, helpName, Bool.or_eq_true, List.find?_isSome,
      List.mem_cons, List.not_mem_nil, or_false, List.contains_iff_mem, beq_iff_eq,
      exists_eq_or_imp, exists_eq_left] at hk
    rcases hk with ((rfl | rfl | rfl) | rfl) | rfl <;> exact absurd rfl (hne _ (by decide))

end CommandName

namespace Scan

/-- A scan that has seen these options; the last of them may still have to be checked. -/
structure Has (s : Scan) (options : List (Flag × String)) : Prop where
  settled : s.settle = .ok { given := options }
  notAwaiting : s.isAwaiting = false

/-- Options that can be given together. -/
structure Fit (known : List Flag) (options : List (Flag × String)) : Prop where
  known : ∀ o ∈ options, o.1 ∈ known
  ne_help : ∀ o ∈ options, o.1 ≠ .help
  valid : ∀ o ∈ options, o.1.check o.2 = .ok ()
  once : (options.map Prod.fst).Nodup

/-- From here through these arguments a scan comes to have seen these options, whatever follows. -/
def ComesTo (known : List Flag) (expectsCommand : Bool) (start : Except FlagError Scan)
    (args : List String) (options : List (Flag × String)) : Prop :=
  ∃ s : Scan, s.Has options ∧ ∀ rest : List String,
    (start >>= fun s => s.arguments known expectsCommand false (args ++ rest)) =
      s.arguments known expectsCommand false rest

variable {known : List Flag} {expectsCommand : Bool} {start : Except FlagError Scan} {s : Scan}
  {options others : List (Flag × String)} {flag : Flag} {value arg : String}
  {args more behind : List String} {cs : List Char}

theorem Has.comesTo (h : s.Has options) : ComesTo known expectsCommand (.ok s) [] options :=
  ⟨s, h, fun _ => rfl⟩

theorem ComesTo.append (h : ComesTo known expectsCommand start args options)
    (hmore : ∀ s : Scan, s.Has options → ComesTo known expectsCommand (.ok s) more others) :
    ComesTo known expectsCommand start (args ++ more) others := by
  obtain ⟨s, hs, hargs⟩ := h
  obtain ⟨s', hs', hmore⟩ := hmore s hs
  refine ⟨s', hs', fun rest => ?_⟩
  rw [List.append_assoc, hargs]
  exact hmore rest

theorem Fit.of_append (h : Fit known (options ++ others)) : Fit known options where
  known o ho := h.known o (List.mem_append_left _ ho)
  ne_help o ho := h.ne_help o (List.mem_append_left _ ho)
  valid o ho := h.valid o (List.mem_append_left _ ho)
  once := by
    have honce := h.once
    rw [List.map_append] at honce
    exact (List.nodup_append.mp honce).1

/-! ## One option -/

theorem take_of_fit (h : Fit known (options ++ [(flag, value)])) :
    take { given := options } flag (some value) = .ok { given := options ++ [(flag, value)] } := by
  have honce := h.once
  rw [List.map_append, List.nodup_append] at honce
  have hnone : options.lookup flag = none := by
    refine List.lookup_eq_none_iff.mpr fun o ho => ?_
    rw [bne_iff_ne]
    exact (honce.2.2 _ (List.mem_map_of_mem ho) _ List.mem_cons_self).symm
  have hvalid : flag.check value = .ok () :=
    h.valid (flag, value) (List.mem_append_right _ List.mem_cons_self)
  simp only [take, hnone, hvalid]
  rfl

theorem Fit.mem (h : Fit known (options ++ (flag, value) :: others)) : flag ∈ known :=
  h.known (flag, value) (List.mem_append_right _ List.mem_cons_self)

theorem Has.takeAlone (hs : s.Has options) (h : Fit known (options ++ [(flag, "true")])) :
    s.takeAlone flag = .ok { given := options ++ [(flag, "true")] } := by
  have hne : flag ≠ .help := h.ne_help (flag, _) (List.mem_append_right _ List.mem_cons_self)
  rw [Scan.takeAlone, hs.settled]
  simp only [bind, Except.bind, hne, if_false, take_of_fit h]

theorem Has.takeAttached (hs : s.Has options) (h : Fit known (options ++ [(flag, value)])) :
    s.takeAttached flag value = .ok { given := options ++ [(flag, value)] } := by
  rw [Scan.takeAttached, hs.settled]
  exact take_of_fit h

theorem has_given (options : List (Flag × String)) : Has { given := options } options :=
  ⟨rfl, rfl⟩

/-- An option that waits for its value gets it from the next argument. -/
theorem Has.await_next (hs : s.Has options) (h : Fit known (options ++ [(flag, value)]))
    (hn : value.toList.head? ≠ some '-') :
    ComesTo known expectsCommand (s.await flag) [value] (options ++ [(flag, value)]) := by
  refine ⟨⟨options, some (flag, some value)⟩, ⟨take_of_fit h, rfl⟩, fun rest => ?_⟩
  rw [await, hs.settled]
  show arguments known expectsCommand false ⟨options, some (flag, none)⟩ (value :: rest) = _
  rw [arguments]
  -- Also the name of a command is a value here, and only a hyphen in front would make it an option.
  have hstop : (expectsCommand && !isAwaiting ⟨options, some (flag, none)⟩ &&
      CommandName.isKnown value) = false := by
    rw [show isAwaiting ⟨options, some (flag, none)⟩ = true from rfl]
    simp
  have hhead : ∀ cs, value.toList ≠ '-' :: cs := by
    intro cs hv
    exact hn (by rw [hv]; rfl)
  simp only [hstop, Bool.false_eq_true, if_false]
  split
  · next hv => exact absurd hv (hhead _)
  · next hv => exact absurd hv (hhead _)
  · next hv => exact absurd hv (hhead _)
  · rfl

theorem long_alone (hs : s.Has options) (h : Fit known (options ++ [(flag, "true")]))
    (hv : flag.takesValue = false) :
    s.long known flag.long.toList = .ok { given := options ++ [(flag, "true")] } := by
  rw [Scan.long, Flag.takeWhile_long]
  simp only [Flag.find?_long h.mem, hv, Nat.lt_irrefl, if_false, hs.takeAlone h]

theorem long_next (h : flag ∈ known) (hv : flag.takesValue = true) :
    s.long known flag.long.toList = s.await flag := by
  rw [Scan.long, Flag.takeWhile_long]
  simp only [Flag.find?_long h, hv, Nat.lt_irrefl, if_false]

theorem long_equals (hs : s.Has options) (h : Fit known (options ++ [(flag, value)]))
    (hv : flag.takesValue = true) :
    s.long known (flag.long.toList ++ '=' :: value.toList) =
      .ok { given := options ++ [(flag, value)] } := by
  have hdrop : (flag.long.toList ++ '=' :: value.toList).drop (flag.long.toList.length + 1) =
      value.toList := by
    rw [← List.drop_drop, List.drop_left]
    rfl
  have hlt : flag.long.toList.length < (flag.long.toList ++ '=' :: value.toList).length := by
    simp
  rw [Scan.long, Flag.takeWhile_long_equals]
  simp only [Flag.find?_long h.mem, hv, hlt, if_true, hdrop, String.ofList_toList,
    hs.takeAttached h]

/-! ## Arguments -/

theorem comesTo_cons (h : ComesTo known expectsCommand start args options)
    (harg : ∀ rest, s.arguments known expectsCommand false (arg :: rest) =
      (start >>= fun s => s.arguments known expectsCommand false rest)) :
    ComesTo known expectsCommand (.ok s) (arg :: args) options := by
  obtain ⟨s', hs', hargs⟩ := h
  refine ⟨s', hs', fun rest => ?_⟩
  rw [← hargs rest]
  exact harg (args ++ rest)

theorem comesTo_of_long (hcs : cs ≠ []) (harg : arg.toList = '-' :: '-' :: cs)
    (h : ComesTo known expectsCommand (s.long known cs) args options) :
    ComesTo known expectsCommand (.ok s) (arg :: args) options := by
  refine comesTo_cons h fun rest => ?_
  rw [arguments, CommandName.isKnown_of_hyphen harg, harg]
  cases cs with
  | nil => exact absurd rfl hcs
  | cons c cs => simp

theorem comesTo_of_short {c : Char} (hc : c ≠ '-') (harg : arg.toList = '-' :: c :: cs)
    (h : ComesTo known expectsCommand (s.short known (c :: cs)) args options) :
    ComesTo known expectsCommand (.ok s) (arg :: args) options := by
  refine comesTo_cons h fun rest => ?_
  rw [arguments, CommandName.isKnown_of_hyphen harg, harg]
  simp [hc]

/-- Letters are gone through from left to right; only behind the last one another argument can
belong to it. -/
theorem comesTo_letters (h : Flag.Letters cs behind others) (hs : s.Has options)
    (hfit : Fit known (options ++ others)) :
    ComesTo known expectsCommand (s.short known cs) behind (options ++ others) := by
  induction h generalizing s options with
  | done =>
    rw [List.append_nil]
    exact hs.comesTo
  | @alone flag c letters behind others hc hv h ih =>
    have hsplit : options ++ (flag, "true") :: others =
        (options ++ [(flag, "true")]) ++ others := by simp
    rw [hsplit] at hfit ⊢
    rw [short, Flag.find?_short hc hfit.of_append.mem]
    simp only [hv, Bool.false_eq_true, if_false, hs.takeAlone hfit.of_append]
    exact ih (has_given _) hfit
  | equals value hc hv =>
    rw [short, Flag.find?_short hc hfit.mem]
    simp only [hv, if_true, String.ofList_toList, hs.takeAttached hfit]
    exact (has_given _).comesTo
  | attached value hc hv hne he =>
    rw [short, Flag.find?_short hc hfit.mem]
    simp only [hv, if_true]
    split
    · next hvalue => exact absurd (String.toList_eq_nil_iff.mp hvalue) hne
    · next hvalue => exact absurd (by rw [hvalue]; rfl) he
    · rw [String.ofList_toList, hs.takeAttached hfit]
      exact (has_given _).comesTo
  | next value hc hv hn =>
    rw [short, Flag.find?_short hc hfit.mem]
    simp only [hv, if_true]
    exact hs.await_next hfit hn

/-- Arguments that belong together leave nothing waiting. -/
theorem comesTo_words (h : Flag.Words args others) (hs : s.Has options)
    (hfit : Fit known (options ++ others)) :
    ComesTo known expectsCommand (.ok s) args (options ++ others) := by
  cases h with
  | @alone flag hv =>
    refine comesTo_of_long (Flag.long_ne_nil flag) (by simp) ?_
    rw [long_alone hs hfit hv]
    exact (has_given _).comesTo
  | @equals flag value hv =>
    have harg : ("--" ++ flag.long ++ "=" ++ value).toList =
        '-' :: '-' :: (flag.long.toList ++ '=' :: value.toList) := by simp
    refine comesTo_of_long (by simp) harg ?_
    rw [long_equals hs hfit hv]
    exact (has_given _).comesTo
  | @next flag value hv hn =>
    refine comesTo_of_long (Flag.long_ne_nil flag) (by simp) ?_
    rw [long_next hfit.mem hv]
    exact hs.await_next hfit hn
  | @letters cs behind _ hne h =>
    cases cs with
    | nil => exact absurd rfl hne
    | cons c cs =>
      exact comesTo_of_short h.head_ne_hyphen String.toList_ofList (comesTo_letters h hs hfit)

/-- What is written comes to the options that it was written for. -/
theorem comesTo_written (h : Flag.Written args others) (hs : s.Has options)
    (hfit : Fit known (options ++ others)) :
    ComesTo known expectsCommand (.ok s) args (options ++ others) := by
  induction h generalizing s options with
  | nil =>
    rw [List.append_nil]
    exact hs.comesTo
  | append h hmore ih =>
    rw [← List.append_assoc] at hfit ⊢
    exact (comesTo_words h hs hfit.of_append).append fun s' hs' => ih hs' hfit

end Scan

end ContainerRoster
