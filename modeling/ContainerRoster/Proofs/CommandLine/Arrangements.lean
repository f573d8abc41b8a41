import ContainerRoster.CommandLine.Invocation
import ContainerRoster.Proofs.CommandLine.Spellings
import ContainerRoster.Proofs.Decimal.Bounded
import Mathlib.Data.List.Nodup

/-!
# Command lines in any order

What a listing is asked for can be written in many orders, and the options for every command on
either side of its name.  All of these command lines come to the same invocation, which has what
was asked in the place where it belongs, and defaults where nothing was asked:
`ofArguments_arranged`.

Scanning gives the options on both sides as they were written.  No two of them are the same, so
looking one up does not depend on their order, and a side on which it does not stand cannot hide it.
-/

namespace ContainerRoster

/-! ## Looking up in any order -/

section Lookup

variable {α β : Type} [BEq α] [LawfulBEq α] {xs ys : List (α × β)} {key : α} {value : β}

/-- Where no key comes twice, looking one up is finding it. -/
theorem lookup_eq_some_iff_mem (h : (xs.map Prod.fst).Nodup) :
    xs.lookup key = some value ↔ (key, value) ∈ xs := by
  induction xs with
  | nil => simp
  | cons x xs ih =>
    obtain ⟨k, v⟩ := x
    rw [List.map_cons, List.nodup_cons] at h
    rw [List.mem_cons, Prod.mk.injEq]
    by_cases hk : key = k
    · subst hk
      have hother : (key, value) ∉ xs := fun hmem => h.1 (List.mem_map.mpr ⟨_, hmem, rfl⟩)
      simp [hother, eq_comm]
    · have hne : (key == k) = false := beq_eq_false_iff_ne.mpr hk
      simp only [List.lookup_cons, hne, ih h.2, hk, false_and, false_or]

end Lookup

/-! ## Numbers of seconds -/

namespace Text

theorem dropWhile_of_forall {p : Char → Bool} {cs : List Char} (h : ∀ c ∈ cs, p c = false) :
    cs.dropWhile p = cs := by
  cases cs with
  | nil => rfl
  | cons c cs => rw [List.dropWhile_cons, h c List.mem_cons_self, if_neg Bool.false_ne_true]

theorem trim_of_forall {cs : List Char} (h : ∀ c ∈ cs, isBlank c = false) : trim cs = cs := by
  rw [trim, dropWhile_of_forall h, trimRight,
    dropWhile_of_forall fun c hc => h c (List.mem_reverse.mp hc), List.reverse_reverse]

end Text

variable {n : Nat} {unit : String}

/-- Behind the digits of a number only the letter of the unit is taken away. -/
theorem withoutUnit_digits (hunit : unit = "" ∨ unit = "s") :
    ((Decimal.digits n ++ unit.toList).reverse.dropWhile (· == 's')).reverse =
      Decimal.digits n := by
  have hletter : ∀ c ∈ Decimal.digits n, (c == 's') = false :=
    Decimal.forall_digits (by decide) n
  have hdrop : (Decimal.digits n).reverse.dropWhile (· == 's') = (Decimal.digits n).reverse :=
    Text.dropWhile_of_forall fun c hc => hletter c (List.mem_reverse.mp hc)
  rw [List.reverse_append]
  rcases hunit with rfl | rfl <;>
    exact (congrArg List.reverse hdrop).trans (List.reverse_reverse _)

theorem isBlank_of_mem_seconds (hunit : unit = "" ∨ unit = "s") {c : Char}
    (hc : c ∈ Decimal.digits n ++ unit.toList) : Text.isBlank c = false := by
  rcases List.mem_append.mp hc with hc | hc
  · exact Decimal.forall_digits (by decide) n c hc
  · rcases hunit with rfl | rfl
    · cases hc
    · rw [List.mem_singleton.mp hc]
      decide

/-- Seconds are written with or without the letter of the unit. -/
theorem readTimeout_toString (hpos : 1 ≤ n) (hlt : n < Nat.pow 2 64)
    (hunit : unit = "" ∨ unit = "s") : readTimeout (toString n ++ unit) = .ok n := by
  have htext : (toString n ++ unit).toList = Decimal.digits n ++ unit.toList := by
    rw [String.toList_append]
    exact congrArg (· ++ _) String.toList_ofList
  rw [readTimeout, htext, Text.trim_of_forall fun c hc => isBlank_of_mem_seconds hunit hc]
  simp only [withoutUnit_digits hunit, Decimal.readBelow_digits hlt]
  cases n with
  | zero => cases hpos
  | succ n => rfl

/-! ## What is asked -/

/-- What a listing is asked for, with nothing where no option stands. -/
structure Asked where
  runtimeEndpoint : Option String := none
  timeout : Option Nat := none
  storageConf : Option String := none
  debug : Bool := false
  pid : Option String := none
  state : Option String := none
  name : Option String := none
  output : Option String := none
  all : Bool := false
  noTrunc : Bool := false
  timeout_bounds : ∀ n ∈ timeout, 1 ≤ n ∧ n < Nat.pow 2 64
  storageConf_ne : storageConf ≠ some ""

namespace Asked

/-- The value of an option that stands alone. -/
def alone? (isGiven : Bool) : Option String := if isGiven then some "true" else none

@[simp] theorem isSome_alone? (isGiven : Bool) : (alone? isGiven).isSome = isGiven := by
  cases isGiven <;> rfl

/-- The value with which an option is given, the timeout with this unit behind it. -/
def value? (asked : Asked) (unit : String) : Flag → Option String
  | .runtimeEndpoint => asked.runtimeEndpoint
  | .timeout => asked.timeout.map fun n => toString n ++ unit
  | .storageConf => asked.storageConf
  | .debug => alone? asked.debug
  | .help => none
  | .pid => asked.pid
  | .state => asked.state
  | .name => asked.name
  | .all => alone? asked.all
  | .output => asked.output
  | .noTrunc => alone? asked.noTrunc

/-- The options to give, each of them once. -/
def options (asked : Asked) (unit : String) : List (Flag × String) :=
  CommandName.ps.flags.filterMap fun flag => (asked.value? unit flag).map (flag, ·)

variable {asked : Asked} {value : String} {flag : Flag} {known : List Flag}
  {options : List (Flag × String)}

theorem mem_options :
    (flag, value) ∈ asked.options unit ↔ asked.value? unit flag = some value := by
  simp only [Asked.options, List.mem_filterMap, Option.map_eq_some_iff, Prod.mk.injEq]
  constructor
  · rintro ⟨_, -, _, h, rfl, rfl⟩
    exact h
  · intro h
    exact ⟨flag, Flag.mem_flags_ps flag, value, h, rfl, rfl⟩

theorem nodup_options (asked : Asked) (unit : String) :
    ((asked.options unit).map Prod.fst).Nodup := by
  rw [Asked.options, List.map_filterMap]
  refine List.Nodup.filterMap (fun flag flag' found h h' => ?_) (by decide)
  simp only [Option.mem_def, Option.map_map, Option.map_eq_some_iff, Function.comp_def] at h h'
  obtain ⟨_, -, rfl⟩ := h
  obtain ⟨_, -, he⟩ := h'
  exact he.symm

theorem readTimeout_value? (asked : Asked) (hunit : unit = "" ∨ unit = "s") :
    (asked.value? unit .timeout).map readTimeout = asked.timeout.map .ok := by
  rw [value?, Option.map_map]
  refine Option.map_congr fun n hn => ?_
  obtain ⟨hpos, hlt⟩ := asked.timeout_bounds n hn
  rw [Function.comp_apply, readTimeout_toString hpos hlt hunit]

theorem check_value? (hunit : unit = "" ∨ unit = "s") (h : asked.value? unit flag = some value) :
    flag.check value = .ok () := by
  cases flag with
  | timeout =>
    obtain ⟨n, hn, rfl⟩ := Option.map_eq_some_iff.mp h
    obtain ⟨hpos, hlt⟩ := asked.timeout_bounds n hn
    rw [Flag.check, readTimeout_toString hpos hlt hunit]
  | storageConf =>
    have hne : value ≠ "" := fun he => asked.storageConf_ne (he ▸ h)
    rw [Flag.check, if_neg (by simpa using hne)]
  | _ => rfl

theorem fit_of_mem (hunit : unit = "" ∨ unit = "s") (hmem : ∀ o ∈ options, o ∈ asked.options unit)
    (honce : (options.map Prod.fst).Nodup) (hknown : ∀ o ∈ options, o.1 ∈ known) :
    Scan.Fit known options where
  known := hknown
  ne_help o ho he := by
    have hvalue := mem_options.mp (hmem o ho)
    rw [he] at hvalue
    cases hvalue
  valid o ho := check_value? hunit (mem_options.mp (hmem o ho))
  once := honce

end Asked

/-! ## Command lines -/

namespace Invocation

variable {name : CommandName} {word : String} {front back : List String}
  {before after : List (Flag × String)}

/-- Options that can be given together are those of the invocation, however they are written. -/
theorem ofArguments_of_written (env : Environment) (hword : CommandName.ofName? word = some name)
    (hfront : Flag.Written front before) (hbefore : Scan.Fit Flag.globals before)
    (hback : Flag.Written back after) (hafter : Scan.Fit name.flags after) :
    ofArguments env (front ++ word :: back) = .ok (assemble env name before after) := by
  obtain ⟨s, hs, hrun⟩ : Scan.ComesTo Flag.globals true (.ok {}) front before :=
    Scan.comesTo_written hfront (Scan.has_given []) hbefore
  obtain ⟨s', hs', hrun'⟩ : Scan.ComesTo name.flags false (.ok {}) back after :=
    Scan.comesTo_written hback (Scan.has_given []) hafter
  have hfirst : Scan.arguments Flag.globals true false {} (front ++ word :: back) =
      .ok (s, .command name back) := by
    refine (hrun (word :: back)).trans ?_
    have hknown : CommandName.isKnown word = true := by rw [CommandName.isKnown, hword]; rfl
    simp [Scan.arguments, hs.notAwaiting, hknown, hword]
  have hsecond : Scan.arguments name.flags false false {} back = .ok (s', .finished) := by
    have h := hrun' []
    rw [List.append_nil] at h
    exact h
  rw [ofArguments, hfirst]
  show (Scan.arguments name.flags false false {} back >>= _) = _
  rw [hsecond]
  show (s'.settle >>= _) = _
  rw [hs'.settled]
  show (s.settle >>= _) = _
  rw [hs.settled]
  rfl

section Arranged

variable {asked : Asked}

/-- An option is found by its value on whichever side it stands. -/
theorem lookup_arranged (horder : (before ++ after).Perm (asked.options unit)) (flag : Flag) :
    (after ++ before).lookup flag = asked.value? unit flag := by
  have hperm : (after ++ before).Perm (asked.options unit) := List.perm_append_comm.trans horder
  have honce : ((after ++ before).map Prod.fst).Nodup :=
    (hperm.map Prod.fst).nodup_iff.mpr (asked.nodup_options unit)
  refine Option.ext fun value => ?_
  rw [lookup_eq_some_iff_mem honce, hperm.mem_iff, Asked.mem_options]

/-- The options of the listing alone stand behind its name. -/
theorem lookup_after (horder : (before ++ after).Perm (asked.options unit))
    (hglobal : ∀ o ∈ before, o.1 ∈ Flag.globals) (flag : Flag) (hflag : flag ∉ Flag.globals) :
    after.lookup flag = asked.value? unit flag := by
  have hnone : before.lookup flag = none := by
    refine List.lookup_eq_none_iff.mpr fun o ho => bne_iff_ne.mpr ?_
    rintro rfl
    exact hflag (hglobal o ho)
  rw [← lookup_arranged horder, List.lookup_append, hnone, Option.or_none]

theorem commandOf_arranged (horder : (before ++ after).Perm (asked.options unit))
    (hglobal : ∀ o ∈ before, o.1 ∈ Flag.globals) :
    commandOf .ps after = .ps {
      all := asked.all
      pid := asked.pid.getD ""
      state := asked.state.getD ""
      name := asked.name.getD ""
      noTrunc := asked.noTrunc
      output := asked.output.getD "" } := by
  have howned := lookup_after horder hglobal
  simp only [commandOf, howned .pid (by decide), howned .state (by decide),
    howned .name (by decide), howned .output (by decide), howned .all (by decide),
    howned .noTrunc (by decide), Asked.value?, Asked.isSome_alone?]

/-- A listing is asked for the same in every order: the options with their values in any of the
ways to write them, those for every command on either side of its name. -/
theorem ofArguments_arranged (asked : Asked) (env : Environment)
    (hunit : unit = "" ∨ unit = "s") (hword : word ∈ ["ps", "ls", "pids"])
    (horder : (before ++ after).Perm (asked.options unit))
    (hglobal : ∀ o ∈ before, o.1 ∈ Flag.globals)
    (hfront : Flag.Written front before) (hback : Flag.Written back after) :
    ofArguments env (front ++ word :: back) = .ok {
      runtimeEndpoint := asked.runtimeEndpoint.or (env "CONTAINER_RUNTIME_ENDPOINT")
      timeout := asked.timeout.getD 2
      storageConf := asked.storageConf.getD "/etc/containers/storage.conf"
      debug := asked.debug
      command := .ps {
        all := asked.all
        pid := asked.pid.getD ""
        state := asked.state.getD ""
        name := asked.name.getD ""
        noTrunc := asked.noTrunc
        output := asked.output.getD "" } } := by
  have hmem : ∀ o ∈ before ++ after, o ∈ asked.options unit := fun o ho => horder.mem_iff.mp ho
  have honce : ((before ++ after).map Prod.fst).Nodup :=
    (horder.map Prod.fst).nodup_iff.mpr (asked.nodup_options unit)
  rw [List.map_append, List.nodup_append] at honce
  have hbefore : Scan.Fit Flag.globals before :=
    Asked.fit_of_mem hunit (fun o ho => hmem o (List.mem_append_left _ ho)) honce.1 hglobal
  have hafter : Scan.Fit CommandName.ps.flags after :=
    Asked.fit_of_mem hunit (fun o ho => hmem o (List.mem_append_right _ ho)) honce.2.1
      fun o _ => Flag.mem_flags_ps o.1
  have hps : CommandName.ofName? word = some .ps := by
    simp only [List.mem_cons, List.not_mem_nil, or_false] at hword
    rcases hword with rfl | rfl | rfl <;> rfl
  rw [ofArguments_of_written env hps hfront hbefore hback hafter]
  simp only [assemble, lookup_arranged horder, commandOf_arranged horder hglobal,
    asked.readTimeout_value? hunit]
  simp only [Asked.value?, Asked.isSome_alone?]
  cases asked.timeout <;> rfl

/-- An endpoint in front of the command although the environment has one too, and values that look
like an option and like a command. -/
theorem ofArguments_arranged_pids :
    let asked : Asked := {
      runtimeEndpoint := some "--x"
      timeout := some 7
      debug := true
      pid := some "ps"
      name := some ""
      all := true
      timeout_bounds := by decide
      storageConf_ne := by decide }
    let before : List (Flag × String) := [(.runtimeEndpoint, "--x")]
    let after : List (Flag × String) :=
      [(.all, "true"), (.debug, "true"), (.timeout, "7s"), (.pid, "ps"), (.name, "")]
    (before ++ after).Perm (asked.options "s") ∧ (∀ o ∈ before, o.1 ∈ Flag.globals) ∧
      Flag.Written ["--runtime-endpoint=--x"] before ∧
      Flag.Written ["-aD", "--timeout", "7s", "--pid=ps", "--name="] after ∧
      ofArguments (fun _ => some "unix:///run/other.sock")
        ["--runtime-endpoint=--x", "pids", "-aD", "--timeout", "7s", "--pid=ps", "--name="] = .ok {
          runtimeEndpoint := some "--x"
          timeout := 7
          storageConf := "/etc/containers/storage.conf"
          debug := true
          command := .ps {
            all := true
            pid := "ps"
            state := ""
            name := ""
            noTrunc := false
            output := "" } } := by
  intro asked before after
  have hendpoint : Flag.Words ["--runtime-endpoint=--x"] before :=
    @Flag.Words.equals .runtimeEndpoint "--x" rfl
  have hletters : Flag.Words ["-aD"] [(.all, "true"), (.debug, "true")] :=
    .letters (List.cons_ne_nil 'a' ['D']) (.alone rfl rfl (.alone rfl rfl .done))
  have htimeout : Flag.Words ["--timeout", "7s"] [(.timeout, "7s")] :=
    @Flag.Words.next .timeout "7s" rfl (by decide)
  have hpid : Flag.Words ["--pid=ps"] [(.pid, "ps")] := @Flag.Words.equals .pid "ps" rfl
  have hname : Flag.Words ["--name="] [(.name, "")] := @Flag.Words.equals .name "" rfl
  have horder : (before ++ after).Perm (asked.options "s") := by decide +kernel
  have hglobal : ∀ o ∈ before, o.1 ∈ Flag.globals := by decide
  have hfront : Flag.Written ["--runtime-endpoint=--x"] before := .append hendpoint .nil
  have hback : Flag.Written ["-aD", "--timeout", "7s", "--pid=ps", "--name="] after :=
    .append hletters (.append htimeout (.append hpid (.append hname .nil)))
  exact ⟨horder, hglobal, hfront, hback,
    ofArguments_arranged asked _ (.inr rfl) (by decide) horder hglobal hfront hback⟩

end Arranged

end Invocation

end ContainerRoster
