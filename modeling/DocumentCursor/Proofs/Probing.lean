import DocumentCursor.Probe.Run
import DocumentCursor.Proofs.Layering

/-! # What is probed

The settings that a stream is opened with were valid when they were loaded. What the command line
says lies over them, and is not looked at any more: a host that it names may be empty. Nothing else
that it says matters for whether settings are valid.

* **`Progress.Names`** and **`Progress.Awaits`**: what is known of the host while arguments are
  read.
* **`Progress.Changes`**: what a switch does to this; **`takeArgument_host`** says it of any
  argument.
* **`read_host_iff`**: how a command line names a host.
* **`Opens`**: the settings that a stream is opened with.
* **`opened_settings`**: when they are valid.
-/

namespace DocumentCursor.Probe

open Text

variable {progress next : Progress} {switch : Switch} {value named : List Char}

/-! ## Switches -/

namespace Arguments

variable {arguments taken : Arguments}

/-- A host is taken once, with its value: `accept .host` succeeds only if there is a value and no
host yet. -/
theorem accept_host {value : Option (List Char)} (h : arguments.accept .host value = .ok taken) :
    ∃ name, value = some name ∧ arguments.host = none ∧
      taken = { arguments with host := some (String.ofList name) } := by
  cases value with
  | none => cases h
  | some name =>
    cases held : arguments.host with
    | some _ => simp [accept, held] at h
    | none =>
      simp only [accept, held] at h
      exact ⟨name, rfl, rfl, (Except.ok.inj h).symm⟩

/-- No other switch is taken as a host: `accept` of it leaves `host` as it is. -/
theorem accept_other {value : Option (List Char)} (other : switch ≠ .host)
    (h : arguments.accept switch value = .ok taken) : taken.host = arguments.host := by
  unfold accept at h
  cases switch with
  | host => exact absurd rfl other
  | help => cases h
  | version => cases h
  | async =>
    dsimp only at h
    split at h
    · cases h
    · obtain rfl := Except.ok.inj h
      rfl
  | port =>
    cases value with
    | none => cases h
    | some value =>
      dsimp only at h
      split at h
      · cases h
      · split at h
        · cases h
        · obtain rfl := Except.ok.inj h
          rfl

end Arguments

namespace Progress

/-- **A host has this name** so far, whether or not its switch was taken yet: the name may still
stand in `pending`. -/
def Names (progress : Progress) (named : List Char) : Prop :=
  progress.arguments.host = some (String.ofList named) ∨ progress.pending = some (.host, some named)

/-- **The name of a host is to follow**: the switch of the host is pending, without a value. -/
def Awaits (progress : Progress) : Prop := progress.pending = some (.host, none)

/-- A switch is taken with the name that was met for it: after `settle` the host is the one that
`Names` says, and none is to follow. -/
theorem settle_host {taken : Arguments} (h : progress.settle = .ok taken) :
    ¬progress.Awaits ∧ ∀ named, taken.host = some (String.ofList named) ↔ progress.Names named := by
  unfold settle at h
  split at h
  · rename_i idle
    obtain rfl := Except.ok.inj h
    simp [Awaits, Names, idle]
  · rename_i switch value pending
    by_cases host : switch = .host
    · subst host
      obtain ⟨name, rfl, unnamed, rfl⟩ := Arguments.accept_host h
      simp [Awaits, Names, pending, unnamed, String.ofList_inj]
    · simp [Awaits, Names, pending, host, Arguments.accept_other host h]

/-- **What a switch does to the host**: the names that it gives, and whether one is to follow.
Before a switch none can have been to follow. -/
structure Changes (progress next : Progress) (given : List Char → Prop) (follows : Prop) :
    Prop where
  free : ¬progress.Awaits
  awaits_iff : next.Awaits ↔ follows
  names_iff : ∀ named, next.Names named ↔ progress.Names named ∨ given named

/-- **Nothing was done to the host**: `Changes` that give no name, after which none is to follow. -/
abbrev Unrelated (progress next : Progress) : Prop :=
  Changes progress next (fun _ => False) False

/-- A switch that gives no name and lets none follow does nothing to the host: such `Changes` are
`Unrelated`. -/
theorem Changes.unrelated {given : List Char → Prop} {follows : Prop}
    (changes : Changes progress next given follows) (gives : ∀ named, ¬given named)
    (stops : ¬follows) : Unrelated progress next where
  free := changes.free
  awaits_iff := changes.awaits_iff.trans (iff_false_intro stops)
  names_iff named := by rw [changes.names_iff, or_iff_left (gives named), or_false]

theorem Unrelated.trans {middle : Progress} (first : Unrelated progress middle)
    (second : Unrelated middle next) : Unrelated progress next where
  free := first.free
  awaits_iff := second.awaits_iff
  names_iff named := by rw [second.names_iff, first.names_iff, or_false]

/-- A switch that stands with its value names the host if it is for that: `take` gives `value` as a
name exactly for `.host`. -/
theorem take_host {value : Option (List Char)} (h : progress.take switch value = .ok next) :
    Changes progress next (fun named => switch = .host ∧ value = some named) False := by
  obtain ⟨arguments, settled, rest⟩ := bind_eq_ok_iff.mp h
  obtain ⟨taken, accepted, same⟩ := bind_eq_ok_iff.mp rest
  obtain rfl := Except.ok.inj same
  obtain ⟨free, names⟩ := settle_host settled
  refine ⟨free, ⟨nofun, nofun⟩, fun named => ?_⟩
  rw [← names, Names]
  by_cases host : switch = .host
  · -- The host had no name before, or the switch would have been there twice.
    subst host
    obtain ⟨name, rfl, unnamed, rfl⟩ := Arguments.accept_host accepted
    simp [unnamed, String.ofList_inj]
  · simp [host, Arguments.accept_other host accepted]

/-- After a switch whose value is to follow, a name is if it is for the host: `await` gives no name
yet. -/
theorem await_host (h : progress.await switch = .ok next) :
    Changes progress next (fun _ => False) (switch = .host) := by
  obtain ⟨arguments, settled, same⟩ := bind_eq_ok_iff.mp h
  obtain rfl := Except.ok.inj same
  obtain ⟨free, names⟩ := settle_host settled
  refine ⟨free, by simp [Awaits], fun named => ?_⟩
  rw [← names]
  simp [Names]

/-! ## Arguments -/

/-- No short name is that of a host: `ofShort?` never finds `.host`. -/
theorem ofShort?_ne_host {name : Char} (h : Switch.ofShort? name = some switch) :
    switch ≠ .host := by
  rintro rfl
  have listed := List.find?_some h
  simp [Switch.short?] at listed

/-- The first of some short switches does nothing to the host, and after it others may follow. So
`takeShort` is left with fewer of them. -/
theorem takeShort_cases {name : Char} {rest : List Char}
    (h : takeShort (name :: rest) progress = .ok next) :
    Unrelated progress next ∨
      ∃ middle, Unrelated progress middle ∧ takeShort rest middle = .ok next := by
  unfold takeShort at h
  split at h
  · cases h
  · rename_i switch found
    have other := ofShort?_ne_host found
    have takes {value : Option (List Char)} {after : Progress}
        (h : progress.take switch value = .ok after) : Unrelated progress after :=
      (take_host h).unrelated (fun _ both => other both.1) not_false
    split at h
    · obtain ⟨middle, first, later⟩ := bind_eq_ok_iff.mp h
      exact Or.inr ⟨middle, takes first, later⟩
    · split at h
      · exact Or.inl ((await_host h).unrelated (fun _ => not_false) other)
      · exact Or.inl (takes h)
      · exact Or.inl (takes h)

/-- Short switches do nothing to the host: `takeShort` is `Unrelated`, by induction on their
names. -/
theorem takeShort_unrelated {name : Char} {rest : List Char}
    (h : takeShort (name :: rest) progress = .ok next) : Unrelated progress next := by
  induction rest generalizing name progress with
  | nil =>
    obtain done | ⟨middle, first, same⟩ := takeShort_cases h
    · exact done
    · obtain rfl := Except.ok.inj same
      exact first
  | cons second rest ih =>
    obtain done | ⟨middle, first, later⟩ := takeShort_cases h
    · exact done
    · exact first.trans (ih later)

/-- The switch of a host is found by its own name only: `ofLong?` finds `.host` exactly for
`host`. -/
theorem ofLong?_host_iff {name : List Char} (h : Switch.ofLong? name = some switch) :
    switch = .host ↔ name = "host".toList := by
  constructor
  · rintro rfl
    unfold Switch.ofLong? at h
    have listed := List.find?_some h
    exact (of_decide_eq_true listed).symm
  · rintro rfl
    exact (Option.some.inj h).symm

/-- **What a long switch does** to the host: `--host=name` gives the name, `--host` lets one follow,
and any other switch is `Unrelated`. -/
theorem takeLong_host {name : List Char} {value : Option (List Char)}
    (h : progress.takeLong name value = .ok next) :
    Changes progress next (fun named => name = "host".toList ∧ value = some named)
      (name = "host".toList ∧ value = none) := by
  unfold takeLong at h
  split at h
  · cases h
  · rename_i switch found
    rw [← ofLong?_host_iff found]
    split at h
    · obtain ⟨free, awaits, names⟩ := await_host h
      exact ⟨free, by simp [awaits], fun named => by simp [names]⟩
    · obtain ⟨free, awaits, names⟩ := take_host h
      exact ⟨free, by simp [awaits], names⟩
    · cases h
    · -- A switch without a value is not the one for a host.
      rename_i valueless
      obtain ⟨free, awaits, names⟩ := take_host h
      have other : switch ≠ .host := by
        rintro rfl
        cases valueless
      exact ⟨free, by simp [awaits, other], names⟩

/-- What an argument does that is no switch: it is the name of a host exactly if one was to
follow. -/
theorem takeValue_host (h : progress.takeValue value = .ok next) :
    ¬next.Awaits ∧
      ∀ named, next.Names named ↔ progress.Names named ∨ progress.Awaits ∧ value = named := by
  unfold takeValue at h
  split at h
  · rename_i switch pending
    obtain rfl := Except.ok.inj h
    refine ⟨by simp [Awaits], fun named => ?_⟩
    simp [Names, Awaits, pending]
  · cases h

/-- How an argument with two hyphens is taken: up to its first equals sign, which a name does not
have. -/
theorem takeArgument_long {name : List Char} (single : '=' ∉ name) (progress : Progress) :
    progress.takeArgument ('-' :: '-' :: name) = progress.takeLong name none ∧
      ∀ value, progress.takeArgument ('-' :: '-' :: (name ++ '=' :: value)) =
        progress.takeLong name (some value) := by
  refine ⟨?_, fun value => ?_⟩
  · simp only [takeArgument, takeWhile_ne_of_notMem single, if_true]
  · have part : name ≠ name ++ '=' :: value := fun same => by simpa using congrArg List.length same
    simp only [takeArgument, takeWhile_ne_append single, if_neg part, ← List.drop_drop,
      List.drop_left, List.drop_one, List.tail_cons]

/-- **What an argument does** to the host: whether `--host` is it, and whether it names a host, by
itself or after `--host`. -/
theorem takeArgument_host {argument : List Char} (h : progress.takeArgument argument = .ok next) :
    (next.Awaits ↔ argument = "--host".toList) ∧
      ∀ named, next.Names named ↔ progress.Names named ∨
        progress.Awaits ∧ argument = named ∨ argument = "--host=".toList ++ named := by
  have awaited : "--host".toList = '-' :: '-' :: "host".toList := rfl
  have given (named : List Char) :
      "--host=".toList ++ named = '-' :: '-' :: ("host".toList ++ '=' :: named) := rfl
  have plain : '=' ∉ "host".toList := by decide
  simp only [awaited, given]
  unfold takeArgument at h
  split at h
  · -- Two hyphens: the name of the switch ends at the first equals sign, if there is one.
    rename_i text
    have long : progress.takeArgument ('-' :: '-' :: text) = .ok next := h
    by_cases equals : '=' ∈ text
    · obtain ⟨name, value, rfl, single⟩ := List.eq_append_cons_of_mem equals
      rw [(takeArgument_long single progress).2] at long
      obtain ⟨free, awaits, names⟩ := takeLong_host long
      have unequal : name ++ '=' :: value ≠ "host".toList := fun same => plain (same ▸ equals)
      simp only [awaits, names, free, unequal, append_separator_inj single plain, List.cons.injEq,
        Option.some.injEq, reduceCtorEq, true_and, false_and, and_false, false_or, implies_true]
    · rw [(takeArgument_long equals progress).1] at long
      obtain ⟨free, awaits, names⟩ := takeLong_host long
      have unequal (named : List Char) : text ≠ "host".toList ++ '=' :: named := by
        rintro rfl
        exact equals (by simp)
      simp only [awaits, names, free, unequal, List.cons.injEq, reduceCtorEq, true_and, and_true,
        false_and, and_false, or_false, implies_true]
  · -- A single hyphen.
    rename_i name rest short
    obtain ⟨free, awaits, names⟩ := takeShort_unrelated h
    have other : name ≠ '-' := short
    simp [free, awaits, names, other]
  · -- No hyphen: a value, which names the host if its name was to follow.
    rename_i long _
    obtain ⟨done, names⟩ := takeValue_host h
    have other (text : List Char) : argument ≠ '-' :: '-' :: text := long text
    simp [done, names, other]

/-- **How a host is named** in the arguments that are left: by one that is met already, by the next
one if it is awaited, or by one of them as `read_host_iff` says. By induction on the arguments. -/
theorem takeAll_host {arguments : List (List Char)} {taken : Arguments}
    (h : takeAll arguments progress = .ok taken) (named : List Char) :
    taken.host = some (String.ofList named) ↔
      progress.Names named ∨ progress.Awaits ∧ arguments.head? = some named ∨
        "--host=".toList ++ named ∈ arguments ∨ ["--host".toList, named] <:+: arguments := by
  fun_induction takeAll arguments progress with
  | case1 progress =>
    obtain ⟨free, names⟩ := settle_host h
    simp [names, free]
  | case2 progress =>
    -- Two hyphens at the end are too short to name anything.
    obtain ⟨free, names⟩ := settle_host h
    have short : ¬["--host".toList, named] <:+: [['-', '-']] := fun within =>
      absurd within.length_le (by simp)
    have unequal : "--host=".toList ++ named ≠ ['-', '-'] := fun same =>
      absurd (congrArg List.length same) (by simp)
    simp only [names, free, short, List.mem_singleton, unequal, false_and, or_false]
  | case3 => cases h
  | case4 argument arguments progress _ _ ih =>
    obtain ⟨next, takes, rest⟩ := bind_eq_ok_iff.mp h
    obtain ⟨awaits, names⟩ := takeArgument_host takes
    -- What one argument leaves to follow is, with the next one, a pair that begins here.
    have first : ["--host".toList, named] <+: argument :: arguments ↔
        argument = "--host".toList ∧ arguments.head? = some named := by
      cases arguments with
      | nil => simp [List.cons_prefix_cons]
      | cons second arguments => simp [List.cons_prefix_cons, eq_comm]
    have here : "--host=".toList ++ named = argument ↔ argument = "--host=".toList ++ named :=
      eq_comm
    rw [ih next rest, awaits, names, List.infix_cons_iff, List.mem_cons, List.head?_cons, first,
      Option.some.injEq, here]
    simp only [or_assoc, or_left_comm]

end Progress

/-- **How a command line names a host**: in the argument of the switch, `--host=name`, or in the
next one, `--host` and then `name`. -/
theorem read_host_iff {arguments : List String} {asked : Arguments}
    (h : Arguments.read arguments = .ok asked) (named : String) :
    asked.host = some named ↔
      "--host=" ++ named ∈ arguments ∨ ["--host", named] <:+: arguments := by
  have nothing : ¬Progress.Names {} named.toList ∧ ¬Progress.Awaits {} := ⟨nofun, nofun⟩
  have injective (text other : String) : text.toList = other.toList → text = other :=
    String.toList_inj.mp
  have together : "--host=".toList ++ named.toList ∈ arguments.map String.toList ↔
      "--host=" ++ named ∈ arguments := by
    rw [← String.toList_append, List.mem_map]
    refine ⟨?_, fun listed => ⟨_, listed, rfl⟩⟩
    rintro ⟨argument, listed, same⟩
    exact injective argument _ same ▸ listed
  have apart : ["--host".toList, named.toList] <:+: arguments.map String.toList ↔
      ["--host", named] <:+: arguments := by
    rw [List.infix_map_iff]
    refine ⟨?_, fun within => ⟨_, within, rfl⟩⟩
    rintro ⟨pair, within, same⟩
    have pairs : ["--host", named].map String.toList = pair.map String.toList := same
    exact (List.map_inj_right injective).mp pairs ▸ within
  have read := Progress.takeAll_host h named.toList
  simp only [String.ofList_toList] at read
  rw [read]
  simp only [nothing, false_and, false_or, together, apart]

/-! ## The settings of a stream -/

/-- **A stream is opened** with these settings, for what the command line asks: `Arguments.read`
accepts it, and the settings below it load and are valid. -/
structure Opens (arguments : List String) (environment : Environment) (files : Files)
    (asked : Arguments) (settings : Settings) : Prop where
  read : Arguments.read arguments = .ok asked
  loaded : Probe.settings asked environment files = .ok settings

variable {arguments : List String} {environment : Environment} {files : Files} {asked : Arguments}
  {settings : Settings}

/-- Only a host that is empty is wrong with what the command line makes of valid settings:
`validate` of `asked.over settings` fails exactly for `host = some ""`. -/
theorem validate_over (valid : settings.validate = .ok ()) (asked : Arguments) :
    (asked.over settings).validate =
        (if asked.host = some "" then .error (.invalid "host is empty") else .ok ()) ∧
      ((asked.over settings).host = "" ↔ asked.host = some "") := by
  unfold Settings.validate at valid
  split at valid
  · cases valid
  · rename_i named
    cases given : asked.host with
    | none => simp [Arguments.over, Settings.validate, given, named, valid]
    | some host => simp [Arguments.over, Settings.validate, given, valid]

/-- What the command line says lies over settings that were valid: `settings` is `asked.over below`
with a `below` that `validate` accepts. -/
theorem Opens.over_valid (opens : Opens arguments environment files asked settings) :
    ∃ below : Settings, below.validate = .ok () ∧ asked.over below = settings := by
  have result := opens.loaded
  unfold Probe.settings at result
  cases loaded : Settings.load environment files with
  | error error =>
    rw [loaded] at result
    cases result
  | ok below =>
    rw [loaded] at result
    exact ⟨below, (Settings.of_load loaded).2, Except.ok.inj result⟩

/-- The program ends well if the stream could be opened: its exit is `0` exactly if `connect`
succeeds. -/
theorem exit_run (opens : Opens arguments environment files asked settings) (network : Network) :
    (run arguments environment files network).exit = 0 ↔
      connect asked.async settings network = .ok () := by
  simp only [run, opens.read, probe, opens.loaded]
  cases connect asked.async settings network <;> simp

/-- Without a stream nobody is reached: if no settings are opened, `run` is the same on every
network. -/
theorem run_congr (h : ∀ asked settings, ¬Opens arguments environment files asked settings)
    (network other : Network) :
    run arguments environment files network = run arguments environment files other := by
  unfold run
  cases read : Arguments.read arguments with
  | error refusal => cases refusal <;> rfl
  | ok asked =>
    dsimp only [probe]
    cases loaded : Probe.settings asked environment files with
    | error error => rfl
    | ok settings => exact absurd ⟨read, loaded⟩ (h asked settings)

/-- **A command line names an empty host**, in either of the ways in which a host is named. -/
def NamesNobody (arguments : List String) : Prop :=
  "--host=" ∈ arguments ∨ ["--host", ""] <:+: arguments

/-- **Whether the settings of a stream are valid.** They are, unless the command line names an empty
host; that is the only thing that can be wrong with them. -/
theorem opened_settings (arguments : List String) (environment : Environment) (files : Files) :
    (∀ asked settings, Opens arguments environment files asked settings →
      (settings.host = "" ↔ NamesNobody arguments) ∧
      (¬NamesNobody arguments → settings.validate = .ok ()) ∧
      (NamesNobody arguments → settings.validate = .error (.invalid "host is empty")) ∧
      ∀ network, (run arguments environment files network).exit = 0 ↔
        connect asked.async settings network = .ok ()) ∧
    ((∀ asked settings, ¬Opens arguments environment files asked settings) →
      ∀ network other,
        run arguments environment files network = run arguments environment files other) := by
  refine ⟨fun asked settings opens => ?_, run_congr⟩
  obtain ⟨settings, valid, rfl⟩ := opens.over_valid
  have named : asked.host = some "" ↔ NamesNobody arguments := by
    rw [read_host_iff opens.read, String.append_empty, NamesNobody]
  obtain ⟨validity, host⟩ := validate_over valid asked
  exact ⟨host.trans named, fun other => validity.trans (if_neg (mt named.mp other)),
    fun nobody => validity.trans (if_pos (named.mpr nobody)), exit_run opens⟩

/-- A host that replaces the one of the environment, and a host that is named twice. -/
theorem opened_settings_replaced :
    (∃ settings, Opens ["-p", "9", "--host=db"] [("DOCWIRE_HOST", "far".toUTF8)] (Files.ofList [])
        { host := some "db", port := some 9 } settings ∧
      settings.host = "db" ∧ settings.validate = .ok ()) ∧
    ∀ network other, run ["--host=db", "--host", ""] [] (Files.ofList []) network =
      run ["--host=db", "--host", ""] [] (Files.ofList []) other := by
  refine ⟨⟨{ host := "db", port := 9 }, ?_⟩, ?_⟩
  · have opens : Opens ["-p", "9", "--host=db"] [("DOCWIRE_HOST", "far".toUTF8)] (Files.ofList [])
        { host := some "db", port := some 9 } { host := "db", port := 9 } := ⟨rfl, rfl⟩
    obtain ⟨host, valid, -⟩ := (opened_settings _ _ _).1 _ _ opens
    exact ⟨opens, rfl, valid fun nobody => absurd (host.mpr nobody) (by decide)⟩
  · refine (opened_settings _ _ _).2 fun asked settings opens => ?_
    have refused : Arguments.read ["--host=db", "--host", ""] =
        .error (.misuse (.repeated .host)) := rfl
    cases refused.symm.trans opens.read

/-- **A stream is opened without a host** if the command line names an empty one. -/
theorem emptyHost_opened :
    Opens ["--host", ""] [] (Files.ofList []) { host := some "" } { host := "" } ∧
      Settings.validate { host := "" } = .error (.invalid "host is empty") ∧
      Settings.load [("DOCWIRE_HOST", "".toUTF8)] (Files.ofList []) =
        .error (.invalid "host is empty") :=
  ⟨⟨rfl, rfl⟩, rfl, rfl⟩

end DocumentCursor.Probe
